import DockerMap.Core.SnapshotRuntime
import Mathlib.Data.Prod.Lex
import Mathlib.Data.List.Lex

/-! The Docker inventory and the snapshot built of it. Docker's own fields are optional; a
missing one gets its fallback here. -/

namespace DockerMap

abbrev U16 := Fin (2 ^ 16)

inductive PortType | empty | tcp | udp | sctp
  deriving DecidableEq, Repr

/-- One port record of the container listing: a host binding, or an exposed port. -/
structure Port where
  ip : Option String
  privatePort : U16
  publicPort : Option U16
  typ : Option PortType
  deriving DecidableEq

inductive MountPointType | empty | bind | volume | image | tmpfs | npipe | cluster
  deriving DecidableEq, Repr

structure MountPoint where
  typ : Option MountPointType
  name : Option String
  source : Option String
  destination : Option String
  rw : Option Bool
  deriving DecidableEq

/-- The endpoints are listed in the order the collector meets them. -/
structure ContainerSummary where
  id : Option String
  names : Option (List String)
  image : Option String
  status : Option String
  labels : Option (SortedMap String String)
  networks : Option (List (String × Option String))
  mounts : Option (List MountPoint)
  ports : Option (List Port)

structure DockerNetwork where
  id : Option String
  name : Option String
  driver : Option String
  internal : Option Bool

structure DockerInventory where
  containers : List ContainerSummary
  networks : List DockerNetwork
  volumes : Option (List String)

/-! Containers -/

def parseDependsOnLabel (value : String) : List String :=
  ((value.toList.splitOnP (· == ',')).map fun item =>
    Text.trim ((item.splitOnP (· == ':')).headD [])).filterMap fun name =>
      if name = [] then none else some ("container_" ++ String.ofList name)

def isValidUnspecifiedAddressPublication (port : Port) : Bool :=
  (port.ip == some "0.0.0.0" || port.ip == some "::") &&
    port.publicPort.any (fun value => 0 < value.val) && 0 < port.privatePort.val &&
    (port.typ == some .tcp || port.typ == some .udp || port.typ == some .sctp)

/-- The lowercase `Debug` form of the type. -/
def PortType.text : PortType → String
  | .empty => "empty"
  | .tcp => "tcp"
  | .udp => "udp"
  | .sctp => "sctp"

def portKind (port : Port) : String := (port.typ.map PortType.text).getD "tcp"

/-- The port of the host, zero when there is none. -/
def publicPort (port : Port) : ℕ := (port.publicPort.map Fin.val).getD 0

def portText (port : Port) : String :=
  if 0 < publicPort port then
    toString (publicPort port) ++ ":" ++ toString port.privatePort.val ++ "/" ++ portKind port
  else toString port.privatePort.val ++ "/" ++ portKind port

def mountKind (mount : MountPoint) : ComposeMountKind :=
  match mount.typ with
  | some .bind => .bind
  | some .volume => if mount.name.isSome then .namedVolume else .anonymousVolume
  | _ => .unsupported

def mountSource (mount : MountPoint) : Option String :=
  match mountKind mount with
  | .bind => mount.source
  | .namedVolume => mount.name.or mount.source
  | .anonymousVolume => none
  | .unsupported => mount.source.or mount.name

def collectContainerMounts (containerId : String) (mounts : Option (List MountPoint)) :
    List ContainerMount :=
  (mounts.getD []).filterMap fun mount => mount.destination.map fun target =>
    { id := containerId ++ ":" ++ target ++ ":" ++ (mountSource mount).getD "anonymous"
      kind := mountKind mount
      source := mountSource mount
      target := target
      readOnly := (mount.rw.map not).getD false }

namespace ContainerSummary

variable (container : ContainerSummary)

def recordId : String := container.id.getD "unknown-container"

def recordName : String :=
  match container.names.bind List.head? with
  | some name => String.ofList (name.toList.dropWhile (· == '/'))
  | none => container.recordId

def networkIds : List String := (container.networks.getD []).filterMap Prod.snd

def label (name : String) : Option String := container.labels.bind fun labels => labels.get? name

def record : ContainerRecord where
  id := container.recordId
  name := container.recordName
  image := container.image.getD "unknown"
  status := container.status.getD "unknown"
  role := (container.label "com.docker.compose.service").getD "service"
  networks := container.networkIds
  ports := (container.ports.getD []).map portText
  publishesOnUnspecifiedAddress :=
    (container.ports.getD []).any isValidUnspecifiedAddressPublication
  mounts := collectContainerMounts container.recordId container.mounts
  dependsOn := ((container.label "com.docker.compose.depends_on").map parseDependsOnLabel).getD []

end ContainerSummary

/-! Networks and volumes. The names seen on the containers are handed to the first record
of an identity. -/

abbrev NameSets := SortedMap String (SortedSet String)

def NameSets.addName (sets : NameSets) (key name : String) : NameSets :=
  sets.insert key (((sets.get? key).getD ∅).add name)

def memberSets (containers : List ContainerSummary) : NameSets :=
  containers.foldl (fun sets container =>
    container.networkIds.foldl (fun sets id => sets.addName id container.recordName) sets) ∅

def volumeSets (containers : List ContainerSummary) : NameSets :=
  containers.foldl (fun sets container =>
    ((container.mounts.getD []).filterMap MountPoint.name).foldl
      (fun sets name => sets.addName name container.recordName) sets) ∅

def networkRecords : NameSets → List DockerNetwork → List NetworkRecord
  | _, [] => []
  | sets, network :: networks =>
      let id := network.id.getD "unknown-network"
      { id := id
        name := network.name.getD "unnamed"
        driver := network.driver.getD "bridge"
        internal := network.internal.getD false
        members := ((sets.get? id).getD ∅).toList } :: networkRecords (sets.erase id) networks

def volumeRecords : NameSets → List String → List VolumeRecord
  | _, [] => []
  | sets, name :: names =>
      { id := name, name := name, attachedTo := ((sets.get? name).getD ∅).toList } ::
        volumeRecords (sets.erase name) names

def networkSortKey (network : NetworkRecord) :
    String ×ₗ String ×ₗ String ×ₗ Bool ×ₗ List String :=
  toLex (network.id, toLex (network.name, toLex (network.driver,
    toLex (network.internal, network.members))))

def volumeSortKey (volume : VolumeRecord) : String ×ₗ String ×ₗ List String :=
  toLex (volume.id, toLex (volume.name, volume.attachedTo))

def buildSnapshot (inventory : DockerInventory) (now : ℕ) : DockerSnapshot where
  containers := inventory.containers.map ContainerSummary.record
  networks := sortByKey networkSortKey
    (networkRecords (memberSets inventory.containers) inventory.networks)
  volumes := sortByKey volumeSortKey
    (volumeRecords (volumeSets inventory.containers) (inventory.volumes.getD []))
  lastUpdated := now

end DockerMap
