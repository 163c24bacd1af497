import DockerMap.Core.Identity
import DockerMap.Core.Wire

/-! Docker snapshot projections used by both live and mock collection paths:
deterministic derivation from a `DockerSnapshot`. -/

namespace DockerMap

def dockerUnspecifiedAddressPortRiskId : String := "host_risk_docker_unspecified_address_port"

def dockerDaemonStateRiskId : String := "host_risk_docker_daemon_state"

/-! Images -/

structure ImageGroups where
  grouped : SortedMap String (SortedSet String) := ∅
  statusByImage : SortedMap String String := ∅

def ImageGroups.add (groups : ImageGroups) (container : ContainerRecord) : ImageGroups where
  grouped := groups.grouped.insert container.image
    (((groups.grouped.get? container.image).getD ∅).add container.name)
  statusByImage :=
    match groups.statusByImage.get? container.image with
    | some _ => groups.statusByImage
    | none => groups.statusByImage.insert container.image container.status

def deriveImages (snapshot : DockerSnapshot) : List ImageRecord :=
  let groups := snapshot.containers.foldl ImageGroups.add {}
  groups.grouped.entries.map fun (image, containers) =>
    { image := image
      containers := containers.toList
      status := (groups.statusByImage.get? image).getD "unknown" }

/-! Ports -/

def isNonzeroPort (digits : List Char) : Bool :=
  match Text.parseDigits 65536 digits with
  | some value => 0 < value
  | none => false

/-- A bounded collector port string that proves a nonzero host binding:
`host:private/protocol`, never the container-only `private/protocol`. -/
def isHostPublishedDockerPort (port : String) : Bool :=
  match Text.splitOnce ':' port.toList with
  | none => false
  | some (host, privateAndProtocol) =>
      isNonzeroPort host && !privateAndProtocol.contains ':' &&
        match Text.splitOnce '/' privateAndProtocol with
        | none => false
        | some (privatePort, protocol) =>
            isNonzeroPort privatePort &&
              (protocol == "tcp".toList || protocol == "udp".toList || protocol == "sctp".toList)

/-- Closed, path-boundary predicate shared by Compose diagnostics and runtime derivation. -/
def isDockerDaemonStateBindSource (resolved : String) : Bool :=
  resolved == "/var/run/docker.sock" || resolved == "/run/docker.sock" ||
    resolved == "/var/lib/docker" || Text.startsWith resolved.toList "/var/lib/docker/".toList

/-! Container identities. A container is named by its position in the snapshot,
which stands for the address the source compares. -/

abbrev Indexed (α : Type) := α × ℕ

/-- The records an alias names: `none` when absent, `some none` when several. -/
def aliasLookup (aliasOf : ContainerRecord → String) (containers : List ContainerRecord)
    (key : String) : Option (Option (Indexed ContainerRecord)) :=
  if key = "" then none
  else
    match containers.zipIdx.filter fun container => aliasOf container.1 = key with
    | [] => none
    | [container] => some (some container)
    | _ => some none

/-- The one record all lookups agree on. -/
def agreedContainer : Option (Indexed ContainerRecord) →
    List (Option (Option (Indexed ContainerRecord))) → Option (Indexed ContainerRecord)
  | candidate, [] => candidate
  | candidate, none :: lookups => agreedContainer candidate lookups
  | _, some none :: _ => none
  | none, some (some resolved) :: lookups => agreedContainer (some resolved) lookups
  | some existing, some (some resolved) :: lookups =>
      if existing.2 = resolved.2 then agreedContainer (some existing) lookups else none

def stripContainerPrefix (dependency : String) : String :=
  if Text.startsWith dependency.toList "container_".toList then
    String.ofList (dependency.toList.drop "container_".toList.length)
  else dependency

def resolveDependency (containers : List ContainerRecord) (dependency : String) :
    Option (Indexed ContainerRecord) :=
  let dependencyName := stripContainerPrefix dependency
  if dependency = "" ∨ dependencyName = "" then none
  else agreedContainer none
    [aliasLookup ContainerRecord.role containers dependencyName,
      aliasLookup ContainerRecord.name containers dependencyName,
      aliasLookup ContainerRecord.id containers dependency]

def runtimeContainerId (container : ContainerRecord) : String :=
  "docker_container_" ++ collisionResistantIdComponent container.id

def runtimeNetworkId (id : String) : String :=
  "docker_network_" ++ collisionResistantIdComponent id

def runtimeVolumeId (id : String) : String :=
  "docker_volume_" ++ collisionResistantIdComponent id

def hasUniqueId (containers : List ContainerRecord) (container : ContainerRecord) : Bool :=
  container.id ≠ "" &&
    containers.countP (fun other => other.id ≠ "" &&
      runtimeContainerId other == runtimeContainerId container) == 1

/-! Evidence -/

/-- The id part and the summary of a Docker fact family. -/
def dockerEvidenceText : RuntimeEvidenceKind → String × String
  | .dockerNetworkMembership =>
      ("network-membership", "Docker reported container network membership")
  | .dockerVolumeMount => ("volume-mount", "Docker reported volume attachment")
  | .dockerPortPublication =>
      ("port-publication", "Docker reported container port publication")
  | .dockerUnspecifiedAddressPortPublication =>
      ("unspecified-address-port-publication",
        "Docker reported a container port published on an unspecified host address")
  | .dockerComposeDependsOn =>
      ("compose-depends-on", "Docker recorded Compose dependency declaration")
  | .dockerDaemonStateBindMount =>
      ("daemon-state-bind-mount", "Docker reported a bind mount exposing Docker daemon state")
  -- unreachable in the source: the helper only accepts Docker evidence kinds
  | _ => ("", "")

def dockerRuntimeEvidence (snapshot : DockerSnapshot) (source target : String)
    (kind : RuntimeEvidenceKind) (providerRevision : String) : RuntimeEvidenceRef where
  version := 1
  id := "docker_evidence_" ++ (dockerEvidenceText kind).1 ++ "_" ++ pairIdentity source target
  provider := .docker
  kind := kind
  assertionKind := .observed
  summary := (dockerEvidenceText kind).2
  subjectRef := source
  collectedAt := snapshot.lastUpdated
  providerRevision := providerRevision
  providerSlot := none
  freshness := .fresh

/-! Service kinds and statuses -/

def serviceEntityKindName : ServiceEntityKind → String
  | .service => "service"
  | .nodeApplication => "node_application"
  | .pythonApplication => "python_application"
  | .aiAgent => "ai_agent"
  | .session => "session"
  | .host => "host"
  | .storage => "storage"
  | .externalApi => "external_api"
  | .dnsProvider => "dns_provider"
  | .reverseProxy => "reverse_proxy"
  | .packageDependency => "package_dependency"

def RuntimeServiceStatus.fromStatusText (value : String) : RuntimeServiceStatus :=
  let lower := Text.asciiLower value.toList
  let is := fun (text : String) => lower == text.toList
  if Text.startsWith lower "up".toList || is "running" then .running
  else if is "starting" || is "created" || is "restarting" then .starting
  else if is "stopping" then .stopping
  else if is "stopped" || is "exited" || Text.startsWith lower "exited".toList || is "dead" ||
      is "paused" || is "removing" then .stopped
  else if is "degraded" then .degraded
  else if is "failed" || is "error" then .failed
  else .unknown

/-! Nodes and edges of one container -/

section

variable (snapshot : DockerSnapshot) (revision : String)

def containerMetadata (container : ContainerRecord) : Metadata :=
  let metadata := ((∅ : Metadata).insert "image" container.image).insert "role" container.role
  let metadata := metadata.insert "serviceEntityKind" (serviceEntityKindName .service)
  if container.ports = [] then metadata
  else metadata.insert "ports" (",".intercalate container.ports)

def containerNode (container : ContainerRecord) : RuntimeMapNode where
  id := runtimeContainerId container
  provider := .docker
  kind := .container
  label := container.name
  status := some container.status
  layer := some .container
  metadata := containerMetadata container
  service := some (.minimal container.name (.fromStatusText container.status))
  package := none

def listenerId (container : ContainerRecord) (port : String) : String :=
  "network_listener_" ++ collisionResistantIdComponent container.id ++ "_" ++
    collisionResistantIdComponent port

def listenerNode (container : ContainerRecord) (port : String) : RuntimeMapNode where
  id := listenerId container port
  provider := .network
  kind := .networkListener
  label := port
  status := some "listening"
  layer := some .host
  metadata := (∅ : Metadata).insert "port" port
  service := none
  package := none

def dockerEdge (source target : String) (relationship : RuntimeRelationshipKind)
    (kind : RuntimeEvidenceKind) : RuntimeMapEdge where
  source := source
  target := target
  relationship := relationship
  metadata := ∅
  evidenceRefs := [dockerRuntimeEvidence snapshot source target kind revision]

def networkEdge (container : ContainerRecord) (networkId : String) : RuntimeMapEdge :=
  dockerEdge snapshot revision (runtimeContainerId container) (runtimeNetworkId networkId)
    .connectedTo .dockerNetworkMembership

/-- A container-only port is topology, but no host publication: it carries no evidence. -/
def portEdge (container : ContainerRecord) (port : String) : RuntimeMapEdge :=
  let edge := dockerEdge snapshot revision (runtimeContainerId container)
    (listenerId container port) .exposes .dockerPortPublication
  if isHostPublishedDockerPort port then edge else { edge with evidenceRefs := [] }

/-- A declared dependency is an edge only between two uniquely resolved containers. -/
def dependencyEdge (container : Indexed ContainerRecord) (dependency : String) :
    Option RuntimeMapEdge := do
  let target ← resolveDependency snapshot.containers dependency
  if !hasUniqueId snapshot.containers container.1 || !hasUniqueId snapshot.containers target.1 ||
      container.2 = target.2 then none
  else if runtimeContainerId container.1 = runtimeContainerId target.1 then none
  else some (dockerEdge snapshot revision (runtimeContainerId container.1)
    (runtimeContainerId target.1) .dependsOn .dockerComposeDependsOn)

def containerNodes (container : ContainerRecord) : List RuntimeMapNode :=
  containerNode container :: container.ports.map (listenerNode container)

def containerEdges (container : Indexed ContainerRecord) : List RuntimeMapEdge :=
  container.1.networks.map (networkEdge snapshot revision container.1) ++
    container.1.ports.map (portEdge snapshot revision container.1) ++
    container.1.dependsOn.filterMap (dependencyEdge snapshot revision container)

/-! Networks, volumes and host risks -/

def networkNode (network : NetworkRecord) : RuntimeMapNode where
  id := runtimeNetworkId network.id
  provider := .docker
  kind := .dockerNetwork
  label := network.name
  status := none
  layer := some .network
  metadata := ((∅ : Metadata).insert "driver" network.driver).insert "internal"
    (if network.internal then "true" else "false")
  service := none
  package := none

def volumeNode (volume : VolumeRecord) : RuntimeMapNode where
  id := runtimeVolumeId volume.id
  provider := .docker
  kind := .dockerVolume
  label := volume.name
  status := none
  layer := some .storage
  metadata := (∅ : Metadata).insert "serviceEntityKind" (serviceEntityKindName .storage)
  service := none
  package := none

def volumeEdges (volume : VolumeRecord) : List RuntimeMapEdge :=
  volume.attachedTo.filterMap fun attached =>
    (snapshot.containers.find? fun container => container.name == attached).map fun container =>
      dockerEdge snapshot revision (runtimeContainerId container) (runtimeVolumeId volume.id)
        .mounts .dockerVolumeMount

def riskNode (id label : String) : RuntimeMapNode where
  id := id
  provider := .docker
  kind := .hostRisk
  label := label
  status := none
  layer := some .host
  metadata := ∅
  service := none
  package := none

/-- The ids of the containers at risk, in order, without repetition. -/
def riskSources (atRisk : ContainerRecord → Bool) : List String :=
  ((snapshot.containers.filter fun container =>
    hasUniqueId snapshot.containers container && atRisk container).foldl
      (fun (ids : SortedSet String) container => ids.add (runtimeContainerId container)) ∅).toList

def publishesOnUnspecifiedAddress (container : ContainerRecord) : Bool :=
  container.publishesOnUnspecifiedAddress && container.ports.any isHostPublishedDockerPort

def bindsDockerDaemonState (container : ContainerRecord) : Bool :=
  container.mounts.any fun mount =>
    mount.kind == .bind && mount.source.any isDockerDaemonStateBindSource

/-- One host risk: its node, once, and an edge from every uniquely present source. -/
def withHostRisk (sources : List String) (node : RuntimeMapNode)
    (relationship : RuntimeRelationshipKind) (kind : RuntimeEvidenceKind)
    (topology : List RuntimeMapNode × List RuntimeMapEdge) :
    List RuntimeMapNode × List RuntimeMapEdge :=
  if sources ≠ [] ∧ topology.1.all fun other => other.id ≠ node.id then
    let nodes := topology.1 ++ [node]
    (nodes, topology.2 ++ (sources.filter fun source =>
      nodes.countP (fun other => other.id == source) == 1).map fun source =>
        dockerEdge snapshot revision source node.id relationship kind)
  else topology

end

/-! Ordering -/

def runtimeNodeSortKey (node : RuntimeMapNode) : String := (Json.encode node).toText

def runtimeEdgeSortKey (edge : RuntimeMapEdge) : String := (Json.encode edge).toText

/-- `Vec::sort_by_key`, a stable sort. -/
def sortByKey {α κ : Type} [LinearOrder κ] (key : α → κ) (l : List α) : List α :=
  l.insertionSort fun a b => key a ≤ key b

theorem sortByKey_perm {α κ : Type} [LinearOrder κ] (key : α → κ) (l : List α) :
    (sortByKey key l).Perm l := List.perm_insertionSort _ l

theorem mem_sortByKey {α κ : Type} [LinearOrder κ] {key : α → κ} {l : List α} {a : α} :
    a ∈ sortByKey key l ↔ a ∈ l := (sortByKey_perm key l).mem_iff

/-- `Vec::dedup`: drops an element equal to the one kept before it. -/
def dedup {α : Type} [DecidableEq α] (l : List α) : List α := l.destutter (· ≠ ·)

def duplicateRuntimeNodeIds (nodes : List RuntimeMapNode) : List String :=
  ((nodes.map RuntimeMapNode.id).foldl SortedSet.add ∅).toList.filter fun id =>
    1 < nodes.countP fun node => node.id == id

def duplicateIdDiagnostic : RuntimeMapDiagnostic where
  provider := .other
  severity := .warning
  message := "Duplicate generated runtime topology ID; records remain visible and non-routable"

/-- Derive runtime topology with the opaque Docker observation token that attests
the snapshot. The callers' tokens are never empty. -/
def deriveRuntimeMap (snapshot : DockerSnapshot) (nodes : List RuntimeMapNode)
    (edges : List RuntimeMapEdge) (diagnostics : List RuntimeMapDiagnostic)
    (evidenceProviderRevision : String) : RuntimeMap :=
  let revision := evidenceProviderRevision
  let nodes := nodes ++ snapshot.containers.flatMap containerNodes ++
    snapshot.networks.map networkNode ++ snapshot.volumes.map volumeNode
  let edges := edges ++ snapshot.containers.zipIdx.flatMap (containerEdges snapshot revision) ++
    snapshot.volumes.flatMap (volumeEdges snapshot revision)
  let topology := withHostRisk snapshot revision
    (riskSources snapshot publishesOnUnspecifiedAddress)
    (riskNode dockerUnspecifiedAddressPortRiskId "Unspecified-address Docker port publication")
    .exposes .dockerUnspecifiedAddressPortPublication (nodes, edges)
  let (nodes, edges) := withHostRisk snapshot revision
    (riskSources snapshot bindsDockerDaemonState)
    (riskNode dockerDaemonStateRiskId "Docker daemon state exposure")
    .exposesDaemonState .dockerDaemonStateBindMount topology
  { nodes := sortByKey runtimeNodeSortKey nodes
    edges := dedup (sortByKey runtimeEdgeSortKey edges)
    diagnostics := diagnostics ++
      (duplicateRuntimeNodeIds nodes).map fun _ => duplicateIdDiagnostic
    lastUpdated := snapshot.lastUpdated }

end DockerMap
