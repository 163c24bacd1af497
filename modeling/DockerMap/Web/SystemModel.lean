import DockerMap.Core.Wire
import DockerMap.Lib.InsertionMap
import DockerMap.Lib.JavaScript
import DockerMap.Lib.StableSort
import DockerMap.Lib.Traversal

/-! The browser's model of the containers and their dependencies. `localeCompare` is the
host's collation; it decides the order of the services only. -/

namespace DockerMap.Web

open JavaScript (codeUnits)

/-! The canonical order of the containers -/

section

variable (localeCompare : String → String → ℤ)

/-- `first || second`, on the results of comparisons. -/
def orElse (first second : ℤ) : ℤ := if first ≠ 0 then first else second

def joinNul (texts : List String) : String := String.intercalate "\u0000" texts

def compareMounts (left right : ContainerMount) : ℤ :=
  orElse (localeCompare left.id right.id) <|
  orElse (localeCompare left.kind.wireName right.kind.wireName) <|
  orElse (localeCompare (left.source.getD "") (right.source.getD "")) <|
  orElse (localeCompare left.target right.target) <|
  left.readOnly.toNat - right.readOnly.toNat

def compareMountLists : List ContainerMount → List ContainerMount → ℤ
  | left :: lefts, right :: rights =>
      orElse (compareMounts localeCompare left right) (compareMountLists lefts rights)
  | lefts, rights => lefts.length - rights.length

def compareContainers (left right : ContainerRecord) : ℤ :=
  orElse (localeCompare left.id right.id) <|
  orElse (localeCompare left.name right.name) <|
  orElse (localeCompare left.role right.role) <|
  orElse (localeCompare left.image right.image) <|
  orElse (localeCompare left.status right.status) <|
  orElse (localeCompare (joinNul left.networks) (joinNul right.networks)) <|
  orElse (localeCompare (joinNul left.ports) (joinNul right.ports)) <|
  orElse (compareMountLists localeCompare left.mounts right.mounts) <|
  localeCompare (joinNul left.dependsOn) (joinNul right.dependsOn)

def sortTexts (texts : List String) : List String := StableSort.sortBy codeUnits texts

def canonicalContainer (container : ContainerRecord) : ContainerRecord :=
  { container with
    networks := sortTexts container.networks
    ports := sortTexts container.ports
    mounts := container.mounts.mergeSort fun a b => compareMounts localeCompare a b ≤ 0
    dependsOn := sortTexts container.dependsOn }

def canonicalContainers (containers : List ContainerRecord) : List ContainerRecord :=
  (containers.map (canonicalContainer localeCompare)).mergeSort fun a b =>
    compareContainers localeCompare a b ≤ 0

end

/-! Identity indexes -/

section

variable {α : Type}

/-- How often each key occurs; the empty key is not counted. -/
def countKeys (keys : List String) : InsertionMap String ℕ :=
  keys.foldl (fun counts key =>
    if key = "" then counts else counts.set key ((counts.get? key).getD 0 + 1)) ∅

def isCollided (keys : List String) (key : String) : Bool :=
  1 < ((countKeys keys).get? key).getD 0

/-- The index of `buildIdentityIndex`. -/
def identityIndex (keyFor : α → String) (records : List α) : InsertionMap String α :=
  records.foldl (fun index record =>
    let key := keyFor record
    if key = "" ∨ isCollided (records.map keyFor) key ∨ (index.get? key).isSome then index
    else index.set key record) ∅

/-- The occurrences of records that own each alias. -/
def aliasOwners (aliasesFor : α → List String) (valueFor : α → String) (records : List α) :
    InsertionMap String (List ℕ) :=
  records.zipIdx.foldl (fun owners record =>
    if valueFor record.1 = "" then owners
    else (aliasesFor record.1).dedup.foldl (fun owners name =>
      if name = "" then owners else owners.push name record.2) owners) ∅

/-- The index of `buildAliasIndex`. -/
def aliasIndex (aliasesFor : α → List String) (valueFor : α → String) (records : List α) :
    InsertionMap String String :=
  (aliasOwners aliasesFor valueFor records).entries.foldl (fun index entry =>
    match entry.2 with
    | [occurrence] =>
        match records[occurrence]? with
        | some record =>
            if isCollided (records.map valueFor) (valueFor record) then index
            else index.set entry.1 (valueFor record)
        | none => index
    | _ => index) ∅

end

/-! The services -/

structure DependencyOccurrence where
  ref : String
  resolvedId : Option String
  deriving DecidableEq

structure Service where
  id : String
  name : String
  role : String
  image : String
  status : String
  ports : List String
  mounts : List ContainerMount
  dependencyOccurrences : List DependencyOccurrence
  dependsOn : List String
  dependents : List String
  deriving DecidableEq

structure SystemModel where
  services : List Service
  byId : InsertionMap String Service

def containerPart : List Char := "container_".toList

/-- `id.replace(/^container_/, "")`. -/
def withoutContainerPart (id : String) : String :=
  if containerPart <+: id.toList then String.ofList (id.toList.drop containerPart.length) else id

def containerAliases (container : ContainerRecord) : List String :=
  [container.id, container.name, withoutContainerPart container.id, container.role]

section

variable (containers : List ContainerRecord)

def resolveDependency (ref : String) : Option String :=
  if ref = "" then none
  else (aliasIndex containerAliases ContainerRecord.id containers).get? ref

def isSemanticSource (id : String) : Bool :=
  id ≠ "" && !isCollided (containers.map ContainerRecord.id) id

/-- Adds to the set under a key. -/
def addDependent (dependents : InsertionMap String (List String)) (target source : String) :
    InsertionMap String (List String) :=
  if source ∈ dependents.group target then dependents else dependents.push target source

/-- The sources of each resolved dependency. -/
def dependentsById : InsertionMap String (List String) :=
  containers.foldl (fun dependents container =>
    if isSemanticSource containers container.id then
      (container.dependsOn.filterMap (resolveDependency containers)).foldl
        (fun dependents target => addDependent dependents target container.id) dependents
    else dependents) ∅

def occurrencesOf (container : ContainerRecord) : List DependencyOccurrence :=
  container.dependsOn.map fun ref =>
    ⟨ref, if isSemanticSource containers container.id then resolveDependency containers ref
      else none⟩

def serviceOf (container : ContainerRecord) : Service where
  id := container.id
  name := container.name
  role := container.role
  image := container.image
  status := container.status
  ports := container.ports
  mounts := container.mounts
  dependencyOccurrences := occurrencesOf containers container
  dependsOn :=
    if isSemanticSource containers container.id then
      (occurrencesOf containers container).filterMap DependencyOccurrence.resolvedId
    else []
  dependents := (dependentsById containers).group container.id

/-- The part of `buildModel` about the services, on the containers in canonical order. -/
def buildServices : List Service := containers.map (serviceOf containers)

end

def buildModel (localeCompare : String → String → ℤ) (snapshot : DockerSnapshot) : SystemModel :=
  let services := buildServices (canonicalContainers localeCompare snapshot.containers)
  ⟨services, identityIndex Service.id services⟩

/-! Impact analysis -/

structure ImpactResult where
  upstream : List String
  downstream : List String
  neighbors : Finset String
  deriving DecidableEq

namespace SystemModel

variable (model : SystemModel)

/-- The list a traversal follows from an id; there is none without a record. -/
def edgesOf (edge : Service → List String) (id : String) : List String :=
  ((model.byId.get? id).map edge).getD []

/-- `traverse`, for as many turns as there are services, and one. -/
def traverse (edge : Service → List String) (startId : String) : Option (List String) :=
  Traversal.search (model.edgesOf edge) startId (model.services.length + 1) [] [startId]

def computeImpact (serviceId : String) : Option ImpactResult :=
  (model.traverse Service.dependsOn serviceId).bind fun upstream =>
    (model.traverse Service.dependents serviceId).map fun downstream =>
      ⟨upstream, downstream, (model.edgesOf Service.dependsOn serviceId ++
        model.edgesOf Service.dependents serviceId).toFinset⟩

end SystemModel

end DockerMap.Web
