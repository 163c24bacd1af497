import DockerMap.Web.ServiceStatus
import DockerMap.Web.SystemModel

/-! The model that the browser shows: the services with the dependencies between them, and the
nodes of the runtime map, each with its state and its edges. -/

namespace DockerMap.Web

open Atlas (UnicodeTables)

/-! The runtime map -/

/-- The state warrants the operator's attention. -/
def needsAttention (state : ServiceState) : Bool :=
  state == .warning || state == .degraded || state == .offline

structure RuntimeNodeRecord extends RuntimeMapNode where
  state : ServiceState
  incoming : List RuntimeMapEdge
  outgoing : List RuntimeMapEdge
  deriving DecidableEq

structure RuntimeBucketSummary (κ : Type) where
  id : κ
  count : ℕ := 0
  attention : ℕ := 0
  deriving DecidableEq

structure RuntimeSummary where
  totalNodes : ℕ
  serviceNodes : ℕ
  providers : ℕ
  layers : ℕ
  diagnostics : ℕ
  attention : ℕ
  deriving DecidableEq

/-- A layer is missing where a node has none. -/
structure RuntimeModel where
  nodes : List RuntimeNodeRecord
  edges : List RuntimeMapEdge
  diagnostics : List RuntimeMapDiagnostic
  byId : InsertionMap String RuntimeNodeRecord
  idCollisions : List String
  providerSummary : List (RuntimeBucketSummary RuntimeProviderKind)
  layerSummary : List (RuntimeBucketSummary (Option RuntimeNodeLayer))
  providerStates : List ProviderState
  summary : RuntimeSummary
  lastUpdated : ℕ

def runtimeStateRank : ServiceState → ℕ
  | .offline => 0
  | .degraded => 1
  | .warning => 2
  | .updating => 3
  | .unknown => 4
  | .healthy => 5

def runtimeLayerName (layer : Option RuntimeNodeLayer) : String :=
  layer.elim "unassigned" RuntimeNodeLayer.wireName

/-- The edges under one of their ends. -/
def edgesById (endOf : RuntimeMapEdge → String) (edges : List RuntimeMapEdge) :
    InsertionMap String (List RuntimeMapEdge) :=
  edges.foldl (fun byId edge => byId.push (endOf edge) edge) ∅

/-- The keys that `buildIdentityIndex` leaves out because several records have them. -/
def identityCollisions {α : Type} (keyFor : α → String) (records : List α) : List String :=
  ((records.map keyFor).filter fun key =>
    key ≠ "" && isCollided (records.map keyFor) key).eraseDups

section

variable {κ : Type} [DecidableEq κ] (pick : RuntimeNodeRecord → κ)

def addToBucket (counts : InsertionMap κ (RuntimeBucketSummary κ)) (node : RuntimeNodeRecord) :
    InsertionMap κ (RuntimeBucketSummary κ) :=
  let bucket := (counts.get? (pick node)).getD { id := pick node }
  counts.set (pick node)
    { bucket with
      count := bucket.count + 1
      attention := bucket.attention + (needsAttention node.state).toNat }

variable (localeCompare : String → String → ℤ) (nameOf : κ → String)

def compareBuckets (left right : RuntimeBucketSummary κ) : ℤ :=
  if left.attention ≠ right.attention then right.attention - left.attention
  else if left.count ≠ right.count then right.count - left.count
  else localeCompare (nameOf left.id) (nameOf right.id)

def summarizeRuntimeBuckets (nodes : List RuntimeNodeRecord) : List (RuntimeBucketSummary κ) :=
  ((nodes.foldl (addToBucket pick) ∅).entries.map Prod.snd).mergeSort fun a b =>
    compareBuckets localeCompare nameOf a b ≤ 0

end

section

variable (localeCompare : String → String → ℤ) (unicode : UnicodeTables)

def runtimeNodeRecord (incomingById outgoingById : InsertionMap String (List RuntimeMapEdge))
    (node : RuntimeMapNode) : RuntimeNodeRecord :=
  { node with
    state := runtimeStateForNode unicode node
    incoming := incomingById.group node.id
    outgoing := outgoingById.group node.id }

def compareRuntimeNodes (left right : RuntimeNodeRecord) : ℤ :=
  if left.state ≠ right.state then
    (runtimeStateRank left.state : ℤ) - runtimeStateRank right.state
  else if left.layer ≠ right.layer then
    localeCompare (runtimeLayerName left.layer) (runtimeLayerName right.layer)
  else localeCompare left.label right.label

def runtimeNodeRecords (runtimeMap : RuntimeMap) : List RuntimeNodeRecord :=
  (runtimeMap.nodes.map (runtimeNodeRecord unicode
    (edgesById RuntimeMapEdge.target runtimeMap.edges)
    (edgesById RuntimeMapEdge.source runtimeMap.edges))).mergeSort fun a b =>
      compareRuntimeNodes localeCompare a b ≤ 0

def buildRuntimeModel (runtimeMap : RuntimeMap) : RuntimeModel :=
  let nodes := runtimeNodeRecords localeCompare unicode runtimeMap
  let providerSummary := summarizeRuntimeBuckets (fun node => node.provider) localeCompare
    RuntimeProviderKind.wireName nodes
  let layerSummary := summarizeRuntimeBuckets (fun node => node.layer) localeCompare
    runtimeLayerName nodes
  { nodes := nodes
    edges := runtimeMap.edges
    diagnostics := runtimeMap.diagnostics
    byId := identityIndex (fun node => node.id) nodes
    idCollisions := identityCollisions (fun node => node.id) nodes
    providerSummary := providerSummary
    layerSummary := layerSummary
    providerStates := runtimeMap.providerStates
    summary :=
      { totalNodes := nodes.length
        serviceNodes := nodes.countP fun node => node.service.isSome || node.package.isSome
        providers := providerSummary.length
        layers := layerSummary.length
        diagnostics := runtimeMap.diagnostics.length
        attention := nodes.countP fun node => needsAttention node.state }
    lastUpdated := runtimeMap.lastUpdated }

end

/-! Relationships -/

/-- The kind is always a dependency, its health always unknown. -/
structure Relationship where
  id : String
  source : String
  target : String
  deriving DecidableEq

def relationshipId (source target : String) : String := "dep:" ++ source ++ "->" ++ target

/-- Adds the relationship unless its id was seen. -/
def addRelationship (service : Service) (relationships : List Relationship) (dep : String) :
    List Relationship :=
  let id := relationshipId service.id dep
  if relationships.any fun relationship => relationship.id == id then relationships
  else relationships ++ [⟨id, service.id, dep⟩]

def addRelationships (byId : InsertionMap String Service) (relationships : List Relationship)
    (service : Service) : List Relationship :=
  if (byId.get? service.id).isNone then relationships
  else (service.dependsOn.filter fun dep => (byId.get? dep).isSome).foldl
    (addRelationship service) relationships

def buildRelationships (localeCompare : String → String → ℤ) (model : SystemModel) :
    List Relationship :=
  (model.services.foldl (addRelationships model.byId) []).mergeSort fun a b =>
    localeCompare a.id b.id ≤ 0

/-! The model -/

structure PublishedModel extends SystemModel where
  relationships : List Relationship
  runtime : RuntimeModel
  byName : InsertionMap String Service
  lastUpdated : ℕ
  modelRevision : String

/-- `buildModel`, on both payloads. -/
def buildPublishedModel (localeCompare : String → String → ℤ) (unicode : UnicodeTables)
    (snapshot : DockerSnapshot) (runtimeMap : RuntimeMap) : PublishedModel :=
  let model := buildModel localeCompare snapshot
  let runtime := buildRuntimeModel localeCompare unicode runtimeMap
  { model with
    relationships := buildRelationships localeCompare model
    runtime := runtime
    byName := identityIndex Service.name model.services
    lastUpdated := max snapshot.lastUpdated runtime.lastUpdated
    modelRevision := snapshot.modelRevision }

end DockerMap.Web
