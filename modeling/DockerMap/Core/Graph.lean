import DockerMap.Core.SnapshotRuntime

/-! The public Docker graph. Its nodes share one id namespace, and an edge is drawn only
between two ids that each identify one record. -/

namespace DockerMap

open Json (Encode encode record record_inj record_ne_null)

inductive NodeKind | container | network | volume
  deriving DecidableEq, Repr

inductive RelationshipKind | connectedTo | mounts
  deriving DecidableEq, Repr

structure GraphNode where
  id : String
  kind : NodeKind
  label : String
  deriving DecidableEq, Repr

structure GraphEdge where
  source : String
  target : String
  relationship : RelationshipKind
  deriving DecidableEq, Repr

structure GraphResponse where
  nodes : List GraphNode
  edges : List GraphEdge
  deriving DecidableEq, Repr

/-! Wire form -/

def NodeKind.wireName : NodeKind → String
  | .container => "container"
  | .network => "network"
  | .volume => "volume"

theorem NodeKind.wireName_injective : Function.Injective NodeKind.wireName := by
  intro a b h
  cases a <;> cases b <;> first | rfl | simp [NodeKind.wireName] at h

def RelationshipKind.wireName : RelationshipKind → String
  | .connectedTo => "connected_to"
  | .mounts => "mounts"

theorem RelationshipKind.wireName_injective : Function.Injective RelationshipKind.wireName := by
  intro a b h
  cases a <;> cases b <;> first | rfl | simp [RelationshipKind.wireName] at h

instance : Encode NodeKind := .ofNames NodeKind.wireName NodeKind.wireName_injective
instance : Encode RelationshipKind :=
  .ofNames RelationshipKind.wireName RelationshipKind.wireName_injective

instance : Encode GraphNode where
  encode node := record
    [("id", some (encode node.id)), ("type", some (encode node.kind)),
      ("label", some (encode node.label))]
  injective := by
    intro a b h
    have hfields := record_inj h rfl (by simp)
    cases a
    cases b
    simpa using hfields
  ne_null := fun _ => record_ne_null _

instance : Encode GraphEdge where
  encode edge := record
    [("source", some (encode edge.source)), ("target", some (encode edge.target)),
      ("relationship", some (encode edge.relationship))]
  injective := by
    intro a b h
    have hfields := record_inj h rfl (by simp)
    cases a
    cases b
    simpa using hfields
  ne_null := fun _ => record_ne_null _

instance : Encode GraphResponse where
  encode graph := record
    [("nodes", some (encode graph.nodes)), ("edges", some (encode graph.edges))]
  injective := by
    intro a b h
    have hfields := record_inj h rfl (by simp)
    cases a
    cases b
    simpa using hfields
  ne_null := fun _ => record_ne_null _

/-! Identities -/

/-- How often each id occurs. Empty ids are not counted. -/
structure GraphIdentityIndex where
  nodeIds : SortedMap String ℕ
  networkIds : SortedMap String ℕ
  containerIds : SortedMap String ℕ

def GraphIdentityIndex.count (counts : SortedMap String ℕ) (id : String) : SortedMap String ℕ :=
  if id = "" then counts else counts.tally id

def countIds (ids : List String) : SortedMap String ℕ := ids.foldl GraphIdentityIndex.count ∅

/-- The ids of all records, of whichever kind. -/
def recordIds (snapshot : DockerSnapshot) : List String :=
  snapshot.containers.map ContainerRecord.id ++ snapshot.networks.map NetworkRecord.id ++
    snapshot.volumes.map VolumeRecord.id

namespace GraphIdentityIndex

def fromSnapshot (snapshot : DockerSnapshot) : GraphIdentityIndex where
  nodeIds := countIds (recordIds snapshot)
  networkIds := countIds (snapshot.networks.map NetworkRecord.id)
  containerIds := countIds (snapshot.containers.map ContainerRecord.id)

variable (index : GraphIdentityIndex)

def hasUniqueNodeId (id : String) : Bool := index.nodeIds.get? id == some 1

def hasUniqueNetworkId (id : String) : Bool := index.networkIds.get? id == some 1

def hasUniqueContainerId (container : ContainerRecord) : Bool :=
  index.containerIds.get? container.id == some 1 && index.hasUniqueNodeId container.id

end GraphIdentityIndex

/-- The container is the only one of its name. -/
def hasUniqueName (containers : List ContainerRecord) (container : Indexed ContainerRecord) :
    Bool :=
  container.1.name ≠ "" &&
    match aliasLookup ContainerRecord.name containers container.1.name with
    | some (some candidate) => candidate.2 == container.2
    | _ => false

/-! Nodes and edges -/

def containerGraphNode (container : ContainerRecord) : GraphNode :=
  ⟨container.id, .container, container.name⟩

def networkGraphNode (network : NetworkRecord) : GraphNode := ⟨network.id, .network, network.name⟩

def volumeGraphNode (volume : VolumeRecord) : GraphNode := ⟨volume.id, .volume, volume.name⟩

def volumeByAttachedContainer (volumes : List VolumeRecord) :
    SortedMap String (List VolumeRecord) :=
  (volumes.flatMap fun volume => volume.attachedTo.map fun attached => (attached, volume)).foldl
    (fun mapping entry => mapping.push entry.1 entry.2) ∅

section

variable (snapshot : DockerSnapshot)

def membershipGraphEdge (index : GraphIdentityIndex) (container : ContainerRecord)
    (networkId : String) : Option GraphEdge :=
  if index.hasUniqueContainerId container && index.hasUniqueNetworkId networkId &&
      index.hasUniqueNodeId networkId then
    some ⟨container.id, networkId, .connectedTo⟩
  else none

def mountGraphEdge (index : GraphIdentityIndex) (container : ContainerRecord)
    (volume : VolumeRecord) : Option GraphEdge :=
  if index.hasUniqueContainerId container && index.hasUniqueNodeId volume.id then
    some ⟨container.id, volume.id, .mounts⟩
  else none

def dependencyGraphEdge (index : GraphIdentityIndex) (container : Indexed ContainerRecord)
    (dependency : String) : Option GraphEdge := do
  let target ← resolveDependency snapshot.containers dependency
  if !index.hasUniqueContainerId container.1 || !index.hasUniqueContainerId target.1 ||
      container.2 = target.2 then none
  else some ⟨container.1.id, target.1.id, .connectedTo⟩

def containerGraphEdges (index : GraphIdentityIndex) (container : Indexed ContainerRecord) :
    List GraphEdge :=
  container.1.networks.filterMap (membershipGraphEdge index container.1) ++
    (if hasUniqueName snapshot.containers container then
      (((volumeByAttachedContainer snapshot.volumes).get? container.1.name).getD []).filterMap
        (mountGraphEdge index container.1)
    else []) ++
    container.1.dependsOn.filterMap (dependencyGraphEdge snapshot index container)

end

def graphNodeSortKey (node : GraphNode) : String := (encode node).toText

def graphEdgeSortKey (edge : GraphEdge) : String := (encode edge).toText

def deriveGraph (snapshot : DockerSnapshot) : GraphResponse where
  nodes := dedup (sortByKey graphNodeSortKey
    (snapshot.containers.map containerGraphNode ++ snapshot.networks.map networkGraphNode ++
      snapshot.volumes.map volumeGraphNode))
  edges := dedup (sortByKey graphEdgeSortKey
    (snapshot.containers.zipIdx.flatMap
      (containerGraphEdges snapshot (.fromSnapshot snapshot))))

end DockerMap
