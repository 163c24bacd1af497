import DockerMap.Core.ComposeGraph
import Mathlib.Data.List.Nodup

/-! The Compose graph has one node for each entity that a scan names and joins nothing else; it is
simple exactly when no service declares a target twice. -/

namespace DockerMap

open Sha256 (NoCollision)

/-! Entities -/

/-- What a node of the graph stands for. -/
inductive ComposeEntity
  | service (name : String)
  | containerPath (serviceName target : String)
  | hostPath (source : String)
  | namedVolume (source : String)
  | anonymousVolume (mountId : String)

namespace ComposeEntity

def node : ComposeEntity → ComposeGraphNode
  | .service name => serviceNode name
  | .containerPath serviceName target => containerPathNode serviceName target
  | .hostPath source => hostPathNode source
  | .namedVolume source => namedVolumeNode source
  | .anonymousVolume mountId => anonymousVolumeNode mountId

/-- The texts that its id is a digest of. -/
def texts : ComposeEntity → List String
  | .service name => [name]
  | .containerPath serviceName target => [serviceName, target]
  | .hostPath source => [source]
  | .namedVolume source => [source]
  | .anonymousVolume mountId => [mountId]

/-- Its id up to the last component. -/
def idBase : ComposeEntity → String
  | .service _ => "compose_service_"
  | .containerPath serviceName _ =>
      "compose_container_path_" ++ (collisionResistantIdComponent serviceName ++ "_")
  | .hostPath _ => "compose_host_path_"
  | .namedVolume _ => "compose_named_volume_"
  | .anonymousVolume _ => "compose_anonymous_volume_"

/-- The text of the last component. -/
def last : ComposeEntity → String
  | .service name => name
  | .containerPath _ target => target
  | .hostPath source => source
  | .namedVolume source => source
  | .anonymousVolume mountId => mountId

theorem idBase_containerPath (serviceName target : String) :
    (containerPath serviceName target).idBase =
      "compose_container_path_" ++ (collisionResistantIdComponent serviceName ++ "_") := rfl

theorem node_id (entity : ComposeEntity) :
    entity.node.id = entity.idBase ++ collisionResistantIdComponent entity.last := by
  cases entity with
  | containerPath serviceName target =>
    rw [idBase_containerPath, ← String.append_assoc]
    rfl
  | _ => rfl

theorem last_mem_texts (entity : ComposeEntity) : entity.last ∈ entity.texts := by
  cases entity <;> simp [last, texts]

/-- What the ids of a kind begin with. -/
def family : ComposeNodeKind → List Char
  | .service => "compose_serv".toList
  | .containerPath => "compose_cont".toList
  | .hostPath => "compose_host".toList
  | .namedVolume => "compose_name".toList
  | .anonymousVolume => "compose_anon".toList

theorem family_injective : Function.Injective family := by
  intro a b
  cases a <;> cases b <;> decide

theorem take_idBase (entity : ComposeEntity) :
    entity.idBase.toList.take 12 = family entity.node.kind := by
  have hservice : "compose_service_".toList.take 12 = "compose_serv".toList := by decide
  have hcontainer : "compose_container_path_".toList.take 12 = "compose_cont".toList := by decide
  have hhost : "compose_host_path_".toList.take 12 = "compose_host".toList := by decide
  have hnamed : "compose_named_volume_".toList.take 12 = "compose_name".toList := by decide
  have hanonymous : "compose_anonymous_volume_".toList.take 12 = "compose_anon".toList := by decide
  cases entity with
  | service name => exact hservice
  | containerPath serviceName target =>
    rw [idBase_containerPath, String.toList_append, List.take_append_of_le_length (by decide)]
    exact hcontainer
  | hostPath source => exact hhost
  | namedVolume source => exact hnamed
  | anonymousVolume mountId => exact hanonymous

/-- An id names one entity. -/
theorem node_id_inj {a b : ComposeEntity} (hsha : NoCollision (a.texts ++ b.texts))
    (h : a.node.id = b.node.id) : a = b := by
  rw [node_id, node_id] at h
  obtain ⟨hbase, hlast⟩ := append_component_inj hsha
    (List.mem_append_left _ a.last_mem_texts) (List.mem_append_right _ b.last_mem_texts) h
  have hkind : a.node.kind = b.node.kind :=
    family_injective (by rw [← take_idBase, ← take_idBase, hbase])
  cases a <;> cases b <;> first | cases hkind; done | skip
  case service.service => exact congrArg _ hlast
  case hostPath.hostPath => exact congrArg _ hlast
  case namedVolume.namedVolume => exact congrArg _ hlast
  case anonymousVolume.anonymousVolume => exact congrArg _ hlast
  case containerPath.containerPath serviceName target serviceName' target' =>
    rw [idBase_containerPath, idBase_containerPath, ← String.append_assoc,
      ← String.append_assoc] at hbase
    have hservice := append_component_inj hsha (by simp [texts]) (by simp [texts])
      ((String.append_left_inj _).1 hbase)
    exact congrArg₂ _ hservice.2 hlast

end ComposeEntity

/-- The source of a mount, if its kind has one. -/
def sourceEntity (mount : ComposeMount) : Option ComposeEntity :=
  match mount.kind with
  | .bind => (mount.resolvedSource.or mount.source).map .hostPath
  | .namedVolume => mount.source.map .namedVolume
  | .anonymousVolume => some (.anonymousVolume mount.id)
  | .unsupported => none

def mountTarget (mount : ComposeMount) : ComposeEntity := .containerPath mount.service mount.target

def mountEntities (mount : ComposeMount) : List ComposeEntity :=
  [.service mount.service, mountTarget mount] ++ (sourceEntity mount).toList

/-- The entities that a scan names, as often as it names them. -/
def scanEntities (scan : ComposeScan) : List ComposeEntity :=
  scan.services.map (fun service => .service service.name) ++ scan.mounts.flatMap mountEntities

def graphTexts (scan : ComposeScan) : List String := (scanEntities scan).flatMap ComposeEntity.texts

def declaresEdge (mount : ComposeMount) : ComposeGraphEdge where
  source := (ComposeEntity.service mount.service).node.id
  target := (mountTarget mount).node.id
  relationship := .declaresMount

def mountedEdge (mount : ComposeMount) (source : ComposeEntity) : ComposeGraphEdge where
  source := source.node.id
  target := (mountTarget mount).node.id
  relationship := .mountedAt

def mountEdges (mount : ComposeMount) : List ComposeGraphEdge :=
  declaresEdge mount :: (sourceEntity mount).toList.map (mountedEdge mount)

theorem sourceNode_eq (mount : ComposeMount) :
    sourceNode mount = (sourceEntity mount).map ComposeEntity.node := by
  unfold sourceNode sourceEntity
  cases mount.kind <;> simp only [Option.map_map, Option.map_some, Option.map_none] <;> rfl

/-! The loop -/

def addEntity (nodes : NodesById) (entity : ComposeEntity) : NodesById :=
  nodes.insertNew entity.node.id entity.node

theorem addMount_eq (graph : NodesById × List ComposeGraphEdge) (mount : ComposeMount) :
    addMount graph mount =
      ((mountEntities mount).foldl addEntity graph.1, graph.2 ++ mountEdges mount) := by
  unfold addMount mountEntities mountEdges
  rw [sourceNode_eq]
  cases sourceEntity mount with
  | none => rfl
  | some source =>
    dsimp only [Option.map_some]
    rw [List.append_assoc]
    rfl

theorem foldl_addMount (mounts : List ComposeMount) (graph : NodesById × List ComposeGraphEdge) :
    mounts.foldl addMount graph = ((mounts.flatMap mountEntities).foldl addEntity graph.1,
      graph.2 ++ mounts.flatMap mountEdges) := by
  induction mounts generalizing graph with
  | nil => simp
  | cons mount mounts ih =>
    rw [List.foldl_cons, ih, addMount_eq, List.flatMap_cons, List.flatMap_cons, List.foldl_append,
      List.append_assoc]

/-- The nodes by id, over all of the entities. -/
def graphNodes (scan : ComposeScan) : NodesById := (scanEntities scan).foldl addEntity ∅

theorem deriveComposeGraph_eq (scan : ComposeScan) :
    deriveComposeGraph scan =
      { nodes := (graphNodes scan).entries.map Prod.snd
        edges := scan.mounts.flatMap mountEdges } := by
  unfold deriveComposeGraph graphNodes scanEntities
  simp only [foldl_addMount, List.foldl_append, List.foldl_map, List.nil_append]
  rfl

section

variable {scan : ComposeScan}

theorem get?_graphNodes (id : String) : (graphNodes scan).get? id =
    ((scanEntities scan).find? fun entity => entity.node.id = id).map ComposeEntity.node := by
  rw [graphNodes]
  exact (SortedMap.get?_foldl_insertNew (fun entity : ComposeEntity => entity.node.id)
    ComposeEntity.node _ ∅ id).trans (by rw [SortedMap.get?_empty, Option.none_or])

theorem id_of_mem_entries {entry : String × ComposeGraphNode}
    (h : entry ∈ (graphNodes scan).entries) : entry.2.id = entry.1 := by
  rw [← SortedMap.get?_eq_some_iff (k := entry.1) (v := entry.2), get?_graphNodes] at h
  obtain ⟨entity, hfind, hnode⟩ := Option.map_eq_some_iff.1 h
  have hid := List.find?_some hfind
  rw [decide_eq_true_eq] at hid
  rw [← hnode, hid]

theorem ids_eq : (deriveComposeGraph scan).nodes.map ComposeGraphNode.id =
    (graphNodes scan).entries.map Prod.fst := by
  rw [deriveComposeGraph_eq, List.map_map]
  exact List.map_congr_left fun entry hentry => id_of_mem_entries hentry

theorem nodup_node_ids : ((deriveComposeGraph scan).nodes.map ComposeGraphNode.id).Nodup := by
  rw [ids_eq, List.Nodup, List.pairwise_map]
  exact (graphNodes scan).sorted.imp fun hlt => hlt.ne

theorem mem_ids {id : String} : id ∈ (deriveComposeGraph scan).nodes.map ComposeGraphNode.id ↔
    ∃ entity ∈ scanEntities scan, entity.node.id = id := by
  have hget : id ∈ (graphNodes scan).entries.map Prod.fst ↔
      ((graphNodes scan).get? id).isSome = true := by
    rw [Option.isSome_iff_exists, List.mem_map]
    constructor
    · rintro ⟨⟨key, node⟩, hmem, rfl⟩
      exact ⟨node, SortedMap.get?_eq_some_iff.2 hmem⟩
    · rintro ⟨node, hnode⟩
      exact ⟨(id, node), SortedMap.get?_eq_some_iff.1 hnode, rfl⟩
  rw [ids_eq, hget, get?_graphNodes, Option.isSome_map, List.find?_isSome]
  simp only [decide_eq_true_eq]

theorem noCollision_of_mem (hsha : NoCollision (graphTexts scan)) {a b : ComposeEntity}
    (ha : a ∈ scanEntities scan) (hb : b ∈ scanEntities scan) :
    NoCollision (a.texts ++ b.texts) := by
  refine hsha.mono ?_
  intro text htext
  rcases List.mem_append.1 htext with h | h
  · exact List.mem_flatMap.2 ⟨a, ha, h⟩
  · exact List.mem_flatMap.2 ⟨b, hb, h⟩

/-- The nodes are those of the entities, each with the entity's own kind and label. -/
theorem mem_nodes_iff (hsha : NoCollision (graphTexts scan)) {node : ComposeGraphNode} :
    node ∈ (deriveComposeGraph scan).nodes ↔
      ∃ entity ∈ scanEntities scan, entity.node = node := by
  rw [deriveComposeGraph_eq, List.mem_map]
  constructor
  · rintro ⟨⟨key, found⟩, hmem, rfl⟩
    rw [← SortedMap.get?_eq_some_iff, get?_graphNodes] at hmem
    obtain ⟨entity, hfind, hnode⟩ := Option.map_eq_some_iff.1 hmem
    exact ⟨entity, List.mem_of_find?_eq_some hfind, hnode⟩
  · rintro ⟨entity, hentity, rfl⟩
    refine ⟨(entity.node.id, entity.node), ?_, rfl⟩
    rw [← SortedMap.get?_eq_some_iff, get?_graphNodes]
    obtain ⟨found, hfind⟩ : ∃ found, (scanEntities scan).find?
        (fun other => other.node.id = entity.node.id) = some found := by
      rw [← Option.isSome_iff_exists, List.find?_isSome]
      exact ⟨entity, hentity, decide_eq_true rfl⟩
    have hid := List.find?_some hfind
    rw [decide_eq_true_eq] at hid
    have hsame := ComposeEntity.node_id_inj
      (noCollision_of_mem hsha (List.mem_of_find?_eq_some hfind) hentity) hid
    rw [hfind, hsame]
    rfl

/-! Edges -/

theorem mountTarget_mem {mount : ComposeMount} (h : mount ∈ scan.mounts) :
    mountTarget mount ∈ scanEntities scan := by
  refine List.mem_append_right _ (List.mem_flatMap.2 ⟨mount, h, ?_⟩)
  simp [mountEntities]

theorem service_mem {mount : ComposeMount} (h : mount ∈ scan.mounts) :
    .service mount.service ∈ scanEntities scan := by
  refine List.mem_append_right _ (List.mem_flatMap.2 ⟨mount, h, ?_⟩)
  simp [mountEntities]

theorem source_mem {mount : ComposeMount} (h : mount ∈ scan.mounts) {source : ComposeEntity}
    (hsource : source ∈ sourceEntity mount) : source ∈ scanEntities scan := by
  refine List.mem_append_right _ (List.mem_flatMap.2 ⟨mount, h, ?_⟩)
  rw [mountEntities, List.mem_append, Option.mem_toList]
  exact Or.inr hsource

theorem mem_mountEdges {mount : ComposeMount} {edge : ComposeGraphEdge} :
    edge ∈ mountEdges mount ↔
      edge = declaresEdge mount ∨ ∃ source ∈ sourceEntity mount, mountedEdge mount source = edge := by
  rw [mountEdges, List.mem_cons, List.mem_map]
  simp only [Option.mem_toList, Option.mem_def]

theorem target_of_mem {mount : ComposeMount} {edge : ComposeGraphEdge}
    (h : edge ∈ mountEdges mount) : edge.target = (mountTarget mount).node.id := by
  rcases mem_mountEdges.1 h with rfl | ⟨source, -, rfl⟩
  · rfl
  · rfl

theorem nodup_mountEdges (mount : ComposeMount) : (mountEdges mount).Nodup := by
  rw [mountEdges, List.nodup_cons]
  constructor
  · intro hmem
    obtain ⟨source, -, heq⟩ := List.mem_map.1 hmem
    cases congrArg ComposeGraphEdge.relationship heq
  · cases sourceEntity mount with
    | none => exact List.nodup_nil
    | some source => exact List.nodup_singleton _

/-- What a service declares a mount at. -/
def declaredTarget (mount : ComposeMount) : String × String := (mount.service, mount.target)

theorem declaresEdge_congr {a b : ComposeMount} (h : declaredTarget a = declaredTarget b) :
    declaresEdge a = declaresEdge b := by
  obtain ⟨hservice, htarget⟩ := Prod.mk.inj h
  rw [declaresEdge, declaresEdge, mountTarget, mountTarget, hservice, htarget]

theorem disjoint_mountEdges (hsha : NoCollision (graphTexts scan)) {a b : ComposeMount}
    (ha : a ∈ scan.mounts) (hb : b ∈ scan.mounts) :
    (mountEdges a).Disjoint (mountEdges b) ↔ declaredTarget a ≠ declaredTarget b := by
  constructor
  · intro hdisjoint heq
    have hmem : declaresEdge b ∈ mountEdges a := by
      rw [← declaresEdge_congr heq]
      exact List.mem_cons_self
    exact hdisjoint hmem List.mem_cons_self
  · intro hne edge hedge hedge'
    have htarget := (target_of_mem hedge).symm.trans (target_of_mem hedge')
    have hsame := ComposeEntity.node_id_inj
      (noCollision_of_mem hsha (mountTarget_mem ha) (mountTarget_mem hb)) htarget
    obtain ⟨hservice, htarget⟩ := ComposeEntity.containerPath.inj hsame
    exact hne (Prod.ext hservice htarget)

theorem nodup_edges_iff (hsha : NoCollision (graphTexts scan)) :
    (deriveComposeGraph scan).edges.Nodup ↔ (scan.mounts.map declaredTarget).Nodup := by
  rw [deriveComposeGraph_eq]
  dsimp only
  rw [List.nodup_flatMap, and_iff_right fun mount _ => nodup_mountEdges mount, List.Nodup,
    List.pairwise_map]
  exact List.Pairwise.iff_of_mem fun ha hb => disjoint_mountEdges hsha ha hb

end

/-- A node for every entity and nothing else, each edge once and between two nodes, and the edges
of every mount. -/
structure IsClosedAndSimple (scan : ComposeScan) (graph : ComposeGraph) : Prop where
  ids : (graph.nodes.map ComposeGraphNode.id).Nodup
  entities : ∀ node, node ∈ graph.nodes ↔ ∃ entity ∈ scanEntities scan, entity.node = node
  closed : ∀ edge ∈ graph.edges, edge.source ∈ graph.nodes.map ComposeGraphNode.id ∧
    edge.target ∈ graph.nodes.map ComposeGraphNode.id
  simple : graph.edges.Nodup
  declares : ∀ mount ∈ scan.mounts,
    { source := composeServiceNodeId mount.service
      target := composeContainerPathId mount.service mount.target
      relationship := .declaresMount } ∈ graph.edges
  mounted : ∀ mount ∈ scan.mounts, ∀ node ∈ sourceNode mount,
    { source := node.id
      target := composeContainerPathId mount.service mount.target
      relationship := .mountedAt } ∈ graph.edges

def declaredVolume (file : String) : ComposeMount where
  id := file
  service := "db"
  kind := .namedVolume
  source := some "data"
  resolvedSource := none
  target := "/data"
  readOnly := false
  origin := { file := file, service := some "db", field := "services.db.volumes" }

def graphScan (mounts : List ComposeMount) : ComposeScan where
  files := ["compose.yaml", "compose.override.yaml"]
  projectRoot := "/srv"
  services := []
  mounts := mounts
  correlations := []
  diagnostics := []

/-- A directory of the project, mounted where another service reads it. -/
def declaredDirectory : ComposeMount where
  id := "site"
  service := "web"
  kind := .bind
  source := some "./site"
  resolvedSource := some "/srv/site"
  target := "/site"
  readOnly := true
  origin := { file := "compose.yaml", service := some "web", field := "services.web.volumes" }

end DockerMap
