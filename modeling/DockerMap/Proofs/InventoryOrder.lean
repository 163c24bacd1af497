import DockerMap.Lib.KeyedSort
import DockerMap.Lib.Reordering
import DockerMap.Proofs.DependencyResolution
import DockerMap.Proofs.PublicationNormalForm

/-! The runtime derivation and the order of the inventory. Everything but the volume joins
depends on how often identities occur; a volume attachment goes to the first container of
its name. -/

namespace DockerMap

open Reordering

structure ContainerReordered (c c' : ContainerRecord) : Prop where
  id : c'.id = c.id
  name : c'.name = c.name
  image : c'.image = c.image
  status : c'.status = c.status
  role : c'.role = c.role
  publishes : c'.publishesOnUnspecifiedAddress = c.publishesOnUnspecifiedAddress
  networks : c.networks.Perm c'.networks
  ports : c.ports.Perm c'.ports
  mounts : c.mounts.Perm c'.mounts
  dependsOn : c.dependsOn.Perm c'.dependsOn

structure VolumeReordered (v v' : VolumeRecord) : Prop where
  id : v'.id = v.id
  name : v'.name = v.name
  attachedTo : v.attachedTo.Perm v'.attachedTo

structure InventoryReordered (snapshot snapshot' : DockerSnapshot) : Prop where
  containers : Reordered ContainerReordered snapshot.containers snapshot'.containers
  networks : snapshot.networks.Perm snapshot'.networks
  volumes : Reordered VolumeReordered snapshot.volumes snapshot'.volumes
  lastUpdated : snapshot'.lastUpdated = snapshot.lastUpdated

/-- A container node without its joined ports. -/
def eraseJoinedPorts (node : RuntimeMapNode) : RuntimeMapNode :=
  if isDockerContainer node then { node with metadata := node.metadata.erase "ports" } else node

def NodesAlike (nodes nodes' : List RuntimeMapNode) : Prop :=
  (nodes.map eraseJoinedPorts).Perm (nodes'.map eraseJoinedPorts)

/-- The same topology, up to the joined ports of the containers. -/
structure SameTopology (runtimeMap runtimeMap' : RuntimeMap) : Prop where
  nodes : NodesAlike runtimeMap.nodes runtimeMap'.nodes
  edges : runtimeMap.edges = runtimeMap'.edges
  diagnostics : runtimeMap.diagnostics = runtimeMap'.diagnostics

/-! Volume joins -/

def mountEdge (snapshot : DockerSnapshot) (revision : String) (container : ContainerRecord)
    (volume : VolumeRecord) : RuntimeMapEdge :=
  dockerEdge snapshot revision (runtimeContainerId container) (runtimeVolumeId volume.id)
    .mounts .dockerVolumeMount

section

variable (snapshot : DockerSnapshot) (revision : String)

/-- Some container of a name the volume lists gives the edge. -/
def IsMountCandidate (edge : RuntimeMapEdge) : Prop :=
  ∃ volume ∈ snapshot.volumes, ∃ attached ∈ volume.attachedTo, ∃ container ∈ snapshot.containers,
    container.name = attached ∧ mountEdge snapshot revision container volume = edge

/-- Every container of a name the volume lists gives the edge. -/
def IsMountForced (edge : RuntimeMapEdge) : Prop :=
  ∃ volume ∈ snapshot.volumes, ∃ attached ∈ volume.attachedTo,
    (∃ container ∈ snapshot.containers, container.name = attached) ∧
      ∀ container ∈ snapshot.containers, container.name = attached →
        mountEdge snapshot revision container volume = edge

/-- No attachment is left to choose between containers: each edge it can give is there in
any order. -/
def MountsSettled (edges : List RuntimeMapEdge) : Prop :=
  ∀ edge, IsMountCandidate snapshot revision edge → edge ∈ edges ∨
    IsMountForced snapshot revision edge

end

theorem mem_volumeEdges {snapshot : DockerSnapshot} {revision : String} {edge : RuntimeMapEdge} :
    edge ∈ snapshot.volumes.flatMap (volumeEdges snapshot revision) ↔
      ∃ volume ∈ snapshot.volumes, ∃ attached ∈ volume.attachedTo, ∃ container,
        (snapshot.containers.find? fun container => container.name == attached) =
          some container ∧ mountEdge snapshot revision container volume = edge := by
  simp only [List.mem_flatMap, volumeEdges, List.mem_filterMap, Option.map_eq_some_iff]
  rfl

theorem candidate_of_mem {snapshot : DockerSnapshot} {revision : String} {edge : RuntimeMapEdge}
    (h : edge ∈ snapshot.volumes.flatMap (volumeEdges snapshot revision)) :
    IsMountCandidate snapshot revision edge := by
  obtain ⟨volume, hvolume, attached, hattached, container, hfind, hedge⟩ := mem_volumeEdges.1 h
  have hname := List.find?_some hfind
  exact ⟨volume, hvolume, attached, hattached, container, List.mem_of_find?_eq_some hfind,
    by simpa using hname, hedge⟩

theorem mem_of_forced {snapshot : DockerSnapshot} {revision : String} {edge : RuntimeMapEdge}
    (h : IsMountForced snapshot revision edge) :
    edge ∈ snapshot.volumes.flatMap (volumeEdges snapshot revision) := by
  obtain ⟨volume, hvolume, attached, hattached, ⟨container, hcontainer, hname⟩, hall⟩ := h
  obtain ⟨first, hfind⟩ : ∃ first, (snapshot.containers.find? fun container =>
      container.name == attached) = some first := by
    rw [← Option.isSome_iff_exists, List.find?_isSome]
    exact ⟨container, hcontainer, by simpa using hname⟩
  have hfirst := List.find?_some hfind
  exact mem_volumeEdges.2 ⟨volume, hvolume, attached, hattached, first, hfind,
    hall first (List.mem_of_find?_eq_some hfind) (by simpa using hfirst)⟩

theorem mem_mounts_of_settled {snapshot : DockerSnapshot} {revision : String}
    {edges : List RuntimeMapEdge} (h : MountsSettled snapshot revision edges)
    (edge : RuntimeMapEdge) :
    (edge ∈ edges ∨ edge ∈ snapshot.volumes.flatMap (volumeEdges snapshot revision)) ↔
      edge ∈ edges ∨ IsMountCandidate snapshot revision edge := by
  constructor
  · exact Or.imp_right candidate_of_mem
  · rintro (hmem | hcandidate)
    · exact Or.inl hmem
    · exact (h edge hcandidate).imp_right mem_of_forced

section

variable {snapshot snapshot' : DockerSnapshot} {revision : String}

theorem dockerEdge_eq (h : snapshot'.lastUpdated = snapshot.lastUpdated) (source target : String)
    (relationship : RuntimeRelationshipKind) (kind : RuntimeEvidenceKind) :
    dockerEdge snapshot' revision source target relationship kind =
      dockerEdge snapshot revision source target relationship kind := by
  simp only [dockerEdge, dockerRuntimeEvidence, h]

theorem ContainerReordered.runtimeContainerId {c c' : ContainerRecord}
    (h : ContainerReordered c c') : runtimeContainerId c' = runtimeContainerId c := by
  unfold DockerMap.runtimeContainerId
  rw [h.id]

theorem ContainerReordered.listenerId {c c' : ContainerRecord} (h : ContainerReordered c c')
    (port : String) : listenerId c' port = listenerId c port := by
  unfold DockerMap.listenerId
  rw [h.id]

theorem mountEdge_eq (h : InventoryReordered snapshot snapshot') {c c' : ContainerRecord}
    {v v' : VolumeRecord} (hc : ContainerReordered c c') (hv : VolumeReordered v v') :
    mountEdge snapshot' revision c' v' = mountEdge snapshot revision c v := by
  rw [mountEdge, mountEdge, dockerEdge_eq h.lastUpdated, hc.runtimeContainerId, hv.id]

theorem isMountCandidate_iff (h : InventoryReordered snapshot snapshot') (edge : RuntimeMapEdge) :
    IsMountCandidate snapshot revision edge ↔ IsMountCandidate snapshot' revision edge := by
  refine h.volumes.exists_iff fun v v' hv => ?_
  refine (Reordered.of_perm (R := Eq) (fun _ => rfl) hv.attachedTo).exists_iff ?_
  rintro attached - rfl
  exact h.containers.exists_iff fun c c' hc => by rw [hc.name, mountEdge_eq h hc hv]

theorem isMountForced_iff (h : InventoryReordered snapshot snapshot') (edge : RuntimeMapEdge) :
    IsMountForced snapshot revision edge ↔ IsMountForced snapshot' revision edge := by
  refine h.volumes.exists_iff fun v v' hv => ?_
  refine (Reordered.of_perm (R := Eq) (fun _ => rfl) hv.attachedTo).exists_iff ?_
  rintro attached - rfl
  refine and_congr ?_ ?_
  · exact h.containers.exists_iff fun c c' hc => by rw [hc.name]
  · exact h.containers.forall_iff fun c c' hc => by rw [hc.name, mountEdge_eq h hc hv]

theorem MountsSettled.reordered {edges : List RuntimeMapEdge}
    (hsettled : MountsSettled snapshot revision edges) (h : InventoryReordered snapshot snapshot') :
    MountsSettled snapshot' revision edges := by
  intro edge hcandidate
  rw [← isMountForced_iff h]
  exact hsettled edge ((isMountCandidate_iff h edge).2 hcandidate)

/-! Container edges -/

theorem alias_eq {c c' : ContainerRecord} (h : ContainerReordered c c') {dependency : String} :
    ∀ p ∈ dependencyAliases dependency, p.1 c' = p.1 c := by
  simp only [dependencyAliases, List.forall_mem_cons, List.not_mem_nil, IsEmpty.forall_iff,
    implies_true, and_true]
  exact ⟨h.role, h.name, h.id⟩

theorem resolvesTo_iff {containers containers' : List ContainerRecord}
    (h : Reordered ContainerReordered containers containers') {t t' : ContainerRecord}
    (ht : ContainerReordered t t') (dependency : String) :
    ResolvesTo containers dependency t ↔ ResolvesTo containers' dependency t' := by
  have hcount : ∀ p ∈ dependencyAliases dependency,
      aliasCount containers p.1 p.2 = aliasCount containers' p.1 p.2 :=
    fun p hp => h.countP_eq fun c c' hc => by rw [alias_eq hc p hp]
  constructor
  · rintro ⟨hne, hunambiguous, p, hp, hnamed⟩
    refine ⟨hne, fun q hq => ?_, p, hp, (alias_eq ht p hp).trans hnamed⟩
    rw [← hcount q hq, alias_eq ht q hq]
    exact hunambiguous q hq
  · rintro ⟨hne, hunambiguous, p, hp, hnamed⟩
    refine ⟨hne, fun q hq => ?_, p, hp, (alias_eq ht p hp).symm.trans hnamed⟩
    rw [hcount q hq, ← alias_eq ht q hq]
    exact hunambiguous q hq

theorem hasUniqueId_eq (h : InventoryReordered snapshot snapshot') {c c' : ContainerRecord}
    (hc : ContainerReordered c c') :
    hasUniqueId snapshot'.containers c' = hasUniqueId snapshot.containers c := by
  have hcount := h.containers.countP_eq
    (p := fun other => other.id ≠ "" && runtimeContainerId other == runtimeContainerId c)
    (q := fun other => other.id ≠ "" && runtimeContainerId other == runtimeContainerId c')
    fun other other' hother => by
      rw [hother.id, hother.runtimeContainerId, hc.runtimeContainerId]
  rw [hasUniqueId, hasUniqueId, hcount, hc.id]

/-- The declared dependencies between uniquely identified containers. -/
def IsDependencyEdge (snapshot : DockerSnapshot) (revision : String) (edge : RuntimeMapEdge) :
    Prop :=
  ∃ container ∈ snapshot.containers, ∃ dependency ∈ container.dependsOn,
    ∃ target ∈ snapshot.containers, ResolvesTo snapshot.containers dependency target ∧
      hasUniqueId snapshot.containers container = true ∧
      hasUniqueId snapshot.containers target = true ∧
      runtimeContainerId container ≠ runtimeContainerId target ∧
      dockerEdge snapshot revision (runtimeContainerId container) (runtimeContainerId target)
        .dependsOn .dockerComposeDependsOn = edge

theorem dependencyEdge_eq_some {container : Indexed ContainerRecord}
    (hget : snapshot.containers[container.2]? = some container.1) {dependency : String}
    {edge : RuntimeMapEdge} :
    dependencyEdge snapshot revision container dependency = some edge ↔
      ∃ target ∈ snapshot.containers, ResolvesTo snapshot.containers dependency target ∧
        hasUniqueId snapshot.containers container.1 = true ∧
        hasUniqueId snapshot.containers target = true ∧
        runtimeContainerId container.1 ≠ runtimeContainerId target ∧
        dockerEdge snapshot revision (runtimeContainerId container.1) (runtimeContainerId target)
          .dependsOn .dockerComposeDependsOn = edge := by
  unfold dependencyEdge
  rw [Option.bind_eq_bind, Option.bind_eq_some_iff]
  constructor
  · rintro ⟨target, hresolve, hedge⟩
    obtain ⟨htarget, hresolves⟩ := resolveDependency_eq_some.1 hresolve
    split_ifs at hedge with hguard hsame
    simp only [Bool.or_eq_true, Bool.not_eq_eq_eq_not, Bool.not_true, decide_eq_true_eq,
      not_or, Bool.not_eq_false] at hguard
    exact ⟨target.1, List.mem_of_getElem? htarget, hresolves, hguard.1.1, hguard.1.2, hsame,
      Option.some.inj hedge⟩
  · rintro ⟨target, hmem, hresolves, hunique, hunique', hne, rfl⟩
    obtain ⟨j, hj⟩ := List.getElem?_of_mem hmem
    refine ⟨(target, j), resolveDependency_eq_some.2 ⟨hj, hresolves⟩, ?_⟩
    have hposition : container.2 ≠ j := by
      rintro rfl
      rw [hj] at hget
      exact hne (congrArg runtimeContainerId (Option.some.inj hget).symm)
    simp [hunique, hunique', hposition, hne]

theorem mem_containerEdges {edge : RuntimeMapEdge} :
    edge ∈ snapshot.containers.zipIdx.flatMap (containerEdges snapshot revision) ↔
      (∃ container ∈ snapshot.containers, ∃ network ∈ container.networks,
        networkEdge snapshot revision container network = edge) ∨
      (∃ container ∈ snapshot.containers, ∃ port ∈ container.ports,
        portEdge snapshot revision container port = edge) ∨
      IsDependencyEdge snapshot revision edge := by
  simp only [List.mem_flatMap, containerEdges, List.mem_append, List.mem_map, List.mem_filterMap]
  constructor
  · rintro ⟨container, hindexed, (hnetwork | hport) | ⟨dependency, hdependency, hedge⟩⟩
    · exact Or.inl ⟨container.1, List.fst_mem_of_mem_zipIdx hindexed, hnetwork⟩
    · exact Or.inr (Or.inl ⟨container.1, List.fst_mem_of_mem_zipIdx hindexed, hport⟩)
    · rw [dependencyEdge_eq_some (List.mem_zipIdx_iff_getElem?.1 hindexed)] at hedge
      exact Or.inr (Or.inr ⟨container.1, List.fst_mem_of_mem_zipIdx hindexed, dependency,
        hdependency, hedge⟩)
  · have hindexed : ∀ container ∈ snapshot.containers,
        ∃ j, snapshot.containers[j]? = some container := fun _ => List.getElem?_of_mem
    rintro (⟨container, hmem, hnetwork⟩ | ⟨container, hmem, hport⟩ |
      ⟨container, hmem, dependency, hdependency, hedge⟩)
    · obtain ⟨j, hj⟩ := hindexed container hmem
      exact ⟨(container, j), List.mem_zipIdx_iff_getElem?.2 hj, Or.inl (Or.inl hnetwork)⟩
    · obtain ⟨j, hj⟩ := hindexed container hmem
      exact ⟨(container, j), List.mem_zipIdx_iff_getElem?.2 hj, Or.inl (Or.inr hport)⟩
    · obtain ⟨j, hj⟩ := hindexed container hmem
      exact ⟨(container, j), List.mem_zipIdx_iff_getElem?.2 hj, Or.inr ⟨dependency, hdependency,
        (dependencyEdge_eq_some hj).2 hedge⟩⟩

theorem mem_containerEdges_iff (h : InventoryReordered snapshot snapshot')
    (edge : RuntimeMapEdge) :
    edge ∈ snapshot.containers.zipIdx.flatMap (containerEdges snapshot revision) ↔
      edge ∈ snapshot'.containers.zipIdx.flatMap (containerEdges snapshot' revision) := by
  rw [mem_containerEdges, mem_containerEdges]
  refine or_congr ?_ (or_congr ?_ ?_)
  · refine h.containers.exists_iff fun c c' hc => ?_
    refine (Reordered.of_perm (R := Eq) (fun _ => rfl) hc.networks).exists_iff ?_
    rintro network - rfl
    rw [networkEdge, networkEdge, dockerEdge_eq h.lastUpdated, hc.runtimeContainerId]
  · refine h.containers.exists_iff fun c c' hc => ?_
    refine (Reordered.of_perm (R := Eq) (fun _ => rfl) hc.ports).exists_iff ?_
    rintro port - rfl
    rw [portEdge, portEdge, hc.runtimeContainerId, hc.listenerId, dockerEdge_eq h.lastUpdated]
  · refine h.containers.exists_iff fun c c' hc => ?_
    refine (Reordered.of_perm (R := Eq) (fun _ => rfl) hc.dependsOn).exists_iff ?_
    rintro dependency - rfl
    refine h.containers.exists_iff fun t t' ht => ?_
    rw [resolvesTo_iff h.containers ht, hasUniqueId_eq h hc, hasUniqueId_eq h ht, hc.runtimeContainerId,
      ht.runtimeContainerId, dockerEdge_eq h.lastUpdated]

/-! Nodes -/

theorem eraseJoinedPorts_containerNode {c c' : ContainerRecord} (hc : ContainerReordered c c') :
    eraseJoinedPorts (containerNode c') = eraseJoinedPorts (containerNode c) := by
  have herase (container : ContainerRecord) :
      (containerMetadata container).erase "ports" =
        (((((∅ : Metadata).insert "image" container.image).insert "role" container.role).insert
          "serviceEntityKind" (serviceEntityKindName .service)).erase "ports") := by
    unfold containerMetadata
    split_ifs
    · rfl
    · exact SortedMap.erase_insert ..
  have hdocker (container : ContainerRecord) : isDockerContainer (containerNode container) = true :=
    rfl
  rw [eraseJoinedPorts, eraseJoinedPorts, if_pos (hdocker c'), if_pos (hdocker c), containerNode,
    containerNode, herase, herase, hc.runtimeContainerId, hc.name, hc.image, hc.status, hc.role]

theorem map_erase_containerNodes {c c' : ContainerRecord} (hc : ContainerReordered c c') :
    ((containerNodes c).map eraseJoinedPorts).Perm ((containerNodes c').map eraseJoinedPorts) := by
  rw [containerNodes, containerNodes, List.map_cons, List.map_cons,
    eraseJoinedPorts_containerNode hc, List.map_map, List.map_map]
  refine List.Perm.cons _ ?_
  have hlistener : listenerNode c' = listenerNode c := by
    funext port
    rw [listenerNode, listenerNode, hc.listenerId]
  rw [hlistener]
  exact hc.ports.map _

/-- The nodes of the inventory, before the host risks. -/
def inventoryNodes (snapshot : DockerSnapshot) (nodes : List RuntimeMapNode) :
    List RuntimeMapNode :=
  nodes ++ snapshot.containers.flatMap containerNodes ++ snapshot.networks.map networkNode ++
    snapshot.volumes.map volumeNode

theorem nodesAlike_inventoryNodes (h : InventoryReordered snapshot snapshot')
    (nodes : List RuntimeMapNode) :
    NodesAlike (inventoryNodes snapshot nodes) (inventoryNodes snapshot' nodes) := by
  unfold NodesAlike inventoryNodes
  simp only [List.map_append, List.map_flatMap]
  refine ((List.Perm.refl _).append ?_).append ?_ |>.append ?_
  · exact h.containers.flatMap_perm fun c c' hc => map_erase_containerNodes hc
  · exact (h.networks.map _).map _
  · rw [List.map_map, List.map_map, ← List.flatMap_pure_eq_map, ← List.flatMap_pure_eq_map]
    refine h.volumes.flatMap_perm fun v v' hv => ?_
    simp only [Function.comp_apply, volumeNode, hv.id, hv.name]
    rfl

/-! Host risks -/

theorem id_eraseJoinedPorts (node : RuntimeMapNode) : (eraseJoinedPorts node).id = node.id := by
  unfold eraseJoinedPorts
  split_ifs <;> rfl

theorem NodesAlike.countP_id {nodes nodes' : List RuntimeMapNode} (h : NodesAlike nodes nodes')
    (p : String → Bool) : nodes.countP (fun node => p node.id) =
      nodes'.countP fun node => p node.id := by
  have hcount := List.Perm.countP_eq (fun node => p node.id) h
  rw [List.countP_map, List.countP_map] at hcount
  simpa only [Function.comp_def, id_eraseJoinedPorts] using hcount

theorem NodesAlike.map_id_perm {nodes nodes' : List RuntimeMapNode} (h : NodesAlike nodes nodes') :
    (nodes.map RuntimeMapNode.id).Perm (nodes'.map RuntimeMapNode.id) := by
  have hids := List.Perm.map RuntimeMapNode.id h
  rw [List.map_map, List.map_map] at hids
  simpa only [Function.comp_def, id_eraseJoinedPorts] using hids

theorem NodesAlike.all_id {nodes nodes' : List RuntimeMapNode} (h : NodesAlike nodes nodes')
    (p : String → Bool) : (nodes.all fun node => p node.id) = nodes'.all fun node => p node.id := by
  rw [Bool.eq_iff_iff, List.all_eq_true, List.all_eq_true, ← List.countP_eq_length,
    ← List.countP_eq_length, h.countP_id, ← List.length_map RuntimeMapNode.id,
    h.map_id_perm.length_eq, List.length_map]

theorem NodesAlike.append_node {nodes nodes' : List RuntimeMapNode} (h : NodesAlike nodes nodes')
    (node : RuntimeMapNode) : NodesAlike (nodes ++ [node]) (nodes' ++ [node]) := by
  unfold NodesAlike
  rw [List.map_append, List.map_append]
  exact List.Perm.append h (List.Perm.refl _)

/-- Topologies with alike nodes and the same set of edges. -/
structure TopologyAlike (topology topology' : List RuntimeMapNode × List RuntimeMapEdge) :
    Prop where
  nodes : NodesAlike topology.1 topology'.1
  edges : ∀ edge, edge ∈ topology.2 ↔ edge ∈ topology'.2

theorem TopologyAlike.withHostRisk (h : snapshot'.lastUpdated = snapshot.lastUpdated)
    {topology topology' : List RuntimeMapNode × List RuntimeMapEdge}
    (halike : TopologyAlike topology topology') (sources : List String) (node : RuntimeMapNode)
    (relationship : RuntimeRelationshipKind) (kind : RuntimeEvidenceKind) :
    TopologyAlike (withHostRisk snapshot revision sources node relationship kind topology)
      (withHostRisk snapshot' revision sources node relationship kind topology') := by
  have hall : (topology.1.all fun other => other.id ≠ node.id) =
      topology'.1.all fun other => other.id ≠ node.id :=
    halike.nodes.all_id fun id => id ≠ node.id
  have hnodes := halike.nodes.append_node node
  unfold DockerMap.withHostRisk
  rw [hall]
  split_ifs
  · refine ⟨hnodes, fun edge => ?_⟩
    have hcount (source : String) := hnodes.countP_id fun id => id == source
    simp only [List.mem_append, halike.edges, hcount, dockerEdge_eq h]
  · exact halike

theorem riskSources_eq (h : InventoryReordered snapshot snapshot')
    {atRisk : ContainerRecord → Bool}
    (hrisk : ∀ c c', ContainerReordered c c' → atRisk c' = atRisk c) :
    riskSources snapshot' atRisk = riskSources snapshot atRisk := by
  unfold riskSources
  refine SortedSet.toList_eq_of_mem_iff fun id => ?_
  rw [SortedSet.mem_toList_foldl_add, SortedSet.mem_toList_foldl_add]
  simp only [List.mem_map, List.mem_filter, and_assoc]
  refine or_congr Iff.rfl (h.containers.exists_iff fun c c' hc => ?_).symm
  rw [hasUniqueId_eq h hc, hrisk c c' hc, hc.runtimeContainerId]

theorem any_eq_of_perm {α : Type*} {l l' : List α} (h : l.Perm l') (p : α → Bool) :
    l'.any p = l.any p := by
  rw [Bool.eq_iff_iff, List.any_eq_true, List.any_eq_true]
  simp only [h.mem_iff]

theorem publishesOnUnspecifiedAddress_eq {c c' : ContainerRecord} (hc : ContainerReordered c c') :
    publishesOnUnspecifiedAddress c' = publishesOnUnspecifiedAddress c := by
  rw [publishesOnUnspecifiedAddress, publishesOnUnspecifiedAddress, hc.publishes,
    any_eq_of_perm hc.ports]

theorem bindsDockerDaemonState_eq {c c' : ContainerRecord} (hc : ContainerReordered c c') :
    bindsDockerDaemonState c' = bindsDockerDaemonState c := by
  rw [bindsDockerDaemonState, bindsDockerDaemonState, any_eq_of_perm hc.mounts]

theorem duplicateRuntimeNodeIds_eq {nodes nodes' : List RuntimeMapNode}
    (h : NodesAlike nodes nodes') : duplicateRuntimeNodeIds nodes = duplicateRuntimeNodeIds nodes' := by
  have hids : ((nodes.map RuntimeMapNode.id).foldl SortedSet.add ∅).toList =
      ((nodes'.map RuntimeMapNode.id).foldl SortedSet.add ∅).toList := by
    refine SortedSet.toList_eq_of_mem_iff fun id => ?_
    rw [SortedSet.mem_toList_foldl_add (fun s => s), SortedSet.mem_toList_foldl_add (fun s => s),
      List.map_id', List.map_id', h.map_id_perm.mem_iff]
  have hcount (id : String) := h.countP_id fun other => other == id
  unfold duplicateRuntimeNodeIds
  simp only [hids, hcount]

/-! The derived map -/

/-- The edges of the inventory, before the host risks. -/
def inventoryEdges (snapshot : DockerSnapshot) (revision : String) (edges : List RuntimeMapEdge) :
    List RuntimeMapEdge :=
  edges ++ snapshot.containers.zipIdx.flatMap (containerEdges snapshot revision) ++
    snapshot.volumes.flatMap (volumeEdges snapshot revision)

/-- The topology with both host risks. -/
def riskTopology (snapshot : DockerSnapshot) (revision : String)
    (topology : List RuntimeMapNode × List RuntimeMapEdge) :
    List RuntimeMapNode × List RuntimeMapEdge :=
  withHostRisk snapshot revision (riskSources snapshot bindsDockerDaemonState)
    (riskNode dockerDaemonStateRiskId "Docker daemon state exposure")
    .exposesDaemonState .dockerDaemonStateBindMount
    (withHostRisk snapshot revision (riskSources snapshot publishesOnUnspecifiedAddress)
      (riskNode dockerUnspecifiedAddressPortRiskId "Unspecified-address Docker port publication")
      .exposes .dockerUnspecifiedAddressPortPublication topology)

/-- The topology a derivation sorts and publishes. -/
def derivedTopology (snapshot : DockerSnapshot) (nodes : List RuntimeMapNode)
    (edges : List RuntimeMapEdge) (revision : String) :
    List RuntimeMapNode × List RuntimeMapEdge :=
  riskTopology snapshot revision
    (inventoryNodes snapshot nodes, inventoryEdges snapshot revision edges)

theorem deriveRuntimeMap_eq (snapshot : DockerSnapshot) (nodes : List RuntimeMapNode)
    (edges : List RuntimeMapEdge) (diagnostics : List RuntimeMapDiagnostic) (revision : String) :
    deriveRuntimeMap snapshot nodes edges diagnostics revision =
      { nodes := sortByKey runtimeNodeSortKey
          (derivedTopology snapshot nodes edges revision).1
        edges := dedup (sortByKey runtimeEdgeSortKey
          (derivedTopology snapshot nodes edges revision).2)
        diagnostics := diagnostics ++
          (duplicateRuntimeNodeIds (derivedTopology snapshot nodes edges revision).1).map
            fun _ => duplicateIdDiagnostic
        lastUpdated := snapshot.lastUpdated } := rfl

theorem inventoryEdges_iff (h : InventoryReordered snapshot snapshot') {edges : List RuntimeMapEdge}
    (hsettled : MountsSettled snapshot revision edges) (edge : RuntimeMapEdge) :
    edge ∈ inventoryEdges snapshot revision edges ↔
      edge ∈ inventoryEdges snapshot' revision edges := by
  have hmounts : (edge ∈ edges ∨ edge ∈ snapshot.volumes.flatMap (volumeEdges snapshot revision)) ↔
      (edge ∈ edges ∨ edge ∈ snapshot'.volumes.flatMap (volumeEdges snapshot' revision)) := by
    rw [mem_mounts_of_settled hsettled, mem_mounts_of_settled (hsettled.reordered h),
      isMountCandidate_iff h]
  unfold inventoryEdges
  rw [List.mem_append, List.mem_append, List.mem_append, List.mem_append, or_right_comm,
    or_right_comm (c := edge ∈ snapshot'.volumes.flatMap _), hmounts, mem_containerEdges_iff h]

theorem derivedTopology_alike (h : InventoryReordered snapshot snapshot')
    {edges : List RuntimeMapEdge} (hsettled : MountsSettled snapshot revision edges)
    (nodes : List RuntimeMapNode) :
    TopologyAlike (derivedTopology snapshot nodes edges revision)
      (derivedTopology snapshot' nodes edges revision) := by
  have hinventory : TopologyAlike
      (inventoryNodes snapshot nodes, inventoryEdges snapshot revision edges)
      (inventoryNodes snapshot' nodes, inventoryEdges snapshot' revision edges) :=
    ⟨nodesAlike_inventoryNodes h nodes, inventoryEdges_iff h hsettled⟩
  unfold derivedTopology riskTopology
  rw [riskSources_eq h fun c c' hc => bindsDockerDaemonState_eq hc,
    riskSources_eq h fun c c' hc => publishesOnUnspecifiedAddress_eq hc]
  exact (hinventory.withHostRisk h.lastUpdated ..).withHostRisk h.lastUpdated ..

theorem sameTopology_of_alike {nodes : List RuntimeMapNode} {edges : List RuntimeMapEdge}
    (h : TopologyAlike (derivedTopology snapshot nodes edges revision)
    (derivedTopology snapshot' nodes edges revision)) (diagnostics : List RuntimeMapDiagnostic) :
    SameTopology (deriveRuntimeMap snapshot nodes edges diagnostics revision)
      (deriveRuntimeMap snapshot' nodes edges diagnostics revision) := by
  rw [deriveRuntimeMap_eq, deriveRuntimeMap_eq]
  refine ⟨?_, ?_, ?_⟩
  · exact (((sortByKey_perm _ _).map _).trans h.nodes).trans ((sortByKey_perm _ _).map _).symm
  · exact KeyedSort.destutter_insertionSort_eq_of_mem_iff runtimeEdgeSortKey_injective h.edges
  · rw [duplicateRuntimeNodeIds_eq h.nodes]

/-! Mount edges of the derived map -/

theorem mem_withHostRisk_of_ne {sources : List String} {node : RuntimeMapNode}
    {relationship : RuntimeRelationshipKind} {kind : RuntimeEvidenceKind}
    {topology : List RuntimeMapNode × List RuntimeMapEdge} {edge : RuntimeMapEdge}
    (hne : edge.relationship ≠ relationship) :
    edge ∈ (withHostRisk snapshot revision sources node relationship kind topology).2 ↔
      edge ∈ topology.2 := by
  unfold withHostRisk
  split_ifs
  · simp only [List.mem_append, List.mem_map, List.mem_filter, or_iff_left_iff_imp]
    rintro ⟨source, -, rfl⟩
    exact absurd rfl hne
  · rfl

theorem relationship_of_mem_containerEdges {edge : RuntimeMapEdge}
    (h : edge ∈ snapshot.containers.zipIdx.flatMap (containerEdges snapshot revision)) :
    edge.relationship ≠ .mounts := by
  rcases mem_containerEdges.1 h with ⟨c, -, network, -, rfl⟩ | ⟨c, -, port, -, rfl⟩ |
    ⟨c, -, dependency, -, target, -, -, -, -, -, rfl⟩
  · exact nofun
  · rw [portEdge]
    split_ifs <;> exact nofun
  · exact nofun

theorem mem_derived_mounts {nodes : List RuntimeMapNode} {edges : List RuntimeMapEdge}
    {diagnostics : List RuntimeMapDiagnostic} {edge : RuntimeMapEdge}
    (hmounts : edge.relationship = .mounts) :
    edge ∈ (deriveRuntimeMap snapshot nodes edges diagnostics revision).edges ↔
      edge ∈ edges ∨ edge ∈ snapshot.volumes.flatMap (volumeEdges snapshot revision) := by
  have hcontainer : edge ∉ snapshot.containers.zipIdx.flatMap (containerEdges snapshot revision) :=
    fun hmem => relationship_of_mem_containerEdges hmem hmounts
  rw [deriveRuntimeMap_eq, dedup, KeyedSort.mem_destutter, mem_sortByKey, derivedTopology,
    riskTopology, mem_withHostRisk_of_ne (by rw [hmounts]; decide),
    mem_withHostRisk_of_ne (by rw [hmounts]; decide), inventoryEdges, List.mem_append,
    List.mem_append, or_iff_left hcontainer]

/-- The snapshot with the containers of one identity before or after the others. -/
def withIdentityFirst (snapshot : DockerSnapshot) (id : String) : DockerSnapshot :=
  { snapshot with
    containers := snapshot.containers.filter (fun c => runtimeContainerId c == id) ++
      snapshot.containers.filter fun c => !(runtimeContainerId c == id) }

def withIdentityLast (snapshot : DockerSnapshot) (id : String) : DockerSnapshot :=
  { snapshot with
    containers := snapshot.containers.filter (fun c => !(runtimeContainerId c == id)) ++
      snapshot.containers.filter fun c => runtimeContainerId c == id }

theorem ContainerReordered.refl (c : ContainerRecord) : ContainerReordered c c where
  id := rfl
  name := rfl
  image := rfl
  status := rfl
  role := rfl
  publishes := rfl
  networks := .refl _
  ports := .refl _
  mounts := .refl _
  dependsOn := .refl _

theorem inventoryReordered_of_perm {containers : List ContainerRecord}
    (h : snapshot.containers.Perm containers) :
    InventoryReordered snapshot { snapshot with containers := containers } where
  containers := .of_perm ContainerReordered.refl h
  networks := .refl _
  volumes := .of_perm (fun _ => ⟨rfl, rfl, .refl _⟩) (.refl _)
  lastUpdated := rfl

theorem reordered_identityFirst (snapshot : DockerSnapshot) (id : String) :
    InventoryReordered snapshot (withIdentityFirst snapshot id) :=
  inventoryReordered_of_perm (List.filter_append_perm _ _).symm

theorem reordered_identityLast (snapshot : DockerSnapshot) (id : String) :
    InventoryReordered snapshot (withIdentityLast snapshot id) :=
  inventoryReordered_of_perm
    ((List.filter_append_perm _ _).symm.trans List.perm_append_comm)

/-- The first container of a name has the identity, or none of the name has it. -/
theorem find?_identityFirst {c : ContainerRecord} (hc : c ∈ snapshot.containers) :
    ∃ first, ((withIdentityFirst snapshot (runtimeContainerId c)).containers.find?
        fun other => other.name == c.name) = some first ∧
      runtimeContainerId first = runtimeContainerId c := by
  obtain ⟨first, hfirst⟩ : ∃ first, ((snapshot.containers.filter fun other =>
      runtimeContainerId other == runtimeContainerId c).find?
        fun other => other.name == c.name) = some first := by
    rw [← Option.isSome_iff_exists, List.find?_isSome]
    exact ⟨c, List.mem_filter.2 ⟨hc, beq_self_eq_true _⟩, beq_self_eq_true _⟩
  have hmem := (List.mem_filter.1 (List.mem_of_find?_eq_some hfirst)).2
  exact ⟨first, by rw [withIdentityFirst, List.find?_append, hfirst, Option.some_or],
    beq_iff_eq.1 hmem⟩

theorem find?_identityLast {name id : String} {other first : ContainerRecord}
    (hother : other ∈ snapshot.containers) (hname : other.name = name)
    (hid : runtimeContainerId other ≠ id)
    (hfirst : ((withIdentityLast snapshot id).containers.find? fun c => c.name == name) =
      some first) : runtimeContainerId first ≠ id := by
  obtain ⟨found, hfound⟩ : ∃ found, ((snapshot.containers.filter fun c =>
      !(runtimeContainerId c == id)).find? fun c => c.name == name) = some found := by
    rw [← Option.isSome_iff_exists, List.find?_isSome]
    exact ⟨other, List.mem_filter.2 ⟨hother, by simpa using hid⟩, by simpa using hname⟩
  rw [withIdentityLast, List.find?_append, hfound, Option.some_or] at hfirst
  cases hfirst
  have hmem := (List.mem_filter.1 (List.mem_of_find?_eq_some hfound)).2
  simpa using hmem

theorem settled_of_order_free {nodes : List RuntimeMapNode} {edges : List RuntimeMapEdge}
    {diagnostics : List RuntimeMapDiagnostic}
    (h : ∀ snapshot', InventoryReordered snapshot snapshot' →
      SameTopology (deriveRuntimeMap snapshot nodes edges diagnostics revision)
        (deriveRuntimeMap snapshot' nodes edges diagnostics revision)) :
    MountsSettled snapshot revision edges := by
  rintro edge ⟨volume, hvolume, attached, hattached, container, hcontainer, rfl, rfl⟩
  by_contra hunsettled
  rw [not_or] at hunsettled
  obtain ⟨hprovided, hforced⟩ := hunsettled
  have hfirst := (h _ (reordered_identityFirst snapshot (runtimeContainerId container))).edges
  have hlast := (h _ (reordered_identityLast snapshot (runtimeContainerId container))).edges
  -- with the container's identity first, its edge is there
  have hmem : mountEdge snapshot revision container volume ∈ (deriveRuntimeMap
      (withIdentityFirst snapshot (runtimeContainerId container)) nodes edges diagnostics
        revision).edges := by
    obtain ⟨first, hfind, hid⟩ := find?_identityFirst hcontainer
    refine (mem_derived_mounts rfl).2 (Or.inr (mem_volumeEdges.2
      ⟨volume, hvolume, container.name, hattached, first, hfind, ?_⟩))
    unfold mountEdge
    rw [hid]
    exact dockerEdge_eq rfl ..
  -- so it is there with that identity last, where another attachment must force it
  rw [← hfirst, hlast] at hmem
  rcases (mem_derived_mounts rfl).1 hmem with hedges | hmounts
  · exact hprovided hedges
  · obtain ⟨volume', hvolume', attached', hattached', first, hfind, hedge⟩ :=
      mem_volumeEdges.1 hmounts
    have hsource : runtimeContainerId first = runtimeContainerId container :=
      congrArg RuntimeMapEdge.source hedge
    have htarget : runtimeVolumeId volume'.id = runtimeVolumeId volume.id :=
      congrArg RuntimeMapEdge.target hedge
    refine hforced ⟨volume', hvolume', attached', hattached', ?_, ?_⟩
    · have hname := List.find?_some hfind
      have hin := List.mem_of_find?_eq_some hfind
      rw [withIdentityLast, List.mem_append, List.mem_filter, List.mem_filter] at hin
      exact ⟨first, hin.elim And.left And.left, by simpa using hname⟩
    · intro other hother hname
      by_contra hne
      refine find?_identityLast hother hname (fun hid => hne ?_) hfind hsource
      unfold mountEdge
      rw [hid, htarget]

/-- The derivation is the same for every order of the inventory exactly when no volume
attachment is left to choose between containers. -/
theorem derivation_order_free_iff (snapshot : DockerSnapshot) (nodes : List RuntimeMapNode)
    (edges : List RuntimeMapEdge) (diagnostics : List RuntimeMapDiagnostic) (revision : String) :
    (∀ snapshot', InventoryReordered snapshot snapshot' →
        SameTopology (deriveRuntimeMap snapshot nodes edges diagnostics revision)
          (deriveRuntimeMap snapshot' nodes edges diagnostics revision)) ↔
      MountsSettled snapshot revision edges :=
  ⟨settled_of_order_free, fun hsettled _ h =>
    sameTopology_of_alike (derivedTopology_alike h hsettled nodes) diagnostics⟩

end

def namedContainer (id name : String) : ContainerRecord where
  id := id
  name := name
  image := "postgres"
  status := "running"
  role := name
  networks := []
  ports := []
  publishesOnUnspecifiedAddress := false
  mounts := []
  dependsOn := []

def twoOfOneName (containers : List ContainerRecord) : DockerSnapshot :=
  { containers := containers, volumes := [⟨"data", "data", ["db"]⟩] }

/-- Two containers share the name a volume is attached to. -/
theorem derivation_order_dependent :
    InventoryReordered (twoOfOneName [namedContainer "a" "db", namedContainer "b" "db"])
        (twoOfOneName [namedContainer "b" "db", namedContainer "a" "db"]) ∧
      (deriveRuntimeMap (twoOfOneName [namedContainer "a" "db", namedContainer "b" "db"])
          [] [] [] "token").edges ≠
        (deriveRuntimeMap (twoOfOneName [namedContainer "b" "db", namedContainer "a" "db"])
          [] [] [] "token").edges :=
  ⟨inventoryReordered_of_perm (.swap ..), by decide +kernel⟩

end DockerMap
