import DockerMap.Core.Graph
import DockerMap.Lib.SoleMember
import DockerMap.Proofs.InventoryOrder

/-! The edges of the public graph: between which records they are drawn, and that the graph
does not depend on the order of the inventory. -/

namespace DockerMap

open Reordering

/-! Identities -/

/-- The id names exactly one record of the snapshot, of whichever kind. -/
structure IsUniqueId (snapshot : DockerSnapshot) (id : String) : Prop where
  nonempty : id ≠ ""
  once : (recordIds snapshot).count id = 1

theorem get?_countIds {ids : List String} {id : String} :
    (countIds ids).get? id = some 1 ↔ id ≠ "" ∧ ids.count id = 1 := by
  have hcount : countIds ids = (ids.filter (· ≠ "")).foldl SortedMap.tally ∅ := by
    rw [List.foldl_filter]
    unfold countIds
    congr 1
    funext counts key
    unfold GraphIdentityIndex.count
    split_ifs with hempty hne <;> simp_all
  rw [hcount, SortedMap.get?_foldl_tally, SortedMap.get?_empty]
  by_cases hempty : id = ""
  · simp [hempty]
  · have hfilter : (ids.filter (· ≠ "")).count id = ids.count id :=
      List.count_filter (by simpa using hempty)
    rw [hfilter]
    split_ifs with hmem
    · simp [hempty]
    · have hzero : ids.count id = 0 := by
        rw [← hfilter]
        exact List.count_eq_zero_of_not_mem hmem
      simp [hzero]

section

variable {snapshot : DockerSnapshot}

theorem hasUniqueNodeId_iff {id : String} :
    (GraphIdentityIndex.fromSnapshot snapshot).hasUniqueNodeId id = true ↔
      IsUniqueId snapshot id := by
  rw [GraphIdentityIndex.hasUniqueNodeId, beq_iff_eq, GraphIdentityIndex.fromSnapshot,
    get?_countIds]
  exact ⟨fun h => ⟨h.1, h.2⟩, fun h => ⟨h.nonempty, h.once⟩⟩

theorem hasUniqueContainerId_iff {container : ContainerRecord}
    (h : container ∈ snapshot.containers) :
    (GraphIdentityIndex.fromSnapshot snapshot).hasUniqueContainerId container = true ↔
      IsUniqueId snapshot container.id := by
  rw [GraphIdentityIndex.hasUniqueContainerId, Bool.and_eq_true, hasUniqueNodeId_iff, beq_iff_eq,
    GraphIdentityIndex.fromSnapshot, get?_countIds, and_iff_right_iff_imp]
  intro hunique
  have hmem : 0 < (snapshot.containers.map ContainerRecord.id).count container.id :=
    List.count_pos_iff.2 (List.mem_map_of_mem h)
  have honce := hunique.once
  rw [recordIds, List.count_append, List.count_append] at honce
  exact ⟨hunique.nonempty, by omega⟩

theorem hasUniqueNetworkId_iff {id : String} (hunique : IsUniqueId snapshot id) :
    (GraphIdentityIndex.fromSnapshot snapshot).hasUniqueNetworkId id = true ↔
      ∃ network ∈ snapshot.networks, network.id = id := by
  have honce := hunique.once
  rw [recordIds, List.count_append, List.count_append] at honce
  rw [GraphIdentityIndex.hasUniqueNetworkId, beq_iff_eq, GraphIdentityIndex.fromSnapshot,
    get?_countIds, and_iff_right hunique.nonempty, ← List.mem_map, ← List.count_pos_iff]
  omega

theorem hasUniqueName_iff {container : Indexed ContainerRecord}
    (h : snapshot.containers[container.2]? = some container.1) :
    hasUniqueName snapshot.containers container = true ↔ container.1.name ≠ "" ∧
      aliasCount snapshot.containers ContainerRecord.name container.1.name = 1 := by
  unfold hasUniqueName
  by_cases hname : container.1.name = ""
  · simp [hname]
  · simp only [ne_eq, hname, not_false_eq_true, decide_true, Bool.true_and, true_and]
    constructor
    · intro hmatch
      split at hmatch
      · rename_i candidate hlookup
        exact ((aliasLookup_eq_some hname).1 hlookup).1
      · cases hmatch
    · intro hone
      rw [(aliasLookup_eq_some hname).2 ⟨hone, h, rfl⟩]
      exact beq_self_eq_true _

end

/-! Edges -/

section

variable (snapshot : DockerSnapshot)

def IsMembershipEdge (edge : GraphEdge) : Prop :=
  ∃ container ∈ snapshot.containers, ∃ networkId ∈ container.networks,
    (∃ network ∈ snapshot.networks, network.id = networkId) ∧
      IsUniqueId snapshot container.id ∧ IsUniqueId snapshot networkId ∧
      ⟨container.id, networkId, .connectedTo⟩ = edge

def IsMountEdge (edge : GraphEdge) : Prop :=
  ∃ container ∈ snapshot.containers, ∃ volume ∈ snapshot.volumes,
    ∃ attached ∈ volume.attachedTo, container.name = attached ∧ attached ≠ "" ∧
      aliasCount snapshot.containers ContainerRecord.name attached = 1 ∧
      IsUniqueId snapshot container.id ∧ IsUniqueId snapshot volume.id ∧
      ⟨container.id, volume.id, .mounts⟩ = edge

def IsDeclaredDependency (edge : GraphEdge) : Prop :=
  ∃ container ∈ snapshot.containers, ∃ dependency ∈ container.dependsOn,
    ∃ target ∈ snapshot.containers, ResolvesTo snapshot.containers dependency target ∧
      IsUniqueId snapshot container.id ∧ IsUniqueId snapshot target.id ∧
      container.id ≠ target.id ∧ ⟨container.id, target.id, .connectedTo⟩ = edge

end

section

variable {snapshot : DockerSnapshot} {container : Indexed ContainerRecord}

theorem membershipGraphEdge_eq_some (hcontainer : container.1 ∈ snapshot.containers)
    {networkId : String} {edge : GraphEdge} :
    membershipGraphEdge (.fromSnapshot snapshot) container.1 networkId = some edge ↔
      (∃ network ∈ snapshot.networks, network.id = networkId) ∧
        IsUniqueId snapshot container.1.id ∧ IsUniqueId snapshot networkId ∧
        ⟨container.1.id, networkId, .connectedTo⟩ = edge := by
  rw [membershipGraphEdge, Option.ite_none_right_eq_some, Bool.and_eq_true, Bool.and_eq_true,
    hasUniqueContainerId_iff hcontainer, hasUniqueNodeId_iff, Option.some.injEq]
  constructor
  · rintro ⟨⟨⟨hunique, hnetwork⟩, hnode⟩, rfl⟩
    exact ⟨(hasUniqueNetworkId_iff hnode).1 hnetwork, hunique, hnode, rfl⟩
  · rintro ⟨hnetwork, hunique, hnode, rfl⟩
    exact ⟨⟨⟨hunique, (hasUniqueNetworkId_iff hnode).2 hnetwork⟩, hnode⟩, rfl⟩

theorem mountGraphEdge_eq_some (hcontainer : container.1 ∈ snapshot.containers)
    {volume : VolumeRecord} {edge : GraphEdge} :
    mountGraphEdge (.fromSnapshot snapshot) container.1 volume = some edge ↔
      IsUniqueId snapshot container.1.id ∧ IsUniqueId snapshot volume.id ∧
        ⟨container.1.id, volume.id, .mounts⟩ = edge := by
  rw [mountGraphEdge, Option.ite_none_right_eq_some, Bool.and_eq_true,
    hasUniqueContainerId_iff hcontainer, hasUniqueNodeId_iff, Option.some.injEq, and_assoc]

/-- A unique id stands at one position. -/
theorem position_eq {id : String} (hunique : IsUniqueId snapshot id)
    {c d : Indexed ContainerRecord} (hc : snapshot.containers[c.2]? = some c.1)
    (hd : snapshot.containers[d.2]? = some d.1) (hcid : c.1.id = id) (hdid : d.1.id = id) :
    c = d := by
  have hcount : snapshot.containers.zipIdx.countP (fun container => container.1.id = id) ≤ 1 := by
    rw [List.countP_eq_length_filter, length_filter_zipIdx snapshot.containers ContainerRecord.id]
    have hmap : aliasCount snapshot.containers ContainerRecord.id id =
        (snapshot.containers.map ContainerRecord.id).count id := by
      rw [List.count, List.countP_map]
      rfl
    have honce := hunique.once
    rw [recordIds, List.count_append, List.count_append] at honce
    omega
  exact SoleMember.eq_of_countP_le_one hcount (List.mem_zipIdx_iff_getElem?.2 hc)
    (decide_eq_true hcid) (List.mem_zipIdx_iff_getElem?.2 hd) (decide_eq_true hdid)

theorem dependencyGraphEdge_eq_some
    (hget : snapshot.containers[container.2]? = some container.1) {dependency : String}
    {edge : GraphEdge} :
    dependencyGraphEdge snapshot (.fromSnapshot snapshot) container dependency = some edge ↔
      ∃ target ∈ snapshot.containers, ResolvesTo snapshot.containers dependency target ∧
        IsUniqueId snapshot container.1.id ∧ IsUniqueId snapshot target.id ∧
        container.1.id ≠ target.id ∧ ⟨container.1.id, target.id, .connectedTo⟩ = edge := by
  have hcontainer := List.mem_of_getElem? hget
  unfold dependencyGraphEdge
  rw [Option.bind_eq_bind, Option.bind_eq_some_iff]
  constructor
  · rintro ⟨target, hresolve, hedge⟩
    obtain ⟨htarget, hresolves⟩ := resolveDependency_eq_some.1 hresolve
    split_ifs at hedge with hguard
    simp only [Bool.or_eq_true, Bool.not_eq_eq_eq_not, Bool.not_true, decide_eq_true_eq,
      not_or, Bool.not_eq_false, hasUniqueContainerId_iff hcontainer,
      hasUniqueContainerId_iff (List.mem_of_getElem? htarget)] at hguard
    refine ⟨target.1, List.mem_of_getElem? htarget, hresolves, hguard.1.1, hguard.1.2,
      fun hsame => hguard.2 ?_, Option.some.inj hedge⟩
    exact congrArg Prod.snd (position_eq hguard.1.1 hget htarget rfl hsame.symm)
  · rintro ⟨target, hmem, hresolves, hunique, hunique', hne, rfl⟩
    obtain ⟨j, hj⟩ := List.getElem?_of_mem hmem
    refine ⟨(target, j), resolveDependency_eq_some.2 ⟨hj, hresolves⟩, ?_⟩
    have hposition : container.2 ≠ j := by
      rintro rfl
      rw [hj] at hget
      exact hne (congrArg ContainerRecord.id (Option.some.inj hget).symm)
    simp [(hasUniqueContainerId_iff hcontainer).2 hunique,
      (hasUniqueContainerId_iff hmem).2 hunique', hposition]

theorem mem_volumeByAttachedContainer {volumes : List VolumeRecord} {name : String}
    {volume : VolumeRecord} :
    volume ∈ ((volumeByAttachedContainer volumes).get? name).getD [] ↔
      volume ∈ volumes ∧ name ∈ volume.attachedTo := by
  rw [volumeByAttachedContainer, SortedMap.mem_getD_foldl_push, SortedMap.get?_empty]
  simp only [Option.getD_none, List.not_mem_nil, false_or, List.mem_flatMap, List.mem_map,
    Prod.mk.injEq]
  constructor
  · rintro ⟨other, hother, attached, hattached, rfl, rfl⟩
    exact ⟨hother, hattached⟩
  · rintro ⟨hvolume, hattached⟩
    exact ⟨volume, hvolume, name, hattached, rfl, rfl⟩

theorem mem_containerGraphEdges (hget : snapshot.containers[container.2]? = some container.1)
    {edge : GraphEdge} :
    edge ∈ containerGraphEdges snapshot (.fromSnapshot snapshot) container ↔
      (∃ networkId ∈ container.1.networks, (∃ network ∈ snapshot.networks,
        network.id = networkId) ∧ IsUniqueId snapshot container.1.id ∧
          IsUniqueId snapshot networkId ∧ ⟨container.1.id, networkId, .connectedTo⟩ = edge) ∨
      (∃ volume ∈ snapshot.volumes, ∃ attached ∈ volume.attachedTo,
        container.1.name = attached ∧ attached ≠ "" ∧
          aliasCount snapshot.containers ContainerRecord.name attached = 1 ∧
          IsUniqueId snapshot container.1.id ∧ IsUniqueId snapshot volume.id ∧
          ⟨container.1.id, volume.id, .mounts⟩ = edge) ∨
      ∃ dependency ∈ container.1.dependsOn, ∃ target ∈ snapshot.containers,
        ResolvesTo snapshot.containers dependency target ∧ IsUniqueId snapshot container.1.id ∧
          IsUniqueId snapshot target.id ∧ container.1.id ≠ target.id ∧
          ⟨container.1.id, target.id, .connectedTo⟩ = edge := by
  have hmem := List.mem_of_getElem? hget
  have hmounts : edge ∈ (if hasUniqueName snapshot.containers container then
      (((volumeByAttachedContainer snapshot.volumes).get? container.1.name).getD []).filterMap
        (mountGraphEdge (.fromSnapshot snapshot) container.1) else []) ↔
      ∃ volume ∈ snapshot.volumes, ∃ attached ∈ volume.attachedTo,
        container.1.name = attached ∧ attached ≠ "" ∧
          aliasCount snapshot.containers ContainerRecord.name attached = 1 ∧
          IsUniqueId snapshot container.1.id ∧ IsUniqueId snapshot volume.id ∧
          ⟨container.1.id, volume.id, .mounts⟩ = edge := by
    rw [List.mem_ite_nil_right, hasUniqueName_iff hget, List.mem_filterMap]
    simp only [mountGraphEdge_eq_some hmem, mem_volumeByAttachedContainer]
    constructor
    · rintro ⟨⟨hname, hone⟩, volume, ⟨hvolume, hattached⟩, hedge⟩
      exact ⟨volume, hvolume, container.1.name, hattached, rfl, hname, hone, hedge⟩
    · rintro ⟨volume, hvolume, attached, hattached, rfl, hname, hone, hedge⟩
      exact ⟨⟨hname, hone⟩, volume, ⟨hvolume, hattached⟩, hedge⟩
  rw [containerGraphEdges, List.mem_append, List.mem_append, hmounts, or_assoc]
  simp only [List.mem_filterMap, membershipGraphEdge_eq_some hmem,
    dependencyGraphEdge_eq_some hget]

theorem graphEdgeSortKey_injective : Function.Injective graphEdgeSortKey := fun _ _ h =>
  Json.Encode.injective (Json.toText_injective h)

theorem graphNodeSortKey_injective : Function.Injective graphNodeSortKey := fun _ _ h =>
  Json.Encode.injective (Json.toText_injective h)

theorem mem_graphEdges {edge : GraphEdge} :
    edge ∈ (deriveGraph snapshot).edges ↔ IsMembershipEdge snapshot edge ∨
      IsMountEdge snapshot edge ∨ IsDeclaredDependency snapshot edge := by
  simp only [deriveGraph]
  rw [dedup, KeyedSort.mem_destutter, mem_sortByKey, List.mem_flatMap]
  constructor
  · rintro ⟨container, hindexed, hedge⟩
    have hget := List.mem_zipIdx_iff_getElem?.1 hindexed
    have hmem := List.mem_of_getElem? hget
    rcases (mem_containerGraphEdges hget).1 hedge with h | h | h
    · exact Or.inl ⟨container.1, hmem, h⟩
    · exact Or.inr (Or.inl ⟨container.1, hmem, h⟩)
    · exact Or.inr (Or.inr ⟨container.1, hmem, h⟩)
  · rintro (⟨container, hmem, h⟩ | ⟨container, hmem, h⟩ | ⟨container, hmem, h⟩)
    · obtain ⟨j, hj⟩ := List.getElem?_of_mem hmem
      exact ⟨(container, j), List.mem_zipIdx_iff_getElem?.2 hj,
        (mem_containerGraphEdges hj).2 (Or.inl h)⟩
    · obtain ⟨j, hj⟩ := List.getElem?_of_mem hmem
      exact ⟨(container, j), List.mem_zipIdx_iff_getElem?.2 hj,
        (mem_containerGraphEdges hj).2 (Or.inr (Or.inl h))⟩
    · obtain ⟨j, hj⟩ := List.getElem?_of_mem hmem
      exact ⟨(container, j), List.mem_zipIdx_iff_getElem?.2 hj,
        (mem_containerGraphEdges hj).2 (Or.inr (Or.inr h))⟩

/-! Endpoints -/

/-- Both ends of an edge are unique ids, and not the same one. -/
structure IsUnambiguous (snapshot : DockerSnapshot) (edge : GraphEdge) : Prop where
  source : IsUniqueId snapshot edge.source
  target : IsUniqueId snapshot edge.target
  distinct : edge.source ≠ edge.target

/-- A unique id belongs to one kind of record. -/
theorem id_ne_of_unique {c : ContainerRecord} (hc : c ∈ snapshot.containers) {id : String}
    (hunique : IsUniqueId snapshot c.id)
    (hid : id ∈ snapshot.networks.map NetworkRecord.id ++ snapshot.volumes.map VolumeRecord.id) :
    c.id ≠ id := by
  rintro rfl
  have honce := hunique.once
  have hcontainer : 0 < (snapshot.containers.map ContainerRecord.id).count c.id :=
    List.count_pos_iff.2 (List.mem_map_of_mem hc)
  have hother := List.count_pos_iff.2 hid
  rw [recordIds, List.append_assoc, List.count_append] at honce
  omega

theorem isUnambiguous_of_mem {edge : GraphEdge} (h : edge ∈ (deriveGraph snapshot).edges) :
    IsUnambiguous snapshot edge := by
  rcases mem_graphEdges.1 h with ⟨c, hc, id, -, ⟨network, hnetwork, rfl⟩, hunique, hother, rfl⟩ |
    ⟨c, hc, volume, hvolume, -, -, -, -, -, hunique, hother, rfl⟩ |
    ⟨c, -, -, -, target, -, -, hunique, hother, hne, rfl⟩
  · exact ⟨hunique, hother, id_ne_of_unique hc hunique
      (List.mem_append_left _ (List.mem_map_of_mem hnetwork))⟩
  · exact ⟨hunique, hother, id_ne_of_unique hc hunique
      (List.mem_append_right _ (List.mem_map_of_mem hvolume))⟩
  · exact ⟨hunique, hother, hne⟩

end

/-! Order -/

structure NetworkReordered (n n' : NetworkRecord) : Prop where
  id : n'.id = n.id
  name : n'.name = n.name
  driver : n'.driver = n.driver
  internal : n'.internal = n.internal
  members : n.members.Perm n'.members

structure SnapshotReordered (snapshot snapshot' : DockerSnapshot) : Prop where
  containers : Reordered ContainerReordered snapshot.containers snapshot'.containers
  networks : Reordered NetworkReordered snapshot.networks snapshot'.networks
  volumes : Reordered VolumeReordered snapshot.volumes snapshot'.volumes

theorem map_perm_of_reordered {α β : Type} {R : α → α → Prop} {l l' : List α}
    (h : Reordered R l l') {f : α → β} (hf : ∀ a b, R a b → f a = f b) :
    (l.map f).Perm (l'.map f) := by
  rw [← List.flatMap_pure_eq_map, ← List.flatMap_pure_eq_map]
  exact h.flatMap_perm fun a b hab => by rw [Function.comp, Function.comp, hf a b hab]

section

variable {snapshot snapshot' : DockerSnapshot}

theorem recordIds_perm (h : SnapshotReordered snapshot snapshot') :
    (recordIds snapshot).Perm (recordIds snapshot') :=
  ((map_perm_of_reordered h.containers fun _ _ hc => hc.id.symm).append
    (map_perm_of_reordered h.networks fun _ _ hn => hn.id.symm)).append
      (map_perm_of_reordered h.volumes fun _ _ hv => hv.id.symm)

theorem isUniqueId_iff (h : SnapshotReordered snapshot snapshot') (id : String) :
    IsUniqueId snapshot id ↔ IsUniqueId snapshot' id := by
  have hcount := (recordIds_perm h).count_eq id
  exact ⟨fun hunique => ⟨hunique.nonempty, hcount.symm.trans hunique.once⟩,
    fun hunique => ⟨hunique.nonempty, hcount.trans hunique.once⟩⟩

theorem isMembershipEdge_iff (h : SnapshotReordered snapshot snapshot') (edge : GraphEdge) :
    IsMembershipEdge snapshot edge ↔ IsMembershipEdge snapshot' edge := by
  refine h.containers.exists_iff fun c c' hc => ?_
  refine (Reordered.of_perm (R := Eq) (fun _ => rfl) hc.networks).exists_iff ?_
  rintro networkId - rfl
  refine and_congr (h.networks.exists_iff fun n n' hn => by rw [hn.id]) ?_
  rw [isUniqueId_iff h, isUniqueId_iff h, hc.id]

theorem isMountEdge_iff (h : SnapshotReordered snapshot snapshot') (edge : GraphEdge) :
    IsMountEdge snapshot edge ↔ IsMountEdge snapshot' edge := by
  refine h.containers.exists_iff fun c c' hc => ?_
  refine h.volumes.exists_iff fun v v' hv => ?_
  refine (Reordered.of_perm (R := Eq) (fun _ => rfl) hv.attachedTo).exists_iff ?_
  rintro attached - rfl
  have hcount : aliasCount snapshot.containers ContainerRecord.name attached =
      aliasCount snapshot'.containers ContainerRecord.name attached :=
    h.containers.countP_eq fun d d' hd => by rw [hd.name]
  rw [isUniqueId_iff h, isUniqueId_iff h, hc.id, hc.name, hv.id, hcount]

theorem isDeclaredDependency_iff (h : SnapshotReordered snapshot snapshot') (edge : GraphEdge) :
    IsDeclaredDependency snapshot edge ↔ IsDeclaredDependency snapshot' edge := by
  refine h.containers.exists_iff fun c c' hc => ?_
  refine (Reordered.of_perm (R := Eq) (fun _ => rfl) hc.dependsOn).exists_iff ?_
  rintro dependency - rfl
  refine h.containers.exists_iff fun t t' ht => ?_
  rw [resolvesTo_iff h.containers ht, isUniqueId_iff h, isUniqueId_iff h, hc.id, ht.id]

theorem deriveGraph_eq (h : SnapshotReordered snapshot snapshot') :
    deriveGraph snapshot' = deriveGraph snapshot := by
  have hedges (edge : GraphEdge) :
      edge ∈ snapshot'.containers.zipIdx.flatMap
          (containerGraphEdges snapshot' (.fromSnapshot snapshot')) ↔
        edge ∈ snapshot.containers.zipIdx.flatMap
          (containerGraphEdges snapshot (.fromSnapshot snapshot)) := by
    have hmem (s : DockerSnapshot) : edge ∈ (deriveGraph s).edges ↔
        edge ∈ s.containers.zipIdx.flatMap (containerGraphEdges s (.fromSnapshot s)) := by
      simp only [deriveGraph]
      rw [dedup, KeyedSort.mem_destutter, mem_sortByKey]
    rw [← hmem, ← hmem, mem_graphEdges, mem_graphEdges, isMembershipEdge_iff h,
      isMountEdge_iff h, isDeclaredDependency_iff h]
  have hnodes : (snapshot'.containers.map containerGraphNode ++
      snapshot'.networks.map networkGraphNode ++ snapshot'.volumes.map volumeGraphNode).Perm
        (snapshot.containers.map containerGraphNode ++ snapshot.networks.map networkGraphNode ++
          snapshot.volumes.map volumeGraphNode) := by
    refine (List.Perm.append (List.Perm.append ?_ ?_) ?_).symm
    · exact map_perm_of_reordered h.containers fun c c' hc => by
        rw [containerGraphNode, containerGraphNode, hc.id, hc.name]
    · exact map_perm_of_reordered h.networks fun n n' hn => by
        rw [networkGraphNode, networkGraphNode, hn.id, hn.name]
    · exact map_perm_of_reordered h.volumes fun v v' hv => by
        rw [volumeGraphNode, volumeGraphNode, hv.id, hv.name]
  unfold deriveGraph
  rw [GraphResponse.mk.injEq]
  exact ⟨KeyedSort.destutter_insertionSort_eq_of_mem_iff graphNodeSortKey_injective
      fun _ => hnodes.mem_iff,
    KeyedSort.destutter_insertionSort_eq_of_mem_iff graphEdgeSortKey_injective hedges⟩

end

/-- Every edge of the graph joins two ids that each name one record, and no edge occurs
twice; the graph, and so its serialization, is the same for every order of the inventory. -/
theorem graph_edges_unambiguous (snapshot : DockerSnapshot) :
    (∀ edge ∈ (deriveGraph snapshot).edges, IsUnambiguous snapshot edge) ∧
      (deriveGraph snapshot).edges.Nodup ∧
      ∀ snapshot', SnapshotReordered snapshot snapshot' →
        deriveGraph snapshot' = deriveGraph snapshot ∧
          (Json.encode (deriveGraph snapshot')).toText =
            (Json.encode (deriveGraph snapshot)).toText := by
  refine ⟨fun edge => isUnambiguous_of_mem, ?_, fun snapshot' h => ?_⟩
  · exact (KeyedSort.strictlySorted_destutter graphEdgeSortKey_injective
      (KeyedSort.sorted_insertionSort graphEdgeSortKey _)).nodup
  · rw [deriveGraph_eq h]
    exact ⟨rfl, rfl⟩

end DockerMap
