import DockerMap.Daemon.Publication
import DockerMap.Proofs.GraphEdges

/-! The graph of the published snapshot beside the graph of the raw one. Redaction can merge
a reference with an alias it did not name; an id that is unique after redaction was unique
before. -/

namespace DockerMap

def redactGraphEdge (edge : GraphEdge) : GraphEdge :=
  { edge with
    source := redactRuntimeDisplayText edge.source
    target := redactRuntimeDisplayText edge.target }

section

variable (snapshot : DockerSnapshot)

/-- The id is published, and names exactly one record of the published snapshot. -/
def IsPublishedUnique (id : String) : Prop :=
  IsUniqueId (publishDockerSnapshot snapshot) (redactRuntimeDisplayText id)

/-- Whatever a reference names after redaction, some reference of the same record named
before. -/
structure ReferencesSurvive : Prop where
  networks : ∀ container ∈ snapshot.containers, ∀ network ∈ snapshot.networks,
    IsPublishedUnique snapshot container.id → IsPublishedUnique snapshot network.id →
      (∃ networkId ∈ container.networks,
        redactRuntimeDisplayText networkId = redactRuntimeDisplayText network.id) →
      network.id ∈ container.networks
  volumes : ∀ container ∈ snapshot.containers, ∀ volume ∈ snapshot.volumes,
    IsPublishedUnique snapshot container.id → IsPublishedUnique snapshot volume.id →
      redactRuntimeDisplayText container.name ≠ "" →
      aliasCount (publishDockerSnapshot snapshot).containers ContainerRecord.name
        (redactRuntimeDisplayText container.name) = 1 →
      (∃ attached ∈ volume.attachedTo,
        redactRuntimeDisplayText attached = redactRuntimeDisplayText container.name) →
      container.name ∈ volume.attachedTo
  dependencies : ∀ container ∈ snapshot.containers, ∀ target ∈ snapshot.containers,
    IsPublishedUnique snapshot container.id → IsPublishedUnique snapshot target.id →
      redactRuntimeDisplayText container.id ≠ redactRuntimeDisplayText target.id →
      (∃ dependency ∈ container.dependsOn,
        ResolvesTo (publishDockerSnapshot snapshot).containers
          (redactRuntimeDisplayText dependency) (redactContainerRecord target)) →
      ∃ dependency ∈ container.dependsOn, ResolvesTo snapshot.containers dependency target

end

section

variable {snapshot : DockerSnapshot}

theorem redact_empty : redactRuntimeDisplayText "" = "" := by decide

theorem recordIds_publish : recordIds (publishDockerSnapshot snapshot) =
    (recordIds snapshot).map redactRuntimeDisplayText := by
  simp only [recordIds, publishDockerSnapshot, List.map_append, List.map_map]
  rfl

theorem IsPublishedUnique.countP {id : String} (h : IsPublishedUnique snapshot id) :
    (recordIds snapshot).countP
      (fun other => redactRuntimeDisplayText other == redactRuntimeDisplayText id) = 1 := by
  have honce := h.once
  rw [recordIds_publish, List.count, List.countP_map] at honce
  exact honce

theorem IsPublishedUnique.congr {id other : String} (h : IsPublishedUnique snapshot id)
    (heq : redactRuntimeDisplayText other = redactRuntimeDisplayText id) :
    IsPublishedUnique snapshot other := by
  unfold IsPublishedUnique
  rw [heq]
  exact h

/-- The one record id with this published form. -/
theorem IsPublishedUnique.eq {id other : String} (h : IsPublishedUnique snapshot id)
    (hid : id ∈ recordIds snapshot) (hother : other ∈ recordIds snapshot)
    (heq : redactRuntimeDisplayText other = redactRuntimeDisplayText id) : other = id :=
  SoleMember.eq_of_countP_le_one h.countP.le hother (beq_iff_eq.2 heq) hid (beq_self_eq_true _)

/-- An id that is unique after redaction was unique before. -/
theorem IsPublishedUnique.raw {id : String} (h : IsPublishedUnique snapshot id)
    (hid : id ∈ recordIds snapshot) : IsUniqueId snapshot id := by
  constructor
  · rintro rfl
    exact h.nonempty redact_empty
  · have hle : (recordIds snapshot).count id ≤ 1 := by
      rw [← h.countP, List.count]
      refine List.countP_mono_left fun other _ hother => ?_
      rw [beq_iff_eq] at hother ⊢
      rw [hother]
    exact le_antisymm hle (List.count_pos_iff.2 hid)

theorem container_mem_ids {container : ContainerRecord} (h : container ∈ snapshot.containers) :
    container.id ∈ recordIds snapshot := by
  rw [recordIds, List.append_assoc]
  exact List.mem_append_left _ (List.mem_map_of_mem h)

theorem network_mem_ids {network : NetworkRecord} (h : network ∈ snapshot.networks) :
    network.id ∈ recordIds snapshot := by
  rw [recordIds]
  exact List.mem_append_left _ (List.mem_append_right _ (List.mem_map_of_mem h))

theorem volume_mem_ids {volume : VolumeRecord} (h : volume ∈ snapshot.volumes) :
    volume.id ∈ recordIds snapshot :=
  List.mem_append_right _ (List.mem_map_of_mem h)

/-- A unique id belongs to one record. -/
theorem IsUniqueId.container_eq {c c' : ContainerRecord} (h : IsUniqueId snapshot c.id)
    (hc : c ∈ snapshot.containers) (hc' : c' ∈ snapshot.containers) (hid : c'.id = c.id) :
    c' = c := by
  have honce := h.once
  rw [recordIds, List.count_append, List.count_append] at honce
  exact SoleMember.eq_of_count_map_le_one (by omega) hc hc' hid

theorem IsUniqueId.volume_eq {v v' : VolumeRecord} (h : IsUniqueId snapshot v.id)
    (hv : v ∈ snapshot.volumes) (hv' : v' ∈ snapshot.volumes) (hid : v'.id = v.id) : v' = v := by
  have honce := h.once
  rw [recordIds, List.count_append, List.count_append] at honce
  exact SoleMember.eq_of_count_map_le_one (by omega) hv hv' hid

theorem IsUniqueId.container_ne_network {c : ContainerRecord} {n : NetworkRecord}
    (h : IsUniqueId snapshot c.id) (hc : c ∈ snapshot.containers) (hn : n ∈ snapshot.networks) :
    c.id ≠ n.id :=
  id_ne_of_unique hc h (List.mem_append_left _ (List.mem_map_of_mem hn))

/-! From the published graph to the raw one -/

theorem raw_membership (hsurvive : ReferencesSurvive snapshot) {edge : GraphEdge}
    (h : IsMembershipEdge (publishDockerSnapshot snapshot) edge) :
    ∃ raw, IsMembershipEdge snapshot raw ∧ redactGraphEdge raw = edge := by
  obtain ⟨c', hc', id', hid', ⟨n', hn', hname⟩, hunique, hunique', rfl⟩ := h
  obtain ⟨c, hc, rfl⟩ := List.mem_map.1 hc'
  obtain ⟨networkId, hnetworkId, rfl⟩ := List.mem_map.1 hid'
  obtain ⟨n, hn, rfl⟩ := List.mem_map.1 hn'
  have hc_unique : IsPublishedUnique snapshot c.id := hunique
  have hn_unique : IsPublishedUnique snapshot n.id := IsPublishedUnique.congr hunique' hname
  have hmem := hsurvive.networks c hc n hn hc_unique hn_unique ⟨networkId, hnetworkId, hname.symm⟩
  refine ⟨⟨c.id, n.id, .connectedTo⟩, ⟨c, hc, n.id, hmem, ⟨n, hn, rfl⟩,
    hc_unique.raw (container_mem_ids hc), hn_unique.raw (network_mem_ids hn), rfl⟩, ?_⟩
  exact congrArg (fun target => GraphEdge.mk _ target .connectedTo) hname

theorem raw_mount (hsurvive : ReferencesSurvive snapshot) {edge : GraphEdge}
    (h : IsMountEdge (publishDockerSnapshot snapshot) edge) :
    ∃ raw, IsMountEdge snapshot raw ∧ redactGraphEdge raw = edge := by
  obtain ⟨c', hc', v', hv', attached', hattached', hname, hne, hone, hunique, hunique', rfl⟩ := h
  obtain ⟨c, hc, rfl⟩ := List.mem_map.1 hc'
  obtain ⟨v, hv, rfl⟩ := List.mem_map.1 hv'
  obtain ⟨attached, hattached, rfl⟩ := List.mem_map.1 hattached'
  have hc_unique : IsPublishedUnique snapshot c.id := hunique
  have hv_unique : IsPublishedUnique snapshot v.id := hunique'
  have hcname : redactRuntimeDisplayText c.name = redactRuntimeDisplayText attached := hname
  rw [← hcname] at hne hone
  have hmem := hsurvive.volumes c hc v hv hc_unique hv_unique hne hone
    ⟨attached, hattached, hcname.symm⟩
  have hraw_ne : c.name ≠ "" := fun hempty => hne (by rw [hempty, redact_empty])
  refine ⟨⟨c.id, v.id, .mounts⟩, ⟨c, hc, v, hv, c.name, hmem, rfl, hraw_ne, ?_,
    hc_unique.raw (container_mem_ids hc), hv_unique.raw (volume_mem_ids hv), rfl⟩, rfl⟩
  -- the name occurs, and at most as often as its published form
  refine le_antisymm ?_ (List.countP_pos_iff.2 ⟨c, hc, beq_self_eq_true _⟩)
  rw [← hone]
  simp only [aliasCount, publishDockerSnapshot, List.countP_map]
  refine List.countP_mono_left fun other _ hother => ?_
  rw [beq_iff_eq] at hother
  simp only [Function.comp_apply, redactContainerRecord, hother, beq_self_eq_true]

theorem raw_dependency (hsurvive : ReferencesSurvive snapshot) {edge : GraphEdge}
    (h : IsDeclaredDependency (publishDockerSnapshot snapshot) edge) :
    ∃ raw, IsDeclaredDependency snapshot raw ∧ redactGraphEdge raw = edge := by
  obtain ⟨c', hc', dependency', hdependency', t', ht', hresolves, hunique, hunique', hne, rfl⟩ := h
  obtain ⟨c, hc, rfl⟩ := List.mem_map.1 hc'
  obtain ⟨dependency, hdependency, rfl⟩ := List.mem_map.1 hdependency'
  obtain ⟨t, ht, rfl⟩ := List.mem_map.1 ht'
  have hc_unique : IsPublishedUnique snapshot c.id := hunique
  have ht_unique : IsPublishedUnique snapshot t.id := hunique'
  have hpublished_ne : redactRuntimeDisplayText c.id ≠ redactRuntimeDisplayText t.id := hne
  obtain ⟨raw, hraw, hraw_resolves⟩ := hsurvive.dependencies c hc t ht hc_unique ht_unique
    hpublished_ne ⟨dependency, hdependency, hresolves⟩
  exact ⟨⟨c.id, t.id, .connectedTo⟩, ⟨c, hc, raw, hraw, t, ht, hraw_resolves,
    hc_unique.raw (container_mem_ids hc), ht_unique.raw (container_mem_ids ht),
    fun heq => hpublished_ne (congrArg redactRuntimeDisplayText heq), rfl⟩, rfl⟩

/-! From the raw graph to the references -/

/-- Every edge of the published graph is the image of a raw one. -/
def FabricatesNoEdge (snapshot : DockerSnapshot) : Prop :=
  ∀ edge ∈ (deriveGraph (publishDockerSnapshot snapshot)).edges,
    ∃ raw ∈ (deriveGraph snapshot).edges, redactGraphEdge raw = edge

theorem networks_survive (h : FabricatesNoEdge snapshot) {c : ContainerRecord}
    (hc : c ∈ snapshot.containers) {n : NetworkRecord} (hn : n ∈ snapshot.networks)
    (hc_unique : IsPublishedUnique snapshot c.id) (hn_unique : IsPublishedUnique snapshot n.id)
    {networkId : String} (hmem : networkId ∈ c.networks)
    (hsame : redactRuntimeDisplayText networkId = redactRuntimeDisplayText n.id) :
    n.id ∈ c.networks := by
  have hedge : IsMembershipEdge (publishDockerSnapshot snapshot)
      ⟨redactRuntimeDisplayText c.id, redactRuntimeDisplayText n.id, .connectedTo⟩ :=
    ⟨redactContainerRecord c, List.mem_map_of_mem hc, redactRuntimeDisplayText networkId,
      List.mem_map_of_mem hmem, ⟨redactNetworkRecord n, List.mem_map_of_mem hn, hsame.symm⟩,
      hc_unique, hn_unique.congr hsame, by rw [hsame]; rfl⟩
  obtain ⟨raw, hraw, himage⟩ := h _ (mem_graphEdges.2 (Or.inl hedge))
  have hsource := congrArg GraphEdge.source himage
  have htarget := congrArg GraphEdge.target himage
  rcases mem_graphEdges.1 hraw with ⟨c', hc', id', hid', ⟨n', hn', rfl⟩, hunique, -, rfl⟩ |
    ⟨_, -, _, -, _, -, -, -, -, -, -, rfl⟩ | ⟨_, -, _, -, t, ht, -, -, hunique, -, rfl⟩
  · obtain rfl := hunique.container_eq hc' hc
      (hc_unique.eq (container_mem_ids hc) (container_mem_ids hc') hsource).symm
    rw [← hn_unique.eq (network_mem_ids hn) (network_mem_ids hn') htarget]
    exact hid'
  · cases congrArg GraphEdge.relationship himage
  · exact absurd (hn_unique.eq (network_mem_ids hn) (container_mem_ids ht) htarget)
      (hunique.container_ne_network ht hn)

theorem volumes_survive (h : FabricatesNoEdge snapshot) {c : ContainerRecord}
    (hc : c ∈ snapshot.containers) {v : VolumeRecord} (hv : v ∈ snapshot.volumes)
    (hc_unique : IsPublishedUnique snapshot c.id) (hv_unique : IsPublishedUnique snapshot v.id)
    (hne : redactRuntimeDisplayText c.name ≠ "")
    (hone : aliasCount (publishDockerSnapshot snapshot).containers ContainerRecord.name
      (redactRuntimeDisplayText c.name) = 1) {attached : String}
    (hmem : attached ∈ v.attachedTo)
    (hsame : redactRuntimeDisplayText attached = redactRuntimeDisplayText c.name) :
    c.name ∈ v.attachedTo := by
  have hedge : IsMountEdge (publishDockerSnapshot snapshot)
      ⟨redactRuntimeDisplayText c.id, redactRuntimeDisplayText v.id, .mounts⟩ := by
    refine ⟨redactContainerRecord c, List.mem_map_of_mem hc, redactVolumeRecord v,
      List.mem_map_of_mem hv, redactRuntimeDisplayText attached, List.mem_map_of_mem hmem,
      hsame.symm, ?_, ?_, hc_unique, hv_unique, rfl⟩
    · rw [hsame]
      exact hne
    · rw [hsame]
      exact hone
  obtain ⟨raw, hraw, himage⟩ := h _ (mem_graphEdges.2 (Or.inr (Or.inl hedge)))
  have hsource := congrArg GraphEdge.source himage
  have htarget := congrArg GraphEdge.target himage
  rcases mem_graphEdges.1 hraw with ⟨_, -, _, -, -, -, -, rfl⟩ |
    ⟨c', hc', v', hv', _, hattached, rfl, -, -, hunique, hunique', rfl⟩ |
    ⟨_, -, _, -, _, -, -, -, -, -, rfl⟩
  · cases congrArg GraphEdge.relationship himage
  · obtain rfl := hunique.container_eq hc' hc
      (hc_unique.eq (container_mem_ids hc) (container_mem_ids hc') hsource).symm
    obtain rfl := hunique'.volume_eq hv' hv
      (hv_unique.eq (volume_mem_ids hv) (volume_mem_ids hv') htarget).symm
    exact hattached
  · cases congrArg GraphEdge.relationship himage

theorem dependencies_survive (h : FabricatesNoEdge snapshot) {c t : ContainerRecord}
    (hc : c ∈ snapshot.containers) (ht : t ∈ snapshot.containers)
    (hc_unique : IsPublishedUnique snapshot c.id) (ht_unique : IsPublishedUnique snapshot t.id)
    (hne : redactRuntimeDisplayText c.id ≠ redactRuntimeDisplayText t.id) {dependency : String}
    (hmem : dependency ∈ c.dependsOn)
    (hresolves : ResolvesTo (publishDockerSnapshot snapshot).containers
      (redactRuntimeDisplayText dependency) (redactContainerRecord t)) :
    ∃ dependency ∈ c.dependsOn, ResolvesTo snapshot.containers dependency t := by
  have hedge : IsDeclaredDependency (publishDockerSnapshot snapshot)
      ⟨redactRuntimeDisplayText c.id, redactRuntimeDisplayText t.id, .connectedTo⟩ :=
    ⟨redactContainerRecord c, List.mem_map_of_mem hc, redactRuntimeDisplayText dependency,
      List.mem_map_of_mem hmem, redactContainerRecord t, List.mem_map_of_mem ht, hresolves,
      hc_unique, ht_unique, hne, rfl⟩
  obtain ⟨raw, hraw, himage⟩ := h _ (mem_graphEdges.2 (Or.inr (Or.inr hedge)))
  have hsource := congrArg GraphEdge.source himage
  have htarget := congrArg GraphEdge.target himage
  rcases mem_graphEdges.1 hraw with ⟨_, -, _, -, ⟨n, hn, rfl⟩, -, -, rfl⟩ |
    ⟨_, -, _, -, _, -, -, -, -, -, -, rfl⟩ |
    ⟨c', hc', raw_dependency, hraw_dependency, t', ht', hraw_resolves, hunique, hunique', -, rfl⟩
  · exact absurd (ht_unique.eq (container_mem_ids ht) (network_mem_ids hn) htarget).symm
      ((ht_unique.raw (container_mem_ids ht)).container_ne_network ht hn)
  · cases congrArg GraphEdge.relationship himage
  · obtain rfl := hunique.container_eq hc' hc
      (hc_unique.eq (container_mem_ids hc) (container_mem_ids hc') hsource).symm
    obtain rfl := hunique'.container_eq ht' ht
      (ht_unique.eq (container_mem_ids ht) (container_mem_ids ht') htarget).symm
    exact ⟨raw_dependency, hraw_dependency, hraw_resolves⟩

end

/-- Publication draws no edge of its own exactly when redaction makes no reference name a
record that the references of its container or volume did not name. -/
theorem publication_fabricates_no_edge_iff (snapshot : DockerSnapshot) :
    FabricatesNoEdge snapshot ↔ ReferencesSurvive snapshot := by
  constructor
  · intro h
    exact ⟨fun c hc n hn hc_unique hn_unique ⟨networkId, hmem, hsame⟩ =>
        networks_survive h hc hn hc_unique hn_unique hmem hsame,
      fun c hc v hv hc_unique hv_unique hne hone ⟨attached, hmem, hsame⟩ =>
        volumes_survive h hc hv hc_unique hv_unique hne hone hmem hsame,
      fun c hc t ht hc_unique ht_unique hne ⟨dependency, hmem, hresolves⟩ =>
        dependencies_survive h hc ht hc_unique ht_unique hne hmem hresolves⟩
  · intro hsurvive edge hedge
    rcases mem_graphEdges.1 hedge with hmembership | hmount | hdependency
    · obtain ⟨raw, hraw, himage⟩ := raw_membership hsurvive hmembership
      exact ⟨raw, mem_graphEdges.2 (Or.inl hraw), himage⟩
    · obtain ⟨raw, hraw, himage⟩ := raw_mount hsurvive hmount
      exact ⟨raw, mem_graphEdges.2 (Or.inr (Or.inl hraw)), himage⟩
    · obtain ⟨raw, hraw, himage⟩ := raw_dependency hsurvive hdependency
      exact ⟨raw, mem_graphEdges.2 (Or.inr (Or.inr hraw)), himage⟩

/-- A declared dependency on one secret-bearing name, and a service of another. -/
def mergedReference : DockerSnapshot :=
  { containers :=
      [{ namedContainer "a" "web" with dependsOn := ["container_token=old"] },
        { namedContainer "b" "db" with role := "token=new" }] }

theorem merged_reference_fabricates : ¬ FabricatesNoEdge mergedReference := by
  intro h
  have hraw : (deriveGraph mergedReference).edges = [] := by decide
  have hedge : (⟨"a", "b", .connectedTo⟩ : GraphEdge) ∈
      (deriveGraph (publishDockerSnapshot mergedReference)).edges := by decide
  obtain ⟨raw, hmem, -⟩ := h _ hedge
  rw [hraw] at hmem
  cases hmem

end DockerMap
