import DockerMap.Daemon.DockerCollector
import DockerMap.Daemon.Publication
import DockerMap.Proofs.FindingRules
import DockerMap.Proofs.InventoryOrder

/-! Identities of the topology derived from a Docker inventory. The digests keep apart what
the inventory keeps apart; a listener is identified by its port text, which says nothing of
the address a port is bound on. -/

namespace DockerMap

open Sha256 (NoCollision)

/-! Node families -/

theorem take_family {base value : String} {n : ℕ} (h : n ≤ base.toList.length) :
    (base ++ value).toList.take n = base.toList.take n := by
  rw [String.toList_append, List.take_append_of_le_length h]

theorem family_container (container : ContainerRecord) :
    (runtimeContainerId container).toList.take 8 = "docker_c".toList := take_family (by decide)

theorem family_listener (container : ContainerRecord) (port : String) :
    (listenerId container port).toList.take 8 = "network_".toList := by
  unfold listenerId
  rw [String.append_assoc, String.append_assoc]
  exact take_family (by decide)

theorem family_network (id : String) :
    (runtimeNetworkId id).toList.take 8 = "docker_n".toList := take_family (by decide)

theorem family_volume (id : String) :
    (runtimeVolumeId id).toList.take 8 = "docker_v".toList := take_family (by decide)

theorem ne_of_family {id id' : String} {family family' : List Char}
    (h : id.toList.take 8 = family) (h' : id'.toList.take 8 = family') (hne : family ≠ family') :
    id ≠ id' := by
  rintro rfl
  exact hne (h.symm.trans h')

/-- The texts a derived node id is a digest of. -/
def identityTexts (snapshot : DockerSnapshot) : List String :=
  snapshot.containers.map ContainerRecord.id ++ snapshot.containers.flatMap ContainerRecord.ports ++
    snapshot.networks.map NetworkRecord.id ++ snapshot.volumes.map VolumeRecord.id

section

variable {snapshot : DockerSnapshot}

theorem container_mem_texts {container : ContainerRecord} (h : container ∈ snapshot.containers) :
    container.id ∈ identityTexts snapshot := by
  simp only [identityTexts, List.mem_append, List.mem_map]
  exact Or.inl (Or.inl (Or.inl ⟨container, h, rfl⟩))

theorem port_mem_texts {container : ContainerRecord} (h : container ∈ snapshot.containers)
    {port : String} (hport : port ∈ container.ports) : port ∈ identityTexts snapshot := by
  simp only [identityTexts, List.mem_append, List.mem_flatMap]
  exact Or.inl (Or.inl (Or.inr ⟨container, h, hport⟩))

theorem network_mem_texts {network : NetworkRecord} (h : network ∈ snapshot.networks) :
    network.id ∈ identityTexts snapshot := by
  simp only [identityTexts, List.mem_append, List.mem_map]
  exact Or.inl (Or.inr ⟨network, h, rfl⟩)

theorem volume_mem_texts {volume : VolumeRecord} (h : volume ∈ snapshot.volumes) :
    volume.id ∈ identityTexts snapshot := by
  simp only [identityTexts, List.mem_append, List.mem_map]
  exact Or.inr ⟨volume, h, rfl⟩

theorem listenerId_inj (hsha : NoCollision (identityTexts snapshot))
    {c c' : ContainerRecord} (hc : c ∈ snapshot.containers) (hc' : c' ∈ snapshot.containers)
    {port port' : String} (hport : port ∈ c.ports)
    (hport' : port' ∈ c'.ports) (h : listenerId c port = listenerId c' port') :
    c.id = c'.id ∧ port = port' := by
  unfold listenerId at h
  obtain ⟨hbase, hporteq⟩ :=
    append_component_inj hsha (port_mem_texts hc hport) (port_mem_texts hc' hport') h
  exact ⟨(append_component_inj hsha (container_mem_texts hc) (container_mem_texts hc')
    ((String.append_left_inj _).1 hbase)).2, hporteq⟩

theorem runtimeContainerId_inj (hsha : NoCollision (identityTexts snapshot))
    {c c' : ContainerRecord} (hc : c ∈ snapshot.containers) (hc' : c' ∈ snapshot.containers)
    (h : runtimeContainerId c = runtimeContainerId c') :
    c.id = c'.id :=
  (append_component_inj hsha (container_mem_texts hc) (container_mem_texts hc') h).2

/-! Distinct ids of the inventory nodes -/

theorem nodup_map_iff {α β γ : Type*} {f : α → β} {g : α → γ} {l : List α}
    (h : ∀ a ∈ l, ∀ b ∈ l, f a = f b ↔ g a = g b) : (l.map f).Nodup ↔ (l.map g).Nodup := by
  simp only [List.Nodup, List.pairwise_map]
  exact List.Pairwise.iff_of_mem fun ha hb => not_congr (h _ ha _ hb)

def containerNodeIds (container : ContainerRecord) : List String :=
  runtimeContainerId container :: container.ports.map (listenerId container)

theorem map_id_inventoryNodes : (inventoryNodes snapshot []).map RuntimeMapNode.id =
    snapshot.containers.flatMap containerNodeIds ++
      snapshot.networks.map (fun network => runtimeNetworkId network.id) ++
      snapshot.volumes.map fun volume => runtimeVolumeId volume.id := by
  have hids : (fun container => (containerNodes container).map RuntimeMapNode.id) =
      containerNodeIds := by
    funext container
    rw [containerNodes, List.map_cons, List.map_map]
    rfl
  simp only [inventoryNodes, List.nil_append, List.map_append, List.map_flatMap, List.map_map,
    hids]
  rfl

theorem nodup_containerNodeIds (hsha : NoCollision (identityTexts snapshot))
    {container : ContainerRecord}
    (h : container ∈ snapshot.containers) :
    (containerNodeIds container).Nodup ↔ container.ports.Nodup := by
  have hne : runtimeContainerId container ∉ container.ports.map (listenerId container) := by
    intro hmem
    obtain ⟨port, -, heq⟩ := List.mem_map.1 hmem
    exact ne_of_family (family_listener container port) (family_container container)
      (by decide) heq
  rw [containerNodeIds, List.nodup_cons, and_iff_right hne]
  refine ⟨List.Nodup.of_map _, fun hports => List.Nodup.map_on ?_ hports⟩
  exact fun port hport port' hport' heq => (listenerId_inj hsha h h hport hport' heq).2

theorem disjoint_containerNodeIds (hsha : NoCollision (identityTexts snapshot))
    {c c' : ContainerRecord} (hc : c ∈ snapshot.containers)
    (hc' : c' ∈ snapshot.containers) :
    (containerNodeIds c).Disjoint (containerNodeIds c') ↔ c.id ≠ c'.id := by
  constructor
  · intro hdisjoint hid
    have hsame : runtimeContainerId c = runtimeContainerId c' := by
      unfold runtimeContainerId
      rw [hid]
    refine hdisjoint List.mem_cons_self ?_
    rw [hsame]
    exact List.mem_cons_self
  · intro hne id hmem hmem'
    rw [containerNodeIds, List.mem_cons, List.mem_map] at hmem hmem'
    rcases hmem with rfl | ⟨port, hport, rfl⟩ <;> rcases hmem' with heq | ⟨port', hport', heq⟩
    · exact hne (runtimeContainerId_inj hsha hc hc' heq)
    · exact ne_of_family (family_listener c' port') (family_container c) (by decide) heq
    · exact ne_of_family (family_listener c port) (family_container c') (by decide) heq
    · exact hne (listenerId_inj hsha hc hc' hport hport' heq.symm).1

theorem nodup_inventoryNodes (hsha : NoCollision (identityTexts snapshot)) :
    ((inventoryNodes snapshot []).map RuntimeMapNode.id).Nodup ↔
      (∀ container ∈ snapshot.containers, container.ports.Nodup) ∧
        (snapshot.containers.map ContainerRecord.id).Nodup ∧
        (snapshot.networks.map NetworkRecord.id).Nodup ∧
        (snapshot.volumes.map VolumeRecord.id).Nodup := by
  have hcontainers : (snapshot.containers.flatMap containerNodeIds).Nodup ↔
      (∀ container ∈ snapshot.containers, container.ports.Nodup) ∧
        (snapshot.containers.map ContainerRecord.id).Nodup := by
    rw [List.nodup_flatMap]
    refine and_congr (forall₂_congr fun c hc => nodup_containerNodeIds hsha hc) ?_
    rw [List.Nodup, List.pairwise_map]
    exact List.Pairwise.iff_of_mem fun hc hc' => disjoint_containerNodeIds hsha hc hc'
  have hnetworks : (snapshot.networks.map fun network => runtimeNetworkId network.id).Nodup ↔
      (snapshot.networks.map NetworkRecord.id).Nodup :=
    nodup_map_iff fun _ hn _ hn' =>
      ⟨fun heq => (append_component_inj hsha (network_mem_texts hn) (network_mem_texts hn') heq).2,
        congrArg runtimeNetworkId⟩
  have hvolumes : (snapshot.volumes.map fun volume => runtimeVolumeId volume.id).Nodup ↔
      (snapshot.volumes.map VolumeRecord.id).Nodup :=
    nodup_map_iff fun _ hv _ hv' =>
      ⟨fun heq => (append_component_inj hsha (volume_mem_texts hv) (volume_mem_texts hv') heq).2,
        congrArg runtimeVolumeId⟩
  have hfamily : ∀ id ∈ snapshot.containers.flatMap containerNodeIds,
      id.toList.take 8 = "docker_c".toList ∨ id.toList.take 8 = "network_".toList := by
    intro id hid
    obtain ⟨container, -, hid⟩ := List.mem_flatMap.1 hid
    rw [containerNodeIds, List.mem_cons, List.mem_map] at hid
    rcases hid with rfl | ⟨port, -, rfl⟩
    · exact Or.inl (family_container container)
    · exact Or.inr (family_listener container port)
  have hnetwork : (snapshot.containers.flatMap containerNodeIds).Disjoint
      (snapshot.networks.map fun network => runtimeNetworkId network.id) := by
    intro id hid hid'
    obtain ⟨network, -, rfl⟩ := List.mem_map.1 hid'
    rcases hfamily _ hid with hid | hid
    · exact ne_of_family hid (family_network _) (by decide) rfl
    · exact ne_of_family hid (family_network _) (by decide) rfl
  have hvolume : (snapshot.containers.flatMap containerNodeIds ++
      snapshot.networks.map fun network => runtimeNetworkId network.id).Disjoint
        (snapshot.volumes.map fun volume => runtimeVolumeId volume.id) := by
    intro id hid hid'
    obtain ⟨volume, -, rfl⟩ := List.mem_map.1 hid'
    rcases List.mem_append.1 hid with hid | hid
    · rcases hfamily _ hid with hid | hid
      · exact ne_of_family hid (family_volume _) (by decide) rfl
      · exact ne_of_family hid (family_volume _) (by decide) rfl
    · obtain ⟨network, -, heq⟩ := List.mem_map.1 hid
      exact ne_of_family (family_network _) (family_volume _) (by decide) heq
  rw [map_id_inventoryNodes, List.nodup_append', List.nodup_append', hcontainers, hnetworks,
    hvolumes, and_iff_left hnetwork]
  tauto

theorem nodup_withHostRisk {snapshot : DockerSnapshot} {revision : String} {sources : List String}
    {node : RuntimeMapNode} {relationship : RuntimeRelationshipKind} {kind : RuntimeEvidenceKind}
    {topology : List RuntimeMapNode × List RuntimeMapEdge} :
    ((withHostRisk snapshot revision sources node relationship kind topology).1.map
        RuntimeMapNode.id).Nodup ↔ (topology.1.map RuntimeMapNode.id).Nodup := by
  unfold withHostRisk
  split_ifs with h
  · have hnew : node.id ∉ topology.1.map RuntimeMapNode.id := by
      simpa [List.mem_map] using h.2
    rw [List.map_append, List.nodup_append']
    simp [hnew]
  · rfl

theorem duplicateRuntimeNodeIds_eq_nil {nodes : List RuntimeMapNode} :
    duplicateRuntimeNodeIds nodes = [] ↔ (nodes.map RuntimeMapNode.id).Nodup := by
  have hmem (id : String) : id ∈ ((nodes.map RuntimeMapNode.id).foldl SortedSet.add ∅).toList ↔
      id ∈ nodes.map RuntimeMapNode.id := by
    rw [SortedSet.mem_toList_foldl_add (fun s => s), List.map_id', SortedSet.toList_empty]
    simp
  have hcount (id : String) : (nodes.countP fun node => node.id == id) =
      (nodes.map RuntimeMapNode.id).count id := by
    rw [List.count, List.countP_map]
    rfl
  rw [duplicateRuntimeNodeIds, List.filter_eq_nil_iff, List.nodup_iff_count_le_one]
  constructor
  · intro h id
    by_cases hid : id ∈ nodes.map RuntimeMapNode.id
    · have hle := h id ((hmem id).2 hid)
      rw [hcount, decide_eq_true_eq, not_lt] at hle
      exact hle
    · rw [List.count_eq_zero_of_not_mem hid]
      exact Nat.zero_le _
  · intro h id _
    rw [hcount, decide_eq_true_eq, not_lt]
    exact h id

/-! The derived map -/

/-- The integrity fact a cache adds to the map it publishes. -/
def withIdentityCollisionFact (runtimeMap : RuntimeMap) (revision : String) (collectedAt : ℕ) :
    RuntimeMap :=
  if runtimeMapHasIdentityCollision runtimeMap then
    appendRuntimeIdentityCollisionFact runtimeMap revision collectedAt
  else runtimeMap

/-- No two nodes share an id, and nothing reports that they do. -/
structure HasDistinctIdentities (runtimeMap : RuntimeMap) : Prop where
  ids : (runtimeMap.nodes.map RuntimeMapNode.id).Nodup
  collision : runtimeMapHasIdentityCollision runtimeMap = false
  diagnostics : runtimeMap.diagnostics = []
  findings : ∀ revision collectedAt,
    ∀ finding ∈ deriveFindings (withIdentityCollisionFact runtimeMap revision collectedAt),
      finding.ruleId ≠ .runtimeIdentityCollisionDetected

theorem collision_rule {nodes : List RuntimeMapNode} {edges : List RuntimeMapEdge}
    {text : RuleText} {finding : Finding} (h : Finds nodes edges text finding)
    (hrule : finding.ruleId = .runtimeIdentityCollisionDetected) :
    ∃ node ∈ nodes, node.id = runtimeIntegrityScopeId := by
  have htext := h.ruleId.symm.trans hrule
  cases h with
  | edge hmem =>
    simp only [edgeRules, List.mem_cons, List.not_mem_nil, or_false] at hmem
    rcases hmem with rfl | rfl | rfl | rfl | rfl | rfl <;> cases htext
  | collision _ _ hcandidate =>
    simp only [isCandidateRuntimeIdentityCollision, Bool.and_eq_true, joins_iff,
      isRuntimeIntegrityScope, isBareNode, beq_iff_eq] at hcandidate
    obtain ⟨⟨-, ⟨node, hnode, hscope⟩, -⟩, -⟩ := hcandidate
    exact ⟨node, (uniqueNode_eq_some.1 hnode).2.1, by tauto⟩
  | joint hmem =>
    simp only [jointRules, List.mem_cons, List.not_mem_nil, or_false] at hmem
    rcases hmem with rfl | rfl <;> cases htext
  | internalNetworkPort => cases htext

/-- The families of the inventory's own ids. -/
def inventoryFamilies : List (List Char) :=
  ["docker_c".toList, "network_".toList, "docker_n".toList, "docker_v".toList]

theorem id_ne_of_mem_inventoryNodes {snapshot : DockerSnapshot} {node : RuntimeMapNode}
    {id : String} (h : node ∈ inventoryNodes snapshot [])
    (hforeign : id.toList.take 8 ∉ inventoryFamilies) : node.id ≠ id := by
  have hne {id' : String} {family : List Char} (hid : id'.toList.take 8 = family)
      (hmem : family ∈ inventoryFamilies) : id' ≠ id := by
    rintro rfl
    exact hforeign (hid ▸ hmem)
  have hid := List.mem_map_of_mem (f := RuntimeMapNode.id) h
  rw [map_id_inventoryNodes, List.mem_append, List.mem_append, List.mem_flatMap, List.mem_map,
    List.mem_map] at hid
  rcases hid with (⟨container, -, hid⟩ | ⟨network, -, hid⟩) | ⟨volume, -, hid⟩
  · rw [containerNodeIds, List.mem_cons, List.mem_map] at hid
    rcases hid with hid | ⟨port, -, hid⟩
    · rw [hid]
      exact hne (family_container container) (by decide)
    · rw [← hid]
      exact hne (family_listener container port) (by decide)
  · rw [← hid]
    exact hne (family_network _) (by decide)
  · rw [← hid]
    exact hne (family_volume _) (by decide)

theorem id_ne_of_mem_withHostRisk {snapshot : DockerSnapshot} {revision : String}
    {sources : List String} {risk : RuntimeMapNode} {relationship : RuntimeRelationshipKind}
    {kind : RuntimeEvidenceKind} {topology : List RuntimeMapNode × List RuntimeMapEdge}
    {id : String} (hrisk : risk.id ≠ id) (htopology : ∀ node ∈ topology.1, node.id ≠ id) :
    ∀ node ∈ (withHostRisk snapshot revision sources risk relationship kind topology).1,
      node.id ≠ id := by
  unfold withHostRisk
  split_ifs
  · simp only [List.mem_append, List.mem_singleton]
    rintro node (hnode | rfl)
    · exact htopology node hnode
    · exact hrisk
  · exact htopology

theorem scope_not_derived {snapshot : DockerSnapshot} {revision : String} :
    ∀ node ∈ (deriveRuntimeMap snapshot [] [] [] revision).nodes,
      node.id ≠ runtimeIntegrityScopeId := by
  rw [deriveRuntimeMap_eq]
  intro node hnode
  rw [mem_sortByKey] at hnode
  exact id_ne_of_mem_withHostRisk (by decide)
    (id_ne_of_mem_withHostRisk (by decide)
      fun _ hmem => id_ne_of_mem_inventoryNodes hmem (by decide)) node hnode

theorem nodup_derived_ids {snapshot : DockerSnapshot} {revision : String} :
    ((deriveRuntimeMap snapshot [] [] [] revision).nodes.map RuntimeMapNode.id).Nodup ↔
      ((inventoryNodes snapshot []).map RuntimeMapNode.id).Nodup := by
  rw [deriveRuntimeMap_eq]
  exact ((sortByKey_perm _ _).map _).nodup_iff.trans (nodup_withHostRisk.trans nodup_withHostRisk)

/-- A port text listed twice is a collision, whatever the digests. -/
theorem collision_of_repeated_port {snapshot : DockerSnapshot} {revision : String}
    (container : ContainerRecord) (hcontainer : container ∈ snapshot.containers)
    (hports : ¬ container.ports.Nodup) : runtimeMapHasIdentityCollision
      (deriveRuntimeMap snapshot [] [] [] revision) = true := by
  rw [runtimeMapHasIdentityCollision, decide_eq_true_eq, Ne, duplicateRuntimeNodeIds_eq_nil,
    nodup_derived_ids, map_id_inventoryNodes]
  intro hids
  have hnodup := (List.nodup_flatMap.1 (List.Nodup.of_append_left
    (List.Nodup.of_append_left hids))).1 container hcontainer
  exact hports (List.Nodup.of_map _ (List.nodup_cons.1 hnodup).2)

theorem hasDistinctIdentities_iff {snapshot : DockerSnapshot} {revision : String} :
    HasDistinctIdentities (deriveRuntimeMap snapshot [] [] [] revision) ↔
      ((inventoryNodes snapshot []).map RuntimeMapNode.id).Nodup := by
  constructor
  · exact fun h => nodup_derived_ids.1 h.ids
  · intro h
    have hids : ((deriveRuntimeMap snapshot [] [] [] revision).nodes.map
        RuntimeMapNode.id).Nodup := nodup_derived_ids.2 h
    have hcollision : runtimeMapHasIdentityCollision
        (deriveRuntimeMap snapshot [] [] [] revision) = false := by
      rw [runtimeMapHasIdentityCollision, duplicateRuntimeNodeIds_eq_nil.2 hids]
      rfl
    refine ⟨hids, hcollision, ?_, ?_⟩
    · have hderived : ((derivedTopology snapshot [] [] revision).1.map
          RuntimeMapNode.id).Nodup := (nodup_withHostRisk.trans nodup_withHostRisk).2 h
      rw [deriveRuntimeMap_eq, duplicateRuntimeNodeIds_eq_nil.2 hderived]
      rfl
    · intro integrity collectedAt finding hmem hrule
      rw [withIdentityCollisionFact, if_neg (by simp [hcollision]),
        mem_deriveFindings (by rw [deriveRuntimeMap_eq]; exact nofun)] at hmem
      obtain ⟨text, hfinds⟩ := hmem
      obtain ⟨node, hnode, hid⟩ := collision_rule hfinds hrule
      exact scope_not_derived node hnode hid

/-! The inventory -/

/-- What a port text says of a port record: the address is lost. -/
def portKey (port : Port) : ℕ × ℕ × String :=
  (publicPort port, port.privatePort.val, portKind port)

def privateText (port : Port) : List Char :=
  Nat.toDigits 10 port.privatePort.val ++ '/' :: (portKind port).toList

theorem toList_portText (port : Port) : (portText port).toList =
    if 0 < publicPort port then Nat.toDigits 10 (publicPort port) ++ ':' :: privateText port
    else privateText port := by
  have hdigits (n : ℕ) : (toString n).toList = Nat.toDigits 10 n := String.toList_ofList
  unfold portText privateText
  split_ifs
  · simp only [String.toList_append, hdigits, List.append_assoc]
    rfl
  · simp only [String.toList_append, hdigits, List.append_assoc]
    rfl

theorem colon_not_mem_privateText (port : Port) : ':' ∉ privateText port := by
  have hkind : ':' ∉ (portKind port).toList := by
    unfold portKind
    rcases port.typ with _ | typ
    · decide
    · cases typ <;> decide
  rw [privateText, List.mem_append, List.mem_cons]
  rintro (h | h | h)
  · exact Text.not_mem_toDigits (by decide) _ h
  · exact absurd h (by decide)
  · exact hkind h

theorem privateText_inj {port other : Port} (h : privateText port = privateText other) :
    port.privatePort.val = other.privatePort.val ∧ portKind port = portKind other := by
  have hslash (p : Port) := Text.splitOnce_append
    (Text.not_mem_toDigits (c := '/') (by decide) p.privatePort.val) (portKind p).toList
  have hsplit := congrArg (Text.splitOnce '/') h
  rw [privateText, privateText, hslash, hslash, Option.some.injEq, Prod.mk.injEq] at hsplit
  exact ⟨Text.toDigits_injective hsplit.1, String.toList_injective hsplit.2⟩

theorem portText_eq_iff {port other : Port} :
    portText port = portText other ↔ portKey port = portKey other := by
  constructor
  · intro h
    have hcolon (p : Port) := Text.splitOnce_append
      (Text.not_mem_toDigits (c := ':') (by decide) (publicPort p)) (privateText p)
    have hnone (p : Port) := Text.splitOnce_eq_none (colon_not_mem_privateText p)
    have hlist := congrArg String.toList h
    rw [toList_portText, toList_portText] at hlist
    have hsplit := congrArg (Text.splitOnce ':') hlist
    split_ifs at hlist hsplit with hport hother
    · rw [hcolon, hcolon, Option.some.injEq, Prod.mk.injEq] at hsplit
      obtain ⟨hprivate, hkind⟩ := privateText_inj hsplit.2
      rw [portKey, portKey, Text.toDigits_injective hsplit.1, hprivate, hkind]
    · rw [hcolon, hnone] at hsplit
      cases hsplit
    · rw [hcolon, hnone] at hsplit
      cases hsplit
    · obtain ⟨hprivate, hkind⟩ := privateText_inj hlist
      have hzero : publicPort port = publicPort other := by omega
      rw [portKey, portKey, hzero, hprivate, hkind]
  · intro h
    simp only [portKey, Prod.mk.injEq] at h
    unfold portText
    rw [h.1, h.2.1, h.2.2]

variable {inventory : DockerInventory}

def effectiveNetworkId (network : DockerNetwork) : String := network.id.getD "unknown-network"

theorem map_id_networkRecords (sets : NameSets) (networks : List DockerNetwork) :
    (networkRecords sets networks).map NetworkRecord.id = networks.map effectiveNetworkId := by
  induction networks generalizing sets with
  | nil => rfl
  | cons network networks ih =>
    rw [networkRecords, List.map_cons, List.map_cons, ih]
    rfl

theorem map_id_volumeRecords (sets : NameSets) (names : List String) :
    (volumeRecords sets names).map VolumeRecord.id = names := by
  induction names generalizing sets with
  | nil => rfl
  | cons name names ih => rw [volumeRecords, List.map_cons, ih]

/-- What the inventory must keep apart: a missing id counts as its fallback. -/
structure DistinctRecords (inventory : DockerInventory) : Prop where
  containers : (inventory.containers.map ContainerSummary.recordId).Nodup
  networks : (inventory.networks.map effectiveNetworkId).Nodup
  volumes : (inventory.volumes.getD []).Nodup

/-- No container reports two bindings of the same ports and protocol. -/
def DistinctPorts (inventory : DockerInventory) : Prop :=
  ∀ container ∈ inventory.containers, ((container.ports.getD []).map portKey).Nodup

theorem nodup_ports (container : ContainerSummary) :
    container.record.ports.Nodup ↔ ((container.ports.getD []).map portKey).Nodup := by
  simp only [ContainerSummary.record, List.Nodup, List.pairwise_map]
  exact List.Pairwise.iff fun _ _ => not_congr portText_eq_iff

/-- A Docker inventory gives distinct runtime identities exactly when its records have
distinct identities and no container binds the same ports twice, on whatever addresses. -/
theorem runtime_identities_distinct_iff (inventory : DockerInventory) (now : ℕ)
    (revision : String) (hsha : NoCollision (identityTexts (buildSnapshot inventory now))) :
    HasDistinctIdentities (deriveRuntimeMap (buildSnapshot inventory now) [] [] [] revision) ↔
      DistinctRecords inventory ∧ DistinctPorts inventory := by
  have hcontainers : (buildSnapshot inventory now).containers.map ContainerRecord.id =
      inventory.containers.map ContainerSummary.recordId := by
    simp only [buildSnapshot, List.map_map]
    rfl
  have hnetworks : ((buildSnapshot inventory now).networks.map NetworkRecord.id).Perm
      (inventory.networks.map effectiveNetworkId) := by
    rw [← map_id_networkRecords (memberSets inventory.containers)]
    exact (sortByKey_perm _ _).map _
  have hvolumes : ((buildSnapshot inventory now).volumes.map VolumeRecord.id).Perm
      (inventory.volumes.getD []) := by
    rw [← map_id_volumeRecords (volumeSets inventory.containers) (inventory.volumes.getD [])]
    exact (sortByKey_perm _ _).map _
  have hports : (∀ container ∈ (buildSnapshot inventory now).containers, container.ports.Nodup) ↔
      DistinctPorts inventory := by
    simp only [buildSnapshot, List.forall_mem_map, nodup_ports, DistinctPorts]
  rw [hasDistinctIdentities_iff, nodup_inventoryNodes hsha, hports, hcontainers,
    hnetworks.nodup_iff, hvolumes.nodup_iff]
  exact ⟨fun h => ⟨⟨h.2.1, h.2.2.1, h.2.2.2⟩, h.1⟩,
    fun h => ⟨h.2, h.1.containers, h.1.networks, h.1.volumes⟩⟩

end

/-- A container that binds one port on every address of both families. -/
def dualStackContainer : ContainerSummary where
  id := some "a"
  names := some ["/web"]
  image := some "nginx"
  status := some "running"
  labels := none
  networks := none
  mounts := none
  ports := some [⟨some "0.0.0.0", 80, some 8080, some .tcp⟩, ⟨some "::", 80, some 8080, some .tcp⟩]

def dualStackInventory : DockerInventory where
  containers := [dualStackContainer]
  networks := []
  volumes := none

theorem dual_stack_identities_collide : DistinctRecords dualStackInventory ∧
    runtimeMapHasIdentityCollision
      (deriveRuntimeMap (buildSnapshot dualStackInventory 0) [] [] [] "token") = true :=
  ⟨⟨by decide, by decide, by decide⟩,
    collision_of_repeated_port dualStackContainer.record
      (List.mem_singleton.2 rfl) (by decide)⟩

theorem dual_stack_identities_distinct_iff :
    HasDistinctIdentities
        (deriveRuntimeMap (buildSnapshot dualStackInventory 0) [] [] [] "token") ↔
      DistinctRecords dualStackInventory ∧ DistinctPorts dualStackInventory :=
  runtime_identities_distinct_iff dualStackInventory 0 "token" (by decide +kernel)

end DockerMap
