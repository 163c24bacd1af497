import DockerMap.Lib.KeyedSort
import DockerMap.Proofs.TextRedaction

/-! A published runtime map is in normal form: its texts are published texts, its edges
connect its nodes and carry valid evidence, nodes and edges are in order. Publishing it
again changes nothing. -/

namespace DockerMap

/-! The texts of a record -/

def RuntimeHealth.displayStrings (health : RuntimeHealth) : List String :=
  health.source.toList ++ health.message.toList

def RuntimeLogRef.displayStrings (log : RuntimeLogRef) : List String := [log.id, log.source]

def RuntimeOwnership.displayStrings (owner : RuntimeOwnership) : List String :=
  owner.name :: owner.id.toList

def RuntimeLocation.displayStrings (location : RuntimeLocation) : List String :=
  location.value :: location.detail.toList

def RuntimeServiceEntity.displayStrings (service : RuntimeServiceEntity) : List String :=
  service.name :: service.dependencies ++ service.dependents ++
    service.health.toList.flatMap RuntimeHealth.displayStrings ++
    service.logs.flatMap RuntimeLogRef.displayStrings ++
    service.owner.toList.flatMap RuntimeOwnership.displayStrings ++
    service.location.toList.flatMap RuntimeLocation.displayStrings

def RuntimePackageAdvisory.displayStrings (advisory : RuntimePackageAdvisory) : List String :=
  [advisory.id, advisory.title, advisory.source] ++ advisory.fixedVersion.toList ++
    advisory.url.toList

def RuntimePackageUpdate.displayStrings (update : RuntimePackageUpdate) : List String :=
  update.currentVersion :: update.latestVersion.toList ++
    update.advisories.flatMap RuntimePackageAdvisory.displayStrings

def RuntimePackageEntity.displayStrings (package : RuntimePackageEntity) : List String :=
  [package.name, package.version] ++ package.dependencies ++ package.dependents ++
    package.update.toList.flatMap RuntimePackageUpdate.displayStrings ++
    package.owner.toList.flatMap RuntimeOwnership.displayStrings ++
    package.location.toList.flatMap RuntimeLocation.displayStrings

def metadataStrings (metadata : Metadata) : List String := metadata.entries.map Prod.snd

def RuntimeMapNode.displayStrings (node : RuntimeMapNode) : List String :=
  [node.id, node.label] ++ node.status.toList ++ metadataStrings node.metadata ++
    node.service.toList.flatMap RuntimeServiceEntity.displayStrings ++
    node.package.toList.flatMap RuntimePackageEntity.displayStrings

def RuntimeEvidenceRef.displayStrings (evidence : RuntimeEvidenceRef) : List String :=
  [evidence.subjectRef, evidence.id, evidence.summary, evidence.providerRevision]

def RuntimeMapEdge.displayStrings (edge : RuntimeMapEdge) : List String :=
  [edge.source, edge.target] ++ metadataStrings edge.metadata ++
    edge.evidenceRefs.flatMap RuntimeEvidenceRef.displayStrings

def RuntimeMap.displayStrings (runtimeMap : RuntimeMap) : List String :=
  runtimeMap.nodes.flatMap RuntimeMapNode.displayStrings ++
    runtimeMap.edges.flatMap RuntimeMapEdge.displayStrings ++
    runtimeMap.diagnostics.map RuntimeMapDiagnostic.message

/-! The gate reaches every text -/

@[simp] theorem displayStrings_redactServiceHealth (health : RuntimeHealth) :
    (redactServiceHealth health).displayStrings = health.displayStrings.map redactRuntimeDisplayText := by
  simp [redactServiceHealth, RuntimeHealth.displayStrings, Option.toList_map]

@[simp] theorem displayStrings_redactLogRef (log : RuntimeLogRef) :
    (redactLogRef log).displayStrings = log.displayStrings.map redactRuntimeDisplayText := by
  simp [redactLogRef, RuntimeLogRef.displayStrings]

@[simp] theorem displayStrings_redactOwnership (owner : RuntimeOwnership) :
    (redactOwnership owner).displayStrings = owner.displayStrings.map redactRuntimeDisplayText := by
  simp [redactOwnership, RuntimeOwnership.displayStrings, Option.toList_map]

@[simp] theorem displayStrings_redactLocation (location : RuntimeLocation) :
    (redactLocation location).displayStrings = location.displayStrings.map redactRuntimeDisplayText := by
  simp [redactLocation, RuntimeLocation.displayStrings, Option.toList_map]

@[simp] theorem displayStrings_redactServiceEntity (service : RuntimeServiceEntity) :
    (redactServiceEntity service).displayStrings = service.displayStrings.map redactRuntimeDisplayText := by
  simp [redactServiceEntity, RuntimeServiceEntity.displayStrings, Option.toList_map,
    List.flatMap_map, List.map_flatMap, redactDisplayStrings]

@[simp] theorem displayStrings_redactPackageAdvisory (advisory : RuntimePackageAdvisory) :
    (redactPackageAdvisory advisory).displayStrings = advisory.displayStrings.map redactRuntimeDisplayText := by
  simp [redactPackageAdvisory, RuntimePackageAdvisory.displayStrings, Option.toList_map]

@[simp] theorem displayStrings_redactPackageUpdate (update : RuntimePackageUpdate) :
    (redactPackageUpdate update).displayStrings = update.displayStrings.map redactRuntimeDisplayText := by
  simp [redactPackageUpdate, RuntimePackageUpdate.displayStrings, Option.toList_map,
    List.flatMap_map, List.map_flatMap]

@[simp] theorem displayStrings_redactPackageEntity (package : RuntimePackageEntity) :
    (redactPackageEntity package).displayStrings = package.displayStrings.map redactRuntimeDisplayText := by
  simp [redactPackageEntity, RuntimePackageEntity.displayStrings, Option.toList_map,
    List.flatMap_map, List.map_flatMap, redactDisplayStrings]

@[simp] theorem metadataStrings_mapValues (metadata : Metadata) (f : String → String) :
    metadataStrings (metadata.mapValues f) = (metadataStrings metadata).map f := by
  simp [metadataStrings]

@[simp] theorem displayStrings_redactRuntimeNode (node : RuntimeMapNode) :
    (redactRuntimeNode node).displayStrings = node.displayStrings.map redactRuntimeDisplayText := by
  simp [redactRuntimeNode, RuntimeMapNode.displayStrings, Option.toList_map,
    List.flatMap_map, List.map_flatMap]

theorem isPublished_of_mem_map {values : List String} {value : String}
    (h : value ∈ values.map redactRuntimeDisplayText) : IsPublished value := by
  obtain ⟨raw, -, rfl⟩ := List.mem_map.1 h
  exact isPublished_redact raw

theorem isPublished_redactRuntimeEvidenceRef (evidence : RuntimeEvidenceRef) :
    ∀ value ∈ (redactRuntimeEvidenceRef evidence).displayStrings, IsPublished value := by
  intro value hvalue
  simp only [redactRuntimeEvidenceRef, RuntimeEvidenceRef.displayStrings, List.mem_cons,
    List.not_mem_nil, or_false] at hvalue
  rcases hvalue with rfl | rfl | rfl | rfl
  · exact isPublished_redact _
  · exact isPublished_redactEvidenceText _
  · exact isPublished_redactEvidenceText _
  · exact isPublished_redactEvidenceText _

theorem mem_redactRuntimeEvidenceRefs {refs : List RuntimeEvidenceRef}
    {evidence : RuntimeEvidenceRef} :
    evidence ∈ redactRuntimeEvidenceRefs refs ↔
      ∃ raw ∈ refs, redactRuntimeEvidenceRef raw = evidence := by
  rw [redactRuntimeEvidenceRefs, sortByKey, List.mem_insertionSort, List.mem_map]

/-- The evidence of a published edge was redacted for it, or there is none. -/
theorem evidenceRefs_redactRuntimeEdge (edge : RuntimeMapEdge) :
    (redactRuntimeEdge edge).evidenceRefs = redactRuntimeEvidenceRefs edge.evidenceRefs ∨
      (redactRuntimeEdge edge).evidenceRefs = [] := by
  unfold redactRuntimeEdge dropInvalidEvidence
  split_ifs
  · exact Or.inl rfl
  · exact Or.inr rfl

theorem exists_raw_of_mem {edge : RuntimeMapEdge} {evidence : RuntimeEvidenceRef}
    (h : evidence ∈ (redactRuntimeEdge edge).evidenceRefs) :
    ∃ raw ∈ edge.evidenceRefs, redactRuntimeEvidenceRef raw = evidence := by
  rcases evidenceRefs_redactRuntimeEdge edge with hrefs | hnil
  · rw [hrefs] at h
    exact mem_redactRuntimeEvidenceRefs.1 h
  · rw [hnil] at h
    cases h

theorem redactRuntimeEdge_rest (edge : RuntimeMapEdge) :
    redactRuntimeEdge edge =
      { source := redactRuntimeDisplayText edge.source
        target := redactRuntimeDisplayText edge.target
        relationship := edge.relationship
        metadata := edge.metadata.mapValues redactRuntimeDisplayText
        evidenceRefs := (redactRuntimeEdge edge).evidenceRefs } := by
  unfold redactRuntimeEdge dropInvalidEvidence
  split_ifs <;> rfl

theorem isPublished_redactRuntimeEdge (edge : RuntimeMapEdge) :
    ∀ value ∈ (redactRuntimeEdge edge).displayStrings, IsPublished value := by
  intro value hvalue
  rw [RuntimeMapEdge.displayStrings, List.mem_append, List.mem_flatMap] at hvalue
  rcases hvalue with hown | ⟨evidence, hevidence, hvalue⟩
  · rw [redactRuntimeEdge_rest, metadataStrings_mapValues] at hown
    have hmem : value ∈ (edge.source :: edge.target :: metadataStrings edge.metadata).map
        redactRuntimeDisplayText := by simpa using hown
    exact isPublished_of_mem_map hmem
  · obtain ⟨raw, -, rfl⟩ := exists_raw_of_mem hevidence
    exact isPublished_redactRuntimeEvidenceRef raw value hvalue

/-! The gate at a published record -/

theorem redact_comp_redact :
    redactRuntimeDisplayText ∘ redactRuntimeDisplayText = redactRuntimeDisplayText :=
  funext redact_redact

@[simp] theorem redactDisplayStrings_twice (values : List String) :
    redactDisplayStrings (redactDisplayStrings values) = redactDisplayStrings values := by
  rw [redactDisplayStrings, redactDisplayStrings, List.map_map, redact_comp_redact]

@[simp] theorem mapValues_redact_twice (metadata : Metadata) :
    (metadata.mapValues redactRuntimeDisplayText).mapValues redactRuntimeDisplayText =
      metadata.mapValues redactRuntimeDisplayText := by
  rw [SortedMap.mapValues_mapValues, redact_comp_redact]

@[simp] theorem redactServiceHealth_twice (health : RuntimeHealth) :
    redactServiceHealth (redactServiceHealth health) = redactServiceHealth health := by
  simp [redactServiceHealth, Function.comp_def]

@[simp] theorem redactLogRef_twice (log : RuntimeLogRef) :
    redactLogRef (redactLogRef log) = redactLogRef log := by
  simp [redactLogRef]

@[simp] theorem redactOwnership_twice (owner : RuntimeOwnership) :
    redactOwnership (redactOwnership owner) = redactOwnership owner := by
  simp [redactOwnership, Function.comp_def]

@[simp] theorem redactLocation_twice (location : RuntimeLocation) :
    redactLocation (redactLocation location) = redactLocation location := by
  simp [redactLocation, Function.comp_def]

@[simp] theorem redactServiceEntity_twice (service : RuntimeServiceEntity) :
    redactServiceEntity (redactServiceEntity service) = redactServiceEntity service := by
  simp [redactServiceEntity, Function.comp_def]

@[simp] theorem redactPackageAdvisory_twice (advisory : RuntimePackageAdvisory) :
    redactPackageAdvisory (redactPackageAdvisory advisory) = redactPackageAdvisory advisory := by
  simp [redactPackageAdvisory, Function.comp_def]

@[simp] theorem redactPackageUpdate_twice (update : RuntimePackageUpdate) :
    redactPackageUpdate (redactPackageUpdate update) = redactPackageUpdate update := by
  simp [redactPackageUpdate, Function.comp_def]

@[simp] theorem redactPackageEntity_twice (package : RuntimePackageEntity) :
    redactPackageEntity (redactPackageEntity package) = redactPackageEntity package := by
  simp [redactPackageEntity, Function.comp_def]

@[simp] theorem redactRuntimeNode_twice (node : RuntimeMapNode) :
    redactRuntimeNode (redactRuntimeNode node) = redactRuntimeNode node := by
  simp [redactRuntimeNode, Function.comp_def]

@[simp] theorem redactRuntimeEvidenceRef_twice (evidence : RuntimeEvidenceRef) :
    redactRuntimeEvidenceRef (redactRuntimeEvidenceRef evidence) =
      redactRuntimeEvidenceRef evidence := by
  simp [redactRuntimeEvidenceRef]

theorem sortByKey_of_sorted {α κ : Type} [LinearOrder κ] {key : α → κ} {l : List α}
    (h : KeyedSort.Sorted key l) : sortByKey key l = l :=
  List.Pairwise.insertionSort_eq h

theorem sorted_sortByKey {α κ : Type} [LinearOrder κ] (key : α → κ) (l : List α) :
    KeyedSort.Sorted key (sortByKey key l) :=
  KeyedSort.sorted_insertionSort key l

theorem redactRuntimeEvidenceRefs_twice (refs : List RuntimeEvidenceRef) :
    redactRuntimeEvidenceRefs (redactRuntimeEvidenceRefs refs) =
      redactRuntimeEvidenceRefs refs := by
  have hfixed : (redactRuntimeEvidenceRefs refs).map redactRuntimeEvidenceRef =
      redactRuntimeEvidenceRefs refs := by
    refine (List.map_congr_left fun evidence hevidence => ?_).trans (List.map_id _)
    obtain ⟨raw, -, rfl⟩ := mem_redactRuntimeEvidenceRefs.1 hevidence
    exact redactRuntimeEvidenceRef_twice raw
  rw [redactRuntimeEvidenceRefs, hfixed]
  exact sortByKey_of_sorted (sorted_sortByKey _ _)

theorem hasValidEvidenceRefs_dropInvalidEvidence (edge : RuntimeMapEdge) :
    (dropInvalidEvidence edge).hasValidEvidenceRefs = true := by
  unfold dropInvalidEvidence
  split_ifs with hvalid
  · exact hvalid
  · rfl

theorem dropInvalidEvidence_of_valid {edge : RuntimeMapEdge}
    (h : edge.hasValidEvidenceRefs = true) : dropInvalidEvidence edge = edge :=
  if_pos h

@[simp] theorem redactRuntimeEdge_twice (edge : RuntimeMapEdge) :
    redactRuntimeEdge (redactRuntimeEdge edge) = redactRuntimeEdge edge := by
  have hrefs : redactRuntimeEvidenceRefs (redactRuntimeEdge edge).evidenceRefs =
      (redactRuntimeEdge edge).evidenceRefs := by
    rcases evidenceRefs_redactRuntimeEdge edge with hrefs | hnil
    · rw [hrefs, redactRuntimeEvidenceRefs_twice]
    · rw [hnil]
      rfl
  have hvalid : (redactRuntimeEdge edge).hasValidEvidenceRefs = true :=
    hasValidEvidenceRefs_dropInvalidEvidence _
  have hfields : redactRuntimeEdge (redactRuntimeEdge edge) =
      dropInvalidEvidence (redactRuntimeEdge edge) := by
    rw [redactRuntimeEdge, hrefs, redactRuntimeEdge_rest edge]
    simp only [redact_redact, mapValues_redact_twice]
  rw [hfields, dropInvalidEvidence_of_valid hvalid]

/-! The topology -/

theorem runtimeEdgeSortKey_injective : Function.Injective runtimeEdgeSortKey := fun _ _ h =>
  Json.encode_inj.1 (Json.toText_injective h)

theorem hasEndpoints_iff {nodes : List RuntimeMapNode} {edge : RuntimeMapEdge} :
    hasEndpoints nodes edge = true ↔
      (∃ node ∈ nodes, node.id = edge.source) ∧ ∃ node ∈ nodes, node.id = edge.target := by
  simp [hasEndpoints]

theorem mem_normalize_nodes {runtimeMap : RuntimeMap} {node : RuntimeMapNode} :
    node ∈ (normalizeRuntimeMapTopology runtimeMap).nodes ↔ node ∈ runtimeMap.nodes :=
  List.mem_insertionSort _

theorem mem_normalize_edges {runtimeMap : RuntimeMap} {edge : RuntimeMapEdge} :
    edge ∈ (normalizeRuntimeMapTopology runtimeMap).edges ↔
      edge ∈ runtimeMap.edges ∧ hasEndpoints runtimeMap.nodes edge = true := by
  rw [normalizeRuntimeMapTopology, dedup, KeyedSort.mem_destutter, sortByKey,
    List.mem_insertionSort, List.mem_filter]

theorem hasEndpoints_normalize (runtimeMap : RuntimeMap) (edge : RuntimeMapEdge) :
    hasEndpoints (normalizeRuntimeMapTopology runtimeMap).nodes edge =
      hasEndpoints runtimeMap.nodes edge := by
  rw [Bool.eq_iff_iff, hasEndpoints_iff, hasEndpoints_iff]
  simp only [mem_normalize_nodes]

theorem strictlySorted_normalize_edges (runtimeMap : RuntimeMap) :
    KeyedSort.StrictlySorted runtimeEdgeSortKey
      (normalizeRuntimeMapTopology runtimeMap).edges :=
  KeyedSort.strictlySorted_destutter runtimeEdgeSortKey_injective (sorted_sortByKey _ _)

theorem normalizeRuntimeMapTopology_twice (runtimeMap : RuntimeMap) :
    normalizeRuntimeMapTopology (normalizeRuntimeMapTopology runtimeMap) =
      normalizeRuntimeMapTopology runtimeMap := by
  have hnodes : sortByKey runtimeNodeSortKey (normalizeRuntimeMapTopology runtimeMap).nodes =
      (normalizeRuntimeMapTopology runtimeMap).nodes :=
    sortByKey_of_sorted (sorted_sortByKey _ _)
  have hfilter : (normalizeRuntimeMapTopology runtimeMap).edges.filter
      (hasEndpoints (normalizeRuntimeMapTopology runtimeMap).nodes) =
      (normalizeRuntimeMapTopology runtimeMap).edges := by
    rw [List.filter_eq_self]
    intro edge hedge
    rw [hasEndpoints_normalize]
    exact (mem_normalize_edges.1 hedge).2
  have hstrict := strictlySorted_normalize_edges runtimeMap
  have hedges : dedup (sortByKey runtimeEdgeSortKey
      (normalizeRuntimeMapTopology runtimeMap).edges) =
      (normalizeRuntimeMapTopology runtimeMap).edges := by
    rw [sortByKey_of_sorted hstrict.sorted]
    exact KeyedSort.destutter_eq_self hstrict
  rw [normalizeRuntimeMapTopology, hnodes, hfilter, hedges]

theorem redactRuntimeDiagnostics_twice (diagnostics : List RuntimeMapDiagnostic) :
    redactRuntimeDiagnostics (redactRuntimeDiagnostics diagnostics) =
      redactRuntimeDiagnostics diagnostics := by
  simp [redactRuntimeDiagnostics]

theorem redactRuntimeNode_of_mem {nodes : List RuntimeMapNode} :
    ∀ node ∈ redactRuntimeNodes nodes, redactRuntimeNode node = node := by
  intro node hnode
  obtain ⟨raw, -, rfl⟩ := List.mem_map.1 hnode
  exact redactRuntimeNode_twice raw

theorem redactRuntimeEdge_of_mem {edges : List RuntimeMapEdge} :
    ∀ edge ∈ redactRuntimeEdges edges, redactRuntimeEdge edge = edge := by
  intro edge hedge
  obtain ⟨raw, -, rfl⟩ := List.mem_map.1 hedge
  exact redactRuntimeEdge_twice raw

/-- Publishing a published map changes nothing. -/
theorem redactRuntimeMap_twice (runtimeMap : RuntimeMap) :
    redactRuntimeMap (redactRuntimeMap runtimeMap) = redactRuntimeMap runtimeMap := by
  have hnodes : redactRuntimeNodes (redactRuntimeMap runtimeMap).nodes =
      (redactRuntimeMap runtimeMap).nodes :=
    (List.map_congr_left fun node hnode =>
      redactRuntimeNode_of_mem node (mem_normalize_nodes.1 hnode)).trans (List.map_id _)
  have hedges : redactRuntimeEdges (redactRuntimeMap runtimeMap).edges =
      (redactRuntimeMap runtimeMap).edges :=
    (List.map_congr_left fun edge hedge =>
      redactRuntimeEdge_of_mem edge (mem_normalize_edges.1 hedge).1).trans (List.map_id _)
  have hdiagnostics : redactRuntimeDiagnostics (redactRuntimeMap runtimeMap).diagnostics =
      (redactRuntimeMap runtimeMap).diagnostics :=
    redactRuntimeDiagnostics_twice runtimeMap.diagnostics
  calc redactRuntimeMap (redactRuntimeMap runtimeMap)
      = normalizeRuntimeMapTopology (redactRuntimeMap runtimeMap) := by
        rw [redactRuntimeMap, hnodes, hedges, hdiagnostics]
    _ = redactRuntimeMap runtimeMap := normalizeRuntimeMapTopology_twice _

/-! The normal form -/

structure NormalForm (runtimeMap : RuntimeMap) : Prop where
  endpoints : ∀ edge ∈ runtimeMap.edges,
    (∃ node ∈ runtimeMap.nodes, node.id = edge.source) ∧
      ∃ node ∈ runtimeMap.nodes, node.id = edge.target
  evidence : ∀ edge ∈ runtimeMap.edges, edge.hasValidEvidenceRefs = true
  bounded : ∀ edge ∈ runtimeMap.edges, ∀ evidence ∈ edge.evidenceRefs,
    evidence.id.toList.length ≤ 259 ∧ evidence.summary.toList.length ≤ 259 ∧
      evidence.providerRevision.toList.length ≤ 259
  published : ∀ value ∈ runtimeMap.displayStrings, IsPublished value
  nodesSorted : KeyedSort.Sorted runtimeNodeSortKey runtimeMap.nodes
  edgesSorted : KeyedSort.Sorted runtimeEdgeSortKey runtimeMap.edges
  edgesNodup : runtimeMap.edges.Nodup

theorem isPublished_of_mem_displayStrings {runtimeMap : RuntimeMap} {value : String}
    (h : value ∈ (redactRuntimeMap runtimeMap).displayStrings) : IsPublished value := by
  rw [RuntimeMap.displayStrings, List.mem_append, List.mem_append, List.mem_flatMap,
    List.mem_flatMap, List.mem_map] at h
  rcases h with (⟨node, hnode, hvalue⟩ | ⟨edge, hedge, hvalue⟩) | ⟨diagnostic, hdiagnostic, rfl⟩
  · obtain ⟨raw, -, rfl⟩ := List.mem_map.1 (mem_normalize_nodes.1 hnode)
    rw [displayStrings_redactRuntimeNode] at hvalue
    exact isPublished_of_mem_map hvalue
  · obtain ⟨raw, -, rfl⟩ := List.mem_map.1 (mem_normalize_edges.1 hedge).1
    exact isPublished_redactRuntimeEdge raw value hvalue
  · obtain ⟨raw, -, rfl⟩ := List.mem_map.1 hdiagnostic
    exact isPublished_redact raw.message

theorem hasValidEvidenceRefs_of_mem {runtimeMap : RuntimeMap} {edge : RuntimeMapEdge}
    (h : edge ∈ (redactRuntimeMap runtimeMap).edges) : edge.hasValidEvidenceRefs = true := by
  obtain ⟨raw, -, rfl⟩ := List.mem_map.1 (mem_normalize_edges.1 h).1
  exact hasValidEvidenceRefs_dropInvalidEvidence _

theorem publication_is_normal_form (runtimeMap : RuntimeMap) :
    NormalForm (redactRuntimeMap runtimeMap) ∧
      redactRuntimeMap (redactRuntimeMap runtimeMap) = redactRuntimeMap runtimeMap := by
  refine ⟨⟨?_, fun _ => hasValidEvidenceRefs_of_mem, ?_,
    fun _ => isPublished_of_mem_displayStrings, sorted_sortByKey _ _,
    (strictlySorted_normalize_edges _).sorted, (strictlySorted_normalize_edges _).nodup⟩,
    redactRuntimeMap_twice runtimeMap⟩
  · intro edge hedge
    have hends := (mem_normalize_edges.1 hedge).2
    rw [← hasEndpoints_normalize] at hends
    exact hasEndpoints_iff.1 hends
  · intro edge hedge evidence hevidence
    obtain ⟨raw, -, rfl⟩ := List.mem_map.1 (mem_normalize_edges.1 hedge).1
    obtain ⟨raw, -, rfl⟩ := exists_raw_of_mem hevidence
    exact ⟨length_redactEvidenceText _, length_redactEvidenceText _, length_redactEvidenceText _⟩

end DockerMap
