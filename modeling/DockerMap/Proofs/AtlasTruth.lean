import DockerMap.Proofs.AtlasReordering

/-! The claim of the Atlas on its input. What is drawn stems from an edge between two subjects
that one record each names, on references bound to it; and the order of the input shows in the
model where tied edges differ. -/

namespace DockerMap.Web.Atlas

/-! Origins -/

/-- The edge that a relation or an attachment stems from. -/
structure StemsFrom (input : AtlasRuntimeMapInput) (edge : Json) (source target : String)
    (evidence : List AtlasEdgeEvidenceSourceRef) : Prop where
  listed : edge ∈ input.edges
  source_key : safeKey (edge.field? "source") = some source
  target_key : safeKey (edge.field? "target") = some target
  source_named : namesSubject input source = true
  target_named : namesSubject input target = true
  references : ∃ values, evidenceRefs edge = some values ∧ ∀ value ∈ values,
    ∃ reference, evidenceRef value = some reference ∧ IsBound edge source target reference
  accepted : IsAccepted edge source target evidence

/-- A model that says nothing its input does not bear out. -/
structure IsTruthful (input : AtlasRuntimeMapInput) (model : AtlasModel) : Prop where
  relations : ∀ relation ∈ model.relations,
    ∃ edge, StemsFrom input edge relation.source relation.target relation.evidence
  attachments : ∀ attachment ∈ model.attachments,
    ∃ edge, StemsFrom input edge attachment.subject attachment.context attachment.evidence
  shared : ∀ key, 1 < (recordsOf input.nodes key).length → model.isRoutable key = false ∧
    (∀ relation ∈ model.relations, relation.source ≠ key ∧ relation.target ≠ key) ∧
    ∀ attachment ∈ model.attachments, attachment.subject ≠ key ∧ attachment.context ≠ key

section

variable {edge : Json} {source target : String} {evidence : List AtlasEdgeEvidenceSourceRef}

theorem references_of_structural (h : structuralEvidence edge source target = some evidence) :
    ∃ values, evidenceRefs edge = some values ∧ ∀ value ∈ values,
      ∃ reference, evidenceRef value = some reference ∧ IsBound edge source target reference := by
  obtain ⟨values, hvalues, hlength, -⟩ := structuralEvidence_eq_some.1 h
  refine ⟨values, hvalues, fun value hvalue => ?_⟩
  have hsome := List.filterMap_length_eq_length.1 hlength value hvalue
  obtain ⟨entry, hentry⟩ := Option.isSome_iff_exists.1 hsome
  obtain ⟨reference, hreference, hbound, -⟩ := evidenceSource_eq_some.1 hentry
  exact ⟨reference, hreference, hbound⟩

end

section

variable {unicode : UnicodeTables} {input : AtlasRuntimeMapInput}
  {findings : Option FindingsOverlay}

theorem mem_edges {edge : Json} (h : edge ∈ projectedEdges input) : edge ∈ input.edges := by
  rw [projectedEdges] at h
  split_ifs at h
  · cases h
  · exact StableSort.mem_sortBy.1 h

theorem stemsFrom_of_joins {edge : Json} {source target : String}
    {evidence : List AtlasEdgeEvidenceSourceRef} (hedge : edge ∈ projectedEdges input)
    (h : Joins (subjectTable unicode input findings).routable edge source target evidence) :
    StemsFrom input edge source target evidence where
  listed := mem_edges hedge
  source_key := h.source_key
  target_key := h.target_key
  source_named := (routable_isSome_iff.1 h.source_routable).2
  target_named := (routable_isSome_iff.1 h.target_routable).2
  references := references_of_structural h.structural
  accepted := isAccepted_of_structural h.structural

theorem relation_stems {relation : AtlasRelation}
    (h : relation ∈ (projectRuntimeMap unicode input findings).relations) :
    ∃ edge, StemsFrom input edge relation.source relation.target relation.evidence := by
  rw [projectRuntimeMap_relations, StableSort.mem_sortBy, relations_projectedTable, outcomes,
    relationsOf_map] at h
  obtain ⟨edge, hedge, hdrawn⟩ := List.mem_filterMap.1 h
  obtain ⟨source, target, evidence, hjoins, -, rfl⟩ := drawnRelation_eq_some.1 hdrawn
  exact ⟨edge, stemsFrom_of_joins hedge hjoins⟩

theorem attachment_stems {attachment : AtlasAttachment}
    (h : attachment ∈ (projectRuntimeMap unicode input findings).attachments) :
    ∃ edge, StemsFrom input edge attachment.subject attachment.context attachment.evidence := by
  rw [projectRuntimeMap_attachments, StableSort.mem_sortBy] at h
  obtain ⟨edge, hedge, hdrawn⟩ := isDrawn_projected unicode input findings h
  exact ⟨edge, stemsFrom_of_joins hedge hdrawn.joins⟩

theorem not_namesSubject_of_shared {key : String} (h : 1 < (recordsOf input.nodes key).length) :
    namesSubject input key = false := by
  rw [Bool.eq_false_iff]
  intro hnamed
  obtain ⟨node, hnode, -⟩ := namesSubject_iff.1 hnamed
  rw [hnode, List.length_singleton] at h
  exact lt_irrefl _ h

theorem not_isRoutable_of_shared {key : String} (h : 1 < (recordsOf input.nodes key).length) :
    (projectRuntimeMap unicode input findings).isRoutable key = false := by
  rw [Bool.eq_false_iff]
  intro hroutable
  rw [isRoutable_projectRuntimeMap, routable_isSome_iff, not_namesSubject_of_shared h] at hroutable
  exact Bool.false_ne_true hroutable.2

theorem StemsFrom.ne_shared {edge : Json} {source target : String}
    {evidence : List AtlasEdgeEvidenceSourceRef} (h : StemsFrom input edge source target evidence)
    {key : String} (hshared : 1 < (recordsOf input.nodes key).length) :
    source ≠ key ∧ target ≠ key := by
  have hnot := not_namesSubject_of_shared hshared
  constructor
  · rintro rfl
    rw [h.source_named] at hnot
    cases hnot
  · rintro rfl
    rw [h.target_named] at hnot
    cases hnot

theorem isTruthful_projectRuntimeMap (unicode : UnicodeTables) (input : AtlasRuntimeMapInput)
    (findings : Option FindingsOverlay) :
    IsTruthful input (projectRuntimeMap unicode input findings) where
  relations _ := relation_stems
  attachments _ := attachment_stems
  shared key hshared := by
    refine ⟨not_isRoutable_of_shared hshared, fun relation hrelation => ?_,
      fun attachment hattachment => ?_⟩
    · obtain ⟨edge, hstems⟩ := relation_stems hrelation
      exact hstems.ne_shared hshared
    · obtain ⟨edge, hstems⟩ := attachment_stems hattachment
      exact hstems.ne_shared hshared

end

/-! The claim -/

/-- The projection is always truthful, and free of the order of its input exactly when the drawn
edges that tie in the canonical order agree. -/
theorem order_free_and_truthful_iff (unicode : UnicodeTables) (input : AtlasRuntimeMapInput)
    (findings : Option FindingsOverlay) :
    OrderIndependent unicode input findings ∧
        IsTruthful input (projectRuntimeMap unicode input findings) ↔ TiesAgree input :=
  (and_iff_left (isTruthful_projectRuntimeMap unicode input findings)).trans orderIndependent_iff

/-- A container on one network, reported with no slot and with a `null` one. -/
def membershipTwice : List Json :=
  [membershipJson "docker_container_a" "docker_network_n" [],
    membershipJson "docker_container_a" "docker_network_n" [("providerSlot", .null)]]

def twoSlots (edges : List Json) : AtlasRuntimeMapInput :=
  mapOf [nodeJson "docker_container_a" "docker" "container",
    nodeJson "docker_network_n" "docker" "docker_network"] edges

theorem order_shows_between_slots :
    ¬ ∀ (unicode : UnicodeTables) (input : AtlasRuntimeMapInput)
      (findings : Option FindingsOverlay), OrderIndependent unicode input findings ∧
        IsTruthful input (projectRuntimeMap unicode input findings) := by
  intro h
  have hsame := (h plainTables (twoSlots membershipTwice) none).1
    (twoSlots membershipTwice.reverse) none
    ⟨rfl, List.Perm.refl _, (List.reverse_perm _).symm, .same none⟩ .none
  have hdiffer : (projectRuntimeMap plainTables (twoSlots membershipTwice.reverse)
      none).attachments ≠
        (projectRuntimeMap plainTables (twoSlots membershipTwice) none).attachments := by
    decide +kernel
  exact hdiffer (congrArg AtlasModel.attachments hsame)

end DockerMap.Web.Atlas
