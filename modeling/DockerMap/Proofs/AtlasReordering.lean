import DockerMap.Proofs.AtlasAttachments
import DockerMap.Proofs.AtlasTies

/-! The model of a reordered input. The tables of its edges agree on all that the model reads of
them, as long as tied edges agree. -/

namespace DockerMap.Web.Atlas

open StableSort (sortBy cls)

/-! Tables of edges -/

/-- Two tables that give one model. -/
structure SameTable (table table' : EdgeTable) : Prop where
  relations : table.relations = table'.relations
  attachments : ∀ subject,
    attachmentsFrom table.attachments subject = attachmentsFrom table'.attachments subject
  population : ∀ subject,
    table.attachmentPopulation.get? subject = table'.attachmentPopulation.get? subject
  omissions : ∀ subject,
    countOf table.attachmentOmissions subject = countOf table'.attachmentOmissions subject
  omittedEdges : table.omittedEdges = table'.omittedEdges
  diagnostics : table.diagnostics = table'.diagnostics

def attachmentKey (attachment : AtlasAttachment) : List (List ℕ) :=
  [JavaScript.codeUnits attachment.subject, JavaScript.codeUnits attachment.context]

theorem subject_of_attachmentKey {attachment attachment' : AtlasAttachment}
    (h : attachmentKey attachment = attachmentKey attachment') :
    attachment.subject = attachment'.subject := by
  rw [attachmentKey, attachmentKey, List.cons.injEq] at h
  exact JavaScript.codeUnits_injective h.1

/-- One key has one subject. -/
theorem cls_attachments (attachments : List AtlasAttachment) (attachment : AtlasAttachment) :
    cls attachmentKey (attachmentKey attachment) attachments =
      cls attachmentKey (attachmentKey attachment)
        (attachmentsFrom attachments attachment.subject) := by
  rw [cls, cls, attachmentsFrom, List.filter_filter]
  refine List.filter_congr fun other _ => ?_
  by_cases h : attachmentKey other = attachmentKey attachment
  · simp [h, subject_of_attachmentKey h]
  · simp [h]

theorem sortBy_attachments {attachments attachments' : List AtlasAttachment}
    (h : ∀ subject, attachmentsFrom attachments subject = attachmentsFrom attachments' subject) :
    sortBy attachmentKey attachments = sortBy attachmentKey attachments' := by
  have hcls (attachment : AtlasAttachment) :
      cls attachmentKey (attachmentKey attachment) attachments =
        cls attachmentKey (attachmentKey attachment) attachments' := by
    rw [cls_attachments, cls_attachments attachments', h]
  refine StableSort.sortBy_eq_iff.2 fun k => ?_
  by_cases hk : ∃ attachment, attachmentKey attachment = k
  · obtain ⟨attachment, rfl⟩ := hk
    exact hcls attachment
  · have hnone (l : List AtlasAttachment) : cls attachmentKey k l = [] :=
      List.filter_eq_nil_iff.2 fun attachment _ heq => hk ⟨attachment, by simpa using heq⟩
    rw [hnone, hnone]

namespace SameTable

theorem refl (table : EdgeTable) : SameTable table table where
  relations := rfl
  attachments _ := rfl
  population _ := rfl
  omissions _ := rfl
  omittedEdges := rfl
  diagnostics := rfl

variable {table table' : EdgeTable} (h : SameTable table table')

include h

theorem sorted : sortBy attachmentKey table.attachments =
    sortBy attachmentKey table'.attachments := sortBy_attachments h.attachments

theorem length_attachments : table.attachments.length = table'.attachments.length := by
  rw [← StableSort.length_sortBy attachmentKey table.attachments, h.sorted,
    StableSort.length_sortBy]

theorem coverage (subject : String) : coverageOf table subject = coverageOf table' subject := by
  have hfilter (attachments : List AtlasAttachment) :
      attachments.filter (·.subject == subject) = attachmentsFrom attachments subject := rfl
  rw [coverageOf, coverageOf, hfilter, hfilter, h.attachments]

theorem aggregates : aggregatesOf table = aggregatesOf table' := by
  have hadd : addAggregate table = addAggregate table' := by
    funext aggregates entry
    have hcoverage := h.coverage entry.1
    rw [coverageOf, coverageOf] at hcoverage
    rw [addAggregate, addAggregate, hcoverage, h.omissions]
  rw [aggregatesOf, aggregatesOf, hadd]
  congr 1
  refine StableSort.sortBy_eq_of_perm (InsertionMap.entries_perm h.population) fun e he e' he' heq => ?_
  exact List.inj_on_of_nodup_map table.attachmentPopulation.nodup he he'
    (JavaScript.codeUnits_injective heq)

end SameTable

/-! What the loop counts -/

theorem omittedEdges_addOutcome (table : EdgeTable) (outcome : EdgeOutcome) :
    (addOutcome table outcome).omittedEdges + (addOutcome table outcome).relations.length +
        (addOutcome table outcome).attachments.length =
      table.omittedEdges + table.relations.length + table.attachments.length +
        (relationsOf [outcome]).length + (attachmentsOf [outcome]).length := by
  cases outcome with
  | relation found =>
    have hone : (relationsOf [.relation found]).length = 1 := rfl
    have hnone : (attachmentsOf [.relation found]).length = 0 := rfl
    rw [addOutcome, hone, hnone]
    split_ifs
    · dsimp only
      omega
    · dsimp only
      rw [List.length_append, List.length_singleton]
      omega
  | attachment found =>
    have hone : (attachmentsOf [.attachment found]).length = 1 := rfl
    have hnone : (relationsOf [.attachment found]).length = 0 := rfl
    rw [addOutcome, hone, hnone]
    split_ifs
    · dsimp only
      omega
    · dsimp only
      rw [List.length_append, List.length_singleton]
      omega
  | unresolved => rfl
  | rejected => rfl
  | unsupported => rfl

/-- An edge that is drawn is listed or counted as omitted. -/
theorem omittedEdges_foldl (outcomes : List EdgeOutcome) (table : EdgeTable) :
    (outcomes.foldl addOutcome table).omittedEdges +
        (outcomes.foldl addOutcome table).relations.length +
        (outcomes.foldl addOutcome table).attachments.length =
      table.omittedEdges + table.relations.length + table.attachments.length +
        (relationsOf outcomes).length + (attachmentsOf outcomes).length := by
  induction outcomes using List.reverseRecOn with
  | nil => rfl
  | append_singleton outcomes outcome ih =>
    have hrelations : relationsOf (outcomes ++ [outcome]) =
        relationsOf outcomes ++ relationsOf [outcome] := List.filterMap_append
    have hattachments : attachmentsOf (outcomes ++ [outcome]) =
        attachmentsOf outcomes ++ attachmentsOf [outcome] := List.filterMap_append
    rw [List.foldl_append, List.foldl_cons, List.foldl_nil, omittedEdges_addOutcome, hrelations,
      hattachments, List.length_append, List.length_append]
    omega

def EdgeOutcome.isUnresolved : EdgeOutcome → Bool
  | .unresolved => true
  | _ => false

theorem diagnostics_addOutcome (routable : InsertionMap String AtlasSubject) (edge : Json)
    (table : EdgeTable) :
    (addOutcome table (edgeOutcome routable edge)).diagnostics =
      if (edgeOutcome routable edge).isUnresolved then
        addDiagnostic table.diagnostics .unresolved
      else table.diagnostics := by
  obtain ⟨source, target, evidence, -, ⟨-, heq⟩ | ⟨-, heq⟩⟩ | ⟨-, heq | heq⟩ :=
    edgeOutcome_cases routable edge
  · rw [heq, addOutcome]
    split_ifs <;> first | rfl | contradiction
  · rw [heq, addOutcome]
    split_ifs <;> first | rfl | contradiction
  · rw [heq]
    rfl
  · rw [heq]
    rfl

theorem diagnostics_foldl_addOutcome (routable : InsertionMap String AtlasSubject)
    (edges : List Json) (table : EdgeTable) :
    ((edges.map (edgeOutcome routable)).foldl addOutcome table).diagnostics =
      (addDiagnostic · .unresolved)^[edges.countP fun edge =>
        (edgeOutcome routable edge).isUnresolved] table.diagnostics := by
  induction edges generalizing table with
  | nil => rfl
  | cons edge edges ih =>
    rw [List.map_cons, List.foldl_cons, ih, diagnostics_addOutcome]
    split_ifs with hunresolved
    · rw [List.countP_cons_of_pos (by exact hunresolved), Function.iterate_succ_apply]
    · rw [List.countP_cons_of_neg (by exact hunresolved)]

/-! Reordered edges -/

section

variable {unicode : UnicodeTables} {input input' : AtlasRuntimeMapInput}
  {findings findings' : Option FindingsOverlay}

theorem projectedEdges_perm (h : Reordered input input') :
    (projectedEdges input).Perm (projectedEdges input') := by
  rw [projectedEdges, projectedEdges, h.edges.length_eq]
  split_ifs
  · exact List.Perm.refl _
  · exact ((StableSort.sortBy_perm _ _).trans h.edges).trans (StableSort.sortBy_perm _ _).symm

theorem sorted_projectedEdges (input : AtlasRuntimeMapInput) :
    KeyedSort.Sorted edgeKey (projectedEdges input) := by
  rw [projectedEdges]
  split_ifs
  · exact List.Pairwise.nil
  · exact StableSort.sorted_sortBy ..

/-- Past the caps, what is drawn before it is dropped shows as an omission. -/
theorem omittedEdges_projectedTable (hcap : input.edges.length ≤ inputEdgesCap) :
    (projectedTable unicode input findings).omittedEdges +
        (projectedTable unicode input findings).attachments.length =
      (attachmentsOf (outcomes unicode input findings)).length := by
  have hrelations := congrArg List.length (relations_projectedTable unicode input findings)
  have hsum := omittedEdges_foldl (outcomes unicode input findings)
    { diagnostics := addDiagnosticIf (inputEdgesCap < input.edges.length)
        (subjectTable unicode input findings).diagnostics .boundedOmission
      omittedEdges := if inputEdgesCap < input.edges.length then input.edges.length else 0 }
  rw [← projectedTable_eq, hrelations, if_neg (not_lt.2 hcap)] at hsum
  simp only [List.length_nil] at hsum
  omega

section

variable (h : Reordered input input') (hfindings : ReorderedFindings findings findings')

include h hfindings

theorem outcomes_perm :
    (outcomes unicode input findings).Perm (outcomes unicode input' findings') := by
  rw [outcomes, outcomes, subjectTable_congr h hfindings]
  exact (projectedEdges_perm h).map _

theorem length_attachmentsOf_congr (subject : String) :
    (attachmentsFrom (attachmentsOf (outcomes unicode input findings)) subject).length =
      (attachmentsFrom (attachmentsOf (outcomes unicode input' findings')) subject).length :=
  (((outcomes_perm h hfindings).filterMap _).filter _).length_eq

variable (hcap : input.edges.length ≤ inputEdgesCap) (hties : TiesAgree input)

include hcap hties

theorem relationsOf_congr :
    relationsOf (outcomes unicode input findings) =
      relationsOf (outcomes unicode input' findings') := by
  have hperm : input.edges.Perm (projectedEdges input) := by
    rw [projectedEdges, if_neg (not_lt.2 hcap)]
    exact (StableSort.sortBy_perm ..).symm
  rw [outcomes, outcomes, relationsOf_map, relationsOf_map, ← subjectTable_congr h hfindings]
  exact relationsOf_eq hcap hties hperm (hperm.trans (projectedEdges_perm h))
    (sorted_projectedEdges input) (sorted_projectedEdges input')

theorem attachmentsFrom_congr (subject : String) :
    attachmentsFrom (projectedTable unicode input findings).attachments subject =
      attachmentsFrom (projectedTable unicode input' findings').attachments subject := by
  have hperm : input.edges.Perm (projectedEdges input) := by
    rw [projectedEdges, if_neg (not_lt.2 hcap)]
    exact (StableSort.sortBy_perm ..).symm
  rw [(attachmentSummary unicode input findings).attachments,
    (attachmentSummary unicode input' findings').attachments, outcomes, outcomes,
    attachmentsFrom_map, attachmentsFrom_map, ← subjectTable_congr h hfindings]
  exact attachments_take_eq hcap hties hperm (hperm.trans (projectedEdges_perm h))
    (sorted_projectedEdges input) (sorted_projectedEdges input') subject

theorem sameTable_within : SameTable (projectedTable unicode input findings)
    (projectedTable unicode input' findings') where
  relations := by
    rw [relations_projectedTable, relations_projectedTable]
    exact relationsOf_congr h hfindings hcap hties
  attachments := attachmentsFrom_congr h hfindings hcap hties
  population subject := by
    have hlength := @length_attachmentsOf_congr unicode _ _ _ _ h hfindings subject
    rw [get?_population, get?_population]
    dsimp only
    refine if_congr ?_ rfl (congrArg some hlength)
    rw [← List.length_eq_zero_iff, ← List.length_eq_zero_iff, hlength]
  omissions subject := by
    rw [(attachmentSummary unicode input findings).omissions,
      (attachmentSummary unicode input' findings').omissions,
      length_attachmentsOf_congr h hfindings]
  omittedEdges := by
    have hsorted := sortBy_attachments (@attachmentsFrom_congr unicode _ _ _ _ h hfindings hcap hties)
    have hkept : (projectedTable unicode input findings).attachments.length =
        (projectedTable unicode input' findings').attachments.length := by
      rw [← StableSort.length_sortBy attachmentKey, hsorted, StableSort.length_sortBy]
    have hsum := @omittedEdges_projectedTable unicode input findings hcap
    have hsum' := @omittedEdges_projectedTable unicode input' findings' (h.edges.length_eq ▸ hcap)
    have hall : (attachmentsOf (outcomes unicode input findings)).length =
        (attachmentsOf (outcomes unicode input' findings')).length :=
      ((outcomes_perm h hfindings).filterMap _).length_eq
    omega
  diagnostics := by
    rw [projectedTable_eq, projectedTable_eq, outcomes, outcomes, diagnostics_foldl_addOutcome,
      diagnostics_foldl_addOutcome, ← subjectTable_congr h hfindings, h.edges.length_eq,
      (projectedEdges_perm h).countP_eq]

end

theorem sameTable (h : Reordered input input') (hfindings : ReorderedFindings findings findings')
    (hties : TiesAgree input) :
    SameTable (projectedTable unicode input findings)
      (projectedTable unicode input' findings') := by
  by_cases hcap : input.edges.length ≤ inputEdgesCap
  · exact sameTable_within h hfindings hcap hties
  · have hnone {input : AtlasRuntimeMapInput} (hcap : inputEdgesCap < input.edges.length) :
        projectedEdges input = [] := if_pos hcap
    have heq : projectedTable unicode input findings = projectedTable unicode input' findings' := by
      rw [projectedTable_eq, projectedTable_eq, outcomes, outcomes, hnone (not_le.1 hcap),
        hnone (h.edges.length_eq ▸ not_le.1 hcap), subjectTable_congr h hfindings,
        h.edges.length_eq]
    rw [heq]
    exact SameTable.refl _

/-- One model for tables that agree. -/
theorem projectRuntimeMap_congr (h : Reordered input input')
    (hfindings : ReorderedFindings findings findings')
    (htable : SameTable (projectedTable unicode input findings)
      (projectedTable unicode input' findings')) :
    projectRuntimeMap unicode input findings = projectRuntimeMap unicode input' findings' := by
  rw [projectedTable, projectedTable, ← subjectTable_congr h hfindings] at htable
  rw [projectRuntimeMap, projectRuntimeMap, ← subjectTable_congr h hfindings, capSubjects_subjectTable, ← omitted_congr h hfindings,
    ← h.nodes.length_eq]
  have hsorted := htable.sorted
  generalize edgeTable input (subjectTable unicode input findings) = table at *
  generalize edgeTable input' (subjectTable unicode input findings) = table' at *
  change sortBy (fun attachment : AtlasAttachment =>
      [JavaScript.codeUnits attachment.subject, JavaScript.codeUnits attachment.context])
        table.attachments = _ at hsorted
  rw [hsorted, htable.relations, htable.aggregates, htable.length_attachments,
    htable.omittedEdges, htable.diagnostics]
  rfl

end

/-! Ties that differ -/

/-- No order of the input shows in the model. -/
def OrderIndependent (unicode : UnicodeTables) (input : AtlasRuntimeMapInput)
    (findings : Option FindingsOverlay) : Prop :=
  ∀ input' findings', Reordered input input' → ReorderedFindings findings findings' →
    projectRuntimeMap unicode input' findings' = projectRuntimeMap unicode input findings

theorem ReorderedFindings.refl (findings : Option FindingsOverlay) :
    ReorderedFindings findings findings := by
  rcases findings with _ | ⟨modelRevision, findings⟩
  · exact .none
  · exact .perm modelRevision (List.Perm.refl findings)

theorem perm_pair {α : Type*} {l : List α} {a b : α} (ha : a ∈ l) (hb : b ∈ l) (h : a ≠ b) :
    ∃ rest, l.Perm (a :: b :: rest) := by
  obtain ⟨front, back, rfl⟩ := List.append_of_mem ha
  have hb : b ∈ front ++ back := by
    rcases List.mem_append.1 hb with hb | hb
    · exact List.mem_append_left _ hb
    · exact List.mem_append_right _ ((List.mem_cons.1 hb).resolve_left h.symm)
  obtain ⟨start, rest, heq⟩ := List.append_of_mem hb
  refine ⟨start ++ rest, List.perm_middle.trans (List.Perm.cons a ?_)⟩
  rw [heq]
  exact List.perm_middle

/-- What an edge is for depends on its relationship alone. -/
theorem tie_purpose {edge edge' : Json} {source target source' target' : String}
    {evidence evidence' : List AtlasEdgeEvidenceSourceRef}
    (h : structuralEvidence edge source target = some evidence)
    (h' : structuralEvidence edge' source' target' = some evidence')
    (hrelationship : Api.asText (edge.field? "relationship") =
      Api.asText (edge'.field? "relationship")) :
    edgePurpose edge evidence = edgePurpose edge' evidence' := by
  have haccepted := isAccepted_of_structural h
  have haccepted' := isAccepted_of_structural h'
  obtain ⟨kind, relationship, hfound, hkind, hkinds⟩ := haccepted.kinds
  obtain ⟨kind', relationship', hfound', hkind', hkinds'⟩ := haccepted'.kinds
  rw [← hrelationship, hfound, Option.some.injEq] at hfound'
  rw [← hfound', hkind, Option.some.injEq] at hkind'
  rw [edgePurpose_eq hfound hkind haccepted.ne_nil hkinds,
    edgePurpose_eq (hrelationship ▸ hfound) (hkind.trans (congrArg some hkind')) haccepted'.ne_nil
      hkinds', hkind']

section

variable {unicode : UnicodeTables} {input : AtlasRuntimeMapInput}
  {findings : Option FindingsOverlay} {edge edge' : Json} {rest : List Json}

def withEdges (input : AtlasRuntimeMapInput) (edges : List Json) : AtlasRuntimeMapInput :=
  { input with edges }

theorem reordered_withEdges {edges : List Json} (h : input.edges.Perm edges) :
    Reordered input (withEdges input edges) where
  modelRevision := rfl
  nodes := List.Perm.refl _
  edges := h
  providerStates := .same _

theorem outcomes_withEdges {edges : List Json} (hcap : edges.length ≤ inputEdgesCap) :
    outcomes unicode (withEdges input edges) findings =
      (sortBy edgeKey edges).map
        (edgeOutcome (subjectTable unicode input findings).routable) := by
  rw [outcomes, projectedEdges]
  exact congrArg _ (if_neg (not_lt.2 hcap))

theorem cls_attachments_withEdges {edges : List Json} (hcap : edges.length ≤ inputEdgesCap)
    (attachment : AtlasAttachment) :
    cls attachmentKey (attachmentKey attachment)
        (projectedTable unicode (withEdges input edges) findings).attachments =
      cls attachmentKey (attachmentKey attachment)
        ((((sortBy edgeKey edges).filter
          (attachesTo (subjectTable unicode input findings).routable
            attachment.subject)).filterMap
          (drawnAttachment (subjectTable unicode input findings).routable)).take
            attachmentsPerSubjectCap) := by
  rw [cls_attachments,
    (attachmentSummary unicode (withEdges input edges) findings).attachments,
    outcomes_withEdges hcap, attachmentsFrom_map]

variable (hcap : (edge :: edge' :: rest).length ≤ inputEdgesCap)
  (htie : edgeKey edge = edgeKey edge')
  (hsame : projectRuntimeMap unicode (withEdges input (edge :: edge' :: rest)) findings =
    projectRuntimeMap unicode (withEdges input (edge' :: edge :: rest)) findings)

include hcap htie hsame

/-- Tied relations are the same relation. -/
theorem relation_eq_of_swap {relation relation' : AtlasRelation}
    (h : drawnRelation (subjectTable unicode input findings).routable edge = some relation)
    (h' : drawnRelation (subjectTable unicode input findings).routable edge' = some relation')
    (hends : relation.source = relation'.source ∧ relation.target = relation'.target) :
    relation = relation' := by
  have hrelations := congrArg AtlasModel.relations hsame
  rw [projectRuntimeMap_relations, projectRuntimeMap_relations, relations_projectedTable,
    relations_projectedTable, outcomes_withEdges hcap, outcomes_withEdges (by exact hcap),
    relationsOf_map, relationsOf_map] at hrelations
  obtain ⟨back, back', hsorted, hsorted'⟩ := StableSort.sortBy_swap htie rest
  rw [hsorted, hsorted', List.filterMap_append, List.filterMap_cons_some h,
    List.filterMap_append, List.filterMap_cons_some h'] at hrelations
  exact StableSort.eq_of_cls_eq (by rw [hends.1, hends.2])
    (StableSort.sortBy_eq_iff.1 hrelations _)

/-- Tied attachments are the same attachment while there is room for them. -/
theorem attachment_eq_of_swap {attachment attachment' : AtlasAttachment}
    (h : drawnAttachment (subjectTable unicode input findings).routable edge = some attachment)
    (h' : drawnAttachment (subjectTable unicode input findings).routable edge' = some attachment')
    (hends : attachmentKey attachment = attachmentKey attachment')
    (hroom : (edge :: edge' :: rest).countP (fun other =>
      attachesTo (subjectTable unicode input findings).routable attachment.subject other &&
        decide (edgeKey other < edgeKey edge)) < attachmentsPerSubjectCap) :
    attachment = attachment' := by
  have hattachments := congrArg AtlasModel.attachments hsame
  rw [projectRuntimeMap_attachments, projectRuntimeMap_attachments] at hattachments
  have hcls := StableSort.sortBy_eq_iff.1 hattachments (attachmentKey attachment)
  change cls attachmentKey _ _ = cls attachmentKey _ _ at hcls
  rw [cls_attachments_withEdges hcap, cls_attachments_withEdges (by exact hcap)] at hcls
  obtain ⟨back, back', hsorted, hsorted'⟩ := StableSort.sortBy_swap htie rest
  have hattaches : attachesTo (subjectTable unicode input findings).routable attachment.subject
      edge = true := by
    rw [attachesTo, h]
    exact decide_eq_true rfl
  have hattaches' : attachesTo (subjectTable unicode input findings).routable attachment.subject
      edge' = true := by
    rw [attachesTo, h']
    exact decide_eq_true (subject_of_attachmentKey hends).symm
  generalize hfront : (sortBy edgeKey (edge :: edge' :: rest)).filter _ = front
    at hsorted hsorted'
  have hshort : (front.filter (attachesTo (subjectTable unicode input findings).routable
      attachment.subject)).length < attachmentsPerSubjectCap := by
    rw [← (StableSort.sortBy_perm edgeKey (edge :: edge' :: rest)).countP_eq] at hroom
    rw [← List.countP_eq_length_filter, ← hfront, List.countP_filter]
    refine lt_of_le_of_lt (List.countP_mono_left fun other _ hother => ?_) hroom
    simpa using hother
  rw [hsorted, hsorted', List.filter_append, List.filter_append,
    List.filter_cons_of_pos hattaches, List.filter_cons_of_pos hattaches',
    List.filterMap_append, List.filterMap_append, List.filterMap_cons_some h,
    List.filterMap_cons_some h'] at hcls
  have hshort := (List.length_filterMap_le
    (drawnAttachment (subjectTable unicode input findings).routable) _).trans_lt hshort
  obtain ⟨room, hroom⟩ := Nat.exists_eq_add_of_lt hshort
  rw [hroom, Nat.add_assoc, List.take_length_add_append, List.take_length_add_append,
    List.take_succ_cons, List.take_succ_cons] at hcls
  exact StableSort.eq_of_cls_eq hends hcls

end

section

variable {unicode : UnicodeTables} {input : AtlasRuntimeMapInput}
  {findings : Option FindingsOverlay}

theorem orderIndependent_of_tiesAgree (h : TiesAgree input) :
    OrderIndependent unicode input findings := fun _ _ hinput hfindings =>
  (projectRuntimeMap_congr hinput hfindings (sameTable hinput hfindings h)).symm

theorem length_le_of_drawn {edge : Json} {evidence : List AtlasEdgeEvidenceSourceRef}
    (h : drawnEvidence input edge = some evidence) : input.edges.length ≤ inputEdgesCap :=
  (Option.ite_none_right_eq_some.1 h).1.2

/-- Tied edges whose evidence differs show in the model when they change places. -/
theorem tiesAgree_of_orderIndependent (h : OrderIndependent unicode input findings) :
    TiesAgree input := by
  intro edge hedge edge' hedge' evidence evidence' hdrawn hdrawn' htie
  by_contra hnot
  obtain ⟨hne, hroom⟩ := not_or.1 hnot
  have hcap := length_le_of_drawn hdrawn
  obtain ⟨source, target, hjoins⟩ := (@drawnEvidence_iff unicode input findings hcap _ _).1 hdrawn
  obtain ⟨source', target', hjoins'⟩ :=
    (@drawnEvidence_iff unicode input findings hcap _ _).1 hdrawn'
  obtain ⟨rfl, rfl, hrelationship⟩ := tie_ends hjoins hjoins' htie
  have hpurpose := tie_purpose hjoins.structural hjoins'.structural hrelationship
  have hedges : edge ≠ edge' := by
    rintro rfl
    exact hne (hjoins.unique hjoins').2.2
  obtain ⟨rest, hperm⟩ := perm_pair hedge hedge' hedges
  have hswapped := hperm.trans (List.Perm.swap edge' edge rest)
  have hsame : projectRuntimeMap unicode (withEdges input (edge :: edge' :: rest)) findings =
      projectRuntimeMap unicode (withEdges input (edge' :: edge :: rest)) findings :=
    (h _ _ (reordered_withEdges hperm) (.refl _)).trans
      (h _ _ (reordered_withEdges hswapped) (.refl _)).symm
  have hlength : (edge :: edge' :: rest).length ≤ inputEdgesCap := hperm.length_eq ▸ hcap
  cases hcase : edgePurpose edge evidence with
  | none => exact (isAccepted_of_structural hjoins.structural).purpose hcase
  | some purpose =>
    cases purpose with
    | relation =>
      have hrelation := drawnRelation_eq_some.2 ⟨_, _, _, hjoins, hcase, rfl⟩
      have hrelation' := drawnRelation_eq_some.2 ⟨_, _, _, hjoins', hpurpose ▸ hcase, rfl⟩
      have heq := relation_eq_of_swap hlength htie hsame hrelation hrelation' ⟨rfl, rfl⟩
      exact hne (congrArg AtlasRelation.evidence heq)
    | attachment =>
      have hattachment := drawnAttachment_eq_some.2 ⟨_, _, _, hjoins, hcase, rfl⟩
      have hattachment' := drawnAttachment_eq_some.2 ⟨_, _, _, hjoins', hpurpose ▸ hcase, rfl⟩
      have hbefore := not_le.1 fun hfull => hroom ⟨hcase, hfull⟩
      have heq := attachment_eq_of_swap hlength htie hsame hattachment hattachment' rfl ?_
      · exact hne (congrArg AtlasAttachment.evidence heq)
      · rw [← hperm.countP_eq]
        refine lt_of_le_of_lt (List.countP_mono_left fun other _ hother => ?_) hbefore
        obtain ⟨hattaches, hlt⟩ := Bool.and_eq_true_iff.1 hother
        obtain ⟨hdraws, hsource⟩ := (drawsAttachment_iff hcap).1 hattaches
        rw [hdraws, hsource, hjoins.source_key, hlt, beq_self_eq_true]
        rfl

theorem orderIndependent_iff : OrderIndependent unicode input findings ↔ TiesAgree input :=
  ⟨tiesAgree_of_orderIndependent, orderIndependent_of_tiesAgree⟩

end

end DockerMap.Web.Atlas
