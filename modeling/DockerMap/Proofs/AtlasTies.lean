import DockerMap.Proofs.AtlasOrder

/-! Edges that tie in the canonical order. The comparator reads a `null` slot and a missing one
alike, and the model keeps them apart: where such edges tie, the order of the input shows. -/

namespace DockerMap.Web.Atlas

open KeyedSort (Sorted)
open StableSort (sortBy cls)

/-! What an edge brings to the model -/

def namesSubject (input : AtlasRuntimeMapInput) (key : String) : Bool :=
  (recordsOf input.nodes key).length == 1 &&
    (recordsOf input.nodes key).all fun node => (runtimeKind (node.field? "type")).isSome

/-- The evidence of an edge that is drawn. -/
def drawnEvidence (input : AtlasRuntimeMapInput) (edge : Json) :
    Option (List AtlasEdgeEvidenceSourceRef) :=
  if input.nodes.length ≤ inputNodesCap ∧ input.edges.length ≤ inputEdgesCap then
    (safeKey (edge.field? "source")).bind fun source =>
      (safeKey (edge.field? "target")).bind fun target =>
        if namesSubject input source && namesSubject input target then
          structuralEvidence edge source target
        else none
  else none

def drawsAttachment (input : AtlasRuntimeMapInput) (edge : Json) : Bool :=
  (drawnEvidence input edge).bind (edgePurpose edge) == some .attachment

/-- The attachments of the same subject that sort before the edge. -/
def attachmentsBefore (input : AtlasRuntimeMapInput) (edge : Json) : ℕ :=
  input.edges.countP fun other => drawsAttachment input other &&
    safeKey (other.field? "source") == safeKey (edge.field? "source") &&
    decide (edgeKey other < edgeKey edge)

/-- Drawn edges that tie have the same evidence, but for attachments past the cap. -/
def TiesAgree (input : AtlasRuntimeMapInput) : Prop :=
  ∀ edge ∈ input.edges, ∀ edge' ∈ input.edges, ∀ evidence evidence',
    drawnEvidence input edge = some evidence → drawnEvidence input edge' = some evidence' →
      edgeKey edge = edgeKey edge' → evidence = evidence' ∨
        edgePurpose edge evidence = some .attachment ∧
          attachmentsPerSubjectCap ≤ attachmentsBefore input edge

/-! Subjects of the input -/

section

variable {unicode : UnicodeTables} {input : AtlasRuntimeMapInput}
  {findings : Option FindingsOverlay}

theorem namesSubject_iff {key : String} :
    namesSubject input key = true ↔ ∃ node, recordsOf input.nodes key = [node] ∧
      (runtimeKind (node.field? "type")).isSome = true := by
  rw [namesSubject, Bool.and_eq_true, beq_iff_eq, List.length_eq_one_iff]
  constructor
  · rintro ⟨⟨node, hnode⟩, hall⟩
    rw [hnode, List.all_cons, Bool.and_eq_true] at hall
    exact ⟨node, hnode, hall.1⟩
  · rintro ⟨node, hnode, hkind⟩
    refine ⟨⟨node, hnode⟩, ?_⟩
    rw [hnode, List.all_cons, hkind]
    rfl

theorem routable_isSome_iff {key : String} :
    ((subjectTable unicode input findings).routable.get? key).isSome = true ↔
      input.nodes.length ≤ inputNodesCap ∧ namesSubject input key = true := by
  rw [Option.isSome_iff_exists, namesSubject_iff]
  simp only [get?_subjectTable]
  by_cases hcap : inputNodesCap < input.nodes.length
  · refine iff_of_false ?_ fun h => absurd h.1 (not_le.2 hcap)
    rintro ⟨subject, node, hrecords, -⟩
    rw [projectedNodes, if_pos hcap] at hrecords
    cases hrecords
  · rw [and_iff_right (not_lt.1 hcap)]
    have hperm : (recordsOf (projectedNodes unicode input) key).Perm
        (recordsOf input.nodes key) := by
      rw [projectedNodes, if_neg hcap]
      exact (StableSort.sortBy_perm _ _).filter _
    constructor
    · rintro ⟨subject, node, hrecords, found, kind, hfound, hkind, -⟩
      obtain rfl := (List.cons.inj hfound).1
      rw [hrecords] at hperm
      exact ⟨node, (List.singleton_perm.1 hperm).symm, by rw [hkind]; rfl⟩
    · rintro ⟨node, hrecords, hkind⟩
      obtain ⟨kind, hkind⟩ := Option.isSome_iff_exists.1 hkind
      rw [hrecords] at hperm
      exact ⟨_, node, List.perm_singleton.1 hperm, node, kind, rfl, hkind, rfl⟩

theorem drawnEvidence_iff (hedges : input.edges.length ≤ inputEdgesCap) {edge : Json}
    {evidence : List AtlasEdgeEvidenceSourceRef} :
    drawnEvidence input edge = some evidence ↔
      ∃ source target, Joins (subjectTable unicode input findings).routable edge source target
        evidence := by
  rw [drawnEvidence, Option.ite_none_right_eq_some]
  constructor
  · rintro ⟨⟨hnodes, -⟩, hbind⟩
    obtain ⟨source, hsource, hbind⟩ := Option.bind_eq_some_iff.1 hbind
    obtain ⟨target, htarget, hstructural⟩ := Option.bind_eq_some_iff.1 hbind
    obtain ⟨hnamed, hstructural⟩ := Option.ite_none_right_eq_some.1 hstructural
    rw [Bool.and_eq_true] at hnamed
    exact ⟨source, target, hsource, htarget, routable_isSome_iff.2 ⟨hnodes, hnamed.1⟩,
      routable_isSome_iff.2 ⟨hnodes, hnamed.2⟩, hstructural⟩
  · rintro ⟨source, target, h⟩
    obtain ⟨hnodes, hsource⟩ := routable_isSome_iff.1 h.source_routable
    obtain ⟨-, htarget⟩ := routable_isSome_iff.1 h.target_routable
    refine ⟨⟨hnodes, hedges⟩, ?_⟩
    rw [h.source_key, Option.bind_some, h.target_key, Option.bind_some, hsource, htarget]
    exact h.structural

end

/-! Ties -/

section

variable {edge edge' : Json}

theorem text_of_safeKey {value : Option Json} {key : String} (h : safeKey value = some key) :
    ∃ text, value = some (.str text) := by
  obtain ⟨text, htext, -⟩ := Option.bind_eq_some_iff.1 h
  rcases value with _ | value
  · cases htext
  · cases value <;> first | exact ⟨_, rfl⟩ | cases htext

theorem eq_of_propertyText {value value' : Option Json} {text text' : String}
    (h : JavaScript.codeUnits (JavaScript.propertyText value) =
      JavaScript.codeUnits (JavaScript.propertyText value'))
    (htext : value = some (.str text)) (htext' : value' = some (.str text')) : value = value' := by
  have hsame := JavaScript.codeUnits_injective h
  rw [htext, htext', JavaScript.propertyText, JavaScript.propertyText, JavaScript.textOf,
    JavaScript.textOf] at hsame
  rw [htext, htext', hsame]

/-- Edges that tie and are drawn have the same ends and the same relationship. -/
theorem tie_ends {routable : InsertionMap String AtlasSubject} {source target source' target' : String}
    {evidence evidence' : List AtlasEdgeEvidenceSourceRef}
    (h : Joins routable edge source target evidence)
    (h' : Joins routable edge' source' target' evidence') (hkey : edgeKey edge = edgeKey edge') :
    source = source' ∧ target = target' ∧
      Api.asText (edge.field? "relationship") = Api.asText (edge'.field? "relationship") := by
  rw [edgeKey, edgeKey, List.cons.injEq, List.cons.injEq, List.cons.injEq] at hkey
  obtain ⟨hsource, htarget, hrelationship, -⟩ := hkey
  obtain ⟨text, htext⟩ := text_of_safeKey h.source_key
  obtain ⟨text', htext'⟩ := text_of_safeKey h'.source_key
  have hsource := eq_of_propertyText hsource htext htext'
  obtain ⟨text, htext⟩ := text_of_safeKey h.target_key
  obtain ⟨text', htext'⟩ := text_of_safeKey h'.target_key
  have htarget := eq_of_propertyText htarget htext htext'
  obtain ⟨_, relationship, hfound, -, -⟩ := (isAccepted_of_structural h.structural).kinds
  obtain ⟨_, relationship', hfound', -, -⟩ := (isAccepted_of_structural h'.structural).kinds
  have hstr {value : Option Json} {text : String} (htext : Api.asText value = some text) :
      value = some (.str text) := by
    rcases value with _ | value
    · cases htext
    · cases value <;> first | exact congrArg (fun text => some (Json.str text)) (Option.some.inj htext) | cases htext
  have hrelationship := eq_of_propertyText hrelationship (hstr hfound) (hstr hfound')
  refine ⟨?_, ?_, by rw [hrelationship]⟩
  · rw [← Option.some.injEq, ← h.source_key, ← h'.source_key, hsource]
  · rw [← Option.some.injEq, ← h.target_key, ← h'.target_key, htarget]

end

/-! Outcomes of tied edges -/

section

variable {routable : InsertionMap String AtlasSubject} {edge edge' : Json}

theorem Joins.unique {source target source' target' : String}
    {evidence evidence' : List AtlasEdgeEvidenceSourceRef}
    (h : Joins routable edge source target evidence)
    (h' : Joins routable edge source' target' evidence') :
    source = source' ∧ target = target' ∧ evidence = evidence' := by
  obtain rfl := Option.some.inj (h.source_key.symm.trans h'.source_key)
  obtain rfl := Option.some.inj (h.target_key.symm.trans h'.target_key)
  exact ⟨rfl, rfl, Option.some.inj (h.structural.symm.trans h'.structural)⟩

/-- The relation an edge is drawn as. -/
def drawnRelation (routable : InsertionMap String AtlasSubject) (edge : Json) :
    Option AtlasRelation :=
  (edgeOutcome routable edge).relation?

def drawnAttachment (routable : InsertionMap String AtlasSubject) (edge : Json) :
    Option AtlasAttachment :=
  (edgeOutcome routable edge).attachment?

theorem drawnRelation_eq_some {relation : AtlasRelation} :
    drawnRelation routable edge = some relation ↔
      ∃ source target evidence, Joins routable edge source target evidence ∧
        edgePurpose edge evidence = some .relation ∧
        relation = ⟨source, target, "forward", evidence, relationRule⟩ := by
  rw [drawnRelation]
  obtain ⟨source, target, evidence, hjoins, ⟨hpurpose, heq⟩ | ⟨hpurpose, heq⟩⟩ | ⟨hnone, heq⟩ :=
    edgeOutcome_cases routable edge
  · rw [heq, EdgeOutcome.relation?, Option.some.injEq, eq_comm]
    constructor
    · rintro rfl
      exact ⟨source, target, evidence, hjoins, hpurpose, rfl⟩
    · rintro ⟨source', target', evidence', hjoins', -, rfl⟩
      obtain ⟨rfl, rfl, rfl⟩ := hjoins.unique hjoins'
      rfl
  · rw [heq]
    refine iff_of_false (fun h => by cases h) ?_
    rintro ⟨source', target', evidence', hjoins', hpurpose', -⟩
    obtain ⟨rfl, rfl, rfl⟩ := hjoins.unique hjoins'
    rw [hpurpose] at hpurpose'
    cases hpurpose'
  · refine iff_of_false ?_ ?_
    · obtain heq | heq := heq
      · rw [heq]
        exact fun h => by cases h
      · rw [heq]
        exact fun h => by cases h
    · rintro ⟨source', target', evidence', hjoins', -⟩
      exact hnone _ _ _ hjoins'

theorem drawnAttachment_eq_some {attachment : AtlasAttachment} :
    drawnAttachment routable edge = some attachment ↔
      ∃ source target evidence, Joins routable edge source target evidence ∧
        edgePurpose edge evidence = some .attachment ∧
        attachment = ⟨source, target, evidence, attachmentRule⟩ := by
  rw [drawnAttachment]
  obtain ⟨source, target, evidence, hjoins, ⟨hpurpose, heq⟩ | ⟨hpurpose, heq⟩⟩ | ⟨hnone, heq⟩ :=
    edgeOutcome_cases routable edge
  · rw [heq]
    refine iff_of_false (fun h => by cases h) ?_
    rintro ⟨source', target', evidence', hjoins', hpurpose', -⟩
    obtain ⟨rfl, rfl, rfl⟩ := hjoins.unique hjoins'
    rw [hpurpose] at hpurpose'
    cases hpurpose'
  · rw [heq, EdgeOutcome.attachment?, Option.some.injEq, eq_comm]
    constructor
    · rintro rfl
      exact ⟨source, target, evidence, hjoins, hpurpose, rfl⟩
    · rintro ⟨source', target', evidence', hjoins', -, rfl⟩
      obtain ⟨rfl, rfl, rfl⟩ := hjoins.unique hjoins'
      rfl
  · refine iff_of_false ?_ ?_
    · obtain heq | heq := heq
      · rw [heq]
        exact fun h => by cases h
      · rw [heq]
        exact fun h => by cases h
    · rintro ⟨source', target', evidence', hjoins', -⟩
      exact hnone _ _ _ hjoins'

end

/-! Ties that agree -/

section

variable {unicode : UnicodeTables} {input : AtlasRuntimeMapInput}
  {findings : Option FindingsOverlay}

theorem relationsOf_map (routable : InsertionMap String AtlasSubject) (edges : List Json) :
    relationsOf (edges.map (edgeOutcome routable)) = edges.filterMap (drawnRelation routable) :=
  List.filterMap_map ..

theorem attachmentsOf_map (routable : InsertionMap String AtlasSubject) (edges : List Json) :
    attachmentsOf (edges.map (edgeOutcome routable)) =
      edges.filterMap (drawnAttachment routable) :=
  List.filterMap_map ..

/-- The edges that attach something to a subject. -/
def attachesTo (routable : InsertionMap String AtlasSubject) (subject : String) (edge : Json) :
    Bool :=
  (drawnAttachment routable edge).any fun attachment => attachment.subject = subject

theorem attachmentsFrom_map (routable : InsertionMap String AtlasSubject) (edges : List Json)
    (subject : String) :
    attachmentsFrom (attachmentsOf (edges.map (edgeOutcome routable))) subject =
      (edges.filter (attachesTo routable subject)).filterMap (drawnAttachment routable) := by
  rw [attachmentsOf_map, attachmentsFrom]
  induction edges with
  | nil => rfl
  | cons edge edges ih =>
    cases hcase : drawnAttachment routable edge with
    | none =>
      rw [List.filterMap_cons_none hcase, ih,
        List.filter_cons_of_neg (by rw [attachesTo, hcase]; exact Bool.false_ne_true)]
    | some attachment =>
      rw [List.filterMap_cons_some hcase]
      by_cases hsubject : attachment.subject = subject
      · rw [List.filter_cons_of_pos (by simpa using hsubject), ih,
          List.filter_cons_of_pos (by rw [attachesTo, hcase]; simpa using hsubject),
          List.filterMap_cons_some hcase]
      · rw [List.filter_cons_of_neg (by simpa using hsubject), ih,
          List.filter_cons_of_neg (by rw [attachesTo, hcase]; simpa using hsubject)]

theorem filterMap_filter_isSome {α β : Type*} (f : α → Option β) (l : List α) :
    (l.filter fun a => (f a).isSome).filterMap f = l.filterMap f := by
  rw [List.filterMap_filter]
  refine List.filterMap_congr fun a _ => ?_
  cases f a with
  | none => rfl
  | some b => rfl

theorem take_filterMap {α β : Type*} {f : α → Option β} {l : List α}
    (h : ∀ a ∈ l, (f a).isSome = true) (n : ℕ) :
    (l.filterMap f).take n = (l.take n).filterMap f := by
  induction l generalizing n with
  | nil => rw [List.take_nil, List.filterMap_nil, List.take_nil]
  | cons a l ih =>
    obtain ⟨b, hb⟩ := Option.isSome_iff_exists.1 (h a List.mem_cons_self)
    cases n with
    | zero => rfl
    | succ n =>
      rw [List.filterMap_cons_some hb, List.take_succ_cons, List.take_succ_cons,
        List.filterMap_cons_some hb, ih fun a ha => h a (List.mem_cons_of_mem _ ha)]

theorem filterMap_eq_of_map_eq {α β : Type*} {f : α → Option β} {l l' : List α}
    (h : l.map f = l'.map f) : l.filterMap f = l'.filterMap f := by
  have hid (l : List α) : l.filterMap f = (l.map f).filterMap id := by
    rw [List.filterMap_map]
    rfl
  rw [hid, hid, h]

theorem drawsAttachment_iff (hedges : input.edges.length ≤ inputEdgesCap) {edge : Json}
    {subject : String} :
    attachesTo (subjectTable unicode input findings).routable subject edge = true ↔
      drawsAttachment input edge = true ∧ safeKey (edge.field? "source") = some subject := by
  rw [attachesTo, Option.any_eq_true, drawsAttachment, beq_iff_eq, Option.bind_eq_some_iff]
  simp only [drawnAttachment_eq_some, decide_eq_true_eq,
    @drawnEvidence_iff unicode input findings hedges]
  constructor
  · rintro ⟨attachment, ⟨source, target, evidence, hjoins, hpurpose, rfl⟩, rfl⟩
    exact ⟨⟨evidence, ⟨source, target, hjoins⟩, hpurpose⟩, hjoins.source_key⟩
  · rintro ⟨⟨evidence, ⟨source, target, hjoins⟩, hpurpose⟩, hsource⟩
    refine ⟨_, ⟨source, target, evidence, hjoins, hpurpose, rfl⟩, ?_⟩
    exact Option.some.inj (hjoins.source_key.symm.trans hsource)

section

variable (hedges : input.edges.length ≤ inputEdgesCap) (hties : TiesAgree input)
  {edges : List Json} (hperm : input.edges.Perm edges) {edges' : List Json}
  (hperm' : input.edges.Perm edges') (hsorted : Sorted edgeKey edges)
  (hsorted' : Sorted edgeKey edges')

include hedges hties hperm hperm' hsorted hsorted'

/-- Relations do not depend on the order of the edges. -/
theorem relationsOf_eq :
    edges.filterMap (drawnRelation (subjectTable unicode input findings).routable) =
      edges'.filterMap (drawnRelation (subjectTable unicode input findings).routable) := by
  generalize hroutable : (subjectTable unicode input findings).routable = routable
  rw [← filterMap_filter_isSome, ← filterMap_filter_isSome _ edges']
  apply filterMap_eq_of_map_eq
  have hsame := StableSort.map_take_eq_of_perm
    ((hperm.symm.trans hperm').filter fun edge => (drawnRelation routable edge).isSome)
    (hsorted.filter _) (hsorted'.filter _)
    (edges.filter fun edge => (drawnRelation routable edge).isSome).length (g := drawnRelation routable)
    fun i hi hi' _ htie => ?_
  · rw [List.take_length, List.take_of_length_le] at hsame
    · exact hsame
    · exact ((hperm.symm.trans hperm').filter _).length_eq.ge
  · obtain ⟨hmem, hdrawn⟩ := List.mem_filter.1 (List.getElem_mem hi)
    obtain ⟨hmem', hdrawn'⟩ := List.mem_filter.1 (List.getElem_mem hi')
    generalize (edges.filter fun edge => (drawnRelation routable edge).isSome)[i] = edge at *
    generalize (edges'.filter fun edge => (drawnRelation routable edge).isSome)[i] = edge' at *
    obtain ⟨relation, hrelation⟩ := Option.isSome_iff_exists.1 hdrawn
    obtain ⟨relation', hrelation'⟩ := Option.isSome_iff_exists.1 hdrawn'
    obtain ⟨source, target, evidence, hjoins, hpurpose, rfl⟩ := drawnRelation_eq_some.1 hrelation
    obtain ⟨source', target', evidence', hjoins', -, rfl⟩ := drawnRelation_eq_some.1 hrelation'
    obtain ⟨rfl, rfl, -⟩ := tie_ends hjoins hjoins' htie
    subst hroutable
    obtain rfl | ⟨hattachment, -⟩ := hties edge (hperm.mem_iff.2 hmem) edge'
      (hperm'.mem_iff.2 hmem') evidence evidence'
      ((drawnEvidence_iff hedges).2 ⟨_, _, hjoins⟩) ((drawnEvidence_iff hedges).2 ⟨_, _, hjoins'⟩)
      htie
    · rw [hrelation, hrelation']
    · rw [hpurpose] at hattachment
      cases hattachment

/-- Attachments do not either, as far as they are kept. -/
theorem attachments_take_eq (subject : String) :
    ((edges.filter (attachesTo (subjectTable unicode input findings).routable subject)).filterMap
        (drawnAttachment (subjectTable unicode input findings).routable)).take
        attachmentsPerSubjectCap =
      ((edges'.filter (attachesTo (subjectTable unicode input findings).routable
        subject)).filterMap (drawnAttachment (subjectTable unicode input findings).routable)).take
        attachmentsPerSubjectCap := by
  have hattaches := @drawsAttachment_iff unicode input findings hedges
  have hjoined := @drawnEvidence_iff unicode input findings hedges
  generalize (subjectTable unicode input findings).routable = routable at *
  have hsome (edges : List Json) : ∀ edge ∈ edges.filter (attachesTo routable subject),
      (drawnAttachment routable edge).isSome = true := fun edge hedge =>
    Option.isSome_of_any (List.mem_filter.1 hedge).2
  rw [take_filterMap (hsome edges), take_filterMap (hsome edges')]
  apply filterMap_eq_of_map_eq
  refine StableSort.map_take_eq_of_perm ((hperm.symm.trans hperm').filter _) (hsorted.filter _)
    (hsorted'.filter _) attachmentsPerSubjectCap fun i hi hi' hcap htie => ?_
  have hbefore : attachmentsBefore input
      (edges.filter (attachesTo routable subject))[i] ≤ i := by
    refine le_trans ?_ (StableSort.countP_lt_le (hsorted.filter (attachesTo routable subject)) hi)
    obtain ⟨-, hsource⟩ := hattaches.1 (List.mem_filter.1 (List.getElem_mem hi)).2
    generalize (edges.filter (attachesTo routable subject))[i] = edge at *
    rw [attachmentsBefore, hperm.countP_eq, List.countP_filter]
    refine List.countP_mono_left fun other _ hother => ?_
    rw [Bool.and_eq_true, Bool.and_eq_true, beq_iff_eq] at hother
    rw [Bool.and_eq_true]
    exact ⟨by simpa using hother.2, hattaches.2 ⟨hother.1.1, hother.1.2.trans hsource⟩⟩
  obtain ⟨hmem, hdrawn⟩ := List.mem_filter.1 (List.getElem_mem hi)
  obtain ⟨hmem', hdrawn'⟩ := List.mem_filter.1 (List.getElem_mem hi')
  generalize (edges.filter (attachesTo routable subject))[i] = edge at *
  generalize (edges'.filter (attachesTo routable subject))[i] = edge' at *
  obtain ⟨attachment, hattachment⟩ := Option.isSome_iff_exists.1 (Option.isSome_of_any hdrawn)
  obtain ⟨attachment', hattachment'⟩ := Option.isSome_iff_exists.1 (Option.isSome_of_any hdrawn')
  obtain ⟨source, target, evidence, hjoins, -, rfl⟩ := drawnAttachment_eq_some.1 hattachment
  obtain ⟨source', target', evidence', hjoins', -, rfl⟩ := drawnAttachment_eq_some.1 hattachment'
  obtain ⟨rfl, rfl, -⟩ := tie_ends hjoins hjoins' htie
  obtain rfl | ⟨-, hpast⟩ := hties edge (hperm.mem_iff.2 hmem) edge' (hperm'.mem_iff.2 hmem')
    evidence evidence' (hjoined.2 ⟨_, _, hjoins⟩) (hjoined.2 ⟨_, _, hjoins'⟩) htie
  · rw [hattachment, hattachment']
  · omega

end

end

end DockerMap.Web.Atlas
