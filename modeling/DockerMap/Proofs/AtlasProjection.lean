import DockerMap.Proofs.AtlasEvidence

/-! What the projection keeps of a runtime map: a routable subject for each key that one record
has, and the relations and the attachments of the edges between two of them. -/

namespace DockerMap.Web.Atlas

open StableSort (sortBy)

/-! Records -/

/-- The routing identity of a node. -/
def nodeKey (node : Json) : Option String := safeKey (node.field? "id")

def recordsOf (nodes : List Json) (key : String) : List Json :=
  nodes.filter fun node => nodeKey node = some key

theorem addNode_none {state : List AtlasDiagnosticKind × NodeRecords} {node : Json}
    (h : nodeKey node = none) : addNode state node = (addDiagnostic state.1 .unresolved, state.2) := by
  rw [nodeKey] at h
  rw [addNode, h]

theorem addNode_some {state : List AtlasDiagnosticKind × NodeRecords} {node : Json} {key : String}
    (h : nodeKey node = some key) : addNode state node = (state.1, state.2.push key node) := by
  rw [nodeKey] at h
  rw [addNode, h]

theorem group_foldl_addNode (nodes : List Json) (state : List AtlasDiagnosticKind × NodeRecords)
    (key : String) :
    (nodes.foldl addNode state).2.group key = state.2.group key ++ recordsOf nodes key := by
  induction nodes generalizing state with
  | nil => exact (List.append_nil _).symm
  | cons node nodes ih =>
    rw [List.foldl_cons, ih]
    cases hnode : nodeKey node with
    | none =>
      rw [addNode_none hnode, recordsOf, recordsOf,
        List.filter_cons_of_neg (by simp [hnode])]
    | some found =>
      rw [addNode_some hnode, InsertionMap.group_push, recordsOf, recordsOf]
      by_cases hkey : key = found
      · rw [if_pos hkey, List.filter_cons_of_pos (by simp [hnode, hkey]), List.append_assoc]
        rfl
      · rw [if_neg hkey, List.append_nil,
          List.filter_cons_of_neg (by simpa [hnode] using Ne.symm hkey)]

theorem inhabited_foldl_addNode (nodes : List Json)
    {state : List AtlasDiagnosticKind × NodeRecords} (h : state.2.Inhabited) :
    (nodes.foldl addNode state).2.Inhabited := by
  induction nodes generalizing state with
  | nil => exact h
  | cons node nodes ih =>
    rw [List.foldl_cons]
    apply ih
    cases hnode : nodeKey node with
    | none =>
      rw [addNode_none hnode]
      exact h
    | some found =>
      rw [addNode_some hnode]
      exact h.push found node

theorem diagnostics_foldl_addNode (nodes : List Json)
    (state : List AtlasDiagnosticKind × NodeRecords) :
    (nodes.foldl addNode state).1 =
      (addDiagnostic · .unresolved)^[nodes.countP fun node => nodeKey node = none] state.1 := by
  induction nodes generalizing state with
  | nil => rfl
  | cons node nodes ih =>
    rw [List.foldl_cons, ih]
    cases hnode : nodeKey node with
    | none =>
      rw [addNode_none hnode, List.countP_cons_of_pos (by simp [hnode]), Function.iterate_succ_apply]
    | some found => rw [addNode_some hnode, List.countP_cons_of_neg (by simp [hnode])]

theorem total_foldl_addNode (nodes : List Json)
    (state : List AtlasDiagnosticKind × NodeRecords) :
    (nodes.foldl addNode state).2.total List.length ≤
      state.2.total List.length + nodes.length := by
  induction nodes generalizing state with
  | nil => exact le_refl _
  | cons node nodes ih =>
    rw [List.foldl_cons, List.length_cons]
    refine (ih _).trans ?_
    cases hnode : nodeKey node with
    | none =>
      rw [addNode_none hnode]
      dsimp only
      omega
    | some found =>
      rw [addNode_some hnode]
      dsimp only
      rw [InsertionMap.total_push]
      omega

/-- The records of the nodes, in the order of their keys. -/
def sortedRecords (nodes : List Json) : List (String × List Json) :=
  sortBy (fun entry => JavaScript.codeUnits entry.1) (nodes.foldl addNode ([], ∅)).2.entries

theorem records_eq (nodes : List Json) (diagnostics : List AtlasDiagnosticKind) :
    (nodes.foldl addNode (diagnostics, ∅)).2 = (nodes.foldl addNode ([], ∅)).2 := by
  have hsame (state state' : List AtlasDiagnosticKind × NodeRecords) (h : state.2 = state'.2) :
      (nodes.foldl addNode state).2 = (nodes.foldl addNode state').2 := by
    induction nodes generalizing state state' with
    | nil => exact h
    | cons node nodes ih =>
      rw [List.foldl_cons, List.foldl_cons]
      apply ih
      cases hnode : nodeKey node with
      | none =>
        rw [addNode_none hnode, addNode_none hnode]
        exact h
      | some found =>
        rw [addNode_some hnode, addNode_some hnode, h]
  exact hsame _ _ rfl

theorem get?_records {nodes : List Json} {key : String} {records : List Json} :
    (nodes.foldl addNode ([], ∅)).2.get? key = some records ↔
      recordsOf nodes key = records ∧ records ≠ [] := by
  rw [(inhabited_foldl_addNode nodes InsertionMap.inhabited_empty).get?_eq_some_iff,
    group_foldl_addNode]
  rfl

theorem mem_sortedRecords {nodes : List Json} {entry : String × List Json} :
    entry ∈ sortedRecords nodes ↔ recordsOf nodes entry.1 = entry.2 ∧ entry.2 ≠ [] := by
  rw [sortedRecords, StableSort.mem_sortBy, ← get?_records, InsertionMap.get?_eq_some_iff]

theorem nodup_sortedRecords (nodes : List Json) : ((sortedRecords nodes).map Prod.fst).Nodup :=
  ((StableSort.sortBy_perm _ _).map Prod.fst).nodup_iff.2
    (nodes.foldl addNode ([], ∅)).2.nodup

theorem sum_sortedRecords (nodes : List Json) :
    ((sortedRecords nodes).map fun entry => entry.2.length).sum ≤ nodes.length := by
  have hperm := (StableSort.sortBy_perm (fun entry => JavaScript.codeUnits entry.1)
    (nodes.foldl addNode ([], ∅)).2.entries).map fun entry => entry.2.length
  rw [sortedRecords, hperm.sum_eq]
  exact (total_foldl_addNode nodes ([], ∅)).trans (by simp [InsertionMap.total_empty])

/-! Subjects -/

section

variable {unicode : UnicodeTables} {freshness : InsertionMap ProviderSlot AtlasFreshness}
  {attention : InsertionMap String AtlasAttention}

/-- The routable subject of an entry. -/
def IsSubjectOf (unicode : UnicodeTables) (freshness : InsertionMap ProviderSlot AtlasFreshness)
    (attention : InsertionMap String AtlasAttention) (entry : String × List Json)
    (subject : AtlasSubject) : Prop :=
  ∃ node kind, entry.2 = [node] ∧ runtimeKind (node.field? "type") = some kind ∧
    subject = routableSubject unicode freshness attention entry.1 node kind

/-- The key of a diagnostic is derived, and no runtime id. -/
structure IsDiagnostic (subject : AtlasSubject) : Prop where
  not_routable : subject.routable = false
  derived : starts subject.key "atlas:" = true

theorem starts_append (word text : String) : starts (word ++ text) word = true := by
  rw [starts, Text.startsWith, String.toList_append]
  exact decide_eq_true (List.prefix_append ..)

theorem isDiagnostic_nonRoutable (kind display : String) (ambiguity : AtlasAmbiguity)
    (ordinal : ℕ) : IsDiagnostic (nonRoutableSubject kind display ambiguity ordinal) where
  not_routable := rfl
  derived := by
    rw [nonRoutableSubject, derivedKey, String.append_assoc, String.append_assoc]
    exact starts_append ..

theorem addSubject_cases (table : SubjectTable) (entry : String × List Json) :
    (∃ subject, IsSubjectOf unicode freshness attention entry subject ∧
      entry.2.length = 1 ∧
      addSubject unicode freshness attention table entry =
        { table with
          subjects := table.subjects ++ [subject]
          routable := table.routable.set entry.1 subject }) ∨
    ((∀ subject, ¬ IsSubjectOf unicode freshness attention entry subject) ∧
      (addSubject unicode freshness attention table entry).routable = table.routable ∧
      ∃ diagnosed, (∀ subject ∈ diagnosed, IsDiagnostic subject) ∧
        diagnosed.length = entry.2.length ∧
        (addSubject unicode freshness attention table entry).subjects =
          table.subjects ++ diagnosed) := by
  obtain ⟨key, records⟩ := entry
  have hmany (hlength : records.length ≠ 1) (subject : AtlasSubject) :
      ¬ IsSubjectOf unicode freshness attention (key, records) subject := by
    rintro ⟨node, kind, heq, -⟩
    have heq : records = [node] := heq
    rw [heq] at hlength
    exact hlength rfl
  have hcollision (ordinal : ℕ) : ∀ subject ∈ (List.range' ordinal records.length).map
      collisionSubject, IsDiagnostic subject := by
    intro subject hsubject
    obtain ⟨i, -, rfl⟩ := List.mem_map.1 hsubject
    exact isDiagnostic_nonRoutable ..
  rcases records with _ | ⟨node, _ | ⟨second, rest⟩⟩
  · exact Or.inr ⟨hmany (by simp), rfl, [], by simp, rfl, rfl⟩
  · cases hkind : runtimeKind (node.field? "type") with
    | none =>
      refine Or.inr ⟨?_, ?_, [unsupportedSubject table.nonRoutableOrdinal], ?_, rfl, ?_⟩
      · rintro subject ⟨found, kind, heq, hfound, -⟩
        obtain rfl := (List.cons.inj heq).1
        rw [hkind] at hfound
        cases hfound
      · simp only [addSubject, hkind]
      · intro subject hsubject
        rw [List.mem_singleton.1 hsubject]
        exact isDiagnostic_nonRoutable ..
      · simp only [addSubject, hkind]
    | some kind =>
      refine Or.inl ⟨routableSubject unicode freshness attention key node kind,
        ⟨node, kind, rfl, hkind, rfl⟩, rfl, ?_⟩
      simp only [addSubject, hkind]
  · exact Or.inr ⟨hmany (by simp), rfl, _, hcollision table.nonRoutableOrdinal, by simp, rfl⟩

theorem IsSubjectOf.key_eq {entry : String × List Json} {subject : AtlasSubject}
    (h : IsSubjectOf unicode freshness attention entry subject) : subject.key = entry.1 := by
  obtain ⟨node, kind, -, -, rfl⟩ := h
  rfl

theorem IsSubjectOf.routable {entry : String × List Json} {subject : AtlasSubject}
    (h : IsSubjectOf unicode freshness attention entry subject) : subject.routable = true := by
  obtain ⟨node, kind, -, -, rfl⟩ := h
  rfl

theorem IsSubjectOf.unique {entry : String × List Json} {subject subject' : AtlasSubject}
    (h : IsSubjectOf unicode freshness attention entry subject)
    (h' : IsSubjectOf unicode freshness attention entry subject') : subject = subject' := by
  obtain ⟨node, kind, heq, hkind, rfl⟩ := h
  obtain ⟨node', kind', heq', hkind', rfl⟩ := h'
  obtain rfl := (List.cons.inj (heq.symm.trans heq')).1
  rw [Option.some.inj (hkind.symm.trans hkind')]

variable (entries : List (String × List Json)) (diagnostics : List AtlasDiagnosticKind)

theorem mem_subjects {subject : AtlasSubject} :
    subject ∈ (entries.foldl (addSubject unicode freshness attention) { diagnostics }).subjects ∧
        subject.routable = true ↔
      ∃ entry ∈ entries, IsSubjectOf unicode freshness attention entry subject := by
  induction entries using List.reverseRecOn with
  | nil => simp
  | append_singleton entries entry ih =>
    rw [List.foldl_append, List.foldl_cons, List.foldl_nil]
    generalize entries.foldl (addSubject unicode freshness attention) { diagnostics } = table at ih
    have hsplit : (∃ e ∈ entries ++ [entry],
        IsSubjectOf unicode freshness attention e subject) ↔
          (subject ∈ table.subjects ∧ subject.routable = true) ∨
            IsSubjectOf unicode freshness attention entry subject := by
      simp only [List.mem_append, List.mem_singleton, or_and_right, exists_or, exists_eq_left, ih]
    rw [hsplit]
    obtain ⟨found, hfound, -, heq⟩ | ⟨hnone, -, diagnosed, hdiagnosed, -, heq⟩ :=
      @addSubject_cases unicode freshness attention table entry
    · have hiff : IsSubjectOf unicode freshness attention entry subject ↔ subject = found :=
        ⟨fun h => h.unique hfound, fun h => h ▸ hfound⟩
      rw [heq, hiff, List.mem_append, List.mem_singleton, or_and_right]
      refine or_congr_right ⟨And.left, fun h => ⟨h, ?_⟩⟩
      rw [h]
      exact hfound.routable
    · rw [heq, List.mem_append, or_and_right, or_iff_left (hnone subject)]
      refine or_iff_left fun h => ?_
      rw [(hdiagnosed subject h.1).not_routable] at h
      exact Bool.false_ne_true h.2

theorem isDiagnostic_of_mem {subject : AtlasSubject}
    (h : subject ∈ (entries.foldl (addSubject unicode freshness attention)
      { diagnostics }).subjects) (hroutable : subject.routable = false) :
    IsDiagnostic subject := by
  induction entries using List.reverseRecOn with
  | nil => cases h
  | append_singleton entries entry ih =>
    rw [List.foldl_append, List.foldl_cons, List.foldl_nil] at h
    obtain ⟨found, hfound, -, heq⟩ | ⟨-, -, diagnosed, hdiagnosed, -, heq⟩ :=
      @addSubject_cases unicode freshness attention
        (entries.foldl (addSubject unicode freshness attention) { diagnostics }) entry
    · rw [heq, List.mem_append, List.mem_singleton] at h
      refine h.elim ih fun heq => ?_
      rw [heq, hfound.routable] at hroutable
      cases hroutable
    · rw [heq, List.mem_append] at h
      exact h.elim ih (hdiagnosed subject)

/-- The keys of the routable subjects, each once. -/
theorem routable_keys_sublist :
    (((entries.foldl (addSubject unicode freshness attention)
      { diagnostics }).subjects.filter AtlasSubject.routable).map AtlasSubject.key).Sublist
        (entries.map Prod.fst) := by
  induction entries using List.reverseRecOn with
  | nil => exact List.Sublist.refl _
  | append_singleton entries entry ih =>
    rw [List.foldl_append, List.foldl_cons, List.foldl_nil, List.map_append, List.map_singleton]
    obtain ⟨found, hfound, -, heq⟩ | ⟨-, -, diagnosed, hdiagnosed, -, heq⟩ :=
      @addSubject_cases unicode freshness attention
        (entries.foldl (addSubject unicode freshness attention) { diagnostics }) entry
    · rw [heq, List.filter_append, List.filter_cons_of_pos hfound.routable, List.filter_nil,
        List.map_append, List.map_singleton, hfound.key_eq]
      exact ih.append (List.Sublist.refl _)
    · have hnone : diagnosed.filter AtlasSubject.routable = [] :=
        List.filter_eq_nil_iff.2 fun subject hsubject => by
          rw [(hdiagnosed subject hsubject).not_routable]
          exact Bool.false_ne_true
      rw [heq, List.filter_append, hnone, List.append_nil]
      exact ih.trans (List.sublist_append_left ..)

theorem get?_routable (hnodup : (entries.map Prod.fst).Nodup) {key : String}
    {subject : AtlasSubject} :
    (entries.foldl (addSubject unicode freshness attention)
        { diagnostics }).routable.get? key = some subject ↔
      ∃ entry ∈ entries, entry.1 = key ∧
        IsSubjectOf unicode freshness attention entry subject := by
  induction entries using List.reverseRecOn with
  | nil => simp [InsertionMap.get?_empty]
  | append_singleton entries entry ih =>
    rw [List.map_append, List.nodup_append] at hnodup
    obtain ⟨hnodup, -, hfresh⟩ := hnodup
    have ih := ih hnodup
    rw [List.foldl_append, List.foldl_cons, List.foldl_nil]
    generalize entries.foldl (addSubject unicode freshness attention) { diagnostics } = table at ih
    have hsplit : (∃ e ∈ entries ++ [entry], e.1 = key ∧
        IsSubjectOf unicode freshness attention e subject) ↔
          table.routable.get? key = some subject ∨
            entry.1 = key ∧ IsSubjectOf unicode freshness attention entry subject := by
      simp only [List.mem_append, List.mem_singleton, or_and_right, exists_or, exists_eq_left, ih]
    rw [hsplit]
    obtain ⟨found, hfound, -, heq⟩ | ⟨hnone, heq, -⟩ :=
      @addSubject_cases unicode freshness attention table entry
    · have hiff : IsSubjectOf unicode freshness attention entry subject ↔ subject = found :=
        ⟨fun h => h.unique hfound, fun h => h ▸ hfound⟩
      rw [heq, hiff]
      simp only [InsertionMap.get?_set]
      split_ifs with hkey
      · have hnever : table.routable.get? key ≠ some subject := by
          intro hget
          obtain ⟨e, he, hekey, -⟩ := ih.1 hget
          exact hfresh e.1 (List.mem_map_of_mem he) entry.1 (by simp) (hekey.trans hkey)
        rw [Option.some.injEq, or_iff_right hnever, eq_comm, and_iff_right hkey.symm]
      · exact (or_iff_left fun h => hkey h.1.symm).symm
    · rw [heq, or_iff_left fun h => hnone subject h.2]

theorem length_subjects :
    (entries.foldl (addSubject unicode freshness attention) { diagnostics }).subjects.length =
      (entries.map fun entry => entry.2.length).sum := by
  induction entries using List.reverseRecOn with
  | nil => rfl
  | append_singleton entries entry ih =>
    rw [List.foldl_append, List.foldl_cons, List.foldl_nil, List.map_append, List.sum_append,
      List.map_singleton, List.sum_singleton, ← ih]
    obtain ⟨found, -, hlength, heq⟩ | ⟨-, -, diagnosed, -, hlength, heq⟩ :=
      @addSubject_cases unicode freshness attention
        (entries.foldl (addSubject unicode freshness attention) { diagnostics }) entry
    · rw [heq, List.length_append, hlength]
      rfl
    · rw [heq, List.length_append, hlength]

end

/-! Counts -/

theorem countOf_addCount (counts : InsertionMap String ℕ) (k key : String) :
    countOf (addCount counts k) key = countOf counts key + if key = k then 1 else 0 := by
  rw [countOf, addCount, InsertionMap.get?_set]
  split_ifs with hkey
  · rw [hkey]
    rfl
  · rfl

theorem total_addCount (counts : InsertionMap String ℕ) (k : String) :
    (addCount counts k).total id = counts.total id + 1 := by
  have htotal := InsertionMap.total_set id counts k (countOf counts k + 1)
  have hcount : countOf counts k = (counts.get? k).elim 0 id := by
    rw [countOf]
    cases counts.get? k with
    | none => rfl
    | some n => rfl
  rw [addCount]
  simp only [id_eq] at htotal
  omega

/-! Edges -/

def EdgeOutcome.relation? : EdgeOutcome → Option AtlasRelation
  | .relation found => some found
  | _ => none

def EdgeOutcome.attachment? : EdgeOutcome → Option AtlasAttachment
  | .attachment found => some found
  | _ => none

def relationsOf (outcomes : List EdgeOutcome) : List AtlasRelation :=
  outcomes.filterMap EdgeOutcome.relation?

/-- The attachments before the cap. -/
def attachmentsOf (outcomes : List EdgeOutcome) : List AtlasAttachment :=
  outcomes.filterMap EdgeOutcome.attachment?

def attachmentsFrom (attachments : List AtlasAttachment) (key : String) : List AtlasAttachment :=
  attachments.filter fun attachment => attachment.subject = key

theorem attachmentsFrom_concat (attachments : List AtlasAttachment) (attachment : AtlasAttachment)
    (key : String) :
    attachmentsFrom (attachments ++ [attachment]) key =
      attachmentsFrom attachments key ++ if key = attachment.subject then [attachment] else [] := by
  rw [attachmentsFrom, List.filter_append]
  split_ifs with hkey
  · rw [List.filter_cons_of_pos (by simp [hkey])]
    rfl
  · rw [List.filter_cons_of_neg (by simpa using Ne.symm hkey)]
    rfl

theorem take_take_append {α : Type*} (n : ℕ) (l l' : List α) :
    (l.take n ++ l').take n = (l ++ l').take n := by
  rw [List.take_append, List.take_append, List.take_take, Nat.min_self, List.length_take]
  congr 2
  omega

theorem relations_addOutcome (table : EdgeTable) (outcome : EdgeOutcome)
    (h : table.relations.length ≤ relationsCap) :
    (addOutcome table outcome).relations =
      (table.relations ++ relationsOf [outcome]).take relationsCap := by
  have hsame : table.relations = (table.relations ++ []).take relationsCap := by
    rw [List.append_nil, List.take_of_length_le h]
  cases outcome with
  | relation found =>
    have hfound : relationsOf [.relation found] = [found] := rfl
    rw [addOutcome, hfound]
    split_ifs with hfull
    · rw [List.take_append_of_le_length hfull, List.take_of_length_le h]
    · rw [List.take_of_length_le]
      rw [List.length_append, List.length_singleton]
      omega
  | attachment found =>
    rw [addOutcome]
    split_ifs
    · exact hsame
    · exact hsame
  | unresolved => exact hsame
  | rejected => exact hsame
  | unsupported => exact hsame

theorem relations_foldl (outcomes : List EdgeOutcome) (table : EdgeTable)
    (h : table.relations.length ≤ relationsCap) :
    (outcomes.foldl addOutcome table).relations =
      (table.relations ++ relationsOf outcomes).take relationsCap := by
  induction outcomes using List.reverseRecOn with
  | nil => rw [relationsOf, List.filterMap_nil, List.append_nil, List.take_of_length_le h]; rfl
  | append_singleton outcomes outcome ih =>
    have hbound : (outcomes.foldl addOutcome table).relations.length ≤ relationsCap := by
      rw [ih]
      exact List.length_take_le ..
    have hconcat : relationsOf (outcomes ++ [outcome]) = relationsOf outcomes ++ relationsOf [outcome] :=
      List.filterMap_append
    rw [List.foldl_append, List.foldl_cons, List.foldl_nil, relations_addOutcome _ _ hbound, ih,
      hconcat, ← List.append_assoc]
    exact take_take_append ..

/-- What the loop has made of the attachments so far. -/
structure AttachmentSummary (omitted : ℕ) (all : List AtlasAttachment) (table : EdgeTable) :
    Prop where
  attachments : ∀ key, attachmentsFrom table.attachments key =
    (attachmentsFrom all key).take attachmentsPerSubjectCap
  listed : table.attachments.Sublist all
  counts : ∀ key, countOf table.attachmentCounts key =
    min (attachmentsFrom all key).length attachmentsPerSubjectCap
  population : ∀ key, countOf table.attachmentPopulation key = (attachmentsFrom all key).length
  populated : ∀ key, table.attachmentPopulation.get? key ≠ some 0
  populationTotal : table.attachmentPopulation.total id = all.length
  omissions : ∀ key, countOf table.attachmentOmissions key =
    (attachmentsFrom all key).length - attachmentsPerSubjectCap
  omitted : omitted + table.attachmentOmissions.total id ≤ table.omittedEdges

namespace AttachmentSummary

variable {omitted : ℕ} {all : List AtlasAttachment} {table : EdgeTable}

theorem initial (diagnostics : List AtlasDiagnosticKind) (omitted : ℕ) :
    AttachmentSummary omitted [] { diagnostics, omittedEdges := omitted } where
  attachments _ := rfl
  listed := List.Sublist.refl _
  counts _ := rfl
  population _ := rfl
  populated _ h := by cases h
  populationTotal := rfl
  omissions _ := rfl
  omitted := le_refl _

/-- The loop reads nothing else. -/
theorem frame (h : AttachmentSummary omitted all table) (diagnostics : List AtlasDiagnosticKind)
    (relations : List AtlasRelation) {omittedEdges : ℕ} (hle : table.omittedEdges ≤ omittedEdges) :
    AttachmentSummary omitted all { table with diagnostics, relations, omittedEdges } where
  attachments := h.attachments
  listed := h.listed
  counts := h.counts
  population := h.population
  populated := h.populated
  populationTotal := h.populationTotal
  omissions := h.omissions
  omitted := h.omitted.trans hle

theorem population_concat (h : AttachmentSummary omitted all table) (attachment : AtlasAttachment)
    (key : String) :
    countOf (addCount table.attachmentPopulation attachment.subject) key =
      (attachmentsFrom (all ++ [attachment]) key).length := by
  rw [countOf_addCount, h.population, attachmentsFrom_concat, List.length_append]
  split_ifs
  · rfl
  · rfl

theorem populated_concat (h : AttachmentSummary omitted all table) (subject key : String) :
    (addCount table.attachmentPopulation subject).get? key ≠ some 0 := by
  rw [addCount, InsertionMap.get?_set]
  split_ifs
  · simp
  · exact h.populated key

theorem total_concat (h : AttachmentSummary omitted all table) (attachment : AtlasAttachment) :
    (addCount table.attachmentPopulation attachment.subject).total id =
      (all ++ [attachment]).length := by
  rw [total_addCount, h.populationTotal, List.length_append, List.length_singleton]

/-- Past the cap of its subject. -/
theorem drop (h : AttachmentSummary omitted all table) (attachment : AtlasAttachment)
    (hfull : attachmentsPerSubjectCap ≤ (attachmentsFrom all attachment.subject).length) :
    AttachmentSummary omitted (all ++ [attachment])
      { table with
        attachmentPopulation := addCount table.attachmentPopulation attachment.subject
        attachmentOmissions := addCount table.attachmentOmissions attachment.subject
        omittedEdges := table.omittedEdges + 1 } where
  attachments key := by
    rw [attachmentsFrom_concat]
    split_ifs with hkey
    · rw [List.take_append_of_le_length (hkey ▸ hfull)]
      exact h.attachments key
    · rw [List.append_nil]
      exact h.attachments key
  listed := h.listed.trans (List.sublist_append_left ..)
  counts key := by
    rw [attachmentsFrom_concat]
    dsimp only
    rw [h.counts]
    split_ifs with hkey
    · rw [hkey, List.length_append, List.length_singleton]
      omega
    · rw [List.append_nil]
  population := h.population_concat attachment
  populated := h.populated_concat attachment.subject
  populationTotal := h.total_concat attachment
  omissions key := by
    rw [attachmentsFrom_concat, countOf_addCount, h.omissions]
    split_ifs with hkey
    · rw [hkey, List.length_append, List.length_singleton]
      omega
    · rw [List.append_nil, Nat.add_zero]
  omitted := by
    have homitted := h.omitted
    rw [total_addCount]
    dsimp only
    omega

/-- Within the cap of its subject. -/
theorem keep (h : AttachmentSummary omitted all table) (attachment : AtlasAttachment)
    (hfits : (attachmentsFrom all attachment.subject).length < attachmentsPerSubjectCap) :
    AttachmentSummary omitted (all ++ [attachment])
      { table with
        attachmentPopulation := addCount table.attachmentPopulation attachment.subject
        attachmentCounts := addCount table.attachmentCounts attachment.subject
        attachments := table.attachments ++ [attachment] } where
  attachments key := by
    dsimp only
    rw [attachmentsFrom_concat, attachmentsFrom_concat, h.attachments]
    split_ifs with hkey
    · rw [hkey, List.take_of_length_le hfits.le, List.take_of_length_le]
      rw [List.length_append, List.length_singleton]
      omega
    · rw [List.append_nil, List.append_nil]
  listed := h.listed.append (List.Sublist.refl _)
  counts key := by
    rw [attachmentsFrom_concat, countOf_addCount, h.counts]
    split_ifs with hkey
    · rw [hkey, List.length_append, List.length_singleton]
      omega
    · rw [List.append_nil, Nat.add_zero]
  population := h.population_concat attachment
  populated := h.populated_concat attachment.subject
  populationTotal := h.total_concat attachment
  omissions key := by
    rw [attachmentsFrom_concat]
    dsimp only
    rw [h.omissions]
    split_ifs with hkey
    · rw [hkey, List.length_append, List.length_singleton]
      omega
    · rw [List.append_nil]
  omitted := h.omitted

theorem addOutcome (h : AttachmentSummary omitted all table) (outcome : EdgeOutcome) :
    AttachmentSummary omitted (all ++ attachmentsOf [outcome]) (addOutcome table outcome) := by
  have hsame : all ++ [] = all := List.append_nil all
  cases outcome with
  | attachment found =>
    have hfound : attachmentsOf [.attachment found] = [found] := rfl
    have hcounts := h.counts found.subject
    rw [Atlas.addOutcome, hfound]
    split_ifs with hfull
    · exact h.drop found (by omega)
    · exact h.keep found (by omega)
  | relation found =>
    have hnone : attachmentsOf [.relation found] = [] := rfl
    rw [Atlas.addOutcome, hnone, hsame]
    split_ifs
    · exact h.frame table.diagnostics table.relations (Nat.le_succ _)
    · exact h.frame table.diagnostics _ (le_refl _)
  | unresolved =>
    have hnone : attachmentsOf [.unresolved] = [] := rfl
    rw [hnone, hsame]
    exact h.frame _ table.relations (le_refl _)
  | rejected =>
    have hnone : attachmentsOf [.rejected] = [] := rfl
    rw [hnone, hsame]
    exact h
  | unsupported =>
    have hnone : attachmentsOf [.unsupported] = [] := rfl
    rw [hnone, hsame]
    exact h.frame _ table.relations (le_refl _)

theorem foldl (outcomes : List EdgeOutcome) (h : AttachmentSummary omitted all table) :
    AttachmentSummary omitted (all ++ attachmentsOf outcomes)
      (outcomes.foldl Atlas.addOutcome table) := by
  induction outcomes generalizing all table with
  | nil =>
    rw [attachmentsOf, List.filterMap_nil, List.append_nil]
    exact h
  | cons outcome outcomes ih =>
    have hsplit : attachmentsOf (outcome :: outcomes) =
        attachmentsOf [outcome] ++ attachmentsOf outcomes :=
      @List.filterMap_append _ _ [outcome] outcomes _
    rw [hsplit, ← List.append_assoc]
    exact ih (h.addOutcome outcome)

end AttachmentSummary

/-! Outcomes -/

section

variable {routable : InsertionMap String AtlasSubject} {edge : Json}

/-- An edge between two routable subjects whose evidence stands. -/
structure Joins (routable : InsertionMap String AtlasSubject) (edge : Json)
    (source target : String) (evidence : List AtlasEdgeEvidenceSourceRef) : Prop where
  source_key : safeKey (edge.field? "source") = some source
  target_key : safeKey (edge.field? "target") = some target
  source_routable : (routable.get? source).isSome = true
  target_routable : (routable.get? target).isSome = true
  structural : structuralEvidence edge source target = some evidence

theorem edgeOutcome_cases (routable : InsertionMap String AtlasSubject) (edge : Json) :
    (∃ source target evidence, Joins routable edge source target evidence ∧
      (edgePurpose edge evidence = some .relation ∧ edgeOutcome routable edge =
          .relation ⟨source, target, "forward", evidence, relationRule⟩ ∨
        edgePurpose edge evidence = some .attachment ∧ edgeOutcome routable edge =
          .attachment ⟨source, target, evidence, attachmentRule⟩)) ∨
    (∀ source target evidence, ¬ Joins routable edge source target evidence) ∧
      (edgeOutcome routable edge = .unresolved ∨ edgeOutcome routable edge = .rejected) := by
  rw [edgeOutcome]
  cases hsource : safeKey (edge.field? "source") with
  | none =>
    refine Or.inr ⟨fun source target evidence h => ?_, Or.inl rfl⟩
    rw [h.source_key] at hsource
    cases hsource
  | some source =>
    cases htarget : safeKey (edge.field? "target") with
    | none =>
      refine Or.inr ⟨fun source target evidence h => ?_, Or.inl rfl⟩
      rw [h.target_key] at htarget
      cases htarget
    | some target =>
      have hunique {source' target' : String} {evidence : List AtlasEdgeEvidenceSourceRef}
          (h : Joins routable edge source' target' evidence) :
          source' = source ∧ target' = target :=
        ⟨Option.some.inj (h.source_key.symm.trans hsource),
          Option.some.inj (h.target_key.symm.trans htarget)⟩
      dsimp only
      split_ifs with hroutable
      · rw [Bool.and_eq_true] at hroutable
        cases hevidence : structuralEvidence edge source target with
        | none =>
          refine Or.inr ⟨fun source' target' evidence h => ?_, Or.inr rfl⟩
          obtain ⟨rfl, rfl⟩ := hunique h
          rw [h.structural] at hevidence
          cases hevidence
        | some evidence =>
          refine Or.inl ⟨source, target, evidence,
            ⟨hsource, htarget, hroutable.1, hroutable.2, hevidence⟩, ?_⟩
          cases hpurpose : edgePurpose edge evidence with
          | none => exact absurd hpurpose (isAccepted_of_structural hevidence).purpose
          | some purpose =>
            cases purpose with
            | relation => exact Or.inl ⟨rfl, by simp only [hpurpose]⟩
            | attachment => exact Or.inr ⟨rfl, by simp only [hpurpose]⟩
      · refine Or.inr ⟨fun source' target' evidence h => hroutable ?_, Or.inl rfl⟩
        obtain ⟨rfl, rfl⟩ := hunique h
        rw [h.source_routable, h.target_routable]
        rfl

theorem attachment_of_edgeOutcome {attachment : AtlasAttachment}
    (h : edgeOutcome routable edge = .attachment attachment) :
    Joins routable edge attachment.subject attachment.context attachment.evidence ∧
      edgePurpose edge attachment.evidence = some .attachment ∧
      attachment.rule = attachmentRule := by
  obtain ⟨source, target, evidence, hjoins, ⟨-, heq⟩ | ⟨hpurpose, heq⟩⟩ | ⟨-, heq | heq⟩ :=
    edgeOutcome_cases routable edge
  · rw [h] at heq
    cases heq
  · rw [h] at heq
    cases heq
    exact ⟨hjoins, hpurpose, rfl⟩
  · rw [h] at heq
    cases heq
  · rw [h] at heq
    cases heq

end

/-! The projection -/

section

variable (unicode : UnicodeTables) (input : AtlasRuntimeMapInput)
  (findings : Option FindingsOverlay)

def projectedNodes : List Json :=
  if inputNodesCap < input.nodes.length then []
  else sortBy (canonicalNodeKey unicode) input.nodes

def projectedEdges : List Json :=
  if inputEdgesCap < input.edges.length then [] else sortBy edgeKey input.edges

theorem length_projectedNodes : (projectedNodes unicode input).length ≤ inputNodesCap := by
  rw [projectedNodes]
  split_ifs with h
  · exact Nat.zero_le _
  · rw [StableSort.length_sortBy]
    exact not_lt.1 h

theorem length_projectedEdges : (projectedEdges input).length ≤ inputEdgesCap := by
  rw [projectedEdges]
  split_ifs with h
  · exact Nat.zero_le _
  · rw [StableSort.length_sortBy]
    exact not_lt.1 h

/-- The diagnostics before the nodes are looked at. -/
def overlayDiagnostics : List AtlasDiagnosticKind :=
  addDiagnosticIf (0 < (attentionBySubject input findings).omitted)
    (addDiagnosticIf (inputNodesCap < input.nodes.length) [] .boundedOmission) .boundedOmission

def nodeDiagnostics : List AtlasDiagnosticKind :=
  ((projectedNodes unicode input).foldl addNode (overlayDiagnostics input findings, ∅)).1

theorem subjectTable_eq :
    subjectTable unicode input findings =
      (sortedRecords (projectedNodes unicode input)).foldl
        (addSubject unicode (providerFreshnessBySlot input)
          (attentionBySubject input findings).attention)
        { diagnostics := nodeDiagnostics unicode input findings } := by
  rw [sortedRecords, ← records_eq (projectedNodes unicode input) (overlayDiagnostics input findings)]
  rfl

theorem length_subjectTable : (subjectTable unicode input findings).subjects.length ≤ subjectsCap := by
  rw [subjectTable_eq, length_subjects]
  exact (sum_sortedRecords _).trans (length_projectedNodes unicode input)

/-- The cap on the subjects is never reached. -/
theorem capSubjects_subjectTable :
    capSubjects (subjectTable unicode input findings) = subjectTable unicode input findings :=
  if_neg (not_lt.2 (length_subjectTable unicode input findings))

/-- The subject that stands for a key. -/
def IsProjected (key : String) (subject : AtlasSubject) : Prop :=
  ∃ node, recordsOf (projectedNodes unicode input) key = [node] ∧
    IsSubjectOf unicode (providerFreshnessBySlot input)
      (attentionBySubject input findings).attention (key, [node]) subject

theorem exists_entry_iff {key : String} {subject : AtlasSubject} :
    (∃ entry ∈ sortedRecords (projectedNodes unicode input), entry.1 = key ∧
      IsSubjectOf unicode (providerFreshnessBySlot input)
        (attentionBySubject input findings).attention entry subject) ↔
      IsProjected unicode input findings key subject := by
  constructor
  · rintro ⟨⟨key', records⟩, hmem, rfl, hsubject⟩
    obtain ⟨node, kind, hrecords, hkind, hsubject⟩ := hsubject
    have hrecords : records = [node] := hrecords
    subst hrecords
    exact ⟨node, (mem_sortedRecords.1 hmem).1, node, kind, rfl, hkind, hsubject⟩
  · rintro ⟨node, hrecords, hsubject⟩
    exact ⟨(key, [node]), mem_sortedRecords.2 ⟨hrecords, List.cons_ne_nil _ _⟩, rfl, hsubject⟩

theorem get?_subjectTable {key : String} {subject : AtlasSubject} :
    (subjectTable unicode input findings).routable.get? key = some subject ↔
      IsProjected unicode input findings key subject := by
  rw [subjectTable_eq, get?_routable _ _ (nodup_sortedRecords _)]
  exact exists_entry_iff unicode input findings

theorem mem_subjectTable {subject : AtlasSubject} :
    subject ∈ (subjectTable unicode input findings).subjects ∧ subject.routable = true ↔
      IsProjected unicode input findings subject.key subject := by
  rw [subjectTable_eq, mem_subjects, ← exists_entry_iff]
  constructor
  · rintro ⟨entry, hmem, hsubject⟩
    exact ⟨entry, hmem, hsubject.key_eq.symm, hsubject⟩
  · rintro ⟨entry, hmem, -, hsubject⟩
    exact ⟨entry, hmem, hsubject⟩

/-- What the edges of the input come to, in the canonical order. -/
def outcomes : List EdgeOutcome :=
  (projectedEdges input).map (edgeOutcome (subjectTable unicode input findings).routable)

/-- The table of the edges of the input. -/
def projectedTable : EdgeTable := edgeTable input (subjectTable unicode input findings)

theorem projectedTable_eq :
    projectedTable unicode input findings =
      (outcomes unicode input findings).foldl addOutcome
        { diagnostics := addDiagnosticIf (inputEdgesCap < input.edges.length)
            (subjectTable unicode input findings).diagnostics .boundedOmission
          omittedEdges := if inputEdgesCap < input.edges.length then input.edges.length else 0 } := by
  rw [outcomes, List.foldl_map]
  rfl

theorem attachmentSummary :
    AttachmentSummary (if inputEdgesCap < input.edges.length then input.edges.length else 0)
      (attachmentsOf (outcomes unicode input findings))
      (projectedTable unicode input findings) := by
  rw [projectedTable_eq]
  exact (AttachmentSummary.initial _ _).foldl (outcomes unicode input findings)

theorem length_outcomes : (outcomes unicode input findings).length ≤ inputEdgesCap := by
  rw [outcomes, List.length_map]
  exact length_projectedEdges input

/-- The cap on the relations is never reached. -/
theorem relations_projectedTable :
    (projectedTable unicode input findings).relations =
      relationsOf (outcomes unicode input findings) := by
  rw [projectedTable_eq, relations_foldl _ _ (Nat.zero_le _), List.nil_append]
  exact List.take_of_length_le
    ((List.length_filterMap_le _ _).trans (length_outcomes unicode input findings))

theorem length_attachmentsOf :
    (attachmentsOf (outcomes unicode input findings)).length ≤ inputEdgesCap :=
  (List.length_filterMap_le _ _).trans (length_outcomes unicode input findings)

/-- The model, over the two tables. -/
theorem projectRuntimeMap_subjects :
    (projectRuntimeMap unicode input findings).subjects =
      sortBy (fun subject => JavaScript.codeUnits subject.key)
        (subjectTable unicode input findings).subjects := by
  rw [← capSubjects_subjectTable]
  rfl

theorem projectRuntimeMap_attachments :
    (projectRuntimeMap unicode input findings).attachments =
      sortBy (fun attachment =>
          [JavaScript.codeUnits attachment.subject, JavaScript.codeUnits attachment.context])
        (projectedTable unicode input findings).attachments := by
  rw [projectedTable, ← capSubjects_subjectTable]
  rfl

theorem projectRuntimeMap_relations :
    (projectRuntimeMap unicode input findings).relations =
      sortBy (fun relation =>
          [JavaScript.codeUnits relation.source, JavaScript.codeUnits relation.target])
        (projectedTable unicode input findings).relations := by
  rw [projectedTable, ← capSubjects_subjectTable]
  rfl

theorem projectRuntimeMap_aggregates :
    (projectRuntimeMap unicode input findings).aggregates =
      aggregatesOf (projectedTable unicode input findings) := by
  rw [projectedTable, ← capSubjects_subjectTable]
  rfl

theorem omittedEdges_le :
    (projectedTable unicode input findings).omittedEdges ≤
      (projectRuntimeMap unicode input findings).stats.boundedOmissions := by
  rw [projectedTable, ← capSubjects_subjectTable]
  exact (Nat.le_add_left ..).trans (Nat.le_add_right ..)

end

def AtlasModel.isRoutable (model : AtlasModel) (key : String) : Bool :=
  model.subjects.any fun subject => subject.routable && subject.key == key

theorem isRoutable_projectRuntimeMap {unicode : UnicodeTables} {input : AtlasRuntimeMapInput}
    {findings : Option FindingsOverlay} {key : String} :
    (projectRuntimeMap unicode input findings).isRoutable key = true ↔
      ((subjectTable unicode input findings).routable.get? key).isSome = true := by
  rw [AtlasModel.isRoutable, projectRuntimeMap_subjects, List.any_eq_true,
    Option.isSome_iff_exists]
  simp only [StableSort.mem_sortBy, Bool.and_eq_true, beq_iff_eq, get?_subjectTable]
  constructor
  · rintro ⟨subject, hmem, hroutable, rfl⟩
    exact ⟨subject, (mem_subjectTable unicode input findings).1 ⟨hmem, hroutable⟩⟩
  · rintro ⟨subject, hprojected⟩
    obtain ⟨node, hrecords, hsubject⟩ := hprojected
    have hkey : subject.key = key := hsubject.key_eq
    subst hkey
    have hmem := (mem_subjectTable unicode input findings).2 ⟨node, hrecords, hsubject⟩
    exact ⟨subject, hmem.1, hmem.2, rfl⟩

/-- The keys of the routable subjects of a model. -/
def AtlasModel.routableKeys (model : AtlasModel) : List String :=
  (model.subjects.filter AtlasSubject.routable).map AtlasSubject.key

section

variable (unicode : UnicodeTables) (input : AtlasRuntimeMapInput)
  (findings : Option FindingsOverlay)

theorem nodup_routableKeys : (projectRuntimeMap unicode input findings).routableKeys.Nodup := by
  have hperm := ((StableSort.sortBy_perm
    (fun subject : AtlasSubject => JavaScript.codeUnits subject.key)
    (subjectTable unicode input findings).subjects).filter AtlasSubject.routable).map
      AtlasSubject.key
  rw [AtlasModel.routableKeys, projectRuntimeMap_subjects, hperm.nodup_iff, subjectTable_eq]
  exact (nodup_sortedRecords _).sublist (routable_keys_sublist _ _)

theorem isDiagnostic_projected {subject : AtlasSubject}
    (h : subject ∈ (projectRuntimeMap unicode input findings).subjects)
    (hroutable : subject.routable = false) : IsDiagnostic subject := by
  rw [projectRuntimeMap_subjects, StableSort.mem_sortBy, subjectTable_eq] at h
  exact isDiagnostic_of_mem _ _ h hroutable

theorem isProjected_of_mem {subject : AtlasSubject}
    (h : subject ∈ (projectRuntimeMap unicode input findings).subjects)
    (hroutable : subject.routable = true) :
    IsProjected unicode input findings subject.key subject := by
  rw [projectRuntimeMap_subjects, StableSort.mem_sortBy] at h
  exact (mem_subjectTable unicode input findings).1 ⟨h, hroutable⟩

end

/-! Maps in wire form -/

/-- The tables at text that is in normal form and in lower case. -/
def plainTables : UnicodeTables := ⟨id, id⟩

def nodeJson (id provider kind : String) : Json :=
  .obj [("id", .str id), ("provider", .str provider), ("type", .str kind), ("label", .str id),
    ("status", .str "running")]

/-- A reference of a Docker fact; its slot is the extra field, if any. -/
def dockerRefJson (kind source summary : String) (slot : List (String × Json)) : Json :=
  .obj ([("version", .num 1), ("id", .str "e1"), ("provider", .str "docker"), ("kind", .str kind),
    ("assertionKind", .str "observed"), ("subjectRef", .str source), ("collectedAt", .num 7),
    ("providerRevision", .str "r1"), ("freshness", .str "fresh"),
    ("summary", .str summary)] ++ slot)

def edgeJson (source target relationship : String) (refs : List Json) : Json :=
  .obj [("source", .str source), ("target", .str target), ("relationship", .str relationship),
    ("evidenceRefs", .arr refs)]

def membershipJson (source target : String) (slot : List (String × Json)) : Json :=
  edgeJson source target "connected_to"
    [dockerRefJson "docker_network_membership" source
      "Docker reported container network membership" slot]

def mapOf (nodes edges : List Json) : AtlasRuntimeMapInput :=
  { modelRevision := "m1", nodes, edges, providerStates := none }

end DockerMap.Web.Atlas
