import DockerMap.Proofs.AtlasProjection

/-! The projection and the order of its input. Nodes, findings and provider states can come in any
order; edges can where the canonical order tells apart whatever it draws differently. -/

namespace DockerMap.Web.Atlas

open StableSort (sortBy cls)

/-! Reordered inputs -/

/-- The same states in another order, no slot twice. -/
inductive ReorderedStates : Option Json → Option Json → Prop
  | same (states : Option Json) : ReorderedStates states states
  | perm {states states' : List Json} : states.Perm states' →
      (states.filterMap stateSlot).Nodup → ReorderedStates (some (.arr states)) (some (.arr states'))

inductive ReorderedFindings : Option FindingsOverlay → Option FindingsOverlay → Prop
  | none : ReorderedFindings none none
  | perm (modelRevision : String) {findings findings' : List Json} : findings.Perm findings' →
      ReorderedFindings (some ⟨modelRevision, findings⟩) (some ⟨modelRevision, findings'⟩)

structure Reordered (input input' : AtlasRuntimeMapInput) : Prop where
  modelRevision : input.modelRevision = input'.modelRevision
  nodes : input.nodes.Perm input'.nodes
  edges : input.edges.Perm input'.edges
  providerStates : ReorderedStates input.providerStates input'.providerStates

/-! Provider states -/

theorem get?_foldl_addState (states : List Json)
    (freshness : InsertionMap ProviderSlot AtlasFreshness) (slot : ProviderSlot) :
    (states.foldl addState freshness).get? slot =
      (freshness.get? slot).or ((states.filter fun state => stateSlot state = some slot).head?.map
        fun state => stateFreshness (state.field? "state")) := by
  induction states generalizing freshness with
  | nil => rw [List.filter_nil, List.head?_nil, Option.map_none, Option.or_none]; rfl
  | cons state states ih =>
    rw [List.foldl_cons, ih, addState]
    cases hslot : stateSlot state with
    | none => rw [List.filter_cons_of_neg (by simp [hslot])]
    | some found =>
      dsimp only
      by_cases heq : found = slot
      · subst heq
        rw [List.filter_cons_of_pos (by simp [hslot]), List.head?_cons, Option.map_some]
        cases hget : freshness.get? found with
        | none =>
          rw [if_neg (by simp), InsertionMap.get?_set, if_pos rfl, Option.none_or, Option.some_or]
        | some value => rw [if_pos (by simp), hget, Option.some_or, Option.some_or]
      · rw [List.filter_cons_of_neg (by simpa [hslot] using heq)]
        split_ifs
        · rfl
        · rw [InsertionMap.get?_set, if_neg (Ne.symm heq)]

theorem length_filter_slot {states : List Json} (h : (states.filterMap stateSlot).Nodup)
    (slot : ProviderSlot) :
    (states.filter fun state => stateSlot state = some slot).length ≤ 1 := by
  have hcount : (states.filterMap stateSlot).count slot =
      (states.filter fun state => stateSlot state = some slot).length := by
    clear h
    induction states with
    | nil => rfl
    | cons state states ih =>
      cases hslot : stateSlot state with
      | none =>
        rw [List.filterMap_cons_none hslot, List.filter_cons_of_neg (by simp [hslot]), ih]
      | some found =>
        rw [List.filterMap_cons_some hslot]
        by_cases heq : found = slot
        · rw [heq, List.count_cons_self, List.filter_cons_of_pos (by simp [hslot, heq]),
            List.length_cons, ih]
        · rw [List.count_cons_of_ne heq, List.filter_cons_of_neg (by simpa [hslot] using heq), ih]
  rw [← hcount]
  exact List.nodup_iff_count_le_one.1 h slot

theorem eq_of_perm_of_length_le_one {α : Type*} {l l' : List α} (h : l.Perm l')
    (hlength : l.length ≤ 1) : l = l' := by
  rcases l with _ | ⟨a, _ | ⟨b, l⟩⟩
  · exact (List.nil_perm.1 h).symm
  · exact List.singleton_perm.1 h
  · simp at hlength

theorem get?_providerFreshness {input input' : AtlasRuntimeMapInput}
    (h : ReorderedStates input.providerStates input'.providerStates) (slot : ProviderSlot) :
    (providerFreshnessBySlot input).get? slot = (providerFreshnessBySlot input').get? slot := by
  rw [providerFreshnessBySlot, providerFreshnessBySlot]
  generalize input.providerStates = value at h
  generalize input'.providerStates = value' at h
  cases h with
  | same => rfl
  | perm hperm hnodup =>
    rename_i states states'
    dsimp only
    rw [← hperm.length_eq]
    split_ifs
    · rfl
    · rw [get?_foldl_addState, get?_foldl_addState,
        eq_of_perm_of_length_le_one (hperm.filter _) (length_filter_slot hnodup slot)]

/-! Findings -/

/-- The severest finding of a subject. -/
def attentionOf (findings : List Json) (key : String) : Option AtlasAttention :=
  let own := findings.filter fun finding => safeKey (finding.field? "subjectRef") = some key
  if own.any fun finding => Api.asText (finding.field? "severity") = some "warning" then
    some .warning
  else if own = [] then none
  else some .advisory

theorem attentionOf_concat (findings : List Json) (finding : Json) (key : String) :
    attentionOf (findings ++ [finding]) key =
      if safeKey (finding.field? "subjectRef") = some key then
        if Api.asText (finding.field? "severity") = some "warning" then some .warning
        else if attentionOf findings key = none then some .advisory
        else attentionOf findings key
      else attentionOf findings key := by
  by_cases hkey : safeKey (finding.field? "subjectRef") = some key
  · rw [if_pos hkey, attentionOf, attentionOf, List.filter_append, List.filter_cons_of_pos (by simpa using hkey), List.filter_nil,
      List.any_append, List.any_cons, List.any_nil, Bool.or_false]
    by_cases hsevere : Api.asText (finding.field? "severity") = some "warning"
    · rw [if_pos (by simp [hsevere]), if_pos hsevere]
    · rw [if_neg hsevere]
      have hplain : decide (Api.asText (finding.field? "severity") = some "warning") = false :=
        decide_eq_false hsevere
      rw [hplain, Bool.or_false, if_neg (List.append_ne_nil_of_right_ne_nil _ (by simp))]
      split_ifs <;> simp_all
  · rw [if_neg hkey, attentionOf, attentionOf, List.filter_append,
      List.filter_cons_of_neg (by simpa using hkey), List.filter_nil, List.append_nil]

theorem get?_addFinding (attention : InsertionMap String AtlasAttention) (finding : Json)
    (key : String) :
    (addFinding attention finding).get? key =
      if safeKey (finding.field? "subjectRef") = some key then
        if Api.asText (finding.field? "severity") = some "warning" then some .warning
        else if attention.get? key = none then some .advisory
        else attention.get? key
      else attention.get? key := by
  rw [addFinding]
  cases hsubject : safeKey (finding.field? "subjectRef") with
  | none => exact (if_neg fun heq => by cases heq).symm
  | some found =>
    dsimp only
    generalize hnext : (if Api.asText (finding.field? "severity") = some "warning" then
      AtlasAttention.warning else .advisory) = next
    by_cases hfound : found = key
    · subst hfound
      rw [if_pos rfl]
      by_cases hsevere : Api.asText (finding.field? "severity") = some "warning"
      · rw [if_pos hsevere] at hnext
        rw [if_pos hsevere, ← hnext, if_pos (Or.inl rfl), InsertionMap.get?_set, if_pos rfl]
      · rw [if_neg hsevere] at hnext
        rw [if_neg hsevere, ← hnext]
        cases hget : attention.get? found with
        | none => rw [if_pos (by simp), InsertionMap.get?_set, if_pos rfl, if_pos rfl]
        | some value => rw [if_neg (by simp), if_neg (by simp), hget]
    · have hother : ¬ some found = some key := fun heq => hfound (Option.some.inj heq)
      rw [if_neg hother]
      by_cases hset : next = .warning ∨ (attention.get? found).isNone = true
      · rw [if_pos hset, InsertionMap.get?_set, if_neg (Ne.symm hfound)]
      · rw [if_neg hset]

theorem get?_foldl_addFinding (findings : List Json) (key : String) :
    (findings.foldl addFinding ∅).get? key = attentionOf findings key := by
  induction findings using List.reverseRecOn with
  | nil => rfl
  | append_singleton findings finding ih =>
    rw [List.foldl_append, List.foldl_cons, List.foldl_nil, get?_addFinding, attentionOf_concat, ih]

theorem attentionOf_perm {findings findings' : List Json} (h : findings.Perm findings')
    (key : String) : attentionOf findings key = attentionOf findings' key := by
  have hown := h.filter fun finding => safeKey (finding.field? "subjectRef") = some key
  rw [attentionOf, attentionOf, hown.any_eq]
  split_ifs with hsevere hnil hnil' hnil'
  · rfl
  · rfl
  · rw [hnil] at hown
    exact absurd hown.nil_eq.symm hnil'
  · rw [hnil'] at hown
    exact absurd hown.eq_nil hnil
  · rfl

/-! Nodes -/

theorem sortedRecords_eq_map (nodes : List Json) :
    sortedRecords nodes =
      ((sortedRecords nodes).map Prod.fst).map fun key => (key, recordsOf nodes key) := by
  rw [List.map_map]
  refine (List.map_id _).symm.trans (List.map_congr_left fun entry hentry => ?_)
  rw [id_eq, Function.comp_apply, (mem_sortedRecords.1 hentry).1]

theorem mem_recordKeys {nodes : List Json} {key : String} :
    key ∈ (sortedRecords nodes).map Prod.fst ↔ recordsOf nodes key ≠ [] := by
  constructor
  · intro hmem
    obtain ⟨entry, hentry, rfl⟩ := List.mem_map.1 hmem
    rw [(mem_sortedRecords.1 hentry).1]
    exact (mem_sortedRecords.1 hentry).2
  · intro hne
    exact List.mem_map.2 ⟨(key, recordsOf nodes key), mem_sortedRecords.2 ⟨rfl, hne⟩, rfl⟩

theorem recordKeys_eq {nodes nodes' : List Json} (h : nodes.Perm nodes') :
    (sortedRecords nodes).map Prod.fst = (sortedRecords nodes').map Prod.fst := by
  have hsorted (nodes : List Json) : ((sortedRecords nodes).map Prod.fst).Pairwise
      fun a b => JavaScript.codeUnits a ≤ JavaScript.codeUnits b :=
    List.pairwise_map.2 (StableSort.sorted_sortBy _ _)
  have hperm : ((sortedRecords nodes).map Prod.fst).Perm ((sortedRecords nodes').map Prod.fst) := by
    refine (List.perm_ext_iff_of_nodup (nodup_sortedRecords nodes)
      (nodup_sortedRecords nodes')).2 fun key => ?_
    rw [mem_recordKeys, mem_recordKeys]
    have hrecords : (recordsOf nodes key).Perm (recordsOf nodes' key) := h.filter _
    exact not_congr ⟨fun hnil => (hnil ▸ hrecords).nil_eq.symm, fun hnil => (hnil ▸ hrecords).eq_nil⟩
  exact hperm.eq_of_pairwise
    (fun _ _ _ _ hab hba => JavaScript.codeUnits_injective (le_antisymm hab hba))
    (hsorted nodes) (hsorted nodes')

section

variable {unicode : UnicodeTables} {freshness freshness' : InsertionMap ProviderSlot AtlasFreshness}
  {attention attention' : InsertionMap String AtlasAttention}

/-- A subject depends on its own record and on what is known of it. -/
theorem addSubject_congr (hfreshness : ∀ slot, freshness.get? slot = freshness'.get? slot)
    (hattention : ∀ key, attention.get? key = attention'.get? key) (table : SubjectTable)
    {key : String} {records records' : List Json} (h : records.Perm records') :
    addSubject unicode freshness attention table (key, records) =
      addSubject unicode freshness' attention' table (key, records') := by
  have hget : freshness.get? = freshness'.get? := funext hfreshness
  have hsubject (node : Json) (kind : RuntimeNodeKind) :
      routableSubject unicode freshness attention key node kind =
        routableSubject unicode freshness' attention' key node kind := by
    rw [routableSubject, routableSubject, freshnessForNode, freshnessForNode, hget, hattention]
  rcases records with _ | ⟨node, _ | ⟨second, rest⟩⟩
  · rw [List.nil_perm.1 h]
    rfl
  · rw [List.singleton_perm.1 h]
    simp only [addSubject, hsubject]
  · rcases records' with _ | ⟨node', _ | ⟨second', rest'⟩⟩
    · simp at h
    · simpa using h.length_eq
    · simp only [addSubject, h.length_eq]

end

section

variable {unicode : UnicodeTables} {input input' : AtlasRuntimeMapInput}
  {findings findings' : Option FindingsOverlay}

theorem attention_congr (h : Reordered input input') (hfindings : ReorderedFindings findings findings')
    (key : String) :
    (attentionBySubject input findings).attention.get? key =
      (attentionBySubject input' findings').attention.get? key := by
  cases hfindings with
  | none => rfl
  | perm modelRevision hperm =>
    rw [attentionBySubject, attentionBySubject]
    dsimp only
    rw [h.modelRevision, hperm.length_eq]
    split_ifs
    · rfl
    · rfl
    · rw [get?_foldl_addFinding, get?_foldl_addFinding]
      exact attentionOf_perm hperm key

theorem omitted_congr (h : Reordered input input') (hfindings : ReorderedFindings findings findings') :
    (attentionBySubject input findings).omitted = (attentionBySubject input' findings').omitted := by
  cases hfindings with
  | none => rfl
  | perm modelRevision hperm =>
    rw [attentionBySubject, attentionBySubject]
    dsimp only
    rw [h.modelRevision, hperm.length_eq]
    split_ifs
    · rfl
    · rfl
    · rfl

theorem projectedNodes_perm (h : Reordered input input') :
    (projectedNodes unicode input).Perm (projectedNodes unicode input') := by
  rw [projectedNodes, projectedNodes, h.nodes.length_eq]
  split_ifs
  · exact List.Perm.refl _
  · exact ((StableSort.sortBy_perm _ _).trans h.nodes).trans (StableSort.sortBy_perm _ _).symm

theorem nodeDiagnostics_congr (h : Reordered input input')
    (hfindings : ReorderedFindings findings findings') :
    nodeDiagnostics unicode input findings = nodeDiagnostics unicode input' findings' := by
  rw [nodeDiagnostics, nodeDiagnostics, diagnostics_foldl_addNode, diagnostics_foldl_addNode,
    (projectedNodes_perm h).countP_eq, overlayDiagnostics, overlayDiagnostics,
    omitted_congr h hfindings, h.nodes.length_eq]

/-- The order of the nodes, the findings and the provider states does not matter. -/
theorem subjectTable_congr (h : Reordered input input')
    (hfindings : ReorderedFindings findings findings') :
    subjectTable unicode input findings = subjectTable unicode input' findings' := by
  have hperm := @projectedNodes_perm unicode input input' h
  rw [subjectTable_eq, subjectTable_eq, nodeDiagnostics_congr h hfindings, sortedRecords_eq_map,
    sortedRecords_eq_map (projectedNodes unicode input'), recordKeys_eq hperm]
  simp only [List.foldl_map]
  refine List.foldl_ext _ _ _ fun table entry _ => ?_
  exact addSubject_congr (get?_providerFreshness h.providerStates) (attention_congr h hfindings)
    table (hperm.filter _)

end

end DockerMap.Web.Atlas
