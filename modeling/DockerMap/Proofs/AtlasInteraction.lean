import DockerMap.Proofs.AtlasAttachments
import DockerMap.Web.AtlasInteraction

/-! The query of a route state is short enough to be read back, and what is read back is the
state. Its keys name entries of the model, and these have few characters. -/

namespace DockerMap.Web.Atlas

open FormEncoding (utf8 byteSerialize serialize serializePair)
open JavaScript (codeUnits codeUnits_injective)

/-! Named entries -/

/-- The key that a text is. -/
def named (keys : List String) (value : Option (List ℕ)) : Option String :=
  value.bind fun text => keys.find? fun key => codeUnits key = text

theorem named_codeUnits {keys : List String} {value : Option (List ℕ)} {key : String}
    (h : named keys value = some key) : value = some (codeUnits key) ∧ key ∈ keys := by
  obtain ⟨text, rfl, hfind⟩ := Option.bind_eq_some_iff.1 h
  have htext := List.find?_some hfind
  rw [decide_eq_true_eq] at htext
  exact ⟨by rw [htext], List.mem_of_find?_eq_some hfind⟩

theorem safeKey_eq_some {value : Option (List ℕ)} {text : List ℕ}
    (h : Interaction.safeKey value = some text) : value = some text ∧ text ≠ [] := by
  obtain ⟨hvalue, hsafe⟩ := Option.filter_eq_some_iff.1 h
  exact ⟨hvalue, (of_decide_eq_true hsafe).1⟩

theorem selectedSubject_key (model : AtlasModel) {value : Option (List ℕ)}
    (hne : value ≠ some []) :
    (selectedSubject model value).map AtlasSubject.key = named model.routableKeys value := by
  cases value with
  | none => rfl
  | some text =>
    have htext : text ≠ [] := fun h => hne (congrArg some h)
    rw [selectedSubject, Option.filter_some_pos (by simpa using htext), Option.bind_some, named,
      Option.bind_some, AtlasModel.routableKeys, List.find?_map, List.find?_filter]
    congr 2
    funext subject
    rw [Bool.eq_iff_iff]
    simp only [Bool.and_eq_true, decide_eq_true_eq, Function.comp_apply]

theorem actualSelection_eq (model : AtlasModel) (value : Option (List ℕ)) :
    actualSelection model value = named model.routableKeys (Interaction.safeKey value) := by
  refine selectedSubject_key model fun h => ?_
  exact (safeKey_eq_some h).2 rfl

theorem actualExpansion_eq (model : AtlasModel) (value : Option (List ℕ)) :
    actualExpansion model value =
      (named (aggregateKeys model) (Interaction.safeKey value)).map fun key => (key, .aggregate) := by
  rw [actualExpansion, named]
  cases Interaction.safeKey value with
  | none => rfl
  | some text =>
    rw [Option.bind_some, Option.bind_some, aggregateKeys, List.find?_map, Option.map_map]
    rfl

/-- To name a key once more changes nothing. -/
theorem named_again {keys : List String} {value : Option (List ℕ)} :
    named keys (Interaction.safeKey ((named keys (Interaction.safeKey value)).map codeUnits)) =
      named keys (Interaction.safeKey value) := by
  cases hnamed : named keys (Interaction.safeKey value) with
  | none => rfl
  | some key =>
    obtain ⟨hsafe, -⟩ := named_codeUnits hnamed
    have hvalue := (safeKey_eq_some hsafe).1
    rw [Option.map_some, ← hvalue, hnamed]

theorem actualSelection_again (model : AtlasModel) (value : Option (List ℕ)) :
    actualSelection model ((actualSelection model value).map codeUnits) =
      actualSelection model value := by
  simp only [actualSelection_eq]
  exact named_again

theorem actualExpansion_again (model : AtlasModel) (value : Option (List ℕ)) :
    actualExpansion model (((actualExpansion model value).map Prod.fst).map codeUnits) =
      actualExpansion model value := by
  simp only [actualExpansion_eq, Option.map_map]
  have hagain := @named_again (aggregateKeys model) value
  exact congrArg (Option.map fun key => (key, AtlasFocusTarget.aggregate)) hagain

theorem atlasLens?_wireName (lens : AtlasRoutingLens) :
    atlasLens? (codeUnits lens.wireName) = some lens := by
  cases lens <;> decide +kernel

theorem wireName_ne_empty (lens : AtlasRoutingLens) : codeUnits lens.wireName ≠ [] := by
  cases lens <;> decide +kernel

/-- A state that comes of an intent comes of itself. -/
theorem intendedState_again (model : AtlasModel) (intent : AtlasRouteIntent) :
    intendedState model (intendedState model intent).intent = intendedState model intent := by
  have hlens : ((some (codeUnits (intendedState model intent).lens.wireName)).bind
      atlasLens?).getD atlasRouteLens = (intendedState model intent).lens := by
    rw [Option.bind_some, atlasLens?_wireName, Option.getD_some]
  have hselection := actualSelection_again model intent.selectedKey
  have hexpansion := actualExpansion_again model intent.expandedKey
  unfold intendedState at hlens ⊢
  simp only [AtlasRouteState.intent] at hlens hselection hexpansion ⊢
  rw [hselection, hexpansion, hlens]

/-! Parameters -/

/-- The keys of a state are not empty. -/
structure HasKeys (state : AtlasRouteState) : Prop where
  selected : state.selectedKey ≠ some ""
  expanded : state.expandedKey ≠ some ""

section

variable {state : AtlasRouteState}

theorem filter_nonempty {key : Option String} (h : key ≠ some "") :
    key.filter (· ≠ "") = key := by
  cases key with
  | none => rfl
  | some text => exact Option.filter_some_pos (by simpa using h)

theorem stateParams_eq (h : HasKeys state) : stateParams state =
    (if state.lens ≠ atlasRouteLens then [("lens", state.lens.wireName)] else []) ++
      state.selectedKey.toList.map (fun key => ("subject", key)) ++
      state.expandedKey.toList.map fun key => ("expand", key) := by
  rw [stateParams, filter_nonempty h.selected, filter_nonempty h.expanded]

theorem getAll_lens (h : HasKeys state) : (stateParams state).getAll "lens" =
    if state.lens ≠ atlasRouteLens then [state.lens.wireName] else [] := by
  rw [stateParams_eq h, SearchParams.getAll]
  cases state.selectedKey <;> cases state.expandedKey <;> split_ifs <;> rfl

theorem getAll_subject (h : HasKeys state) :
    (stateParams state).getAll "subject" = state.selectedKey.toList := by
  rw [stateParams_eq h, SearchParams.getAll]
  cases state.selectedKey <;> cases state.expandedKey <;> split_ifs <;> rfl

theorem getAll_expand (h : HasKeys state) :
    (stateParams state).getAll "expand" = state.expandedKey.toList := by
  rw [stateParams_eq h, SearchParams.getAll]
  cases state.selectedKey <;> cases state.expandedKey <;> split_ifs <;> rfl

theorem length_stateParams (h : HasKeys state) :
    (stateParams state).length ≤ Interaction.maxParameters := by
  rw [stateParams_eq h]
  cases state.selectedKey <;> cases state.expandedKey <;> split_ifs <;>
    simp [Interaction.maxParameters]

theorem names_stateParams (h : HasKeys state) :
    (stateParams state).any (fun pair => pair.1 ∉ ["lens", "subject", "expand"]) = false := by
  rw [stateParams_eq h]
  cases state.selectedKey <;> cases state.expandedKey <;> split_ifs <;> rfl

/-- The query is read as the parameters that it was written from. -/
theorem searchParams_encodedSearch (state : AtlasRouteState) :
    searchParams (encodedSearch state) = stateParams state := by
  have hread := FormEncoding.parse_serialize (stateParams state)
  rw [encodedSearch]
  split_ifs with hempty
  · rw [hempty] at hread
    exact hread
  · rw [searchParams, JavaScript.scalars_codeUnits, String.toList_ofList, dropMark,
      List.head?_cons, if_pos rfl, List.tail_cons]
    exact hread

end

/-! Reading back -/

theorem head?_getAll_lens (lens : AtlasRoutingLens) :
    (((if lens ≠ atlasRouteLens then [lens.wireName] else []).head?.map codeUnits).getD
      (codeUnits atlasRouteLens.wireName)) = codeUnits lens.wireName := by
  by_cases h : lens = atlasRouteLens
  · rw [if_neg (not_not.2 h), h]
    rfl
  · rw [if_pos h]
    rfl

/-- At most one value is what the model is asked for. -/
theorem ask_sole {β : Type*} {f : Option (List ℕ) → Option β} (hnone : f none = none)
    (key : Option String) :
    (if key.toList.length = 1 then f (key.toList.head?.map codeUnits) else none) =
      f (key.map codeUnits) := by
  cases key with
  | none => exact hnone.symm
  | some text => rfl

theorem not_rejected {key : Option String} (h : key ≠ some "") :
    (decide (1 < key.toList.length) ||
      (key.toList.length == 1 && (key.filter (· ≠ "")).isNone)) = false := by
  rw [filter_nonempty h]
  cases key <;> rfl

theorem parseAtlasSearch_encoded {model : AtlasModel} {intent : AtlasRouteIntent}
    (hkeys : HasKeys (intendedState model intent))
    (hlength : (encodedSearch (intendedState model intent)).length ≤ Interaction.maxSearchLength) :
    parseAtlasSearch (serializeAtlasState model intent) model =
      ⟨intendedState model intent, false, false, false⟩ := by
  have hselection := actualSelection_again model intent.selectedKey
  have hexpansion := actualExpansion_again model intent.expandedKey
  rw [serializeAtlasState, parseAtlasSearch, if_neg (not_lt.2 hlength),
    searchParams_encodedSearch]
  dsimp only
  rw [if_neg (not_lt.2 (length_stateParams hkeys)), names_stateParams hkeys,
    if_neg Bool.false_ne_true, getAll_lens hkeys, getAll_subject hkeys, getAll_expand hkeys,
    head?_getAll_lens, if_pos ⟨by split_ifs <;> simp, wireName_ne_empty _⟩, atlasLens?_wireName]
  dsimp only
  rw [ask_sole (f := actualSelection model) rfl, ask_sole (f := actualExpansion model) rfl]
  have hselected : actualSelection model ((intendedState model intent).selectedKey.map codeUnits) =
      (intendedState model intent).selectedKey := hselection
  have hexpanded : actualExpansion model ((intendedState model intent).expandedKey.map codeUnits) =
      actualExpansion model intent.expandedKey := hexpansion
  have hkey : (actualExpansion model intent.expandedKey).map Prod.fst =
      (intendedState model intent).expandedKey := rfl
  rw [hselected, hexpanded, hkey, not_rejected hkeys.selected, not_rejected hkeys.expanded]
  rfl

/-! Keys of a route -/

/-- A short key of few characters. -/
structure IsRouteKey (limit : ℕ) (key : String) : Prop where
  nonempty : key.toList ≠ []
  length : key.toList.length ≤ limit
  chars : ∀ c ∈ key.toList, isKeyChar c = true

theorem ascii_of_isKeyChar {c : Char} (h : isKeyChar c = true) : c.toNat < 128 := by
  rw [isKeyChar, Bool.or_eq_true, decide_eq_true_eq] at h
  rcases h with halphanum | hmem
  · exact Text.ascii_of_isAlphanum halphanum
  · revert c
    decide

theorem isSafeUnit_of_isKeyChar {c : Char} (h : isKeyChar c = true) :
    Interaction.isSafeUnit c.toNat = true := by
  have hascii : ∀ n < 128, isKeyChar (Char.ofNat n) = true →
      Interaction.isSafeUnit (Char.ofNat n).toNat = true := by decide +kernel
  exact Text.forall_ascii (P := fun c => isKeyChar c = true → Interaction.isSafeUnit c.toNat = true)
    hascii (ascii_of_isKeyChar h) h

theorem codeUnits_ascii {text : String} (h : ∀ c ∈ text.toList, c.toNat < 128) :
    codeUnits text = text.toList.map Char.toNat := by
  have hunits := JavaScript.codeUnits_ofList fun c hc => (h c hc).trans (by norm_num)
  rwa [String.ofList_toList] at hunits

namespace IsRouteKey

variable {limit : ℕ} {key : String}

theorem ascii (h : IsRouteKey limit key) : ∀ c ∈ key.toList, c.toNat < 128 :=
  fun c hc => ascii_of_isKeyChar (h.chars c hc)

theorem safe (h : IsRouteKey limit key) (hlimit : limit ≤ Interaction.safeKeyLength) :
    Interaction.safeKey (some (codeUnits key)) = some (codeUnits key) := by
  have hunits := codeUnits_ascii h.ascii
  refine Option.filter_some_pos (decide_eq_true ⟨?_, ?_, ?_⟩)
  · rw [hunits, ne_eq, List.map_eq_nil_iff]
    exact h.nonempty
  · rw [hunits, List.length_map]
    exact h.length.trans hlimit
  · rw [hunits, List.all_map, List.all_eq_true]
    exact fun c hc => isSafeUnit_of_isKeyChar (h.chars c hc)

theorem ne_empty (h : IsRouteKey limit key) : key ≠ "" := by
  rintro rfl
  exact h.nonempty rfl

end IsRouteKey

/-- Where all keys are safe, a text that is none of them is as good as an unsafe one. -/
theorem named_safe {keys : List String} {limit : ℕ} (hlimit : limit ≤ Interaction.safeKeyLength)
    (h : ∀ key ∈ keys, IsRouteKey limit key) (value : Option (List ℕ)) :
    named keys (Interaction.safeKey value) = named keys value := by
  cases hnamed : named keys value with
  | some key =>
    obtain ⟨rfl, hkey⟩ := named_codeUnits hnamed
    rw [(h key hkey).safe hlimit, hnamed]
  | none =>
    cases hsafe : Interaction.safeKey value with
    | none => rfl
    | some text => rw [← (safeKey_eq_some hsafe).1, hnamed]

section

variable (unicode : UnicodeTables) (input : AtlasRuntimeMapInput)
  (findings : Option FindingsOverlay)

theorem isRouteKey_of_safeKey {value : Option Json} {key : String} (h : safeKey value = some key) :
    IsRouteKey 180 key := by
  obtain ⟨text, -, hkey⟩ := Option.bind_eq_some_iff.1 h
  dsimp only at hkey
  split_ifs at hkey with hsize htrimmed
  obtain rfl := Option.some.inj hkey
  obtain ⟨hpositive, hlength, hchars⟩ := htrimmed
  refine ⟨?_, ?_, ?_⟩
  · rw [String.toList_ofList]
    exact List.ne_nil_of_length_pos hpositive
  · rwa [String.toList_ofList]
  · rw [String.toList_ofList]
    exact List.all_eq_true.1 hchars

theorem isRouteKey_routable : ∀ key ∈ (projectRuntimeMap unicode input findings).routableKeys,
    IsRouteKey 180 key := by
  intro key hkey
  obtain ⟨subject, hsubject, rfl⟩ := List.mem_map.1 hkey
  obtain ⟨hmem, hroutable⟩ := List.mem_filter.1 hsubject
  obtain ⟨node, hrecords, -⟩ := isProjected_of_mem unicode input findings hmem hroutable
  have hnode : node ∈ recordsOf (projectedNodes unicode input) subject.key := by
    rw [hrecords]
    exact List.mem_singleton_self node
  exact isRouteKey_of_safeKey (of_decide_eq_true (List.mem_filter.1 hnode).2)

end

theorem isRouteKey_aggregate (unicode : UnicodeTables) (input : AtlasRuntimeMapInput)
    (findings : Option FindingsOverlay) :
    ∀ key ∈ aggregateKeys (projectRuntimeMap unicode input findings), IsRouteKey 29 key := by
  have hfew : ∀ n < maxInputAttachments,
      (derivedKey "attachment-aggregate" n).toList ≠ [] ∧
      (derivedKey "attachment-aggregate" n).toList.length ≤ 29 ∧
      ∀ c ∈ (derivedKey "attachment-aggregate" n).toList, isKeyChar c = true := by decide +kernel
  intro key hkey
  rw [aggregateKeys_projectRuntimeMap, projectRuntimeMap_aggregates] at hkey
  obtain ⟨n, hn, rfl⟩ := List.mem_map.1 hkey
  have hlt := (List.mem_range.1 hn).trans_le (length_aggregatesOf unicode input findings)
  obtain ⟨hnonempty, hlength, hchars⟩ := hfew n hlt
  exact ⟨hnonempty, hlength, hchars⟩

/-! Lengths -/

theorem length_utf8_ascii {l : List Char} (h : ∀ c ∈ l, c.toNat < 128) :
    (utf8 l).length = l.length := by
  induction l with
  | nil => rfl
  | cons c l ih =>
    rw [List.forall_mem_cons] at h
    have hone : c.utf8Size = 1 := Char.utf8Size_eq_one_iff.2
      (UInt32.le_iff_toNat_le.2 (Nat.lt_succ_iff.1 h.1))
    rw [utf8, List.flatMap_cons, List.length_append, String.length_utf8EncodeChar, hone,
      List.length_cons, Nat.add_comm]
    exact congrArg (· + 1) (ih h.2)

theorem length_component_le {text : String} (h : ∀ c ∈ text.toList, c.toNat < 128) :
    (byteSerialize (utf8 text.toList)).length ≤ 3 * text.toList.length := by
  have hlength := FormEncoding.length_byteSerialize_le (utf8 text.toList)
  rwa [length_utf8_ascii h] at hlength

theorem length_serialize_le (l : List (String × String)) :
    (serialize l).length ≤ (l.map fun pair => (serializePair pair).length + 1).sum := by
  induction l with
  | nil => exact le_refl _
  | cons pair rest ih =>
    cases rest with
    | nil =>
      rw [FormEncoding.serialize_singleton, List.map_singleton, List.sum_singleton]
      exact Nat.le_succ _
    | cons next rest =>
      rw [FormEncoding.serialize_cons_cons, List.map_cons, List.sum_cons, List.length_append,
        List.length_cons]
      omega

theorem ascii_of_mem_byteSerialize {bytes : List UInt8} {c : Char} (h : c ∈ byteSerialize bytes) :
    c.toNat < 128 := by
  have hplain : ∀ c ∈ ['*', '-', '.', '_', '+', '%'], c.toNat < 128 := by decide
  rcases FormEncoding.mem_byteSerialize h with halphanum | hmem
  · exact Text.ascii_of_isAlphanum halphanum
  · exact hplain c hmem

theorem ascii_of_mem_serialize {l : List (String × String)} {c : Char} (h : c ∈ serialize l) :
    c.toNat < 128 := by
  have hpair {pair : String × String} (h : c ∈ serializePair pair) : c.toNat < 128 := by
    rw [serializePair, List.mem_append, List.mem_cons] at h
    rcases h with hname | rfl | hvalue
    · exact ascii_of_mem_byteSerialize hname
    · decide
    · exact ascii_of_mem_byteSerialize hvalue
  induction l with
  | nil => cases h
  | cons pair rest ih =>
    cases rest with
    | nil =>
      rw [FormEncoding.serialize_singleton] at h
      exact hpair h
    | cons next rest =>
      rw [FormEncoding.serialize_cons_cons, List.mem_append, List.mem_cons] at h
      rcases h with hfirst | rfl | hrest
      · exact hpair hfirst
      · decide
      · exact ih hrest

theorem length_encodedSearch_le (state : AtlasRouteState) :
    (encodedSearch state).length ≤ (serialize (stateParams state)).length + 1 := by
  rw [encodedSearch]
  split_ifs with hempty
  · exact Nat.zero_le _
  · rw [JavaScript.codeUnits_ofList, List.length_map, List.length_cons]
    intro c hc
    rcases List.mem_cons.1 hc with rfl | hmem
    · decide
    · exact (ascii_of_mem_serialize hmem).trans (by norm_num)

/-- What the two keys of a state may be in a projected model. -/
structure HasRouteKeys (state : AtlasRouteState) : Prop where
  selected : ∀ key ∈ state.selectedKey, IsRouteKey 180 key
  expanded : ∀ key ∈ state.expandedKey, IsRouteKey 29 key

namespace HasRouteKeys

variable {state : AtlasRouteState}

theorem hasKeys (h : HasRouteKeys state) : HasKeys state where
  selected hempty := (h.selected "" hempty).ne_empty rfl
  expanded hempty := (h.expanded "" hempty).ne_empty rfl

theorem length_lens (state : AtlasRouteState) :
    ((if state.lens ≠ atlasRouteLens then [("lens", state.lens.wireName)] else []).map
      fun pair => (serializePair pair).length + 1).sum ≤ 18 := by
  cases state.lens <;> decide +kernel

theorem length_key {limit : ℕ} (name : String) {key : Option String}
    (hname : (byteSerialize (utf8 name.toList)).length ≤ 7)
    (h : ∀ found ∈ key, IsRouteKey limit found) :
    ((key.toList.map fun found => (name, found)).map
      fun pair => (serializePair pair).length + 1).sum ≤ 9 + 3 * limit := by
  cases key with
  | none => exact Nat.zero_le _
  | some found =>
    have hkey := h found rfl
    have hlength := hkey.length
    have hvalue := length_component_le hkey.ascii
    rw [Option.toList_some, List.map_singleton, List.map_singleton, List.sum_singleton,
      serializePair, List.length_append, List.length_cons]
    dsimp only
    omega

/-- The query is within the bound of the parser. -/
theorem length_le (h : HasRouteKeys state) :
    (encodedSearch state).length ≤ Interaction.maxSearchLength := by
  have hencoded := length_encodedSearch_le state
  have hserialized := length_serialize_le (stateParams state)
  have hlens := length_lens state
  have hselected := length_key "subject" (by decide +kernel) h.selected
  have hexpanded := length_key "expand" (by decide +kernel) h.expanded
  rw [stateParams_eq h.hasKeys, List.map_append, List.map_append, List.sum_append,
    List.sum_append, ← stateParams_eq h.hasKeys] at hserialized
  rw [Interaction.maxSearchLength]
  omega

end HasRouteKeys

/-! The round trip -/

/-- The lens of an intent, and its keys as far as they name entries of the model. -/
def namedState (model : AtlasModel) (intent : AtlasRouteIntent) : AtlasRouteState :=
  let selectedKey := named model.routableKeys intent.selectedKey
  let expandedKey := named (model.aggregates.map AtlasAggregate.key) intent.expandedKey
  { lens := (intent.lens.bind atlasLens?).getD .overview
    selectedKey
    expandedKey
    focusTarget := focusTarget selectedKey (expandedKey.map fun key => (key, .aggregate)) }

section

variable (unicode : UnicodeTables) (input : AtlasRuntimeMapInput)
  (findings : Option FindingsOverlay)

theorem intendedState_selectedKey (value : Option (List ℕ)) :
    actualSelection (projectRuntimeMap unicode input findings) value =
      named (projectRuntimeMap unicode input findings).routableKeys value := by
  rw [actualSelection_eq]
  exact named_safe (by decide) (isRouteKey_routable unicode input findings) value

theorem intendedState_expandedKey (value : Option (List ℕ)) :
    (actualExpansion (projectRuntimeMap unicode input findings) value).map Prod.fst =
      named (aggregateKeys (projectRuntimeMap unicode input findings)) value := by
  rw [actualExpansion_eq, Option.map_map,
    named_safe (by decide) (isRouteKey_aggregate unicode input findings)]
  exact Option.map_id' ..

theorem hasRouteKeys_intendedState (intent : AtlasRouteIntent) :
    HasRouteKeys (intendedState (projectRuntimeMap unicode input findings) intent) where
  selected key hkey := by
    have hnamed : named _ _ = some key :=
      (intendedState_selectedKey unicode input findings intent.selectedKey).symm.trans hkey
    exact isRouteKey_routable unicode input findings key (named_codeUnits hnamed).2
  expanded key hkey := by
    have hnamed : named _ _ = some key :=
      (intendedState_expandedKey unicode input findings intent.expandedKey).symm.trans hkey
    exact isRouteKey_aggregate unicode input findings key (named_codeUnits hnamed).2

theorem parseAtlasSearch_serialize (intent : AtlasRouteIntent) :
    parseAtlasSearch (serializeAtlasState (projectRuntimeMap unicode input findings) intent)
        (projectRuntimeMap unicode input findings) =
      ⟨intendedState (projectRuntimeMap unicode input findings) intent, false, false, false⟩ :=
  parseAtlasSearch_encoded (hasRouteKeys_intendedState unicode input findings intent).hasKeys
    (hasRouteKeys_intendedState unicode input findings intent).length_le

theorem canonicalSearch_serialize (intent : AtlasRouteIntent) :
    canonicalSearch (projectRuntimeMap unicode input findings)
        (serializeAtlasState (projectRuntimeMap unicode input findings) intent) =
      serializeAtlasState (projectRuntimeMap unicode input findings) intent := by
  rw [canonicalSearch, parseAtlasSearch_serialize, serializeAtlasState, intendedState_again]
  rfl

theorem intendedState_eq (intent : AtlasRouteIntent) :
    intendedState (projectRuntimeMap unicode input findings) intent =
      namedState (projectRuntimeMap unicode input findings) intent := by
  have hexpansion : actualExpansion (projectRuntimeMap unicode input findings)
      intent.expandedKey = (named (aggregateKeys (projectRuntimeMap unicode input findings))
        intent.expandedKey).map fun key => (key, .aggregate) := by
    rw [actualExpansion_eq, named_safe (by decide) (isRouteKey_aggregate unicode input findings)]
  unfold intendedState namedState
  unfold aggregateKeys at hexpansion
  simp only [intendedState_selectedKey, hexpansion]
  cases named _ intent.expandedKey <;> rfl

/-- What is written is read back in full, and any other search is replaced once. -/
theorem atlas_search_round_trip :
    (∀ intent,
      parseAtlasSearch (serializeAtlasState (projectRuntimeMap unicode input findings) intent)
          (projectRuntimeMap unicode input findings) =
        { state := namedState (projectRuntimeMap unicode input findings) intent
          rejectedSubject := false
          rejectedExpansion := false
          rejectedLens := false }) ∧
    ∀ search,
      canonicalSearch (projectRuntimeMap unicode input findings)
          (canonicalSearch (projectRuntimeMap unicode input findings) search) =
        canonicalSearch (projectRuntimeMap unicode input findings) search ∧
      ∀ next, reconciliation (projectRuntimeMap unicode input findings) search = some next →
        reconciliation (projectRuntimeMap unicode input findings) next = none := by
  refine ⟨fun intent => ?_, fun search => ?_⟩
  · rw [parseAtlasSearch_serialize, intendedState_eq]
  · have hagain : canonicalSearch (projectRuntimeMap unicode input findings)
        (canonicalSearch (projectRuntimeMap unicode input findings) search) =
          canonicalSearch (projectRuntimeMap unicode input findings) search :=
      canonicalSearch_serialize unicode input findings _
    refine ⟨hagain, fun next hnext => ?_⟩
    by_cases hfixed : canonicalSearch (projectRuntimeMap unicode input findings) search = search
    · rw [reconciliation, hfixed, if_pos rfl] at hnext
      cases hnext
    · rw [reconciliation, if_neg hfixed] at hnext
      rw [← Option.some.inj hnext, reconciliation, hagain]
      exact if_pos rfl

end

/-! A selected container -/

def oneContainer : AtlasRuntimeMapInput :=
  mapOf [nodeJson "docker_container_a" "docker" "container"] []

def selectedDependencies : AtlasRouteIntent where
  lens := some (codeUnits "dependencies")
  selectedKey := some (codeUnits "docker_container_a")

/-- The selection is read back, and a search with its names in another order is replaced once. -/
theorem atlas_search_round_trip_applied :
    (parseAtlasSearch (serializeAtlasState (projectRuntimeMap plainTables oneContainer none)
        selectedDependencies) (projectRuntimeMap plainTables oneContainer none)).state.selectedKey =
      some "docker_container_a" ∧
    reconciliation (projectRuntimeMap plainTables oneContainer none)
      (codeUnits "?lens=dependencies&subject=docker_container_a") = none := by
  obtain ⟨hparsed, hreconciled⟩ := atlas_search_round_trip plainTables oneContainer none
  have hnamed : (namedState (projectRuntimeMap plainTables oneContainer none)
      selectedDependencies).selectedKey = some "docker_container_a" := by decide +kernel
  have hreplaced : reconciliation (projectRuntimeMap plainTables oneContainer none)
      (codeUnits "?subject=docker_container_a&lens=dependencies") =
        some (codeUnits "?lens=dependencies&subject=docker_container_a") := by decide +kernel
  refine ⟨?_, (hreconciled _).2 _ hreplaced⟩
  rw [hparsed]
  exact hnamed

end DockerMap.Web.Atlas
