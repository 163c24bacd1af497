import DockerMap.Lib.SortedMap

/-! The difference of two finite maps as a list of changes, one for each key whose bindings
differ, and its replay. A key that a side hides takes no part: it is neither removed nor
added on that side's word. -/

universe u v

namespace MapDiff

variable {κ : Type u} {ν : Type v} [LinearOrder κ]

/-- The binding of a key on both sides; a key that is not bound has none. -/
structure Change (κ : Type u) (ν : Type v) where
  key : κ
  before : Option ν
  after : Option ν

def Change.apply (m : SortedMap κ ν) (change : Change κ ν) : SortedMap κ ν :=
  match change.after with
  | some value => m.insert change.key value
  | none => m.erase change.key

theorem get?_apply (m : SortedMap κ ν) (change : Change κ ν) (key : κ) :
    (change.apply m).get? key = if key = change.key then change.after else m.get? key := by
  unfold Change.apply
  cases change.after with
  | some value => exact SortedMap.get?_insert ..
  | none => exact SortedMap.get?_erase ..

/-- Changes of distinct keys are all there in the end. -/
theorem get?_foldl_apply {changes : List (Change κ ν)} (h : (changes.map Change.key).Nodup)
    (m : SortedMap κ ν) (key : κ) :
    (changes.foldl Change.apply m).get? key =
      ((changes.find? fun change => change.key = key).map Change.after).getD (m.get? key) := by
  induction changes generalizing m with
  | nil => rfl
  | cons change changes ih =>
    rw [List.map_cons, List.nodup_cons] at h
    rw [List.foldl_cons, ih h.2, get?_apply]
    by_cases hkey : change.key = key
    · have hnone : changes.find? (fun change => change.key = key) = none := by
        refine List.find?_eq_none.2 fun other hother => ?_
        rw [decide_eq_true_eq, ← hkey]
        exact fun heq => h.1 (heq ▸ List.mem_map_of_mem hother)
      rw [hnone, if_pos hkey.symm, List.find?_cons_of_pos (by simpa using hkey)]
      rfl
    · rw [if_neg (Ne.symm hkey), List.find?_cons_of_neg (by simpa using hkey)]

variable [DecidableEq ν]

section

variable (hiddenOld hiddenNew : κ → Bool) (old new : SortedMap κ ν)

def removed : List (Change κ ν) :=
  old.entries.filterMap fun entry =>
    if (new.get? entry.1).isSome || hiddenNew entry.1 then none
    else some ⟨entry.1, some entry.2, none⟩

def arrived : List (Change κ ν) :=
  new.entries.filterMap fun entry =>
    match old.get? entry.1 with
    | none => if hiddenOld entry.1 then none else some ⟨entry.1, none, some entry.2⟩
    | some value => if value ≠ entry.2 then some ⟨entry.1, some value, some entry.2⟩ else none

def diff : List (Change κ ν) := removed hiddenNew old new ++ arrived hiddenOld old new

end

variable {hiddenOld hiddenNew : κ → Bool} {old new : SortedMap κ ν} {change : Change κ ν}

omit [DecidableEq ν] in
theorem mem_removed_iff : change ∈ removed hiddenNew old new ↔
    (∃ value, change.before = some value ∧ old.get? change.key = some value) ∧
      change.after = none ∧ new.get? change.key = none ∧ hiddenNew change.key = false := by
  obtain ⟨key, before, after⟩ := change
  simp only [removed, List.mem_filterMap, Option.ite_none_left_eq_some, Bool.or_eq_true, not_or,
    Bool.not_eq_true, Option.isSome_eq_false_iff, Option.isNone_iff_eq_none]
  constructor
  · rintro ⟨⟨_, value⟩, hmem, ⟨hnew, hhidden⟩, heq⟩
    cases heq
    exact ⟨⟨value, rfl, SortedMap.get?_eq_some_iff.2 hmem⟩, rfl, hnew, hhidden⟩
  · rintro ⟨⟨value, hbefore, hold⟩, hafter, hnew, hhidden⟩
    rw [hbefore, hafter]
    exact ⟨(key, value), SortedMap.get?_eq_some_iff.1 hold, ⟨hnew, hhidden⟩, rfl⟩

theorem mem_arrived_iff : change ∈ arrived hiddenOld old new ↔
    (∃ value, change.after = some value ∧ new.get? change.key = some value) ∧
      change.before = old.get? change.key ∧ change.before ≠ change.after ∧
      (change.before = none → hiddenOld change.key = false) := by
  obtain ⟨key, before, after⟩ := change
  rw [arrived, List.mem_filterMap]
  constructor
  · rintro ⟨⟨k, value⟩, hmem, heq⟩
    have hnew := SortedMap.get?_eq_some_iff.2 hmem
    cases hold : old.get? k with
    | none =>
      rw [hold] at heq
      obtain ⟨hhidden, hchange⟩ := Option.ite_none_left_eq_some.1 heq
      cases hchange
      exact ⟨⟨value, rfl, hnew⟩, hold.symm, by simp, fun _ => by simpa using hhidden⟩
    | some earlier =>
      rw [hold] at heq
      obtain ⟨hne, hchange⟩ := Option.ite_none_right_eq_some.1 heq
      cases hchange
      exact ⟨⟨value, rfl, hnew⟩, hold.symm, by simpa using hne, fun h => by cases h⟩
  · rintro ⟨⟨value, hafter, hnew⟩, hbefore, hne, hhidden⟩
    dsimp only at hafter hbefore hne hhidden hnew
    refine ⟨(key, value), SortedMap.get?_eq_some_iff.1 hnew, ?_⟩
    dsimp only
    rw [← hbefore, hafter]
    cases hold : before with
    | none =>
      rw [hhidden hold]
      rfl
    | some earlier =>
      rw [hafter, hold] at hne
      exact if_pos fun heq => hne (congrArg some heq)

/-- A key changes exactly when its bindings differ and no side hides what it lacks. -/
theorem mem_diff_iff : change ∈ diff hiddenOld hiddenNew old new ↔
    change.before = old.get? change.key ∧ change.after = new.get? change.key ∧
      change.before ≠ change.after ∧ (change.before = none → hiddenOld change.key = false) ∧
      (change.after = none → hiddenNew change.key = false) := by
  rw [diff, List.mem_append, mem_removed_iff, mem_arrived_iff]
  constructor
  · rintro (⟨⟨value, hbefore, hold⟩, hafter, hnew, hhidden⟩ |
      ⟨⟨value, hafter, hnew⟩, hbefore, hne, hhidden⟩)
    · refine ⟨hbefore.trans hold.symm, hafter.trans hnew.symm, ?_, ?_, fun _ => hhidden⟩
      · rw [hbefore, hafter]
        exact Option.some_ne_none value
      · rw [hbefore]
        exact fun h => by cases h
    · refine ⟨hbefore, hafter.trans hnew.symm, hne, hhidden, ?_⟩
      rw [hafter]
      exact fun h => by cases h
  · rintro ⟨hbefore, hafter, hne, hhiddenOld, hhiddenNew⟩
    cases hnew : change.after with
    | none =>
      refine Or.inl ⟨?_, rfl, hafter.symm.trans hnew, hhiddenNew hnew⟩
      obtain ⟨value, hvalue⟩ := Option.ne_none_iff_exists'.1 (hnew ▸ hne)
      exact ⟨value, hvalue, hbefore.symm.trans hvalue⟩
    | some value =>
      exact Or.inr ⟨⟨value, rfl, hafter.symm.trans hnew⟩, hbefore, hnew ▸ hne, hhiddenOld⟩

theorem nodup_keys_diff : ((diff hiddenOld hiddenNew old new).map Change.key).Nodup := by
  rw [diff, List.map_append, List.nodup_append]
  have hsorted : ∀ (m : SortedMap κ ν) (f : κ × ν → Option (Change κ ν)),
      (∀ entry, ∀ change ∈ f entry, change.key = entry.1) →
      ((m.entries.filterMap f).map Change.key).Nodup := by
    intro m f hf
    refine List.Pairwise.imp (fun h => ne_of_lt h) (List.pairwise_map.2 ?_)
    refine List.pairwise_filterMap.2 (m.sorted.imp fun {a b} hlt c hc d hd => ?_)
    rw [hf a c hc, hf b d hd]
    exact hlt
  refine ⟨hsorted old _ ?_, hsorted new _ ?_, ?_⟩
  · intro entry change hchange
    obtain ⟨-, heq⟩ := Option.ite_none_left_eq_some.1 hchange
    cases heq
    rfl
  · intro entry change hchange
    split at hchange
    · obtain ⟨-, heq⟩ := Option.ite_none_left_eq_some.1 hchange
      cases heq
      rfl
    · obtain ⟨-, heq⟩ := Option.ite_none_right_eq_some.1 hchange
      cases heq
      rfl
  · intro key hremoved key' harrived
    obtain ⟨change, hchange, rfl⟩ := List.mem_map.1 hremoved
    obtain ⟨change', hchange', rfl⟩ := List.mem_map.1 harrived
    intro heq
    obtain ⟨-, -, hnone, -⟩ := mem_removed_iff.1 hchange
    obtain ⟨⟨value, -, hsome⟩, -⟩ := mem_arrived_iff.1 hchange'
    rw [heq, hsome] at hnone
    cases hnone

/-- The replay of the changes takes a key that no side hides to its new binding. -/
theorem get?_replay {key : κ} (hold : hiddenOld key = false) (hnew : hiddenNew key = false) :
    ((diff hiddenOld hiddenNew old new).foldl Change.apply old).get? key = new.get? key := by
  rw [get?_foldl_apply nodup_keys_diff]
  cases hfind : (diff hiddenOld hiddenNew old new).find? fun change => change.key = key with
  | none =>
    have hnone := List.find?_eq_none.1 hfind ⟨key, old.get? key, new.get? key⟩
    by_contra hne
    exact hnone (mem_diff_iff.2 ⟨rfl, rfl, hne, fun _ => hold, fun _ => hnew⟩)
      (by simp)
  | some change =>
    have hmem := mem_diff_iff.1 (List.mem_of_find?_eq_some hfind)
    have hkey : change.key = key := by simpa using List.find?_some hfind
    rw [Option.map_some, Option.getD_some, hmem.2.1, hkey]

/-- With nothing hidden, the replay takes the old map to the new one. -/
theorem replay_diff (hold : ∀ key, hiddenOld key = false) (hnew : ∀ key, hiddenNew key = false) :
    (diff hiddenOld hiddenNew old new).foldl Change.apply old = new :=
  SortedMap.ext_get? fun key => get?_replay (hold key) (hnew key)

/-- A key has one change if its bindings differ, and none otherwise. -/
theorem countP_diff {key : κ} (hold : hiddenOld key = false) (hnew : hiddenNew key = false) :
    (diff hiddenOld hiddenNew old new).countP (fun change => change.key = key) =
      if old.get? key = new.get? key then 0 else 1 := by
  have hcount : (diff hiddenOld hiddenNew old new).countP (fun change => change.key = key) =
      ((diff hiddenOld hiddenNew old new).map Change.key).count key := by
    rw [List.count, List.countP_map]
    rfl
  rw [hcount]
  split_ifs with heq
  · refine List.count_eq_zero.2 fun hmem => ?_
    obtain ⟨change, hchange, rfl⟩ := List.mem_map.1 hmem
    obtain ⟨hbefore, hafter, hne, -⟩ := mem_diff_iff.1 hchange
    exact hne (hbefore.trans (heq.trans hafter.symm))
  · refine List.count_eq_one_of_mem nodup_keys_diff (List.mem_map.2
      ⟨⟨key, old.get? key, new.get? key⟩, mem_diff_iff.2 ⟨rfl, rfl, heq, fun _ => hold,
        fun _ => hnew⟩, rfl⟩)

end MapDiff
