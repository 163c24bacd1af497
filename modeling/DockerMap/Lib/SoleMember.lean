import Mathlib.Data.List.Nodup
import Mathlib.Data.List.Perm.Basic

/-! The one element of a list that has a property, and lists in which a key occurs once. -/

namespace SoleMember

variable {α β κ : Type*} {l : List α} {p q : α → Bool} {a b : α}

theorem eq_of_countP_le_one (h : l.countP p ≤ 1) (ha : a ∈ l) (hpa : p a = true) (hb : b ∈ l)
    (hpb : p b = true) : a = b := by
  rw [List.countP_eq_length_filter] at h
  have hmema : a ∈ l.filter p := List.mem_filter.2 ⟨ha, hpa⟩
  have hmemb : b ∈ l.filter p := List.mem_filter.2 ⟨hb, hpb⟩
  match hfilter : l.filter p with
  | [] => simp [hfilter] at hmema
  | [c] =>
    rw [hfilter, List.mem_singleton] at hmema hmemb
    rw [hmema, hmemb]
  | _ :: _ :: _ => simp [hfilter] at h

/-- Several properties, each of `a` alone or of nothing: together they are of `a` alone. -/
theorem countP_any_eq_one {ps : List (α → Bool)} (ha : a ∈ l) :
    (∀ p ∈ ps, l.countP p = 0 ∨ l.countP p = 1 ∧ p a = true) ∧ (∃ p ∈ ps, p a = true) ↔
      l.countP (fun b => ps.any fun p => p b) = 1 ∧ ∃ p ∈ ps, p a = true := by
  refine and_congr_left fun hnamed => ?_
  have hany : (ps.any fun p => p a) = true := List.any_eq_true.2 hnamed
  constructor
  · intro h
    obtain ⟨before, after, rfl⟩ := List.append_of_mem ha
    have hnone : ∀ b ∈ before ++ after, (ps.any fun p => p b) = true → False := by
      intro b hb hpb
      obtain ⟨p, hp, hpb⟩ := List.any_eq_true.1 hpb
      have hpos : 0 < (before ++ after).countP p := List.countP_pos_iff.2 ⟨b, hb, hpb⟩
      rw [List.countP_append] at hpos
      rcases h p hp with hzero | ⟨hone, hpa⟩
      · rw [List.countP_append, List.countP_cons] at hzero
        omega
      · rw [List.countP_append, List.countP_cons_of_pos hpa] at hone
        omega
    have hzero : (before ++ after).countP (fun b => ps.any fun p => p b) = 0 :=
      List.countP_eq_zero.2 hnone
    rw [List.countP_append] at hzero
    rw [List.countP_append, List.countP_cons, if_pos hany]
    omega
  · intro hone p hp
    have hle : l.countP p ≤ 1 := by
      rw [← hone]
      exact List.countP_mono_left fun b _ hpb => List.any_eq_true.2 ⟨p, hp, hpb⟩
    rcases Nat.le_one_iff_eq_zero_or_eq_one.1 hle with hzero | hpone
    · exact Or.inl hzero
    · obtain ⟨b, hb, hpb⟩ := List.countP_pos_iff.1 (hpone ▸ Nat.one_pos)
      have hsame : a = b := eq_of_countP_le_one (Nat.le_of_eq hone) ha hany hb
        (List.any_eq_true.2 ⟨p, hp, hpb⟩)
      exact Or.inr ⟨hpone, hsame ▸ hpb⟩

theorem eq_of_count_map_le_one [DecidableEq κ] {key : α → κ}
    (h : (l.map key).count (key a) ≤ 1) (ha : a ∈ l) (hb : b ∈ l) (hkey : key b = key a) :
    b = a := by
  rw [List.count, List.countP_map] at h
  exact eq_of_countP_le_one h hb (beq_iff_eq.2 hkey) ha (beq_self_eq_true _)

/-- A search finds whatever it looks for, when at most one element will do. -/
theorem find?_eq_some_iff (h : l.countP q ≤ 1) (hpq : ∀ a ∈ l, p a = true → q a = true) :
    l.find? p = some a ↔ a ∈ l ∧ p a = true := by
  constructor
  · exact fun hfind => ⟨List.mem_of_find?_eq_some hfind, List.find?_some hfind⟩
  · rintro ⟨hmem, hpa⟩
    obtain ⟨b, hfind⟩ : ∃ b, l.find? p = some b := by
      rw [← Option.isSome_iff_exists, List.find?_isSome]
      exact ⟨a, hmem, hpa⟩
    have hb := List.mem_of_find?_eq_some hfind
    have hpb := List.find?_some hfind
    rw [hfind, eq_of_countP_le_one h hmem (hpq a hmem hpa) hb (hpq b hb hpb)]

theorem nodup_map_of_countP_le_one [DecidableEq κ] {key : α → κ}
    (h : ∀ a ∈ l, (l.countP fun b => key b = key a) ≤ 1) : (l.map key).Nodup := by
  rw [List.nodup_iff_count_le_one]
  intro k
  by_cases hk : k ∈ l.map key
  · obtain ⟨a, ha, rfl⟩ := List.mem_map.1 hk
    rw [List.count, List.countP_map]
    exact h a ha
  · rw [List.count_eq_zero_of_not_mem hk]
    exact Nat.zero_le _

/-- Where a key occurs once, the selected elements with the key of `a` are `a` or none. -/
theorem countP_key_eq [DecidableEq κ] {key : α → κ} (h : (l.map key).Nodup) (ha : a ∈ l) :
    (l.countP fun b => key b == key a && p b) = if p a then 1 else 0 := by
  have hsub : ((l.filter p).map key).Sublist (l.map key) := List.filter_sublist.map key
  rw [← List.countP_filter]
  have hcount : ((l.filter p).map key).count (key a) =
      (l.filter p).countP fun b => key b == key a := List.countP_map
  rw [← hcount, (h.sublist hsub).count]
  refine if_congr ?_ rfl rfl
  rw [List.mem_map]
  constructor
  · rintro ⟨b, hb, hkey⟩
    rw [List.mem_filter] at hb
    rw [← List.inj_on_of_nodup_map h hb.1 ha hkey]
    exact hb.2
  · intro hpa
    exact ⟨a, List.mem_filter.2 ⟨ha, hpa⟩, rfl⟩

/-- The keys of what a search over selected elements gives are keys of these elements. -/
theorem map_filterMap_sublist {f : α → Option β} {key : α → κ} {key' : β → κ}
    (h : ∀ a b, f a = some b → p a = true ∧ key' b = key a) (l : List α) :
    ((l.filterMap f).map key').Sublist ((l.filter p).map key) := by
  induction l with
  | nil => exact .slnil
  | cons a l ih =>
    cases hfa : f a with
    | none =>
      rw [List.filterMap_cons_none hfa, List.filter_cons]
      split_ifs
      · exact ih.cons _
      · exact ih
    | some b =>
      obtain ⟨hpa, hkey⟩ := h a b hfa
      rw [List.filterMap_cons_some hfa, List.filter_cons_of_pos hpa, List.map_cons, List.map_cons,
        hkey]
      exact ih.cons_cons _

end SoleMember
