import Mathlib.Algebra.BigOperators.Group.List.Basic
import Mathlib.Algebra.Ring.Nat
import Mathlib.Data.List.Nodup

/-! Maps that keep their keys in the order of insertion. To set a key that is there leaves it
in its place. -/

universe u v

structure InsertionMap (κ : Type u) (ν : Type v) where
  entries : List (κ × ν)
  nodup : (entries.map Prod.fst).Nodup

namespace InsertionMap

variable {κ : Type u} {ν : Type v}

def empty : InsertionMap κ ν := ⟨[], .nil⟩

instance : EmptyCollection (InsertionMap κ ν) := ⟨empty⟩

def size (m : InsertionMap κ ν) : ℕ := m.entries.length

/-- The key that was inserted first. -/
def first? (m : InsertionMap κ ν) : Option κ := m.entries.head?.map Prod.fst

/-- The sum of a measure over the values. -/
def total (f : ν → ℕ) (m : InsertionMap κ ν) : ℕ := (m.entries.map fun e => f e.2).sum

theorem size_eq_total (m : InsertionMap κ ν) : m.size = m.total fun _ => 1 := by
  rw [size, total, List.map_const', List.sum_replicate_nat, Nat.mul_one]

theorem total_empty (f : ν → ℕ) : (∅ : InsertionMap κ ν).total f = 0 := rfl

theorem size_of_first?_none {m : InsertionMap κ ν} (h : m.first? = none) : m.size = 0 := by
  rw [first?, Option.map_eq_none_iff, List.head?_eq_none_iff] at h
  rw [size, h, List.length_nil]

variable [DecidableEq κ]

def get? (m : InsertionMap κ ν) (k : κ) : Option ν :=
  (m.entries.find? fun e => e.1 = k).map Prod.snd

def setEntry (k : κ) (v : ν) : List (κ × ν) → List (κ × ν)
  | [] => [(k, v)]
  | e :: l => if e.1 = k then (k, v) :: l else e :: setEntry k v l

theorem keys_setEntry (k : κ) (v : ν) (l : List (κ × ν)) :
    (setEntry k v l).map Prod.fst =
      if k ∈ l.map Prod.fst then l.map Prod.fst else l.map Prod.fst ++ [k] := by
  induction l with
  | nil => rfl
  | cons e l ih =>
    by_cases hk : e.1 = k
    · subst hk
      rw [setEntry, if_pos rfl, List.map_cons, List.map_cons, if_pos List.mem_cons_self]
    · have hmem : k ∈ (e :: l).map Prod.fst ↔ k ∈ l.map Prod.fst := by
        rw [List.map_cons, List.mem_cons, or_iff_right (Ne.symm hk)]
      rw [setEntry, if_neg hk, List.map_cons, ih, if_congr hmem rfl rfl]
      split_ifs
      · rfl
      · rfl

def set (m : InsertionMap κ ν) (k : κ) (v : ν) : InsertionMap κ ν where
  entries := setEntry k v m.entries
  nodup := by
    rw [keys_setEntry]
    split_ifs with hmem
    · exact m.nodup
    · exact m.nodup.append (List.nodup_singleton k) (List.disjoint_singleton.2 hmem)

def delete (m : InsertionMap κ ν) (k : κ) : InsertionMap κ ν where
  entries := m.entries.filter fun e => e.1 ≠ k
  nodup := m.nodup.sublist (List.filter_sublist.map Prod.fst)

/-! Lookups -/

theorem get?_empty (k : κ) : (∅ : InsertionMap κ ν).get? k = none := rfl

theorem find?_setEntry (k key : κ) (v : ν) (l : List (κ × ν)) :
    ((setEntry k v l).find? fun e => e.1 = key).map Prod.snd =
      if key = k then some v else (l.find? fun e => e.1 = key).map Prod.snd := by
  induction l with
  | nil =>
    by_cases hkey : k = key
    · simp [setEntry, hkey]
    · simp [setEntry, hkey, Ne.symm hkey]
  | cons e l ih =>
    by_cases hk : e.1 = k
    · subst hk
      rw [setEntry, if_pos rfl]
      by_cases hkey : e.1 = key
      · simp [hkey]
      · simp [hkey, Ne.symm hkey]
    · rw [setEntry, if_neg hk]
      by_cases hkey : e.1 = key
      · subst hkey
        simp [hk]
      · simpa [hkey] using ih

theorem get?_set (m : InsertionMap κ ν) (k key : κ) (v : ν) :
    (m.set k v).get? key = if key = k then some v else m.get? key :=
  find?_setEntry k key v m.entries

theorem get?_delete (m : InsertionMap κ ν) (k key : κ) :
    (m.delete k).get? key = if key = k then none else m.get? key := by
  rw [get?, delete, List.find?_filter]
  split_ifs with hkey
  · subst hkey
    rw [Option.map_eq_none_iff, List.find?_eq_none]
    simp
  · rw [get?]
    congr 2
    funext e
    by_cases he : e.1 = key
    · subst he
      simp [hkey]
    · simp [he]

theorem get?_eq_some_iff {m : InsertionMap κ ν} {k : κ} {v : ν} :
    m.get? k = some v ↔ (k, v) ∈ m.entries := by
  rw [get?, Option.map_eq_some_iff]
  constructor
  · rintro ⟨e, he, rfl⟩
    have hkey : e.1 = k := by simpa using List.find?_some he
    rw [← hkey]
    exact List.mem_of_find?_eq_some he
  · intro hmem
    cases hfind : m.entries.find? fun e => e.1 = k with
    | none =>
      have hne := List.find?_eq_none.1 hfind (k, v) hmem
      exact absurd (decide_eq_true rfl) hne
    | some e =>
      have hkey : e.1 = k := by simpa using List.find?_some hfind
      have heq := List.inj_on_of_nodup_map m.nodup (List.mem_of_find?_eq_some hfind) hmem hkey
      exact ⟨e, rfl, by rw [heq]⟩

theorem setEntry_of_not_mem {k : κ} (v : ν) {l : List (κ × ν)} (h : k ∉ l.map Prod.fst) :
    setEntry k v l = l ++ [(k, v)] := by
  induction l with
  | nil => rfl
  | cons e l ih =>
    rw [List.map_cons, List.mem_cons, not_or] at h
    rw [setEntry, if_neg (Ne.symm h.1), ih h.2, List.cons_append]

/-- A new key comes last. -/
theorem entries_set_of_none {m : InsertionMap κ ν} {k : κ} (h : k ∉ m.entries.map Prod.fst)
    (v : ν) : (m.set k v).entries = m.entries ++ [(k, v)] :=
  setEntry_of_not_mem v h

theorem exists_get?_of_first? {m : InsertionMap κ ν} {k : κ} (h : m.first? = some k) :
    ∃ v, m.get? k = some v := by
  obtain ⟨e, he, rfl⟩ := Option.map_eq_some_iff.1 h
  exact ⟨e.2, get?_eq_some_iff.2 (List.mem_of_mem_head? he)⟩

theorem mem_keys_iff {m : InsertionMap κ ν} {k : κ} :
    k ∈ m.entries.map Prod.fst ↔ m.get? k ≠ none := by
  constructor
  · intro hmem hnone
    obtain ⟨⟨k', v⟩, he, rfl⟩ := List.mem_map.1 hmem
    rw [get?_eq_some_iff.2 he] at hnone
    cases hnone
  · intro hsome
    obtain ⟨v, hv⟩ := Option.ne_none_iff_exists'.1 hsome
    exact List.mem_map.2 ⟨(k, v), get?_eq_some_iff.1 hv, rfl⟩

/-- Maps with the same lookups have the same entries. -/
theorem entries_perm {m m' : InsertionMap κ ν} (h : ∀ k, m.get? k = m'.get? k) :
    m.entries.Perm m'.entries := by
  refine (List.perm_ext_iff_of_nodup (m.nodup.of_map _) (m'.nodup.of_map _)).2 fun e => ?_
  rw [← @get?_eq_some_iff _ _ _ m e.1 e.2, ← @get?_eq_some_iff _ _ _ m' e.1 e.2, h]

/-! Groups -/

/-- Appends to the list under a key. -/
def push (m : InsertionMap κ (List ν)) (k : κ) (v : ν) : InsertionMap κ (List ν) :=
  m.set k ((m.get? k).getD [] ++ [v])

def group (m : InsertionMap κ (List ν)) (k : κ) : List ν := (m.get? k).getD []

theorem group_push (m : InsertionMap κ (List ν)) (k key : κ) (v : ν) :
    (m.push k v).group key = m.group key ++ if key = k then [v] else [] := by
  rw [group, push, get?_set]
  split_ifs with hkey
  · rw [hkey]
    rfl
  · rw [List.append_nil, group]

/-- No list under a key is empty. -/
def Inhabited (m : InsertionMap κ (List ν)) : Prop := ∀ k, m.get? k ≠ some []

theorem inhabited_empty : (∅ : InsertionMap κ (List ν)).Inhabited := fun _ h => by cases h

theorem Inhabited.push {m : InsertionMap κ (List ν)} (h : m.Inhabited) (k : κ) (v : ν) :
    (m.push k v).Inhabited := by
  intro key hkey
  rw [InsertionMap.push, get?_set] at hkey
  split_ifs at hkey
  · simp at hkey
  · exact h key hkey

theorem Inhabited.get?_eq_some_iff {m : InsertionMap κ (List ν)} (h : m.Inhabited) {k : κ}
    {vs : List ν} : m.get? k = some vs ↔ m.group k = vs ∧ vs ≠ [] := by
  rw [group]
  cases hget : m.get? k with
  | none => simp [eq_comm]
  | some found =>
    have hne : found ≠ [] := fun heq => h k (heq ▸ hget)
    rw [Option.some.injEq, Option.getD_some]
    exact ⟨fun heq => ⟨heq, heq ▸ hne⟩, And.left⟩

theorem flatMap_setEntry_perm (k : κ) (v : ν) (l : List (κ × List ν)) :
    ((setEntry k (((l.find? fun e => e.1 = k).map Prod.snd).getD [] ++ [v]) l).flatMap
      Prod.snd).Perm (l.flatMap Prod.snd ++ [v]) := by
  induction l with
  | nil => exact List.Perm.refl _
  | cons e l ih =>
    by_cases hk : e.1 = k
    · rw [setEntry, if_pos hk, List.find?_cons_of_pos (by simpa using hk), List.flatMap_cons,
        List.flatMap_cons]
      simp only [Option.map_some, Option.getD_some, List.append_assoc]
      exact List.perm_append_comm.append_left e.2
    · rw [setEntry, if_neg hk, List.find?_cons_of_neg (by simpa using hk), List.flatMap_cons,
        List.flatMap_cons, List.append_assoc]
      exact ih.append_left e.2

/-- All the values, whatever key they are under. -/
theorem flatMap_push_perm (m : InsertionMap κ (List ν)) (k : κ) (v : ν) :
    ((m.push k v).entries.flatMap Prod.snd).Perm (m.entries.flatMap Prod.snd ++ [v]) :=
  flatMap_setEntry_perm k v m.entries

/-! Totals -/

variable (f : ν → ℕ) (m : InsertionMap κ ν)

theorem sum_setEntry (k : κ) (v : ν) (l : List (κ × ν)) :
    ((setEntry k v l).map fun e => f e.2).sum +
        ((l.find? fun e => e.1 = k).map Prod.snd).elim 0 f =
      (l.map fun e => f e.2).sum + f v := by
  induction l with
  | nil => simp [setEntry]
  | cons e l ih =>
    rw [setEntry]
    by_cases hk : e.1 = k
    · simp [hk]
      omega
    · rw [if_neg hk, List.map_cons, List.sum_cons, List.map_cons, List.sum_cons,
        List.find?_cons_of_neg (by simpa using hk)]
      omega

theorem total_set (k : κ) (v : ν) :
    (m.set k v).total f + (m.get? k).elim 0 f = m.total f + f v :=
  sum_setEntry f k v m.entries

theorem sum_delete (k : κ) (l : List (κ × ν)) (h : (l.map Prod.fst).Nodup) :
    ((l.filter fun e => e.1 ≠ k).map fun e => f e.2).sum +
        ((l.find? fun e => e.1 = k).map Prod.snd).elim 0 f =
      (l.map fun e => f e.2).sum := by
  induction l with
  | nil => rfl
  | cons e l ih =>
    rw [List.map_cons, List.nodup_cons] at h
    by_cases hk : e.1 = k
    · have hall : l.filter (fun e => decide (e.1 ≠ k)) = l :=
        List.filter_eq_self.2 fun other hother => by
          have hne : other.1 ≠ k := fun heq =>
            h.1 (List.mem_map.2 ⟨other, hother, heq.trans hk.symm⟩)
          simpa using hne
      rw [List.filter_cons_of_neg (by simpa using hk), hall,
        List.find?_cons_of_pos (by simpa using hk), List.map_cons, List.sum_cons]
      exact Nat.add_comm _ _
    · have hrest := ih h.2
      rw [List.filter_cons_of_pos (by simpa using hk),
        List.find?_cons_of_neg (by simpa using hk), List.map_cons, List.map_cons, List.sum_cons,
        List.sum_cons]
      omega

theorem total_delete (k : κ) : (m.delete k).total f + (m.get? k).elim 0 f = m.total f :=
  sum_delete f k m.entries m.nodup

/-- The values under different keys come to at most the total. -/
theorem sum_le_total {keys : List κ} (h : keys.Nodup) :
    (keys.map fun k => (m.get? k).elim 0 f).sum ≤ m.total f := by
  induction keys generalizing m with
  | nil => exact Nat.zero_le _
  | cons k keys ih =>
    obtain ⟨hnotMem, hnodup⟩ := List.nodup_cons.1 h
    have hrest : (keys.map fun key => (m.get? key).elim 0 f) =
        keys.map fun key => ((m.delete k).get? key).elim 0 f := by
      refine List.map_congr_left fun key hkey => ?_
      have hne : key ≠ k := fun heq => hnotMem (heq ▸ hkey)
      rw [get?_delete, if_neg hne]
    have hdelete := total_delete f m k
    have hsum := ih (m.delete k) hnodup
    rw [List.map_cons, List.sum_cons, hrest]
    omega

theorem total_push (m : InsertionMap κ (List ν)) (k : κ) (v : ν) :
    (m.push k v).total List.length = m.total List.length + 1 := by
  have htotal := total_set List.length m k ((m.get? k).getD [] ++ [v])
  have hlength : ((m.get? k).getD []).length = (m.get? k).elim 0 List.length := by
    cases m.get? k with
    | none => rfl
    | some vs => rfl
  rw [List.length_append, hlength, List.length_singleton] at htotal
  rw [push]
  omega

/-! Sizes -/

theorem size_set_le (k : κ) (v : ν) : (m.set k v).size ≤ m.size + 1 := by
  have htotal := total_set (fun _ => 1) m k v
  rw [size_eq_total, size_eq_total]
  omega

theorem size_delete_le (k : κ) : (m.delete k).size ≤ m.size := List.length_filter_le ..

theorem size_delete_lt {k : κ} {v : ν} (h : m.get? k = some v) : (m.delete k).size < m.size := by
  have htotal := total_delete (fun _ => 1) m k
  rw [h, Option.elim_some] at htotal
  rw [size_eq_total, size_eq_total]
  omega

/-! Maps with fewer entries -/

/-- Only entries of one kind are gone. -/
structure DropsOnly (gone : κ × ν → Prop) (m m' : InsertionMap κ ν) : Prop where
  sublist : m'.entries.Sublist m.entries
  kept : ∀ e ∈ m.entries, ¬ gone e → e ∈ m'.entries

namespace DropsOnly

variable {gone : κ × ν → Prop} {m m' m'' : InsertionMap κ ν}

omit [DecidableEq κ] in
theorem refl (m : InsertionMap κ ν) : DropsOnly gone m m :=
  ⟨List.Sublist.refl _, fun _ he _ => he⟩

omit [DecidableEq κ] in
theorem trans (h : DropsOnly gone m m') (h' : DropsOnly gone m' m'') : DropsOnly gone m m'' :=
  ⟨h'.sublist.trans h.sublist, fun e he hgone => h'.kept e (h.kept e he hgone) hgone⟩

theorem delete {k : κ} (h : ∀ v, m.get? k = some v → gone (k, v)) :
    DropsOnly gone m (m.delete k) := by
  refine ⟨List.filter_sublist, fun ⟨key, v⟩ he hgone => List.mem_filter.2 ⟨he, ?_⟩⟩
  refine decide_eq_true fun hkey : key = k => hgone ?_
  subst hkey
  exact h v (get?_eq_some_iff.2 he)

theorem get?_eq_some (h : DropsOnly gone m m') {k : κ} {v : ν} (hget : m'.get? k = some v) :
    m.get? k = some v :=
  get?_eq_some_iff.2 (h.sublist.subset (get?_eq_some_iff.1 hget))

omit [DecidableEq κ] in
/-- An entry that stays is followed by no more than before. -/
theorem split (h : DropsOnly gone m m') {before after : List (κ × ν)} {e : κ × ν}
    (hentries : m.entries = before ++ e :: after) (hgone : ¬ gone e) :
    ∃ before' after', m'.entries = before' ++ e :: after' ∧ after'.Sublist after := by
  have hmem : e ∈ m'.entries := h.kept e (by rw [hentries]; simp) hgone
  have hnodup : (before ++ e :: after).Nodup := hentries ▸ m.nodup.of_map _
  have hsublist := h.sublist
  rw [hentries] at hsublist
  obtain ⟨front, rest, hsplit, hfront, hrest⟩ := List.sublist_append_iff.1 hsublist
  rcases List.sublist_cons_iff.1 hrest with hafter | ⟨after', rfl, hafter⟩
  · rw [hsplit, List.mem_append] at hmem
    have hdisjoint := List.nodup_append'.1 hnodup
    rcases hmem with hmem | hmem
    · exact absurd List.mem_cons_self (fun hself => hdisjoint.2.2 (hfront.subset hmem) hself)
    · exact absurd (hafter.subset hmem) (List.nodup_cons.1 hdisjoint.2.1).1
  · exact ⟨front, after', hsplit, hafter⟩

end DropsOnly

end InsertionMap
