import Mathlib.Data.List.Pairwise
import Mathlib.Data.List.Sort
import Mathlib.Order.Lattice

/-! Finite maps as association lists with strictly increasing keys, the
extensional content of an ordered tree map: two maps with the same bindings
are equal, and iteration is by increasing key. -/

universe u v

structure SortedMap (κ : Type u) (ν : Type v) [LinearOrder κ] where
  entries : List (κ × ν)
  sorted : entries.Pairwise fun a b => a.1 < b.1

namespace SortedMap

variable {κ : Type u} {ν : Type v} [LinearOrder κ]

theorem ext_entries {m n : SortedMap κ ν} (h : m.entries = n.entries) : m = n := by
  cases m; cases n; cases h; rfl

instance [DecidableEq ν] : DecidableEq (SortedMap κ ν) := fun m n =>
  decidable_of_iff (m.entries = n.entries) ⟨ext_entries, fun h => h ▸ rfl⟩

def empty : SortedMap κ ν := ⟨[], .nil⟩

instance : EmptyCollection (SortedMap κ ν) := ⟨empty⟩
instance : Inhabited (SortedMap κ ν) := ⟨empty⟩

def isEmpty (m : SortedMap κ ν) : Bool := m.entries.isEmpty

def get? (m : SortedMap κ ν) (k : κ) : Option ν :=
  (m.entries.find? fun e => e.1 = k).map Prod.snd

def insertEntry (k : κ) (v : ν) : List (κ × ν) → List (κ × ν)
  | [] => [(k, v)]
  | e :: t =>
      if k < e.1 then (k, v) :: e :: t
      else if k = e.1 then (k, v) :: t
      else e :: insertEntry k v t

theorem mem_insertEntry {k : κ} {v : ν} {l : List (κ × ν)} {e : κ × ν}
    (h : e ∈ insertEntry k v l) : e = (k, v) ∨ e ∈ l := by
  induction l with
  | nil => simpa [insertEntry] using h
  | cons a t ih =>
    unfold insertEntry at h
    split_ifs at h with h1 h2
    · simpa using h
    · rcases List.mem_cons.1 h with h | h
      · exact Or.inl h
      · exact Or.inr (List.mem_cons_of_mem _ h)
    · rcases List.mem_cons.1 h with h | h
      · exact Or.inr (h ▸ List.mem_cons_self)
      · exact (ih h).imp id (List.mem_cons_of_mem _)

theorem sorted_insertEntry (k : κ) (v : ν) {l : List (κ × ν)}
    (h : l.Pairwise fun a b => a.1 < b.1) :
    (insertEntry k v l).Pairwise fun a b => a.1 < b.1 := by
  induction l with
  | nil => simp [insertEntry]
  | cons a t ih =>
    obtain ⟨ha, ht⟩ := List.pairwise_cons.1 h
    unfold insertEntry
    split_ifs with h1 h2
    · refine List.pairwise_cons.2 ⟨fun b hb => ?_, h⟩
      rcases List.mem_cons.1 hb with rfl | hb
      · exact h1
      · exact lt_trans h1 (ha b hb)
    · exact List.pairwise_cons.2 ⟨fun b hb => h2 ▸ ha b hb, ht⟩
    · refine List.pairwise_cons.2 ⟨fun b hb => ?_, ih ht⟩
      rcases mem_insertEntry hb with rfl | hb
      · exact lt_of_le_of_ne (not_lt.1 h1) (Ne.symm h2)
      · exact ha b hb

def insert (m : SortedMap κ ν) (k : κ) (v : ν) : SortedMap κ ν :=
  ⟨insertEntry k v m.entries, sorted_insertEntry k v m.sorted⟩

theorem find?_insertEntry (k : κ) (v : ν) (l : List (κ × ν)) (key : κ) :
    ((insertEntry k v l).find? fun e => e.1 = key).map Prod.snd =
      if key = k then some v else (l.find? fun e => e.1 = key).map Prod.snd := by
  induction l with
  | nil => by_cases h : key = k <;> simp [insertEntry, h, Ne.symm]
  | cons a t ih =>
    rw [insertEntry]
    by_cases hlt : k < a.1
    · rw [if_pos hlt]
      by_cases hkey : key = k
      · simp [hkey]
      · simp [hkey, Ne.symm hkey]
    rw [if_neg hlt]
    by_cases heq : k = a.1
    · rw [if_pos heq]
      by_cases hkey : key = k
      · simp [hkey]
      · simp [hkey, Ne.symm hkey, heq ▸ Ne.symm hkey]
    rw [if_neg heq]
    by_cases ha : a.1 = key
    · have hkey : key ≠ k := fun h => heq (ha.trans h).symm
      simp [ha, hkey]
    · simpa [ha] using ih

theorem get?_insert (m : SortedMap κ ν) (k : κ) (v : ν) (key : κ) :
    (m.insert k v).get? key = if key = k then some v else m.get? key :=
  find?_insertEntry k v m.entries key

theorem get?_empty (key : κ) : (∅ : SortedMap κ ν).get? key = none := rfl

theorem mem_entries_of_get? {m : SortedMap κ ν} {k : κ} {v : ν} (h : m.get? k = some v) :
    (k, v) ∈ m.entries := by
  obtain ⟨e, he, rfl⟩ := Option.map_eq_some_iff.1 h
  have hkey := List.find?_some he
  rw [decide_eq_true_eq] at hkey
  subst hkey
  exact List.mem_of_find?_eq_some he

theorem get?_eq_some_iff {m : SortedMap κ ν} {k : κ} {v : ν} :
    m.get? k = some v ↔ (k, v) ∈ m.entries := by
  refine ⟨mem_entries_of_get?, fun hmem => ?_⟩
  obtain ⟨before, after, hsplit⟩ := List.append_of_mem hmem
  have hsorted := m.sorted
  rw [hsplit, List.pairwise_append] at hsorted
  have hbefore : ∀ e ∈ before, ¬ decide (e.1 = k) = true := fun e he => by
    simpa using (hsorted.2.2 e he (k, v) List.mem_cons_self).ne
  rw [get?, hsplit, List.find?_append, List.find?_eq_none.2 hbefore, Option.none_or,
    List.find?_cons_of_pos (by simp), Option.map_some]

/-- Two maps with the same bindings are equal. -/
theorem ext_get? {m n : SortedMap κ ν} (h : ∀ k, m.get? k = n.get? k) : m = n := by
  have : Std.Irrefl fun a b : κ × ν => a.1 < b.1 := ⟨fun a => lt_irrefl a.1⟩
  have : Std.Asymm fun a b : κ × ν => a.1 < b.1 := ⟨fun a b => lt_asymm (a := a.1) (b := b.1)⟩
  refine ext_entries (m.sorted.eq_of_mem_iff n.sorted fun e => ?_)
  rw [← get?_eq_some_iff (k := e.1) (v := e.2), h, get?_eq_some_iff]

def ofEntries (l : List (κ × ν)) : SortedMap κ ν := l.foldl (fun m e => m.insert e.1 e.2) ∅

/-- Insert unless the key is taken. -/
def insertNew (m : SortedMap κ ν) (k : κ) (v : ν) : SortedMap κ ν :=
  match m.get? k with
  | some _ => m
  | none => m.insert k v

theorem get?_insertNew (m : SortedMap κ ν) (k : κ) (v : ν) (key : κ) :
    (m.insertNew k v).get? key = (m.get? key).or (if k = key then some v else none) := by
  unfold insertNew
  split
  · rename_i old hold
    by_cases h : k = key
    · rw [← h, hold]
      rfl
    · rw [if_neg h, Option.or_none]
  · rename_i hnone
    rw [get?_insert]
    by_cases h : k = key
    · rw [if_pos h.symm, if_pos h, ← h, hnone]
      rfl
    · rw [if_neg (Ne.symm h), if_neg h, Option.or_none]

/-- Of the elements that share a key, the first one is kept. -/
theorem get?_foldl_insertNew {ι : Type*} (f : ι → κ) (g : ι → ν) (l : List ι)
    (m : SortedMap κ ν) (key : κ) :
    (l.foldl (fun m i => m.insertNew (f i) (g i)) m).get? key =
      (m.get? key).or ((l.find? fun i => f i = key).map g) := by
  induction l generalizing m with
  | nil => simp
  | cons i l ih =>
    rw [List.foldl_cons, ih, get?_insertNew, Option.or_assoc]
    congr 1
    by_cases h : f i = key <;> simp [h]

/-- `*entry(k).or_default() += 1`. -/
def tally (m : SortedMap κ ℕ) (k : κ) : SortedMap κ ℕ := m.insert k ((m.get? k).getD 0 + 1)

theorem get?_foldl_tally (l : List κ) (m : SortedMap κ ℕ) (key : κ) :
    (l.foldl tally m).get? key =
      if key ∈ l then some ((m.get? key).getD 0 + l.count key) else m.get? key := by
  induction l generalizing m with
  | nil => rfl
  | cons k l ih =>
    rw [List.foldl_cons, ih, tally, get?_insert]
    by_cases hkey : key = k
    · subst hkey
      simp only [List.mem_cons_self, if_true, List.count_cons_self, Option.getD_some]
      split_ifs with hmem
      · congr 1
        omega
      · rw [List.count_eq_zero_of_not_mem hmem]
    · simp only [List.mem_cons, hkey, false_or, if_false, List.count_cons_of_ne (Ne.symm hkey)]

/-- `entry(k).or_default().push(v)`. -/
def push (m : SortedMap κ (List ν)) (k : κ) (v : ν) : SortedMap κ (List ν) :=
  m.insert k ((m.get? k).getD [] ++ [v])

theorem mem_getD_foldl_push {l : List (κ × ν)} {m : SortedMap κ (List ν)} {key : κ} {value : ν} :
    value ∈ ((l.foldl (fun m e => m.push e.1 e.2) m).get? key).getD [] ↔
      value ∈ (m.get? key).getD [] ∨ (key, value) ∈ l := by
  induction l generalizing m with
  | nil => simp
  | cons e l ih =>
    rw [List.foldl_cons, ih, push, get?_insert]
    split_ifs with hkey
    · subst hkey
      have hentry : (e.1, value) = e ↔ value = e.2 := by rw [Prod.ext_iff, and_iff_right rfl]
      rw [Option.getD_some, List.mem_append, List.mem_singleton, List.mem_cons, hentry, or_assoc]
    · have hne : (key, value) ≠ e := fun h => hkey (congrArg Prod.fst h)
      simp only [List.mem_cons, hne, false_or]

def erase (m : SortedMap κ ν) (k : κ) : SortedMap κ ν :=
  ⟨m.entries.filter fun e => e.1 ≠ k, m.sorted.filter _⟩

theorem get?_erase (m : SortedMap κ ν) (k key : κ) :
    (m.erase k).get? key = if key = k then none else m.get? key := by
  rw [get?, erase, List.find?_filter, get?]
  split_ifs with h
  · rw [List.find?_eq_none.2, Option.map_none]
    intro e _
    simp [h]
  · congr 2
    funext e
    by_cases he : e.1 = key <;> simp [he, h]

theorem filter_insertEntry (k : κ) (v : ν) (l : List (κ × ν)) :
    (insertEntry k v l).filter (fun e => e.1 ≠ k) = l.filter fun e => e.1 ≠ k := by
  induction l with
  | nil => simp [insertEntry]
  | cons a t ih =>
    unfold insertEntry
    split_ifs with hlt heq
    · simp
    · simp [heq]
    · rw [List.filter_cons, List.filter_cons, ih]

theorem erase_insert (m : SortedMap κ ν) (k : κ) (v : ν) : (m.insert k v).erase k = m.erase k :=
  ext_entries (filter_insertEntry k v m.entries)

def mapValues {μ : Type*} (f : ν → μ) (m : SortedMap κ ν) : SortedMap κ μ :=
  ⟨m.entries.map fun e => (e.1, f e.2), List.pairwise_map.2 m.sorted⟩

@[simp] theorem entries_mapValues {μ : Type*} (f : ν → μ) (m : SortedMap κ ν) :
    (m.mapValues f).entries = m.entries.map fun e => (e.1, f e.2) := rfl

theorem mapValues_mapValues {μ ρ : Type*} (f : ν → μ) (g : μ → ρ) (m : SortedMap κ ν) :
    (m.mapValues f).mapValues g = m.mapValues (g ∘ f) :=
  ext_entries (by simp [Function.comp_def])

end SortedMap

/-- An ordered set is a map to nothing. -/
abbrev SortedSet (κ : Type u) [LinearOrder κ] := SortedMap κ Unit

namespace SortedSet

variable {κ : Type u} [LinearOrder κ]

def add (s : SortedSet κ) (k : κ) : SortedSet κ := s.insert k ()

def toList (s : SortedSet κ) : List κ := s.entries.map Prod.fst

def ofList (l : List κ) : SortedSet κ := l.foldl add ∅

def mem (s : SortedSet κ) (k : κ) : Bool := (s.get? k).isSome

theorem mem_toList_iff {s : SortedSet κ} {k : κ} : k ∈ s.toList ↔ s.get? k = some () := by
  rw [SortedMap.get?_eq_some_iff, toList, List.mem_map]
  constructor
  · rintro ⟨⟨k, ⟨⟩⟩, he, rfl⟩
    exact he
  · intro h
    exact ⟨(k, ()), h, rfl⟩

theorem mem_toList_add {s : SortedSet κ} {k key : κ} :
    key ∈ (s.add k).toList ↔ key = k ∨ key ∈ s.toList := by
  rw [mem_toList_iff, add, SortedMap.get?_insert, mem_toList_iff]
  by_cases h : key = k <;> simp [h]

theorem mem_toList_foldl_add {ι : Type*} (f : ι → κ) (l : List ι) (s : SortedSet κ) {key : κ} :
    key ∈ (l.foldl (fun s i => s.add (f i)) s).toList ↔ key ∈ s.toList ∨ key ∈ l.map f := by
  induction l generalizing s with
  | nil => simp
  | cons i l ih =>
    rw [List.foldl_cons, ih, mem_toList_add, List.map_cons, List.mem_cons]
    tauto

theorem mem_toList_ofList {l : List κ} {key : κ} : key ∈ (ofList l).toList ↔ key ∈ l := by
  have hfold : key ∈ (ofList l).toList ↔ key ∈ (∅ : SortedSet κ).toList ∨ key ∈ l.map fun k => k :=
    mem_toList_foldl_add (fun k => k) l ∅
  rw [hfold, List.map_id']
  exact or_iff_right List.not_mem_nil

theorem toList_empty : (∅ : SortedSet κ).toList = [] := rfl

theorem pairwise_toList (s : SortedSet κ) : s.toList.Pairwise (· < ·) :=
  List.pairwise_map.2 s.sorted

theorem toList_eq_of_mem_iff {s t : SortedSet κ} (h : ∀ k, k ∈ s.toList ↔ k ∈ t.toList) :
    s.toList = t.toList :=
  s.pairwise_toList.eq_of_mem_iff t.pairwise_toList h

end SortedSet
