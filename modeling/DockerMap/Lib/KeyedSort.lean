import Mathlib.Data.List.Destutter
import Mathlib.Data.List.Sort

/-! Lists sorted by a key. When the key determines the element, sorting and then dropping
adjacent repetitions is a normal form of the set of elements. -/

namespace KeyedSort

variable {α κ : Type*} [LinearOrder κ] {key : α → κ}

def Sorted (key : α → κ) (l : List α) : Prop := l.Pairwise fun a b => key a ≤ key b

def StrictlySorted (key : α → κ) (l : List α) : Prop := l.Pairwise fun a b => key a < key b

instance total_le (key : α → κ) : Std.Total fun a b => key a ≤ key b :=
  ⟨fun a b => le_total (key a) (key b)⟩

instance trans_le (key : α → κ) : IsTrans α fun a b => key a ≤ key b :=
  ⟨fun _ _ _ => le_trans⟩

theorem sorted_insertionSort (key : α → κ) (l : List α) :
    Sorted key (l.insertionSort fun a b => key a ≤ key b) :=
  List.pairwise_insertionSort _ l

theorem StrictlySorted.sorted {l : List α} (h : StrictlySorted key l) : Sorted key l :=
  h.imp le_of_lt

theorem StrictlySorted.nodup {l : List α} (h : StrictlySorted key l) : l.Nodup :=
  h.imp fun {a b} (hlt : key a < key b) (heq : a = b) => hlt.ne (congrArg key heq)

theorem isChain_lt (hkey : Function.Injective key) {l : List α}
    (hle : l.IsChain fun a b => key a ≤ key b) (hne : l.IsChain (· ≠ ·)) :
    l.IsChain fun a b => key a < key b := by
  induction hle with
  | nil => exact .nil
  | singleton a => exact .singleton a
  | cons_cons hab _ ih =>
    rw [List.isChain_cons_cons] at hne
    exact .cons_cons (lt_of_le_of_ne hab (hkey.ne hne.1)) (ih hne.2)

variable [DecidableEq α]

theorem mem_destutter' {a : α} (l : List α) (b : α) :
    a ∈ l.destutter' (· ≠ ·) b ↔ a = b ∨ a ∈ l := by
  induction l generalizing b with
  | nil => simp
  | cons c l ih =>
    rw [List.destutter'_cons, List.mem_cons]
    split_ifs with hne
    · rw [List.mem_cons, ih]
    · rw [not_not] at hne
      rw [ih, hne]
      tauto

theorem mem_destutter {a : α} {l : List α} : a ∈ l.destutter (· ≠ ·) ↔ a ∈ l := by
  cases l with
  | nil => simp
  | cons b l => rw [List.destutter_cons', mem_destutter', List.mem_cons]

theorem strictlySorted_destutter (hkey : Function.Injective key) {l : List α}
    (h : Sorted key l) : StrictlySorted key (l.destutter (· ≠ ·)) := by
  have hle : (l.destutter (· ≠ ·)).IsChain fun a b => key a ≤ key b :=
    (h.sublist (List.destutter_sublist _ l)).isChain
  have hne : (l.destutter (· ≠ ·)).IsChain (· ≠ ·) := List.isChain_destutter _ l
  have htrans : IsTrans α fun a b => key a < key b := ⟨fun _ _ _ => lt_trans⟩
  exact (isChain_lt hkey hle hne).pairwise

theorem destutter_eq_self {l : List α} (h : StrictlySorted key l) :
    l.destutter (· ≠ ·) = l :=
  List.destutter_of_isChain _ l h.nodup.isChain

/-- The normal form depends only on which elements there are. -/
theorem destutter_insertionSort_eq_of_mem_iff (hkey : Function.Injective key) {l l' : List α}
    (h : ∀ a, a ∈ l ↔ a ∈ l') :
    (l.insertionSort fun a b => key a ≤ key b).destutter (· ≠ ·) =
      (l'.insertionSort fun a b => key a ≤ key b).destutter (· ≠ ·) := by
  have hirrefl : Std.Irrefl fun a b : α => key a < key b := ⟨fun _ => lt_irrefl _⟩
  have hantisymm : Std.Antisymm fun a b : α => key a < key b :=
    ⟨fun _ _ hab hba => absurd hab (lt_asymm hba)⟩
  refine List.Pairwise.eq_of_mem_iff
    (strictlySorted_destutter hkey (sorted_insertionSort key l))
    (strictlySorted_destutter hkey (sorted_insertionSort key l')) fun a => ?_
  rw [mem_destutter, mem_destutter, List.mem_insertionSort, List.mem_insertionSort, h]

end KeyedSort
