import DockerMap.Lib.KeyedSort

/-! Stable sorting by a key. A sorted list is made of its classes, the elements of one key in
their order, and sorting keeps every class as it is. -/

namespace StableSort

open KeyedSort (Sorted sorted_insertionSort)

variable {α κ : Type*} [LinearOrder κ] {key : α → κ} {l l' : List α}

def sortBy (key : α → κ) (l : List α) : List α := l.insertionSort fun a b => key a ≤ key b

/-- The elements of one key. -/
def cls (key : α → κ) (k : κ) (l : List α) : List α := l.filter fun a => key a = k

theorem sortBy_perm (key : α → κ) (l : List α) : (sortBy key l).Perm l :=
  List.perm_insertionSort _ l

theorem sorted_sortBy (key : α → κ) (l : List α) : Sorted key (sortBy key l) :=
  sorted_insertionSort key l

theorem mem_sortBy {a : α} : a ∈ sortBy key l ↔ a ∈ l := List.mem_insertionSort _

theorem length_sortBy (key : α → κ) (l : List α) : (sortBy key l).length = l.length :=
  List.length_insertionSort _ l

theorem mem_cls {k : κ} {a : α} : a ∈ cls key k l ↔ a ∈ l ∧ key a = k := by
  rw [cls, List.mem_filter, decide_eq_true_eq]

theorem cls_cons (k : κ) (a : α) (l : List α) :
    cls key k (a :: l) = if key a = k then a :: cls key k l else cls key k l := by
  rw [cls, List.filter_cons]
  exact if_congr (decide_eq_true_iff) rfl rfl

theorem cls_append (k : κ) (l l' : List α) : cls key k (l ++ l') = cls key k l ++ cls key k l' :=
  List.filter_append ..

/-- Elements of one key keep their order. -/
theorem cls_sortBy (key : α → κ) (k : κ) (l : List α) :
    cls key k (sortBy key l) = cls key k l := by
  have hequal : (cls key k l).Pairwise fun a b => key a ≤ key b := by
    refine List.pairwise_of_forall_mem_list fun a ha b hb => ?_
    rw [(mem_cls.1 ha).2, (mem_cls.1 hb).2]
  have hsub : (cls key k l).Sublist (sortBy key l) :=
    List.sublist_insertionSort hequal List.filter_sublist
  have htwice : cls key k (cls key k l) = cls key k l :=
    List.filter_eq_self.2 fun a ha => decide_eq_true (mem_cls.1 ha).2
  have hcls : (cls key k (cls key k l)).Sublist (cls key k (sortBy key l)) := hsub.filter _
  rw [htwice] at hcls
  exact (hcls.eq_of_length ((sortBy_perm key l).filter _).length_eq.symm).symm

/-- A sorted list is made of its classes. -/
theorem eq_of_cls (hl : Sorted key l) (hl' : Sorted key l')
    (h : ∀ k, cls key k l = cls key k l') : l = l' := by
  induction l generalizing l' with
  | nil =>
    cases l' with
    | nil => rfl
    | cons b l' =>
      have hb := h (key b)
      rw [cls_cons, if_pos rfl] at hb
      cases hb
  | cons a l ih =>
    cases l' with
    | nil =>
      have ha := h (key a)
      rw [cls_cons, if_pos rfl] at ha
      cases ha
    | cons b l' =>
      have ha : a ∈ cls key (key a) (b :: l') := by
        rw [← h, cls_cons, if_pos rfl]
        exact List.mem_cons_self
      have hb : b ∈ cls key (key b) (a :: l) := by
        rw [h, cls_cons, if_pos rfl]
        exact List.mem_cons_self
      have hle : key b ≤ key a := by
        obtain rfl | hmem := List.mem_cons.1 (mem_cls.1 ha).1
        · exact le_refl _
        · exact (List.pairwise_cons.1 hl').1 a hmem
      have hge : key a ≤ key b := by
        obtain rfl | hmem := List.mem_cons.1 (mem_cls.1 hb).1
        · exact le_refl _
        · exact (List.pairwise_cons.1 hl).1 b hmem
      have hkey : key b = key a := le_antisymm hle hge
      have hhead := h (key a)
      rw [cls_cons, if_pos rfl, cls_cons, if_pos hkey, List.cons.injEq] at hhead
      obtain ⟨rfl, -⟩ := hhead
      congr 1
      refine ih (List.pairwise_cons.1 hl).2 (List.pairwise_cons.1 hl').2 fun k => ?_
      have hk := h k
      rw [cls_cons, cls_cons] at hk
      split_ifs at hk
      · exact (List.cons.inj hk).2
      · exact hk

theorem sortBy_eq_iff : sortBy key l = sortBy key l' ↔ ∀ k, cls key k l = cls key k l' := by
  constructor
  · intro h k
    rw [← cls_sortBy, h, cls_sortBy]
  · intro h
    refine eq_of_cls (sorted_sortBy key l) (sorted_sortBy key l') fun k => ?_
    rw [cls_sortBy, cls_sortBy, h]

theorem sortBy_eq_of_perm (h : l.Perm l') (hkey : ∀ a ∈ l, ∀ b ∈ l, key a = key b → a = b) :
    sortBy key l = sortBy key l' := by
  have hperm : (sortBy key l).Perm (sortBy key l') :=
    ((sortBy_perm key l).trans h).trans (sortBy_perm key l').symm
  refine hperm.eq_of_pairwise (fun a b ha hb hab hba => ?_) (sorted_sortBy key l)
    (sorted_sortBy key l')
  exact hkey a (mem_sortBy.1 ha) b (h.mem_iff.2 (mem_sortBy.1 hb)) (le_antisymm hab hba)

/-- A search for a key finds what it finds unsorted. -/
theorem find?_sortBy {k : κ} {p : α → Bool} (hp : ∀ a, p a = true ↔ key a = k) (l : List α) :
    (sortBy key l).find? p = l.find? p := by
  have hcls (l : List α) : l.filter p = cls key k l := by
    refine List.filter_congr fun a _ => ?_
    rw [Bool.eq_iff_iff, hp, decide_eq_true_eq]
  rw [← List.head?_filter, ← List.head?_filter, hcls, hcls, cls_sortBy]

/-- Sorting by a key of the images. -/
theorem map_sortBy {β : Type*} (f : β → α) (l : List β) :
    (sortBy (fun b => key (f b)) l).map f = sortBy key (l.map f) :=
  List.map_insertionSort _ _ f l fun _ _ _ _ => Iff.rfl

theorem map_key_eq_of_perm (h : l.Perm l') (hl : Sorted key l) (hl' : Sorted key l') :
    l.map key = l'.map key :=
  (h.map key).eq_of_pairwise (fun _ _ _ _ => le_antisymm) (List.pairwise_map.2 hl)
    (List.pairwise_map.2 hl')

/-- Sorted reorderings agree as far as equal keys mean equal values. -/
theorem map_take_eq_of_perm {β : Type*} {g : α → β} (h : l.Perm l') (hl : Sorted key l)
    (hl' : Sorted key l') (n : ℕ)
    (hg : ∀ (i : ℕ) (hi : i < l.length) (hi' : i < l'.length), i < n →
      key l[i] = key l'[i] → g l[i] = g l'[i]) : (l.take n).map g = (l'.take n).map g := by
  have hkeys := map_key_eq_of_perm h hl hl'
  refine List.ext_getElem (by simp [h.length_eq]) fun i hi hi' => ?_
  rw [List.length_map, List.length_take, Nat.lt_min] at hi hi'
  rw [List.getElem_map, List.getElem_map, List.getElem_take, List.getElem_take]
  refine hg i hi.2 hi'.2 hi.1 ?_
  have hkey := congrArg (·[i]?) hkeys
  simpa [hi.2, hi'.2] using hkey

/-- What stands before an element of a sorted list is at least what sorts before it. -/
theorem countP_lt_le (hl : Sorted key l) {i : ℕ} (hi : i < l.length) :
    l.countP (fun a => key a < key l[i]) ≤ i := by
  have hdrop : (l.drop i).countP (fun a => key a < key l[i]) = 0 := by
    rw [List.countP_eq_zero]
    intro a ha
    rw [List.drop_eq_getElem_cons hi, List.mem_cons] at ha
    simp only [decide_eq_true_eq, not_lt]
    obtain rfl | ha := ha
    · exact le_refl _
    · have hpair : Sorted key (l.drop i) := hl.sublist (List.drop_sublist i l)
      rw [List.drop_eq_getElem_cons hi] at hpair
      exact (List.pairwise_cons.1 hpair).1 a ha
  have hcount : (l.take i).countP (fun a => key a < key l[i]) +
      (l.drop i).countP (fun a => key a < key l[i]) =
        l.countP (fun a => key a < key l[i]) := by
    rw [← List.countP_append, List.take_append_drop]
  have htake : (l.take i).countP (fun a => key a < key l[i]) ≤ (l.take i).length :=
    List.countP_le_length
  rw [List.length_take] at htake
  omega

/-- A sorted list around one of its keys. -/
theorem eq_parts (hl : Sorted key l) (k : κ) :
    l = l.filter (fun a => key a < k) ++ cls key k l ++ l.filter (fun a => k < key a) := by
  induction l with
  | nil => rfl
  | cons a l ih =>
    obtain ⟨hhead, htail⟩ := List.pairwise_cons.1 hl
    have ih := ih htail
    rcases lt_trichotomy (key a) k with hlt | heq | hgt
    · rw [List.filter_cons_of_pos (by simpa using hlt), cls_cons, if_neg hlt.ne,
        List.filter_cons_of_neg (by simpa using hlt.le), List.cons_append, List.cons_append, ← ih]
    · have hnone : l.filter (fun b => key b < k) = [] :=
        List.filter_eq_nil_iff.2 fun b hb => by simpa [← heq] using hhead b hb
      rw [List.filter_cons_of_neg (by simp [heq]), cls_cons, if_pos heq,
        List.filter_cons_of_neg (by simp [heq]), hnone, List.nil_append, List.cons_append]
      congr 1
      rwa [hnone, List.nil_append] at ih
    · have hnone : l.filter (fun b => key b < k) = [] :=
        List.filter_eq_nil_iff.2 fun b hb => by simpa using (hgt.le.trans (hhead b hb))
      have hnever : cls key k l = [] :=
        List.filter_eq_nil_iff.2 fun b hb => by simpa using (hgt.trans_le (hhead b hb)).ne'
      rw [List.filter_cons_of_neg (by simpa using hgt.le), cls_cons, if_neg hgt.ne',
        List.filter_cons_of_pos (by simpa using hgt), hnone, hnever, List.nil_append,
        List.nil_append]
      congr 1
      rwa [hnone, hnever, List.nil_append, List.nil_append] at ih

/-- Sorting around one key. -/
theorem sortBy_split (key : α → κ) (l : List α) (k : κ) :
    sortBy key l = (sortBy key l).filter (fun a => key a < k) ++ cls key k l ++
      (sortBy key l).filter fun a => k < key a := by
  conv_lhs => rw [eq_parts (sorted_sortBy key l) k, cls_sortBy]

/-- What sorts before a key depends on the classes before it. -/
theorem filter_lt_sortBy {k : κ} (h : ∀ j < k, cls key j l = cls key j l') :
    (sortBy key l).filter (fun a => key a < k) = (sortBy key l').filter fun a => key a < k := by
  have hcls (l : List α) (j : κ) :
      cls key j ((sortBy key l).filter fun a => key a < k) =
        if j < k then cls key j l else [] := by
    split_ifs with hj
    · rw [← cls_sortBy key j l, cls, List.filter_filter, cls]
      refine List.filter_congr fun a _ => ?_
      rw [Bool.and_eq_left_iff_imp]
      intro ha
      rw [of_decide_eq_true ha]
      exact decide_eq_true hj
    · refine List.filter_eq_nil_iff.2 fun a ha heq => hj ?_
      rw [← of_decide_eq_true heq]
      exact of_decide_eq_true (List.mem_filter.1 ha).2
  refine eq_of_cls ((sorted_sortBy key l).filter _) ((sorted_sortBy key l').filter _) fun j => ?_
  rw [hcls, hcls]
  split_ifs with hj
  · exact h j hj
  · rfl

/-- Elements of one key that change places, and what sorts before them. -/
theorem sortBy_swap {a b : α} (h : key a = key b) (l : List α) :
    ∃ back back', sortBy key (a :: b :: l) =
        (sortBy key (a :: b :: l)).filter (fun x => key x < key a) ++ a :: back ∧
      sortBy key (b :: a :: l) =
        (sortBy key (a :: b :: l)).filter (fun x => key x < key a) ++ b :: back' := by
  have hfront : (sortBy key (b :: a :: l)).filter (fun x => key x < key a) =
      (sortBy key (a :: b :: l)).filter fun x => key x < key a := by
    refine filter_lt_sortBy fun j hj => ?_
    have ha : key a ≠ j := hj.ne'
    have hb : key b ≠ j := h ▸ ha
    simp only [cls_cons, if_neg ha, if_neg hb]
  have hsplit := sortBy_split key (a :: b :: l) (key a)
  have hsplit' := sortBy_split key (b :: a :: l) (key a)
  rw [cls_cons, if_pos rfl, List.append_assoc, List.cons_append] at hsplit
  rw [cls_cons, if_pos h.symm, List.append_assoc, List.cons_append, hfront] at hsplit'
  exact ⟨_, _, hsplit, hsplit'⟩

/-- The first element that differs shows in its class. -/
theorem eq_of_cls_eq {a b : α} {front back back' : List α} (hkey : key a = key b)
    (h : cls key (key a) (front ++ a :: back) = cls key (key a) (front ++ b :: back')) : a = b := by
  rw [cls_append, cls_append, cls_cons, cls_cons, if_pos rfl, if_pos hkey.symm] at h
  exact (List.cons.inj (List.append_cancel_left h)).1

end StableSort
