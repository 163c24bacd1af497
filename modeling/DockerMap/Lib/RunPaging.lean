import Mathlib.Data.List.Sort
import Mathlib.Data.List.TakeWhile

/-! Pagination of a list sorted by a descending key, when many elements may
share a key. A cursor is a key and a number of elements of that key's run that
were already handed out; `Marks` ties it to a position of the list, `pageCursor_marks`
is the step of a page and `follow_partition` the whole chain of pages. -/

namespace RunPaging

variable {α κ : Type*} [LinearOrder κ] (key : α → κ)

/-- Stable sort by descending key. -/
def newestFirst (l : List α) : List α := l.insertionSort fun a b => key b ≤ key a

abbrev Descending (l : List α) : Prop := l.Pairwise fun a b => key b ≤ key a

theorem descending_newestFirst (l : List α) : Descending key (newestFirst key l) := by
  have : Std.Total fun a b : α => key b ≤ key a := ⟨fun a b => le_total (key b) (key a)⟩
  have : IsTrans α fun a b : α => key b ≤ key a := ⟨fun _ _ _ h1 h2 => h2.trans h1⟩
  exact List.pairwise_insertionSort _ l

theorem perm_newestFirst (l : List α) : (newestFirst key l).Perm l := List.perm_insertionSort _ l

theorem filter_orderedInsert (a : α) (k : κ) (l : List α) :
    (l.orderedInsert (fun a b => key b ≤ key a) a).filter (fun b => key b = k) =
      (a :: l).filter fun b => key b = k := by
  induction l with
  | nil => rfl
  | cons b l ih =>
    by_cases h : key b ≤ key a
    · simp only [List.orderedInsert, if_pos h]
    · simp only [List.orderedInsert, if_neg h]
      -- `b` is newer than `a`, so at most one of the two belongs to the run
      by_cases ha : key a = k
      · have hb : key b ≠ k := fun hb => h (hb.trans ha.symm).le
        rw [List.filter_cons_of_neg (by simpa using hb), ih]
        simp [ha, hb]
      · rw [List.filter_cons, ih]
        simp [List.filter_cons, ha]

/-- Sorting keeps the elements of one key in their original order. -/
theorem filter_newestFirst (k : κ) (l : List α) :
    (newestFirst key l).filter (fun b => key b = k) = l.filter fun b => key b = k := by
  induction l with
  | nil => rfl
  | cons a l ih =>
    change (List.orderedInsert _ a (newestFirst key l)).filter _ = _
    rw [filter_orderedInsert, List.filter_cons, ih, List.filter_cons]

/-- A descending list is determined by its runs. -/
theorem Descending.ext {l l' : List α} (hl : Descending key l) (hl' : Descending key l')
    (h : ∀ k, l.filter (fun b => key b = k) = l'.filter fun b => key b = k) : l = l' := by
  induction l generalizing l' with
  | nil =>
    cases l' with
    | nil => rfl
    | cons b l' => simpa using h (key b)
  | cons a l ih =>
    obtain ⟨ha, hl⟩ := List.pairwise_cons.1 hl
    cases l' with
    | nil => simpa using h (key a)
    | cons b l' =>
      obtain ⟨hb, hlt'⟩ := List.pairwise_cons.1 hl'
      -- each head is in the other list's run, so neither key exceeds the other
      have hba : key b ≤ key a := by
        have : b ∈ (a :: l).filter fun c => key c = key b := by rw [h]; simp
        rcases List.mem_cons.1 (List.mem_of_mem_filter this) with rfl | hm
        · exact le_rfl
        · exact ha b hm
      have hab : key a ≤ key b := by
        have : a ∈ (b :: l').filter fun c => key c = key a := by rw [← h]; simp
        rcases List.mem_cons.1 (List.mem_of_mem_filter this) with rfl | hm
        · exact le_rfl
        · exact hb a hm
      have hk := le_antisymm hba hab
      have hhead := h (key a)
      simp only [List.filter_cons, decide_true, if_true, hk, List.cons.injEq] at hhead
      obtain ⟨rfl, -⟩ := hhead
      refine congrArg _ (ih hl hlt' fun k => ?_)
      have := h k
      simp only [List.filter_cons] at this
      split_ifs at this
      · exact (List.cons.inj this).2
      · exact this

/-- The elements of `l`, newest first, those of one key in the order of `l`. -/
structure StableNewestFirst (l sorted : List α) : Prop where
  perm : sorted.Perm l
  descending : Descending key sorted
  stable : ∀ k, sorted.filter (fun b => key b = k) = l.filter fun b => key b = k

theorem newestFirst_stable (l : List α) : StableNewestFirst key l (newestFirst key l) :=
  ⟨perm_newestFirst key l, descending_newestFirst key l, fun k => filter_newestFirst key k l⟩

theorem newestFirst_filter (q : α → Bool) (l : List α) :
    newestFirst key (l.filter q) = (newestFirst key l).filter q := by
  refine (descending_newestFirst key _).ext key ((descending_newestFirst key l).filter _) fun k => ?_
  rw [filter_newestFirst, List.filter_comm, ← filter_newestFirst key k l, List.filter_comm]

theorem newestFirst_map {β : Type*} (f : β → α) (l : List β) :
    newestFirst key (l.map f) = (newestFirst (key ∘ f) l).map f :=
  (List.map_insertionSort _ _ f l fun _ _ _ _ => Iff.rfl).symm

/-- Number of elements above the key. -/
def before (m : κ) (l : List α) : ℕ := l.countP fun a => m < key a

/-- Length of the key's run. -/
def run (m : κ) (l : List α) : ℕ := l.countP fun a => key a = m

theorem before_eq_zero {m : κ} {l : List α} (h : ∀ a ∈ l, key a ≤ m) : before key m l = 0 := by
  simpa [before, List.countP_eq_zero] using h

theorem run_eq_zero {m : κ} {l : List α} (h : ∀ a ∈ l, key a < m) : run key m l = 0 := by
  simpa [run, List.countP_eq_zero] using fun a ha => (h a ha).ne

/-- In a descending list the run of a key occupies one interval of positions. -/
theorem key_getElem_eq_iff {l : List α} (hl : Descending key l) (m : κ) (i : ℕ)
    (hi : i < l.length) :
    key l[i] = m ↔ before key m l ≤ i ∧ i < before key m l + run key m l := by
  induction l generalizing i with
  | nil => simp at hi
  | cons a l ih =>
    obtain ⟨ha, hl⟩ := List.pairwise_cons.1 hl
    rcases lt_trichotomy (key a) m with h | h | h
    · -- the list starts below the key: there is no run at all
      have hlt : ∀ b ∈ a :: l, key b < m := by
        intro b hb
        rcases List.mem_cons.1 hb with rfl | hb
        · exact h
        · exact (ha b hb).trans_lt h
      rw [run_eq_zero key hlt]
      have := hlt _ (List.getElem_mem hi)
      constructor
      · intro he; exact absurd he this.ne
      · omega
    · have hb : before key m (a :: l) = 0 := before_eq_zero key fun b hb => by
        rcases List.mem_cons.1 hb with rfl | hb
        · exact h.le
        · exact h ▸ ha b hb
      have hb' : before key m l = 0 := before_eq_zero key fun b hb => h ▸ ha b hb
      have hr : run key m (a :: l) = run key m l + 1 := by simp [run, h]
      rw [hb, hr]
      cases i with
      | zero => simp [h]
      | succ i =>
        have := ih hl i (by simpa using hi)
        rw [hb'] at this
        simp only [List.getElem_cons_succ, this]
        omega
    · have hb : before key m (a :: l) = before key m l + 1 := by simp [before, h]
      have hr : run key m (a :: l) = run key m l := by simp [run, h.ne']
      rw [hb, hr]
      cases i with
      | zero => simp [h.ne']
      | succ i =>
        have := ih hl i (by simpa using hi)
        simp only [List.getElem_cons_succ, this]
        omega

/-- What a cursor selects: everything below the key, and the key's run after its
first `off` elements; `seen` counts the run elements met so far. -/
def resume (m : κ) (off : ℕ) : ℕ → List α → List α
  | _, [] => []
  | seen, a :: l =>
      if key a < m then a :: resume m off seen l
      else if m < key a then resume m off seen l
      else if off ≤ seen then a :: resume m off (seen + 1) l
      else resume m off (seen + 1) l

theorem resume_eq_drop_aux (m : κ) (off : ℕ) {l : List α} (hl : Descending key l) (seen : ℕ) :
    resume key m off seen l = l.drop (before key m l + min (off - seen) (run key m l)) := by
  induction l generalizing seen with
  | nil => simp [resume]
  | cons a l ih =>
    obtain ⟨ha, hl⟩ := List.pairwise_cons.1 hl
    rcases lt_trichotomy (key a) m with h | h | h
    · have hlt : ∀ b ∈ l, key b < m := fun b hb => (ha b hb).trans_lt h
      have hb : before key m l = 0 := before_eq_zero key fun b hb => (hlt b hb).le
      have hb1 : before key m (a :: l) = 0 := before_eq_zero key fun b hb => by
        rcases List.mem_cons.1 hb with rfl | hb
        · exact h.le
        · exact (hlt b hb).le
      have hr : run key m (a :: l) = run key m l := by simp [run, h.ne]
      have hr0 : run key m l = 0 := run_eq_zero key hlt
      simp only [resume, if_pos h, ih hl, hb, hb1, hr, hr0, Nat.min_zero, Nat.add_zero,
        List.drop_zero]
    · have hb : before key m l = 0 := before_eq_zero key fun b hb => h ▸ ha b hb
      have hb1 : before key m (a :: l) = 0 := by simp [before, h]; simpa [before] using hb
      have hr : run key m (a :: l) = run key m l + 1 := by simp [run, h]
      rw [hb1, hr]
      by_cases ho : off ≤ seen
      · simp [resume, h, ho, ih hl, hb, show off - seen = 0 by omega,
          show off - (seen + 1) = 0 by omega]
      · simp only [resume, h, lt_irrefl, if_false, ho, ih hl, hb, Nat.zero_add]
        rw [show min (off - seen) (run key m l + 1) =
          min (off - (seen + 1)) (run key m l) + 1 by omega, List.drop_succ_cons]
    · have hb : before key m (a :: l) = before key m l + 1 := by simp [before, h]
      have hr : run key m (a :: l) = run key m l := by simp [run, h.ne']
      rw [hb, hr, Nat.add_right_comm, List.drop_succ_cons, ← ih hl]
      simp [resume, h, h.not_gt]

theorem resume_eq_drop (m : κ) (off : ℕ) {l : List α} (hl : Descending key l) :
    resume key m off 0 l = l.drop (before key m l + min off (run key m l)) := by
  simpa using resume_eq_drop_aux key m off hl 0

theorem filter_resume_aux (m : κ) (off : ℕ) (k : κ) (l : List α) (seen : ℕ) :
    (resume key m off seen l).filter (fun a => key a = k) =
      if k < m then l.filter fun a => key a = k
      else if k = m then (l.filter fun a => key a = k).drop (off - seen) else [] := by
  induction l generalizing seen with
  | nil => simp [resume]
  | cons a l ih =>
    rcases lt_trichotomy (key a) m with h | h | h
    · rw [resume, if_pos h, List.filter_cons, ih, List.filter_cons]
      by_cases hk : key a = k
      · simp [hk, hk ▸ h]
      · simp [hk]
    · rw [resume, if_neg h.not_lt, if_neg h.not_gt, List.filter_cons]
      by_cases hk : k = m
      · by_cases ho : off ≤ seen
        · rw [if_pos ho, List.filter_cons, ih]
          simp [h, hk, show off - seen = 0 by omega, show off - (seen + 1) = 0 by omega]
        · rw [if_neg ho, ih]
          simp only [hk, lt_irrefl, if_false, if_true, h, decide_true]
          rw [show off - seen = off - (seen + 1) + 1 by omega, List.drop_succ_cons]
      · have hk' : key a ≠ k := fun he => hk (he.symm.trans h)
        by_cases ho : off ≤ seen
        · simp [ho, ih, hk, hk']
        · simp [ho, ih, hk, hk']
    · rw [resume, if_neg h.not_gt, if_pos h, ih, List.filter_cons]
      by_cases hk : key a = k
      · subst hk
        simp [h.not_gt, h.ne']
      · simp [hk]

/-- What is left of each run after a cursor. -/
theorem filter_resume (m : κ) (off : ℕ) (k : κ) (l : List α) :
    (resume key m off 0 l).filter (fun a => key a = k) =
      if k < m then l.filter fun a => key a = k
      else if k = m then (l.filter fun a => key a = k).drop off else [] := by
  simpa using filter_resume_aux key m off k l 0

theorem resume_filter {m : κ} (off : ℕ) {q : α → Bool} {l : List α}
    (h : ∀ a ∈ l, key a ≤ m → q a = true) (seen : ℕ) :
    resume key m off seen (l.filter q) = resume key m off seen l := by
  induction l generalizing seen with
  | nil => rfl
  | cons a l ih =>
    have ih := ih fun b hb => h b (List.mem_cons_of_mem _ hb)
    by_cases hq : q a = true
    · rw [List.filter_cons_of_pos hq]
      simp only [resume, ih]
    · have hm : m < key a := by
        by_contra hle
        exact hq (h a List.mem_cons_self (not_lt.1 hle))
      rw [List.filter_cons_of_neg hq, ih, resume, if_neg hm.not_gt, if_pos hm]

theorem resume_sublist (m : κ) (off seen : ℕ) (l : List α) :
    (resume key m off seen l).Sublist l := by
  induction l generalizing seen with
  | nil => exact .slnil
  | cons a l ih =>
    unfold resume
    split_ifs
    · exact (ih seen).cons_cons a
    · exact (ih seen).cons a
    · exact (ih (seen + 1)).cons_cons a
    · exact (ih (seen + 1)).cons a

/-- A cursor behind everything at or above its key. -/
theorem resume_eq_filter {m : κ} {off : ℕ} {l : List α} (hoff : run key m l ≤ off)
    (hl : Descending key l) : resume key m off 0 l = l.filter fun a => key a < m := by
  refine Descending.ext key (hl.sublist (resume_sublist key m off 0 l)) (hl.filter _) fun k => ?_
  rw [filter_resume, List.filter_comm]
  by_cases hk : k < m
  · rw [if_pos hk]
    refine (List.filter_eq_self.2 fun a ha => ?_).symm
    rw [of_decide_eq_true (List.mem_filter.1 ha).2]
    exact decide_eq_true hk
  · rw [if_neg hk]
    have hnil : (l.filter fun a => key a = k).filter (fun a => key a < m) = [] := by
      simp only [List.filter_eq_nil_iff, List.mem_filter, decide_eq_true_eq]
      rintro a ⟨-, rfl⟩
      exact hk
    rw [hnil]
    split_ifs with hkm
    · subst hkm
      rw [List.drop_eq_nil_iff, ← List.countP_eq_length_filter]
      exact hoff
    · rfl

/-- The window slides from `gone ++ both` to `both ++ new`: a cursor taken on the old
window leaves the same elements of `both` in either, unless the slide cut a run. -/
theorem resume_slide {gone both new : List α} {kept old : α → Bool}
    (hgone : ∀ a ∈ gone, kept a = false) (hkept : ∀ a ∈ both, kept a = true)
    (hold : ∀ a ∈ both, old a = true) (hnew : ∀ a ∈ new, old a = false)
    (hcut : ∀ a ∈ gone, ∀ b ∈ both, key a ≠ key b) (m : κ) (off : ℕ) :
    (resume key m off 0 (newestFirst key (both ++ new))).filter old =
      (resume key m off 0 (newestFirst key (gone ++ both))).filter kept := by
  have hdesc (l : List α) (q : α → Bool) :
      Descending key ((resume key m off 0 (newestFirst key l)).filter q) :=
    ((descending_newestFirst key l).sublist (resume_sublist key m off 0 _)).filter q
  refine (hdesc _ old).ext key (hdesc _ kept) fun k => ?_
  have hB : ∀ q : α → Bool, (∀ a ∈ both, q a = true) → ∀ n,
      ((both.filter fun a => key a = k).drop n).filter q =
        (both.filter fun a => key a = k).drop n := by
    intro q hq n
    exact List.filter_eq_self.2 fun a ha =>
      hq a (List.mem_of_mem_filter (List.mem_of_mem_drop ha))
  have hN : ∀ n, ((new.filter fun a => key a = k).drop n).filter old = [] := by
    intro n
    exact List.filter_eq_nil_iff.2 fun a ha => by
      simp [hnew a (List.mem_of_mem_filter (List.mem_of_mem_drop ha))]
  have hG : ∀ n, ((gone.filter fun a => key a = k).drop n).filter kept = [] := by
    intro n
    exact List.filter_eq_nil_iff.2 fun a ha => by
      simp [hgone a (List.mem_of_mem_filter (List.mem_of_mem_drop ha))]
  rw [List.filter_comm, List.filter_comm (p := fun a => decide (key a = k)), filter_resume,
    filter_resume, filter_newestFirst, filter_newestFirst]
  split_ifs with hlt heq
  · have h1 := hB old hold 0
    have h2 := hB kept hkept 0
    have h3 := hN 0
    have h4 := hG 0
    simp only [List.drop_zero] at h1 h2 h3 h4
    rw [List.filter_append, List.filter_append, List.filter_append, List.filter_append, h1, h2, h3,
      h4, List.append_nil, List.nil_append]
  · -- the run of the cursor's own key lies in one of the two parts only
    rw [List.filter_append, List.filter_append, List.drop_append, List.drop_append,
      List.filter_append, List.filter_append, hB old hold, hN, hG, hB kept hkept,
      List.append_nil, List.nil_append]
    by_cases hb : both.filter (fun a => key a = k) = []
    · simp [hb]
    · obtain ⟨b, hb⟩ := List.exists_mem_of_ne_nil _ hb
      obtain ⟨hb, hbk⟩ := List.mem_filter.1 hb
      have : gone.filter (fun a => key a = k) = [] := List.filter_eq_nil_iff.2 fun a ha hak =>
        hcut a ha b hb ((of_decide_eq_true hak).trans (of_decide_eq_true hbk).symm)
      rw [this, List.length_nil, Nat.sub_zero]
  · rfl

/-- The cursor `(m, off)` stands right after position `p` of the list. -/
structure Marks (l : List α) (p : ℕ) (m : κ) (off : ℕ) : Prop where
  pos : 0 < off
  le_run : off ≤ run key m l
  eq : before key m l + off = p

theorem Marks.resume_eq {l : List α} {p off : ℕ} {m : κ} (hl : Descending key l)
    (h : Marks key l p m off) : resume key m off 0 l = l.drop p := by
  rw [resume_eq_drop key m off hl, Nat.min_eq_left h.le_run, h.eq]

def previouslyEmitted (prev : Option (κ × ℕ)) (m : κ) : ℕ :=
  ((prev.filter fun c => c.1 = m).map Prod.snd).getD 0

theorem previouslyEmitted_some (c : κ × ℕ) (m : κ) :
    previouslyEmitted (some c) m = if c.1 = m then c.2 else 0 := by
  by_cases h : c.1 = m <;> simp [previouslyEmitted, Option.filter, h]

/-- The cursor of the page that starts at `p` accounts for the part of each run that
lies before `p`. -/
def Accounts (l : List α) (p : ℕ) (prev : Option (κ × ℕ)) : Prop :=
  ∀ a ∈ l.drop p, previouslyEmitted prev (key a) = p - before key (key a) l

theorem accounts_none (l : List α) : Accounts key l 0 none := by
  intro a _
  simp [previouslyEmitted]

theorem before_add_run_le {l : List α} {m k : κ} (h : k < m) :
    before key m l + run key m l ≤ before key k l := by
  induction l with
  | nil => simp [before, run]
  | cons a l ih =>
    simp only [before, run, List.countP_cons] at ih ⊢
    rcases lt_trichotomy (key a) m with ha | ha | ha
    · simp only [ha.not_gt, ha.ne, decide_false, Bool.false_eq_true, if_false]
      split_ifs <;> omega
    · simp only [ha, lt_irrefl, h, decide_false, decide_true, Bool.false_eq_true, if_false, if_true]
      omega
    · simp only [ha, ha.ne', h.trans ha, decide_false, decide_true, Bool.false_eq_true, if_false,
        if_true]
      omega

theorem before_add_run_le_length (m : κ) (l : List α) :
    before key m l + run key m l ≤ l.length := by
  induction l with
  | nil => rfl
  | cons a l ih =>
    simp only [before, run, List.countP_cons, List.length_cons] at ih ⊢
    rcases lt_trichotomy (key a) m with ha | ha | ha
    · simp only [ha.not_gt, ha.ne, decide_false, Bool.false_eq_true, if_false]
      omega
    · simp only [ha, lt_irrefl, decide_false, decide_true, Bool.false_eq_true, if_false, if_true]
      omega
    · simp only [ha, ha.ne', decide_false, decide_true, Bool.false_eq_true, if_false, if_true]
      omega

theorem exists_getElem_of_mem_drop {l : List α} {p : ℕ} {a : α} (ha : a ∈ l.drop p) :
    ∃ j, ∃ hj : j < l.length, p ≤ j ∧ l[j] = a := by
  obtain ⟨i, hi, rfl⟩ := List.mem_drop_iff_getElem.1 ha
  exact ⟨i + p, hi, by omega, by simp only [Nat.add_comm]⟩

theorem getElem_mem_drop {l : List α} {p i : ℕ} (hp : p ≤ i) (hi : i < l.length) :
    l[i] ∈ l.drop p := by
  rw [List.mem_drop_iff_getElem]
  obtain ⟨d, rfl⟩ := Nat.exists_eq_add_of_le hp
  exact ⟨d, by omega, rfl⟩

theorem le_key_getElem {l : List α} (hl : Descending key l) {m : κ} {i : ℕ} (hi : i < l.length)
    (h : i < before key m l + run key m l) : m ≤ key l[i] := by
  by_contra hlt
  have hrun := (key_getElem_eq_iff key hl _ i hi).1 rfl
  have := before_add_run_le key (l := l) (not_le.1 hlt)
  omega

theorem key_lt_of_mem_drop {l : List α} (hl : Descending key l) {m : κ} {p : ℕ}
    (hp : before key m l + run key m l ≤ p) {a : α} (ha : a ∈ l.drop p) : key a < m := by
  obtain ⟨j, hj, hpj, rfl⟩ := exists_getElem_of_mem_drop ha
  have hne := mt (key_getElem_eq_iff key hl m j hj).1 (by omega)
  refine lt_of_le_of_ne (not_lt.1 fun hlt => ?_) hne
  have hrun := (key_getElem_eq_iff key hl _ j hj).1 rfl
  have := before_add_run_le key (l := l) hlt
  omega

/-- A cursor accounts for the position it resumes at, also when the run is shorter
than its offset. -/
theorem accounts_resume {l : List α} (hl : Descending key l) (m : κ) (off : ℕ) :
    Accounts key l (before key m l + min off (run key m l)) (some (m, off)) := by
  intro a ha
  obtain ⟨j, hj, hpj, rfl⟩ := exists_getElem_of_mem_drop ha
  rw [previouslyEmitted_some]
  by_cases hk : m = key l[j]
  · have := (key_getElem_eq_iff key hl m j hj).1 hk.symm
    rw [if_pos hk, ← hk]
    dsimp only
    omega
  · have hne := mt (key_getElem_eq_iff key hl m j hj).2 (Ne.symm hk)
    have hlt : key l[j] < m :=
      key_lt_of_mem_drop key hl (p := j) (by omega) (by
        rw [List.drop_eq_getElem_cons hj]; exact List.mem_cons_self)
    have := before_add_run_le key (l := l) hlt
    rw [if_neg hk]
    omega

/-- The cursor of a full page: the key of its last element, and how many elements of
that key went out up to and including this page. -/
def pageCursor (limit : ℕ) (prev : Option (κ × ℕ)) (page : List α) (boundary : α) : κ × ℕ :=
  let first := (page.findIdx? fun a => key a = key boundary).getD (limit - 1)
  (key boundary, previouslyEmitted prev (key boundary) + limit - first)

theorem findIdx?_run {l : List α} (hl : Descending key l) {p limit : ℕ} {m : κ}
    (hlen : p + limit ≤ l.length) {q : ℕ} (hq : p ≤ q) (hq' : q < p + limit)
    (hm : key l[q] = m) :
    ((l.drop p).take limit).findIdx? (fun a => key a = m) = some (max (before key m l) p - p) := by
  have hrun := (key_getElem_eq_iff key hl m q (by omega)).1 hm
  rw [List.findIdx?_eq_some_iff_getElem]
  refine ⟨by simp; omega, ?_, ?_⟩
  · simp only [List.getElem_take, List.getElem_drop, decide_eq_true_eq]
    exact (key_getElem_eq_iff key hl m _ (by omega)).2 (by omega)
  · intro j hj
    simp only [List.getElem_take, List.getElem_drop, Bool.not_eq_true, decide_eq_false_iff_not]
    intro he
    have := (key_getElem_eq_iff key hl m _ (by omega)).1 he
    omega

/-- The step of a page: from a cursor that accounts for `p` to one that stands at
`p + limit`. -/
theorem pageCursor_marks {l : List α} (hl : Descending key l) {p limit : ℕ}
    (hlimit : 0 < limit) (hlen : p + limit < l.length) {prev : Option (κ × ℕ)}
    (hprev : Accounts key l p prev) :
    let c := pageCursor key limit prev ((l.drop p).take limit) (l[p + limit - 1])
    Marks key l (p + limit) c.1 c.2 := by
  intro c
  set m := key (l[p + limit - 1]) with hm
  have hrun := (key_getElem_eq_iff key hl m (p + limit - 1) (by omega)).1 rfl
  have hmem : l[p + limit - 1] ∈ l.drop p := by
    rw [List.mem_drop_iff_getElem]
    exact ⟨limit - 1, by omega, by simp only [show p + (limit - 1) = p + limit - 1 by omega]⟩
  have hoff := hprev _ hmem
  have hc : c = (m, previouslyEmitted prev m + limit - (max (before key m l) p - p)) := by
    simp only [c, pageCursor, ← hm]
    rw [findIdx?_run key hl hlen.le (by omega) (by omega) rfl, Option.getD_some]
  rw [← hm] at hoff
  rw [hc, hoff]
  exact ⟨by dsimp only; omega, by dsimp only; omega, by dsimp only; omega⟩

section follow

variable {β γ : Type*}

/-- Feed each page's cursor back until a page carries none. -/
def follow (fetch : Option γ → Option (List β × Option γ)) :
    ℕ → Option γ → Option (List (List β))
  | 0, _ => none
  | n + 1, c =>
      match fetch c with
      | none => none
      | some (page, none) => some [page]
      | some (page, some c') => (follow fetch n (some c')).map (page :: ·)

/-- A chain whose cursors stand at positions of `l` delivers `l` from its first
position on, in full pages but for the last. -/
theorem follow_partition (fetch : Option γ → Option (List β × Option γ)) (l : List β)
    {limit : ℕ} (hlimit : 0 < limit) (At : Option γ → ℕ → Prop)
    (hfetch : ∀ c p, At c p → p ≤ l.length →
      (l.length ≤ p + limit ∧ fetch c = some ((l.drop p).take limit, none)) ∨
      (p + limit < l.length ∧ ∃ c', fetch c = some ((l.drop p).take limit, some c') ∧
        At (some c') (p + limit))) :
    ∀ (fuel : ℕ) (c : Option γ) (p : ℕ), At c p → p ≤ l.length → l.length - p < fuel →
      ∃ pages, follow fetch fuel c = some pages ∧ pages.flatten = l.drop p ∧
        (∀ page ∈ pages, page.length ≤ limit) ∧
        ∀ page ∈ pages.dropLast, page.length = limit := by
  intro fuel
  induction fuel with
  | zero => intro c p _ _ hf; omega
  | succ fuel ih =>
    intro c p hat hp hf
    rcases hfetch c p hat hp with ⟨hend, hpage⟩ | ⟨hmore, c', hpage, hat'⟩
    · refine ⟨[(l.drop p).take limit], by simp [follow, hpage], ?_, ?_, by simp⟩
      · simp only [List.flatten_cons, List.flatten_nil, List.append_nil]
        exact List.take_of_length_le (by simp; omega)
      · simp
    · obtain ⟨pages, hpages, hflat, hle, hfull⟩ := ih (some c') (p + limit) hat' hmore.le (by omega)
      refine ⟨(l.drop p).take limit :: pages, by simp [follow, hpage, hpages], ?_, ?_, ?_⟩
      · rw [List.flatten_cons, hflat, ← List.drop_drop, List.take_append_drop]
      · intro page hpage
        rcases List.mem_cons.1 hpage with rfl | hpage
        · simp
        · exact hle page hpage
      · intro page hpage
        cases pages with
        | nil => simp at hpage
        | cons q pages =>
          rw [List.dropLast_cons_cons] at hpage
          rcases List.mem_cons.1 hpage with rfl | hpage
          · simp; omega
          · exact hfull page hpage

/-- Two sources that agree on every cursor the chain meets hand out the same pages. -/
theorem follow_congr (fetch fetch' : Option γ → Option (List β × Option γ))
    (Ok : Option γ → Prop) (heq : ∀ c, Ok c → fetch c = fetch' c)
    (hok : ∀ c page c', Ok c → fetch c = some (page, some c') → Ok (some c')) :
    ∀ (fuel : ℕ) (c : Option γ), Ok c → follow fetch fuel c = follow fetch' fuel c := by
  intro fuel
  induction fuel with
  | zero => intro c _; rfl
  | succ fuel ih =>
    intro c hc
    rw [follow, follow, ← heq c hc]
    cases hf : fetch c with
    | none => rfl
    | some r =>
      obtain ⟨page, next⟩ := r
      cases next with
      | none => rfl
      | some c' =>
        dsimp only
        rw [ih (some c') (hok c page c' hc hf)]

/-- The pages handed out so far, with the cursor of the last one. -/
inductive Paged (fetch : Option γ → Option (List β × Option γ)) :
    List (List β) → Option γ → Prop
  | start : Paged fetch [] none
  | next {pages : List (List β)} {c : Option γ} {page : List β} {c' : γ} :
      Paged fetch pages c → fetch c = some (page, some c') → Paged fetch (pages ++ [page]) (some c')

end follow

end RunPaging
