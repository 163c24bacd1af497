import DockerMap.Lib.Text

/-! A change token: a boot component and a sequence that advances exactly when the
observed value differs from the last one. -/

structure ChangeToken (α : Type*) where
  boot : String
  sequence : ℕ
  last : Option α

namespace ChangeToken

variable {α β : Type*} [DecidableEq α] [DecidableEq β]

def new (boot : String) : ChangeToken α where
  boot := boot
  sequence := 0
  last := none

/-- The text of the token with this boot component and sequence. -/
def text (boot : String) (sequence : ℕ) : String := boot ++ "-" ++ toString sequence

def current (t : ChangeToken α) : String := text t.boot t.sequence

def assign (t : ChangeToken α) (a : α) : ChangeToken α :=
  if t.last = some a then t else { t with sequence := t.sequence + 1, last := some a }

variable (t : ChangeToken α) (a : α)

@[simp] theorem assign_last : (t.assign a).last = some a := by
  unfold assign
  split_ifs with h
  · exact h
  · rfl

@[simp] theorem assign_boot : (t.assign a).boot = t.boot := by
  unfold assign
  split_ifs <;> rfl

theorem assign_of_last {t : ChangeToken α} {a : α} (h : t.last = some a) : t.assign a = t :=
  if_pos h

theorem assign_sequence_of_ne {t : ChangeToken α} {a : α} (h : t.last ≠ some a) :
    (t.assign a).sequence = t.sequence + 1 := by
  rw [assign, if_neg h]

theorem sequence_le_assign : t.sequence ≤ (t.assign a).sequence := by
  unfold assign
  split_ifs
  · exact le_refl _
  · exact Nat.le_succ _

theorem assign_sequence_le : (t.assign a).sequence ≤ t.sequence + 1 := by
  unfold assign
  split_ifs
  · exact Nat.le_succ _
  · exact le_refl _

/-- The sequence stays exactly when the value was already the last one. -/
theorem assign_sequence_eq_iff {t : ChangeToken α} {a : α} :
    (t.assign a).sequence = t.sequence ↔ t.last = some a := by
  constructor
  · intro h
    by_contra hne
    rw [assign_sequence_of_ne hne] at h
    omega
  · intro h
    rw [assign_of_last h]

omit [DecidableEq α] in
theorem text_injective (boot : String) : Function.Injective (text boot) := by
  intro m n h
  have hchars := congrArg String.toList h
  simp only [text, String.toList_append] at hchars
  have hdigits := List.append_cancel_left hchars
  apply Text.toDigits_injective
  simpa [Nat.toList_repr] using hdigits

/-! A token and what it grows into -/

/-- `t'` is `t` after any number of assignments, as far as the sequence tells. -/
structure Extends (t t' : ChangeToken α) : Prop where
  boot : t'.boot = t.boot
  sequence : t.sequence ≤ t'.sequence
  last : t'.sequence = t.sequence → t'.last = t.last

omit [DecidableEq α] in
theorem Extends.refl (t : ChangeToken α) : Extends t t := ⟨rfl, le_rfl, fun _ => rfl⟩

omit [DecidableEq α] in
theorem Extends.trans {t t' t'' : ChangeToken α} (h : Extends t t') (h' : Extends t' t'') :
    Extends t t'' where
  boot := h'.boot.trans h.boot
  sequence := h.sequence.trans h'.sequence
  last heq := by
    have hlow := h.sequence
    have hhigh := h'.sequence
    rw [h'.last (by omega), h.last (by omega)]

theorem extends_assign : Extends t (t.assign a) where
  boot := assign_boot t a
  sequence := sequence_le_assign t a
  last heq := by rw [assign_of_last (assign_sequence_eq_iff.1 heq)]

omit [DecidableEq α] in
/-- The text alone tells whether anything was assigned in between. -/
theorem Extends.last_of_current {t t' : ChangeToken α} (h : Extends t t')
    (hcurrent : t'.current = t.current) : t'.last = t.last := by
  simp only [current, h.boot] at hcurrent
  exact h.last (text_injective _ hcurrent)

end ChangeToken
