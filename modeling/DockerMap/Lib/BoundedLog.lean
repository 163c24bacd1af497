import Mathlib.Data.List.Infix

/-! A log of bounded length: what is appended last is kept. -/

namespace BoundedLog

variable {α : Type*}

/-- The newest entries, as many as there is room for. -/
def retain (capacity : ℕ) (l : List α) : List α := l.drop (l.length - capacity)

theorem length_retain_le (capacity : ℕ) (l : List α) : (retain capacity l).length ≤ capacity := by
  rw [retain, List.length_drop]
  omega

theorem retain_suffix (capacity : ℕ) (l : List α) : retain capacity l <:+ l := List.drop_suffix _ _

theorem retain_of_length_le {capacity : ℕ} {l : List α} (h : l.length ≤ capacity) :
    retain capacity l = l := by
  rw [retain, Nat.sub_eq_zero_of_le h, List.drop_zero]

/-- What was cut off before comes back in no later cut. -/
theorem retain_append_retain (capacity : ℕ) (l l' : List α) :
    retain capacity (retain capacity l ++ l') = retain capacity (l ++ l') := by
  rcases le_or_gt l.length capacity with hle | hgt
  · rw [retain_of_length_le hle]
  · have hdrop : (retain capacity l ++ l').length - capacity = l'.length := by
      rw [List.length_append, retain, List.length_drop]
      omega
    have hsum : l.length - capacity + l'.length = (l ++ l').length - capacity := by
      rw [List.length_append]
      omega
    calc retain capacity (retain capacity l ++ l')
        = (l.drop (l.length - capacity) ++ l').drop l'.length := by rw [retain, hdrop, retain]
      _ = ((l ++ l').drop (l.length - capacity)).drop l'.length := by
          rw [List.drop_append_of_le_length (Nat.sub_le _ _)]
      _ = retain capacity (l ++ l') := by rw [List.drop_drop, hsum, retain]

end BoundedLog
