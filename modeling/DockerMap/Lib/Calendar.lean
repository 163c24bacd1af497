import Mathlib.Data.Nat.Basic
import Mathlib.Order.Monotone.Basic
import Mathlib.Tactic.IntervalCases

/-! The proleptic Gregorian calendar, with days counted from the first of January of the year
zero. -/

namespace Calendar

def isLeap (year : ℕ) : Prop := year % 4 = 0 ∧ (year % 100 ≠ 0 ∨ year % 400 = 0)

instance (year : ℕ) : Decidable (isLeap year) := inferInstanceAs (Decidable (_ ∧ _))

def yearLength (year : ℕ) : ℕ := if isLeap year then 366 else 365

def monthLength (year month : ℕ) : ℕ :=
  if month = 2 then if isLeap year then 29 else 28
  else if month = 4 ∨ month = 6 ∨ month = 9 ∨ month = 11 then 30 else 31

/-- The days before a year. -/
def yearStart : ℕ → ℕ
  | 0 => 0
  | year + 1 => yearStart year + yearLength year

/-- The days of a year before a month; the first month is 1. -/
def monthStart (year : ℕ) : ℕ → ℕ
  | 0 => 0
  | 1 => 0
  | month + 2 => monthStart year (month + 1) + monthLength year (month + 1)

def dayNumber (year month day : ℕ) : ℕ := yearStart year + monthStart year month + (day - 1)

/-- Days since the first of January 1970. -/
def daysSinceEpoch (year month day : ℕ) : ℤ := dayNumber year month day - yearStart 1970

/-! Closed forms -/

theorem yearStart_eq (year : ℕ) :
    yearStart year + (year + 99) / 100 = 365 * year + (year + 3) / 4 + (year + 399) / 400 := by
  induction year with
  | zero => rfl
  | succ year ih =>
    rw [yearStart, yearLength]
    by_cases hleap : isLeap year
    · rw [if_pos hleap]
      rw [isLeap] at hleap
      omega
    · rw [if_neg hleap]
      rw [isLeap] at hleap
      omega

/-- The leap day of a year, by the multiples of 4, 100 and 400 up to the year and before it. -/
theorem leapDay_eq (year : ℕ) :
    (if isLeap year then 1 else 0) + year / 100 + (year + 3) / 4 + (year + 399) / 400 =
      year / 4 + (year + 99) / 100 + year / 400 + 1 := by
  by_cases hleap : isLeap year
  · rw [if_pos hleap]
    rw [isLeap] at hleap
    omega
  · rw [if_neg hleap]
    rw [isLeap] at hleap
    omega

theorem yearStart_mono : Monotone yearStart :=
  monotone_nat_of_le_succ fun year => Nat.le_add_right (yearStart year) (yearLength year)

theorem yearStart_epoch : yearStart 1970 = 719528 := by
  have h := yearStart_eq 1970
  omega

/-- In the first two months the leap day is still to come. -/
theorem monthStart_of_le_two {year month : ℕ} (h1 : 1 ≤ month) (h2 : month ≤ 2) :
    monthStart year month = 31 * (month - 1) := by
  interval_cases month
  · rfl
  · simp [monthStart, monthLength]

/-- The lengths of the months from March on follow `(153 m + 2) / 5`. -/
theorem monthStart_of_two_lt {year month : ℕ} (h1 : 2 < month) (h2 : month ≤ 12) :
    monthStart year month =
      (153 * (month - 3) + 2) / 5 + 59 + if isLeap year then 1 else 0 := by
  interval_cases month <;> by_cases hleap : isLeap year <;> simp [monthStart, monthLength, hleap]

theorem daysSinceEpoch_nonneg {year month day : ℕ} (h : 1970 ≤ year) :
    0 ≤ daysSinceEpoch year month day := by
  have hmono := yearStart_mono h
  rw [daysSinceEpoch, dayNumber]
  omega

end Calendar
