import Mathlib.Data.Nat.Log
import Mathlib.Tactic.Ring

/-! Natural numbers read into binary64: 53 significant bits, ties to even. Below
`2 ^ 53` the reading is exact, and nothing at or above it falls below. -/

namespace Binary64

def exactBound : ℕ := 2 ^ 53

/-- Nearest multiple of `2 ^ e`, ties to the even quotient. -/
def roundAt (e n : ℕ) : ℕ :=
  let q := n / 2 ^ e
  let r := n % 2 ^ e
  if 2 * r < 2 ^ e then q * 2 ^ e
  else if 2 ^ e < 2 * r then (q + 1) * 2 ^ e
  else if q % 2 = 0 then q * 2 ^ e
  else (q + 1) * 2 ^ e

def ofNat (n : ℕ) : ℕ := roundAt (Nat.log 2 n - 52) n

theorem le_roundAt (e n : ℕ) : n / 2 ^ e * 2 ^ e ≤ roundAt e n := by
  have hstep : n / 2 ^ e * 2 ^ e ≤ (n / 2 ^ e + 1) * 2 ^ e := Nat.mul_le_mul_right _ (Nat.le_succ _)
  unfold roundAt
  dsimp only
  split_ifs
  · exact le_rfl
  · exact hstep
  · exact le_rfl
  · exact hstep

theorem ofNat_of_lt {n : ℕ} (h : n < exactBound) : ofNat n = n := by
  have hlog : Nat.log 2 n < 53 := Nat.log_lt_of_lt_pow' (by norm_num) h
  have he : Nat.log 2 n - 52 = 0 := by omega
  simp [ofNat, he, roundAt, Nat.mod_one]

theorem exactBound_le_ofNat {n : ℕ} (h : exactBound ≤ n) : exactBound ≤ ofNat n := by
  have hn : n ≠ 0 := by
    rintro rfl
    exact absurd h (by decide)
  have hlog : 53 ≤ Nat.log 2 n := (Nat.le_log_iff_pow_le (by norm_num) hn).2 h
  obtain ⟨e, he⟩ : ∃ e, Nat.log 2 n = 53 + e := ⟨Nat.log 2 n - 53, by omega⟩
  -- the kept digits alone are already this large
  have hq : 2 ^ 52 ≤ n / 2 ^ (e + 1) := by
    rw [Nat.le_div_iff_mul_le (Nat.two_pow_pos _)]
    have := Nat.pow_log_le_self 2 hn
    calc 2 ^ 52 * 2 ^ (e + 1) = 2 ^ (53 + e) := by ring
      _ = 2 ^ Nat.log 2 n := by rw [he]
      _ ≤ n := this
  have hexp : Nat.log 2 n - 52 = e + 1 := by omega
  calc exactBound = 2 ^ 52 * 2 := by rw [exactBound]; norm_num
    _ ≤ n / 2 ^ (e + 1) * 2 ^ (e + 1) :=
        Nat.mul_le_mul hq (by rw [pow_succ]; exact Nat.le_mul_of_pos_left 2 (Nat.two_pow_pos e))
    _ ≤ ofNat n := by rw [ofNat, hexp]; exact le_roundAt _ _

theorem lt_ofNat_iff {t n : ℕ} (h : t < exactBound) : t < ofNat n ↔ t < n := by
  rcases lt_or_ge n exactBound with hn | hn
  · rw [ofNat_of_lt hn]
  · exact ⟨fun _ => h.trans_le hn, fun _ => h.trans_le (exactBound_le_ofNat hn)⟩

theorem ofNat_lt_iff {t n : ℕ} (h : t < exactBound) : ofNat n < t ↔ n < t := by
  rcases lt_or_ge n exactBound with hn | hn
  · rw [ofNat_of_lt hn]
  · have := exactBound_le_ofNat hn
    omega

theorem ofNat_le_iff {t n : ℕ} (h : t < exactBound) : ofNat n ≤ t ↔ n ≤ t := by
  rw [← not_lt, lt_ofNat_iff h, not_lt]

theorem ofNat_eq_iff {t n : ℕ} (h : t < exactBound) : ofNat n = t ↔ n = t := by
  have h1 := lt_ofNat_iff (n := n) h
  have h2 := ofNat_lt_iff (n := n) h
  omega

end Binary64
