import DockerMap.Lib.Binary64
import Mathlib.Data.Rat.Floor
import Mathlib.Order.WithBot

/-! Sums of finite binary64 numbers, which are rationals. -/

namespace Binary64

/-- Every finite number is a multiple of its inverse. -/
def scale : ℕ := 2 ^ 1074

def nearest (q : ℚ) : ℚ :=
  let n := ⌊q * scale⌋
  if n < 0 then -(ofNat n.natAbs / scale) else ofNat n.natAbs / scale

/-- The sum of a number and one that is not negative: `⊤` past the largest finite number. -/
def sum (a b : ℚ) : WithTop ℚ :=
  let total := nearest (a + b)
  if 2 ^ 1024 ≤ total then ⊤ else total

end Binary64
