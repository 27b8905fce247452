import Mathlib.Data.Int.Log
import Mathlib.Algebra.Order.Round
import Mathlib.Tactic

/-!
# Rounding to 53 bits

Numbers with a significand of 53 bits, as in float64 but with an unbounded exponent, and roundings
to the nearest of them.  How ties are broken is left open; `float64` is one such rounding.
-/

namespace ETradie.Kernel

structure Rounding where
  round : ℚ → ℚ
  monotone : Monotone round
  exact : ∀ (k : Int) (e : Nat), |k| ≤ 2 ^ 53 → e ≤ 1000 → round ((k : ℚ) / 2 ^ e) = (k : ℚ) / 2 ^ e

variable {f : ℚ → ℚ}

section Instance

variable {x : ℚ}

end Instance

end ETradie.Kernel
