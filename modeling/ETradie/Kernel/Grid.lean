import Mathlib.Algebra.Order.Floor.Ring
import Mathlib.Tactic

/-!
# Rounding to a grid

Multiples of a step in an ordered field, and rounding down to them.
-/

namespace ETradie.Kernel

variable {K : Type*} [Field K] [LinearOrder K] [IsStrictOrderedRing K] [FloorRing K]

def floorTo (s x : K) : K := ⌊x / s⌋ * s

def OnGrid (s x : K) : Prop := ∃ n : ℤ, x = n * s

theorem floorTo_le {s : K} (hs : 0 < s) (x : K) : floorTo s x ≤ x := by
  have hflo : (⌊x / s⌋ : K) ≤ x / s := Int.floor_le (x / s)
  calc
    floorTo s x = ⌊x / s⌋ * s := rfl
    _ ≤ x / s * s := mul_le_mul_of_nonneg_right hflo hs.le
    _ = x := div_mul_cancel₀ x hs.ne'

end ETradie.Kernel
