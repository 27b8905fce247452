import Mathlib.Tactic
import Mathlib.Data.Fintype.BigOperators

namespace ETradie.Kernel

open Finset

universe u v

instance neZero_two : NeZero (2 : ℕ) := ⟨two_ne_zero⟩

section Tally

variable {C : Type u} [Fintype C]

def tally (p : C → Bool) : Nat := (Finset.univ.filter (fun c => p c = true)).card

theorem tally_eq_sum (p : C → Bool) : tally p = ∑ c, (p c).toNat := by
  unfold tally
  rw [card_filter]
  apply sum_congr rfl
  intro c _
  cases p c <;> rfl

theorem tally_eq_zero_iff (p : C → Bool) : tally p = 0 ↔ ∀ c, p c = false := by simp [tally]

theorem tally_pos {p : C → Bool} (c : C) (hc : p c) : 0 < tally p :=
  card_pos.mpr ⟨c, mem_filter.mpr ⟨mem_univ c, hc⟩⟩

theorem tally_mono {p q : C → Bool} (h : ∀ c, p c → q c) : tally p ≤ tally q := by
  apply card_le_card
  intro c hc
  simp only [mem_filter, mem_univ, true_and] at hc ⊢
  exact h c hc

variable [DecidableEq C] {β : Type v}

theorem tally_update (p : C → β → Bool) (f : C → β) (c : C) (v : β) :
    tally (fun i => p i (Function.update f c v i)) + (p c (f c)).toNat =
      tally (fun i => p i (f i)) + (p c v).toNat := by
  rw [tally_eq_sum, tally_eq_sum,
    ← add_sum_erase Finset.univ _ (mem_univ c),
    ← add_sum_erase Finset.univ (fun i => (p i (f i)).toNat) (mem_univ c)]
  have hrs :
      ∑ i ∈ Finset.univ.erase c, (p i (Function.update f c v i)).toNat =
        ∑ i ∈ Finset.univ.erase c, (p i (f i)).toNat := by
    apply sum_congr rfl
    intro i hi
    rw [Function.update_of_ne (ne_of_mem_erase hi)]
  rw [Function.update_self]
  omega

end Tally

end ETradie.Kernel
