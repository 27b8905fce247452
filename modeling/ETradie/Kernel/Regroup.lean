import Mathlib.Data.Nat.Digits.Lemmas
import Mathlib.Tactic.Ring

namespace ETradie.Kernel

open List

def numeral (base : Nat) (digits : List Nat) : Nat := Nat.ofDigits base digits.reverse

theorem numeral_concat (base : Nat) (digits : List Nat) (d : Nat) :
    numeral base (digits ++ [d]) = numeral base digits * base + d := by
  rw [numeral, reverse_append, reverse_singleton, singleton_append, Nat.ofDigits_cons, numeral]
  ring

theorem shiftLeft_or_eq {buffer bits a w v : Nat} (h : buffer < 2 ^ bits) (hw : bits + a ≤ w)
    (hv : v < 2 ^ a) : (buffer <<< a) % 2 ^ w ||| v = buffer * 2 ^ a + v := by
  have hrm : buffer <<< a < 2 ^ w := by
    calc buffer <<< a
        = buffer * 2 ^ a := Nat.shiftLeft_eq buffer a
      _ < 2 ^ bits * 2 ^ a := Nat.mul_lt_mul_of_pos_right h (Nat.two_pow_pos a)
      _ = 2 ^ (bits + a) := (Nat.pow_add 2 bits a).symm
      _ ≤ 2 ^ w := Nat.pow_le_pow_right Nat.two_pos hw
  rw [Nat.mod_eq_of_lt hrm, ← Nat.shiftLeft_add_eq_or_of_lt hv, Nat.shiftLeft_eq]

structure Regroups (a b : Nat) (src dst : List Nat) (buffer bits : Nat) : Prop where
  digits : ∀ d ∈ dst, d < 2 ^ b
  total : numeral (2 ^ b) dst * 2 ^ bits + buffer = numeral (2 ^ a) src
  count : b * dst.length + bits = a * src.length
  small : buffer < 2 ^ bits

structure Padded (a b : Nat) (src dst : List Nat) (p : Nat) : Prop where
  digits : ∀ d ∈ dst, d < 2 ^ b
  total : numeral (2 ^ b) dst = numeral (2 ^ a) src * 2 ^ p
  count : b * dst.length = a * src.length + p

namespace Regroups

variable {a b v buffer bits : Nat} {src dst : List Nat}

theorem nil (a b : Nat) : Regroups a b [] [] 0 0 := ⟨by simp, rfl, rfl, Nat.one_pos⟩

theorem shiftIn (h : Regroups a b src dst buffer bits) (hv : v < 2 ^ a) :
    Regroups a b (src ++ [v]) dst (buffer * 2 ^ a + v) (bits + a) where
  digits := h.digits
  total := by
    rw [numeral_concat, ← h.total]
    ring
  count := by
    rw [length_append, length_singleton, Nat.mul_add, ← h.count]
    omega
  small := by
    rw [Nat.pow_add]
    calc buffer * 2 ^ a + v
        < buffer * 2 ^ a + 2 ^ a := Nat.add_lt_add_left hv _
      _ = (buffer + 1) * 2 ^ a := by ring
      _ ≤ 2 ^ bits * 2 ^ a := Nat.mul_le_mul_right _ h.small

theorem emit (h : Regroups a b src dst buffer (bits + b)) :
    Regroups a b src (dst ++ [buffer / 2 ^ bits]) (buffer % 2 ^ bits) bits where
  digits := by
    have hdig : buffer / 2 ^ bits < 2 ^ b := by
      refine Nat.div_lt_of_lt_mul ?_
      rw [← Nat.pow_add]
      exact h.small
    exact forall_mem_append.mpr ⟨h.digits, forall_mem_singleton.mpr hdig⟩
  total := by
    have hbuf := Nat.div_add_mod' buffer (2 ^ bits)
    rw [numeral_concat, ← h.total]
    conv_rhs => rw [← hbuf]
    ring
  count := by
    rw [← h.count, length_append, length_singleton, Nat.mul_add]
    omega
  small := Nat.mod_lt _ (Nat.two_pow_pos bits)

theorem exact (h : Regroups a b src dst buffer 0) : Padded a b src dst 0 where
  digits := h.digits
  total := by
    have hemp := Nat.lt_one_iff.mp h.small
    rw [← h.total, hemp]
    ring
  count := h.count

theorem flush (h : Regroups a b src dst buffer bits) (hbt : bits ≤ b) :
    Padded a b src (dst ++ [buffer * 2 ^ (b - bits)]) (b - bits) where
  digits := by
    have hl : buffer * 2 ^ (b - bits) < 2 ^ b := by
      calc buffer * 2 ^ (b - bits)
          < 2 ^ bits * 2 ^ (b - bits) := Nat.mul_lt_mul_of_pos_right h.small (Nat.two_pow_pos _)
        _ = 2 ^ b := by rw [← Nat.pow_add, Nat.add_sub_cancel' hbt]
    exact forall_mem_append.mpr ⟨h.digits, forall_mem_singleton.mpr hl⟩
  total := by
    have hbase : (2 : Nat) ^ b = 2 ^ bits * 2 ^ (b - bits) := by
      rw [← Nat.pow_add, Nat.add_sub_cancel' hbt]
    rw [numeral_concat, ← h.total, hbase]
    ring
  count := by
    rw [← h.count, length_append, length_singleton, Nat.mul_add]
    omega

end Regroups

theorem Padded.inverse {a b p buffer bits : Nat} {src dst out : List Nat}
    (h : Padded a b src dst p) (hp : p < a) (hsrc : ∀ d ∈ src, d < 2 ^ a)
    (hba : Regroups b a dst out buffer bits) (hbt : bits < a) : out = src := by
  have hcnt : bits + a * out.length = p + a * src.length := by
    rw [Nat.add_comm bits, hba.count, h.count, Nat.add_comm]
  have hrs : bits = p := by
    have hmod := congrArg (· % a) hcnt
    simpa [Nat.mod_eq_of_lt, hp, hbt] using hmod
  subst hrs
  have hlen : out.length = src.length :=
    Nat.eq_of_mul_eq_mul_left (by omega) (Nat.add_left_cancel hcnt)
  have hval : numeral (2 ^ a) out = numeral (2 ^ a) src := by
    have hdiv := congrArg (· / 2 ^ bits) (hba.total.trans h.total)
    simpa [Nat.add_comm, Nat.add_mul_div_right, Nat.div_eq_of_lt hba.small] using hdiv
  have hbase : 1 < 2 ^ a := Nat.one_lt_two_pow (by omega)
  refine reverse_injective (Nat.ofDigits_inj_of_len_eq hbase ?_ ?_ ?_ hval)
  · rw [length_reverse, length_reverse, hlen]
  · intro d hd
    exact hba.digits d (mem_reverse.mp hd)
  · intro d hd
    exact hsrc d (mem_reverse.mp hd)

end ETradie.Kernel
