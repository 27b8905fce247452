import Mathlib.Tactic
import Mathlib.Algebra.BigOperators.Group.List.Basic

namespace ETradie.Kernel

open List

section Groups

variable {α κ M : Type} [DecidableEq κ] [AddCommMonoid M] {key : α → κ} {keys : List κ}

theorem sum_by_key (w : α → M) (hks : keys.Nodup) (xs : List α) (h : ∀ x ∈ xs, key x ∈ keys) :
    (keys.map (fun k => ((xs.filter (fun x => key x = k)).map w).sum)).sum = (xs.map w).sum := by
  induction xs with
  | nil => simp
  | cons x xs ih =>
    have hspl : ∀ k, (((x :: xs).filter (fun x => key x = k)).map w).sum =
        (if k = key x then w x else 0) + ((xs.filter (fun x => key x = k)).map w).sum := by
      intro k
      by_cases hk : k = key x
      · simp [hk]
      · simp [hk, Ne.symm hk]
    have hone : (keys.map (fun k => if k = key x then w x else 0)).sum = w x := by
      rw [← sum_toFinset _ hks, Finset.sum_ite_eq', if_pos]
      exact mem_toFinset.mpr (h x mem_cons_self)
    simp only [hspl, sum_map_add, hone, ih (fun y hy => h y (mem_cons_of_mem _ hy)),
      map_cons, sum_cons]

theorem countP_by_key (p : α → Bool) (hks : keys.Nodup) (xs : List α)
    (h : ∀ x ∈ xs, key x ∈ keys) :
    (keys.map (fun k => (xs.filter (fun x => key x = k)).countP p)).sum = xs.countP p := by
  have hcnt : ∀ ys : List α, ys.countP p = (ys.map (fun y => if p y then 1 else 0)).sum := by
    intro ys
    induction ys with
    | nil => rfl
    | cons y ys ih => rw [countP_cons, ih, map_cons, sum_cons, add_comm]
  simp only [hcnt]
  exact sum_by_key _ hks xs h

end Groups

section Streaks

variable {α : Type} [DecidableEq α]

def streakStep (a : α) (s : Nat × Nat) (x : α) : Nat × Nat :=
  if x = a then (s.1 + 1, max s.2 (s.1 + 1)) else (0, s.2)

def streak (a : α) (xs : List α) : Nat × Nat := xs.foldl (streakStep a) (0, 0)

theorem streak_suffix (a : α) (xs : List α) (n : Nat) :
    List.replicate n a <:+ xs ↔ n ≤ (streak a xs).1 := by
  induction xs using List.reverseRecOn generalizing n with
  | nil => simp [streak]
  | append_singleton xs x ih =>
    rw [suffix_concat_iff]
    cases n with
    | zero => simp
    | succ n =>
      by_cases hx : x = a
      · simpa [streak, streakStep, hx, replicate_succ'] using ih n
      · simp [streak, streakStep, hx, replicate_succ', Ne.symm hx]

theorem streak_isInfix (a : α) (xs : List α) (n : Nat) :
    List.replicate n a <:+: xs ↔ n ≤ (streak a xs).2 := by
  induction xs using List.reverseRecOn with
  | nil => simp [streak]
  | append_singleton xs x ih =>
    rw [infix_concat_iff, ih, streak_suffix]
    by_cases hx : x = a
    · simp [streak, streakStep, hx, or_comm]
    · cases n <;> simp [streak, streakStep, hx]

theorem streak_greatest (a : α) (xs : List α) :
    IsGreatest {n | List.replicate n a <:+: xs} (streak a xs).2 :=
  ⟨(streak_isInfix a xs _).mpr le_rfl, fun n hn => (streak_isInfix a xs n).mp hn⟩

end Streaks

end ETradie.Kernel
