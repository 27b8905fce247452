import Mathlib.Data.List.Basic

namespace ETradie.Kernel

variable {ε α β : Type}

def collect (f : α → Except ε (Option β)) : List α → Except ε (List β)
  | [] => .ok []
  | x :: xs =>
    match f x with
    | .error e => .error e
    | .ok none => collect f xs
    | .ok (some y) =>
      match collect f xs with
      | .error e => .error e
      | .ok ys => .ok (y :: ys)

theorem map_eq_ok {f : α → β} {x : Except ε α} {r : β} :
    x.map f = .ok r ↔ ∃ y, x = .ok y ∧ f y = r := by
  cases x with
  | error e | ok y => simp [Except.map]

theorem exists_map_eq_ok {f : α → β} {x : Except ε α} :
    (∃ r, x.map f = .ok r) ↔ ∃ y, x = .ok y := by
  simp [map_eq_ok]

theorem mem_collect {f : α → Except ε (Option β)} {xs : List α} {ys : List β}
    (h : collect f xs = .ok ys) (y : β) : y ∈ ys ↔ ∃ x ∈ xs, f x = .ok (some y) := by
  induction xs generalizing ys with
  | nil =>
    cases h
    simp
  | cons x xs ih =>
    unfold collect at h
    rw [List.exists_mem_cons_iff]
    split at h
    · cases h
    · next hx =>
      rw [ih h, hx]
      simp
    · next z hx =>
      split at h
      · cases h
      · next _ hzs =>
        cases h
        rw [List.mem_cons, ih hzs, hx]
        simp [eq_comm]

theorem collect_ok_iff {f : α → Except ε (Option β)} {xs : List α} :
    (∃ ys, collect f xs = .ok ys) ↔ ∀ x ∈ xs, ∃ r, f x = .ok r := by
  induction xs with
  | nil => simp [collect]
  | cons x xs ih =>
    rw [List.forall_mem_cons, ← ih, collect]
    split
    · next e hx =>
      rw [hx]
      simp
    · next hx =>
      rw [hx]
      simp
    · next y hx =>
      rw [hx]
      split
      · next e hxs =>
        rw [hxs]
        simp
      · next ys hxs =>
        rw [hxs]
        simp

end ETradie.Kernel
