import Mathlib.Tactic

namespace ETradie.Kernel

open List

universe u v

section Register

variable {α : Type u} {ι : Type v} [LinearOrder ι] (stamp : α → ι)

def accepted : Option ι → List α → List α
  | _, [] => []
  | held, x :: xs =>
    if held.all (fun h => h ≤ stamp x) then x :: accepted (some (stamp x)) xs
    else accepted held xs

variable {stamp} {x : α} {xs : List α} {held : Option ι}

theorem accepted_cons_taken (h : held.all (fun h => h ≤ stamp x)) :
    accepted stamp held (x :: xs) = x :: accepted stamp (some (stamp x)) xs := by
  rw [accepted, if_pos h]

theorem accepted_cons_refused (h : held.all (fun h => h ≤ stamp x) = false) :
    accepted stamp held (x :: xs) = accepted stamp held xs := by
  rw [accepted, if_neg (Bool.eq_false_iff.mp h)]

theorem accepted_sublist : (accepted stamp held xs).Sublist xs := by
  induction xs generalizing held with
  | nil => exact List.Sublist.refl []
  | cons x xs ih =>
    rw [accepted]
    split
    · exact ih.cons_cons x
    · exact ih.cons x

theorem le_stamp_of_accepted {h : ι} {y : α} (hy : y ∈ accepted stamp (some h) xs) :
    h ≤ stamp y := by
  induction xs generalizing h with
  | nil => cases hy
  | cons x xs ih =>
    rw [accepted] at hy
    split at hy
    · next htkn =>
      have hle : h ≤ stamp x := by simpa using htkn
      rcases mem_cons.mp hy with rfl | hrs
      · exact hle
      · exact hle.trans (ih hrs)
    · exact ih hy

theorem accepted_ascending : (accepted stamp held xs).Pairwise (fun x y => stamp x ≤ stamp y) := by
  induction xs generalizing held with
  | nil => exact List.Pairwise.nil
  | cons x xs ih =>
    rw [accepted]
    split
    · exact pairwise_cons.mpr ⟨fun y hy => le_stamp_of_accepted hy, ih⟩
    · exact ih

theorem accepted_strictly_ascending (h : (xs.map stamp).Nodup) :
    (accepted stamp held xs).Pairwise (fun x y => stamp x < stamp y) := by
  have hne : (accepted stamp held xs).Pairwise (fun x y => stamp x ≠ stamp y) :=
    pairwise_map.mp (h.sublist (accepted_sublist.map stamp))
  exact (accepted_ascending.and hne).imp (fun hbo => lt_of_le_of_ne hbo.1 hbo.2)

theorem accepted_of_greatest_held {y : α} (hmax : ∀ z ∈ xs, z = x ∨ stamp z < stamp x)
    (hy : y ∈ accepted stamp (some (stamp x)) xs) : y = x := by
  rcases hmax y (accepted_sublist.subset hy) with heq | hlt
  · exact heq
  · exact absurd (le_stamp_of_accepted hy) (not_le_of_gt hlt)

theorem accepted_getLast? (hx : x ∈ xs) (hmax : ∀ z ∈ xs, z = x ∨ stamp z < stamp x)
    (hhd : ∀ h, held = some h → h ≤ stamp x) : (accepted stamp held xs).getLast? = some x := by
  induction xs generalizing held with
  | nil => cases hx
  | cons z zs ih =>
    have hrs : ∀ y ∈ zs, y = x ∨ stamp y < stamp x := fun y hy => hmax y (mem_cons_of_mem z hy)
    by_cases hz : z = x
    · subst hz
      have htkn : held.all (fun h => h ≤ stamp z) := by
        cases held with
        | none => rfl
        | some h => simpa using hhd h rfl
      rw [accepted_cons_taken htkn, getLast?_cons]
      cases hl : (accepted stamp (some (stamp z)) zs).getLast? with
      | none => rfl
      | some y => rw [accepted_of_greatest_held hrs (mem_of_getLast? hl), Option.getD_some]
    · have hm : x ∈ zs := (mem_cons.mp hx).resolve_left (fun h => hz h.symm)
      rw [accepted]
      split
      · have hlt : stamp z < stamp x := (hmax z mem_cons_self).resolve_left hz
        have hl : (accepted stamp (some (stamp z)) zs).getLast? = some x := by
          refine ih hm hrs ?_
          intro h hh
          cases hh
          exact le_of_lt hlt
        rw [getLast?_cons, hl, Option.getD_some]
      · exact ih hm hrs hhd

end Register

end ETradie.Kernel
