import Mathlib.Tactic

namespace ETradie.Kernel

universe u v w

section Pruning

variable {S : Type u} {A : Type v} {R : Type w} (f : S → A → S × R)

def outcomes : S → List A → List (A × R)
  | _, [] => []
  | s, a :: as => (a, (f s a).2) :: outcomes (f s a).1 as

def pruned (drop : A → R → Bool) (s : S) (as : List A) : List A :=
  ((outcomes f s as).filter (fun o => !drop o.1 o.2)).map Prod.fst

variable {f}
variable {drop : A → R → Bool} {s : S} {a : A} {as : List A}

theorem pruned_cons_dropped (h : drop a (f s a).2) :
    pruned f drop s (a :: as) = pruned f drop (f s a).1 as := by
  simp [pruned, outcomes, h]

theorem pruned_cons_kept (h : drop a (f s a).2 = false) :
    pruned f drop s (a :: as) = a :: pruned f drop (f s a).1 as := by
  simp [pruned, outcomes, h]

theorem outcomes_pruned (observed : A → Bool) (related : List A → S → S → Prop)
    (hdrp : ∀ a as s s', related (a :: as) s s' → drop a (f s a).2 →
      observed a = false ∧ related as (f s a).1 s')
    (hkp : ∀ a as s s', related (a :: as) s s' → drop a (f s a).2 = false →
      (observed a → (f s a).2 = (f s' a).2) ∧ related as (f s a).1 (f s' a).1) {s' : S}
    (h : related as s s') :
    (outcomes f s' (pruned f drop s as)).filter (fun o => observed o.1) =
      (outcomes f s as).filter (fun o => observed o.1) := by
  induction as generalizing s s' with
  | nil => rfl
  | cons a as ih =>
    cases hdr : drop a (f s a).2 with
    | true =>
      obtain ⟨hobs, hrel⟩ := hdrp a as s s' h hdr
      rw [pruned_cons_dropped hdr, outcomes, List.filter_cons_of_neg (by simp [hobs])]
      exact ih hrel
    | false =>
      obtain ⟨hsm, hrel⟩ := hkp a as s s' h hdr
      rw [pruned_cons_kept hdr, outcomes, outcomes]
      cases hobs : observed a with
      | true =>
        rw [List.filter_cons_of_pos (by simpa using hobs),
          List.filter_cons_of_pos (by simpa using hobs), ih hrel, hsm hobs]
      | false =>
        rw [List.filter_cons_of_neg (by simp [hobs]),
          List.filter_cons_of_neg (by simp [hobs]), ih hrel]

end Pruning

end ETradie.Kernel
