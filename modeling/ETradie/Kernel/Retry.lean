import Mathlib.Tactic

namespace ETradie.Kernel

variable {S V E A : Type}

def retry (isRetryable : E → Bool) (contextError : E) (operation : V → S → Except E A × S) :
    V → List (Option V) → S → Except E A × S
  | first, further, s =>
    match operation first s with
    | (.ok a, s') => (.ok a, s')
    | (.error e, s') =>
      match further with
      | [] => (.error e, s')
      | none :: _ => if isRetryable e then (.error contextError, s') else (.error e, s')
      | some v :: rest =>
        if isRetryable e then retry isRetryable contextError operation v rest s'
        else (.error e, s')

theorem retry_spec (isRetryable : E → Bool) (contextError : E) {operation : V → S → Except E A × S}
    (I : S → Prop) (Q : A → S → Prop) (hst : ∀ v s, I s → I (operation v s).2 ∧
      ∀ a, (operation v s).1 = .ok a → Q a (operation v s).2) (first : V)
    (further : List (Option V)) (s : S) (hs : I s) :
    I (retry isRetryable contextError operation first further s).2 ∧
      ∀ a, (retry isRetryable contextError operation first further s).1 = .ok a →
        Q a (retry isRetryable contextError operation first further s).2 := by
  induction further generalizing first s with
  | nil =>
    obtain ⟨hI, hQ⟩ := hst first s hs
    rw [retry]
    rcases hop : operation first s with ⟨_ | a, s'⟩
    all_goals
      rw [hop] at hI hQ
      exact ⟨hI, hQ⟩
  | cons attempt _ ih =>
    obtain ⟨hI, hQ⟩ := hst first s hs
    rw [retry]
    rcases hop : operation first s with ⟨e | a, s'⟩
    · rw [hop] at hI
      cases attempt with
      | none =>
        dsimp only
        split_ifs
        all_goals exact ⟨hI, by simp⟩
      | some v =>
        dsimp only
        split_ifs
        · exact ih v s' hI
        · exact ⟨hI, by simp⟩
    · rw [hop] at hI hQ
      exact ⟨hI, hQ⟩

end ETradie.Kernel
