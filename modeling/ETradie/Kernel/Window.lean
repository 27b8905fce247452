import Mathlib.Tactic
import Mathlib.Algebra.Order.Monoid.Defs

namespace ETradie.Kernel

open List

universe u

section Since

variable {α : Type u} [LinearOrder α] {t s : α} {l : List α}

def since (s : α) (l : List α) : ℕ := l.countP (fun t => s ≤ t)

theorem since_cons_of_le (h : s ≤ t) : since s (t :: l) = since s l + 1 :=
  countP_cons_of_pos (by simpa using h)

theorem since_eq_zero (h : ∀ u ∈ l, u < s) : since s l = 0 := by
  refine countP_eq_zero.mpr ?_
  intro u hu
  simpa using h u hu

theorem exists_of_since_pos (h : 0 < since s l) : ∃ u ∈ l, s ≤ u := by
  obtain ⟨u, hu, hle⟩ := countP_pos_iff.mp h
  exact ⟨u, hu, by simpa using hle⟩

end Since

section Windows

variable {α : Type u} [AddCommMonoid α] [LinearOrder α]
variable {w t s : α} {l l' : List α} {limit : ℕ}

def within (w s : α) (l : List α) : ℕ := l.countP (fun t => s ≤ t ∧ t < s + w)

def recent (w t : α) (l : List α) : ℕ := l.countP (fun u => t < u + w)

def Sparse (w : α) (limit : ℕ) (l : List α) : Prop := ∀ s, within w s l ≤ limit

theorem within_cons_of_mem (hs : s ≤ t) (ht : t < s + w) :
    within w s (t :: l) = within w s l + 1 := by
  simp [within, hs, ht]

theorem within_cons_of_not_mem (h : ¬ (s ≤ t ∧ t < s + w)) : within w s (t :: l) = within w s l :=
  countP_cons_of_neg (by simpa using h)

theorem recent_eq_add {cut : α} (h : ∀ u ∈ l, cut ≤ u → t < u + w) :
    recent w t l = recent w t (l.filter (fun u => u < cut)) + since cut l := by
  unfold recent
  rw [countP_eq_countP_filter_add l _ (fun u => u < cut)]
  congr 1
  rw [countP_filter]
  refine countP_congr ?_
  intro u hu
  simp only [Bool.and_eq_true, Bool.not_eq_true', decide_eq_true_eq, decide_eq_false_iff_not,
    not_lt]
  exact ⟨And.right, fun hcut => ⟨h u hu hcut, hcut⟩⟩

theorem sparse_nil : Sparse w limit ([] : List α) := fun _ => Nat.zero_le _

theorem Sparse.sublist (h : Sparse w limit l) (hsub : List.Sublist l' l) : Sparse w limit l' :=
  fun s => hsub.countP_le.trans (h s)

theorem exists_window_of_recent (hw : t < t + w) (l : List α) :
    ∃ s, s ≤ t ∧ t < s + w ∧ ∀ u ∈ l, t < u + w → s ≤ u := by
  induction l with
  | nil => exact ⟨t, le_refl t, hw, by simp⟩
  | cons v l ih =>
    obtain ⟨s, hst, hts, hall⟩ := ih
    by_cases hv : t < v + w
    · refine ⟨min s v, (min_le_left s v).trans hst, ?_, ?_⟩
      · rcases le_total s v with hle | hle
        · rwa [min_eq_left hle]
        · rwa [min_eq_right hle]
      · intro u hu hrec
        rcases mem_cons.mp hu with rfl | hu
        · exact min_le_right s u
        · exact (min_le_left s v).trans (hall u hu hrec)
    · refine ⟨s, hst, hts, ?_⟩
      exact forall_mem_cons.mpr ⟨fun hrec => absurd hrec hv, hall⟩

theorem Sparse.recent_lt (hw : t < t + w) (hle : ∀ u ∈ l, u ≤ t) (h : Sparse w limit (t :: l)) :
    recent w t l < limit := by
  obtain ⟨s, hst, hts, hall⟩ := exists_window_of_recent hw l
  have hmono : recent w t l ≤ within w s l := by
    refine countP_mono_left ?_
    intro u hu hrec
    simp only [decide_eq_true_eq] at hrec ⊢
    exact ⟨hall u hu hrec, (hle u hu).trans_lt hts⟩
  have hwit := h s
  rw [within_cons_of_mem hst hts] at hwit
  omega

variable [IsOrderedAddMonoid α]

theorem within_le_recent (ht : t < s + w) : within w s l ≤ recent w t l := by
  refine countP_mono_left ?_
  intro u _ hu
  simp only [decide_eq_true_eq] at hu ⊢
  exact ht.trans_le (add_le_add_left hu.1 w)

theorem sparse_cons_iff (hw : t < t + w) (hle : ∀ u ∈ l, u ≤ t) (h : Sparse w limit l) :
    Sparse w limit (t :: l) ↔ recent w t l < limit := by
  constructor
  · exact Sparse.recent_lt hw hle
  · intro _ s
    by_cases hm : s ≤ t ∧ t < s + w
    · rw [within_cons_of_mem hm.1 hm.2]
      have hbd := within_le_recent (l := l) hm.2
      omega
    · rw [within_cons_of_not_mem hm]
      exact h s

end Windows

end ETradie.Kernel
