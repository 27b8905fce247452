import Mathlib.Tactic
import Mathlib.Algebra.Order.BigOperators.Group.List

namespace ETradie.Kernel

open List

universe u v

section Table

variable {α : Type u} {κ : Type v} [DecidableEq κ]

def amend (key : α → κ) (k : κ) (f : α → α) (rows : List α) : List α :=
  rows.map (fun r => if key r = k then f r else r)

def total (w : α → ℤ) (rows : List α) : ℤ := (rows.map w).sum

variable {key : α → κ} {k : κ} {f : α → α} {w : α → ℤ} {rows : List α} {r : α}

@[simp] theorem total_cons (r : α) (rows : List α) : total w (r :: rows) = w r + total w rows := by
  rfl

theorem total_congr {w' : α → ℤ} (h : ∀ r ∈ rows, w' r = w r) : total w' rows = total w rows := by
  unfold total
  rw [map_congr_left h]

theorem total_nonneg (h : ∀ r ∈ rows, 0 ≤ w r) : 0 ≤ total w rows := by
  refine sum_nonneg ?_
  intro z hz
  obtain ⟨r, hr, rfl⟩ := mem_map.mp hz
  exact h r hr

theorem le_total_of_mem (h : ∀ r ∈ rows, 0 ≤ w r) (hr : r ∈ rows) : w r ≤ total w rows := by
  refine single_le_sum ?_ (w r) (mem_map_of_mem hr)
  intro z hz
  obtain ⟨r', hr', rfl⟩ := mem_map.mp hz
  exact h r' hr'

theorem total_le_total {w' : α → ℤ} (h : ∀ r ∈ rows, w r ≤ w' r) :
    total w rows ≤ total w' rows := by
  exact sum_le_sum h

theorem amend_of_notMem (h : k ∉ rows.map key) : amend key k f rows = rows := by
  have hsm : ∀ r ∈ rows, (if key r = k then f r else r) = id r := by
    intro r hr
    rw [if_neg, id]
    intro hk
    exact h (mem_map.mpr ⟨r, hr, hk⟩)
  unfold amend
  rw [map_congr_left hsm, map_id]

theorem mem_amend (h : r ∈ amend key k f rows) :
    (r ∈ rows ∧ key r ≠ k) ∨ ∃ r' ∈ rows, key r' = k ∧ r = f r' := by
  obtain ⟨r', hr', rfl⟩ := mem_map.mp h
  by_cases hk : key r' = k
  · rw [if_pos hk]
    exact .inr ⟨r', hr', hk, rfl⟩
  · rw [if_neg hk]
    exact .inl ⟨hr', hk⟩

theorem map_key_amend (h : ∀ r ∈ rows, key r = k → key (f r) = k) :
    (amend key k f rows).map key = rows.map key := by
  unfold amend
  rw [map_map]
  refine map_congr_left ?_
  intro r hr
  by_cases hk : key r = k
  · simp only [Function.comp_apply, if_pos hk]
    rw [h r hr hk, hk]
  · simp only [Function.comp_apply, if_neg hk]

theorem total_amend (hks : (rows.map key).Nodup) (hr : r ∈ rows) (hk : key r = k) :
    total w (amend key k f rows) = total w rows + (w (f r) - w r) := by
  induction rows with
  | nil => cases hr
  | cons head rest ih =>
    obtain ⟨hhe, hrs⟩ := nodup_cons.mp hks
    rcases mem_cons.mp hr with rfl | hm
    · -- the key of the head occurs nowhere else
      have hsm : amend key k f rest = rest := amend_of_notMem (hk ▸ hhe)
      have hco : amend key k f (r :: rest) = f r :: amend key k f rest := by simp [amend, hk]
      rw [hco, hsm, total_cons, total_cons]
      omega
    · have hoth : key head ≠ k := by
        intro hsm
        exact hhe (mem_map.mpr ⟨r, hm, hk.trans hsm.symm⟩)
      have hco : amend key k f (head :: rest) = head :: amend key k f rest := by simp [amend, hoth]
      rw [hco, total_cons, total_cons, ih hrs hm]
      omega

omit [DecidableEq κ] in
theorem eq_of_key_eq (hks : (rows.map key).Nodup) {r' : α} (hr : r ∈ rows) (hr' : r' ∈ rows)
    (hk : key r = key r') : r = r' :=
  inj_on_of_nodup_map hks hr hr' hk

theorem find?_key_of_mem (hks : (rows.map key).Nodup) (hr : r ∈ rows) (hk : key r = k) :
    rows.find? (fun r => key r = k) = some r := by
  cases hf : rows.find? (fun r => key r = k) with
  | none =>
    have hno := find?_eq_none.mp hf r hr
    exact absurd (decide_eq_true hk) hno
  | some r' =>
    have hk' : key r' = k := by simpa using find?_some hf
    rw [eq_of_key_eq hks (mem_of_find?_eq_some hf) hr (hk'.trans hk.symm)]

end Table

section Words

def word? (z : ℤ) : Option Int64 := if -2 ^ 63 ≤ z ∧ z < 2 ^ 63 then some (Int64.ofInt z) else none

theorem toInt_bounds (w : Int64) : -2 ^ 63 ≤ w.toInt ∧ w.toInt < 2 ^ 63 := ⟨w.le_toInt, w.toInt_lt⟩

theorem word?_eq_some_iff {z : ℤ} {w : Int64} : word? z = some w ↔ w.toInt = z := by
  unfold word?
  split
  next h =>
    rw [Option.some.injEq]
    constructor
    · intro hw
      rw [← hw]
      exact Int64.toInt_ofInt_of_le h.1 h.2
    · intro hw
      rw [← hw, Int64.ofInt_toInt]
  next h =>
    refine iff_of_false (by simp) ?_
    intro hw
    exact h (hw ▸ toInt_bounds w)

theorem word?_isSome_iff {z : ℤ} : (word? z).isSome ↔ -2 ^ 63 ≤ z ∧ z < 2 ^ 63 := by
  unfold word?
  split
  next h => exact iff_of_true rfl h
  next h => exact iff_of_false Bool.false_ne_true h

theorem toInt_add_of_fits {a b : Int64}
    (h : -2 ^ 63 ≤ a.toInt + b.toInt ∧ a.toInt + b.toInt < 2 ^ 63) :
    (a + b).toInt = a.toInt + b.toInt := by
  rw [Int64.toInt_add]
  exact Int.bmod_eq_of_le (by omega) (by omega)

end Words

end ETradie.Kernel
