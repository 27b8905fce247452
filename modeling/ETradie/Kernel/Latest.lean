import Mathlib.Data.List.Sort
import Mathlib.Tactic

namespace ETradie.Kernel

open List

universe u v

variable {α : Type u} {κ : Type v}
variable (stamp : α → Int)

def newestFirst (rows : List α) : List α := rows.insertionSort (fun r r' => stamp r' ≤ stamp r)

def latest (n : Nat) (rows : List α) : List α := (newestFirst stamp rows).take n

def Ascending (rows : List α) : Prop := rows.Pairwise (fun r r' => stamp r < stamp r')

section Order

variable {stamp} {n : Nat} {rows : List α} {row : α}

theorem newestFirst_append (h : ∀ r ∈ rows, stamp r < stamp row) :
    newestFirst stamp (rows ++ [row]) = row :: newestFirst stamp rows := by
  induction rows with
  | nil => rfl
  | cons r rows ih =>
    have hrs : newestFirst stamp (rows ++ [row]) = row :: newestFirst stamp rows := by
      apply ih
      intro r' hr'
      exact h r' (mem_cons_of_mem r hr')
    have hlat : ¬ stamp row ≤ stamp r := by
      have hr := h r mem_cons_self
      omega
    unfold newestFirst at hrs ⊢
    rw [cons_append, insertionSort_cons, hrs, orderedInsert_cons, if_neg hlat, insertionSort_cons]

theorem newestFirst_eq_reverse (h : Ascending stamp rows) :
    newestFirst stamp rows = rows.reverse := by
  induction rows using List.reverseRecOn with
  | nil => rfl
  | append_singleton rows row ih =>
    obtain ⟨hrw, -, hl⟩ := pairwise_append.mp h
    rw [newestFirst_append, ih hrw, reverse_append]
    · rfl
    · intro r hr
      exact hl r hr row mem_cons_self

theorem latest_eq_take (h : Ascending stamp rows) : latest stamp n rows = rows.reverse.take n := by
  rw [latest, newestFirst_eq_reverse h]

theorem Ascending.append (h : Ascending stamp rows) (hrow : ∀ r ∈ rows, stamp r < stamp row) :
    Ascending stamp (rows ++ [row]) := by
  refine pairwise_append.mpr ⟨h, pairwise_singleton _ _, ?_⟩
  intro r hr _ hr'
  rw [mem_singleton.mp hr']
  exact hrow r hr

end Order

section Deleting

variable [DecidableEq κ] {stamp} {n : Nat} {rows : List α}

theorem filter_key_mem_append (key : α → κ) (front back : List α)
    (h : ((front ++ back).map key).Nodup) :
    (front ++ back).filter (fun r => decide (key r ∈ back.map key)) = back := by
  rw [map_append, nodup_append] at h
  obtain ⟨-, -, hdis⟩ := h
  have hfro : front.filter (fun r => decide (key r ∈ back.map key)) = [] := by
    rw [filter_eq_nil_iff]
    intro r hr hm
    exact hdis (key r) (mem_map_of_mem hr) (key r) (of_decide_eq_true hm) rfl
  have hba : back.filter (fun r => decide (key r ∈ back.map key)) = back := by
    rw [filter_eq_self]
    intro r hr
    exact decide_eq_true (mem_map_of_mem hr)
  rw [filter_append, hfro, hba, nil_append]

theorem filter_latest {key : α → κ} (hks : (rows.map key).Nodup) (h : Ascending stamp rows) :
    rows.filter (fun r => decide (key r ∈ (latest stamp n rows).map key)) =
      (latest stamp n rows).reverse := by
  have hlst : latest stamp n rows = (rows.drop (rows.length - n)).reverse := by
    rw [latest_eq_take h, take_reverse]
  have hspl : rows.take (rows.length - n) ++ rows.drop (rows.length - n) = rows :=
    take_append_drop _ _
  have hflt := filter_key_mem_append key (rows.take (rows.length - n))
    (rows.drop (rows.length - n)) (by rwa [hspl])
  rw [hlst]
  simpa using hflt

end Deleting

end ETradie.Kernel
