import ETradie.Kernel.Table

namespace ETradie.Kernel

open List

universe u v

structure Keyed {α : Type u} {κ : Type v} (key : α → κ) where
  rows : List α
  unique : (rows.map key).Nodup

namespace Keyed

variable {α : Type u} {κ : Type v} {key : α → κ}

def empty : Keyed key where
  rows := []
  unique := nodup_nil

@[simp] theorem rows_empty : (empty : Keyed key).rows = [] := rfl

variable {p : α → Bool} {f : α → α}

theorem key_ite (hk : ∀ r, key (f r) = key r) (r : α) : key (if p r then f r else r) = key r := by
  split
  · exact hk r
  · rfl

def updateWhere (t : Keyed key) (p : α → Bool) (f : α → α) (hkey : ∀ r, key (f r) = key r) :
    Keyed key where
  rows := t.rows.map (fun r => if p r then f r else r)
  unique := by
    simp only [map_map, Function.comp_def, key_ite hkey]
    exact t.unique

variable {t : Keyed key}

theorem mem_updateWhere {hk : ∀ r, key (f r) = key r} {r : α} :
    r ∈ (t.updateWhere p f hk).rows ↔ ∃ r' ∈ t.rows, (if p r' then f r' else r') = r :=
  mem_map

theorem length_filter_le_one (h : ∀ r ∈ t.rows, ∀ r' ∈ t.rows, p r → p r' → r = r') :
    (t.rows.filter p).length ≤ 1 := by
  have hnd : (t.rows.filter p).Nodup := (List.Nodup.of_map _ t.unique).filter _
  match hflt : t.rows.filter p with
  | [] => simp
  | [_] => simp
  | r :: r' :: _ =>
    have hr : r ∈ t.rows.filter p := by simp [hflt]
    have hr' : r' ∈ t.rows.filter p := by simp [hflt]
    obtain ⟨hm, hp⟩ := mem_filter.mp hr
    obtain ⟨hm', hp'⟩ := mem_filter.mp hr'
    rw [hflt, h r hm r' hm' hp hp'] at hnd
    simp at hnd

variable [DecidableEq κ]

def get (t : Keyed key) (k : κ) : Option α := t.rows.find? (fun r => key r = k)

def putRows (key : α → κ) (row : α) (rows : List α) : List α :=
  if key row ∈ rows.map key then amend key (key row) (fun _ => row) rows else rows ++ [row]

theorem putRows_unique (row : α) {rows : List α} (h : (rows.map key).Nodup) :
    ((putRows key row rows).map key).Nodup := by
  unfold putRows
  split
  · rw [map_key_amend (fun _ _ _ => rfl)]
    exact h
  · next hn =>
    rw [map_append, nodup_append]
    refine ⟨h, nodup_singleton _, ?_⟩
    intro k hk _ hk' heq
    rw [map_singleton, mem_singleton] at hk'
    exact hn (hk' ▸ heq ▸ hk)

def put (t : Keyed key) (row : α) : Keyed key where
  rows := putRows key row t.rows
  unique := putRows_unique row t.unique

@[simp] theorem get_empty (k : κ) : (empty : Keyed key).get k = none := rfl

variable {k : κ} {r row : α}

theorem get_eq_some_iff : t.get k = some r ↔ r ∈ t.rows ∧ key r = k := by
  constructor
  · intro h
    exact ⟨mem_of_find?_eq_some h, by simpa using find?_some h⟩
  · rintro ⟨hm, hk⟩
    exact find?_key_of_mem t.unique hm hk

theorem mem_of_get (h : t.get k = some r) : r ∈ t.rows := (get_eq_some_iff.mp h).1

theorem key_of_get (h : t.get k = some r) : key r = k := (get_eq_some_iff.mp h).2

theorem get_key (h : r ∈ t.rows) : t.get (key r) = some r := get_eq_some_iff.mpr ⟨h, rfl⟩

theorem get_eq_none_iff : t.get k = none ↔ k ∉ t.rows.map key := by simp [get]

theorem mem_put : r ∈ (t.put row).rows ↔ r = row ∨ (r ∈ t.rows ∧ key r ≠ key row) := by
  simp only [put, putRows]
  split
  · next hexists =>
    obtain ⟨old, ho, hk⟩ := mem_map.mp hexists
    constructor
    · intro h
      rcases mem_amend h with hoth | ⟨-, -, -, rfl⟩
      · exact .inr hoth
      · exact .inl rfl
    · rintro (rfl | ⟨hm, hne⟩)
      · exact mem_map.mpr ⟨old, ho, if_pos hk⟩
      · exact mem_map.mpr ⟨r, hm, if_neg hne⟩
  · next hn =>
    rw [mem_append, mem_singleton]
    constructor
    · rintro (hm | rfl)
      · exact .inr ⟨hm, fun hk => hn (hk ▸ mem_map_of_mem hm)⟩
      · exact .inl rfl
    · rintro (rfl | ⟨hm, -⟩)
      · exact .inr rfl
      · exact .inl hm

theorem forall_mem_put {P : α → Prop} (hrow : P row) (ho : ∀ r ∈ t.rows, P r) :
    ∀ r ∈ (t.put row).rows, P r := by
  intro r hr
  rcases mem_put.mp hr with rfl | ⟨hm, -⟩
  · exact hrow
  · exact ho r hm

theorem forall_mem_put_of_ne {P : α → Prop} (hrow : P row)
    (ho : ∀ r ∈ t.rows, key r ≠ key row → P r) : ∀ r ∈ (t.put row).rows, P r := by
  intro r hr
  rcases mem_put.mp hr with rfl | ⟨hm, hne⟩
  · exact hrow
  · exact ho r hm hne

theorem forall_pair_put {P : α → α → Prop} (hrow : P row row)
    (hlf : ∀ r ∈ t.rows, key r ≠ key row → P row r)
    (hrig : ∀ r ∈ t.rows, key r ≠ key row → P r row)
    (ho : ∀ r ∈ t.rows, ∀ r' ∈ t.rows, P r r') :
    ∀ r ∈ (t.put row).rows, ∀ r' ∈ (t.put row).rows, P r r' := by
  intro r hr r' hr'
  rcases mem_put.mp hr with rfl | ⟨hm, hne⟩
  · rcases mem_put.mp hr' with rfl | ⟨hm', hne'⟩
    · exact hrow
    · exact hlf r' hm' hne'
  · rcases mem_put.mp hr' with rfl | ⟨hm', -⟩
    · exact hrig r hm hne
    · exact ho r hm r' hm'

theorem get_put (t : Keyed key) (row : α) (k : κ) :
    (t.put row).get k = if key row = k then some row else t.get k := by
  split
  · next hk => exact get_eq_some_iff.mpr ⟨mem_put.mpr (.inl rfl), hk⟩
  · next hk =>
    refine Option.ext ?_
    intro r
    rw [get_eq_some_iff, get_eq_some_iff, mem_put]
    constructor
    · rintro ⟨rfl | ⟨hm, -⟩, hr⟩
      · exact absurd hr hk
      · exact ⟨hm, hr⟩
    · rintro ⟨hm, rfl⟩
      exact ⟨.inr ⟨hm, fun hsm => hk hsm.symm⟩, rfl⟩

@[simp] theorem get_put_self (t : Keyed key) (row : α) : (t.put row).get (key row) = some row := by
  rw [get_put, if_pos rfl]

theorem get_put_ne (t : Keyed key) (h : key row ≠ k) : (t.put row).get k = t.get k := by
  rw [get_put, if_neg h]

theorem countP_put (p : α → Bool) (t : Keyed key) {old : α} (h : t.get (key row) = some old) :
    (t.put row).rows.countP p + (if p old then 1 else 0) =
      t.rows.countP p + (if p row then 1 else 0) := by
  obtain ⟨hm, hk⟩ := get_eq_some_iff.mp h
  have hcnt : ∀ rows : List α,
      total (fun r => if p r then 1 else 0) rows = (rows.countP p : ℤ) := by
    intro rows
    induction rows with
    | nil => rfl
    | cons r rows ih =>
      rw [total_cons, ih, countP_cons]
      split <;> simp [add_comm]
  have hrw : (t.put row).rows = amend key (key row) (fun _ => row) t.rows :=
    if_pos (mem_map.mpr ⟨old, hm, hk⟩)
  have htot := total_amend (f := fun _ => row) (w := fun r => if p r then (1 : ℤ) else 0)
    t.unique hm hk
  rw [hcnt, hcnt, ← hrw] at htot
  cases ho : p old <;> cases hn : p row <;> simp only [ho, hn] at htot ⊢ <;>
    simp at htot ⊢ <;> omega

theorem countP_put_new (p : α → Bool) (t : Keyed key) (h : t.get (key row) = none) :
    (t.put row).rows.countP p = t.rows.countP p + (if p row then 1 else 0) := by
  have hrw : (t.put row).rows = t.rows ++ [row] := if_neg (get_eq_none_iff.mp h)
  rw [hrw, countP_append, countP_singleton]

def delete (t : Keyed key) (k : κ) : Keyed key where
  rows := t.rows.filter (fun r => key r ≠ k)
  unique := t.unique.sublist ((filter_sublist).map key)

theorem mem_delete {r : α} : r ∈ (t.delete k).rows ↔ r ∈ t.rows ∧ key r ≠ k := by simp [delete]

theorem get_delete_ne (t : Keyed key) {k' : κ} (h : k ≠ k') : (t.delete k').get k = t.get k := by
  ext r
  rw [get_eq_some_iff, get_eq_some_iff, mem_delete]
  exact ⟨fun ⟨⟨hr, _⟩, hk⟩ => ⟨hr, hk⟩, fun ⟨hr, hk⟩ => ⟨⟨hr, hk ▸ h⟩, hk⟩⟩

@[simp] theorem get_delete_self (t : Keyed key) (k : κ) : (t.delete k).get k = none := by
  rw [get_eq_none_iff]
  simp [delete]

theorem perm_delete (h : t.get k = some r) : t.rows.Perm (r :: (t.delete k).rows) := by
  obtain ⟨hm, rfl⟩ := get_eq_some_iff.mp h
  have hn : r ∉ (t.delete (key r)).rows := fun hr => (mem_delete.mp hr).2 rfl
  refine (perm_ext_iff_of_nodup t.unique.of_map
    (nodup_cons.mpr ⟨hn, (t.delete _).unique.of_map⟩)).mpr fun x => ?_
  rw [mem_cons, mem_delete]
  constructor
  · intro hx
    by_cases hk : key x = key r
    · exact .inl (eq_of_key_eq t.unique hx hm hk)
    · exact .inr ⟨hx, hk⟩
  · rintro (rfl | ⟨hx, -⟩)
    · exact hm
    · exact hx

theorem countP_delete (p : α → Bool) (h : t.get k = some r) :
    t.rows.countP p = (t.delete k).rows.countP p + if p r then 1 else 0 := by
  rw [(perm_delete h).countP_eq, countP_cons]

theorem rows_foldl_put {rows : List α} (h : ((t.rows ++ rows).map key).Nodup) :
    (rows.foldl put t).rows = t.rows ++ rows := by
  induction rows generalizing t with
  | nil => simp
  | cons r rows ih =>
    have hn : key r ∉ t.rows.map key := by
      rw [map_append] at h
      exact fun hm => disjoint_of_nodup_append h hm mem_cons_self
    have hput : (t.put r).rows = t.rows ++ [r] := if_neg hn
    have hspl : t.rows ++ r :: rows = (t.put r).rows ++ rows := by
      rw [hput, append_assoc, singleton_append]
    rw [hspl]
    exact ih (hspl ▸ h)

def retain (t : Keyed key) (p : α → Bool) : Keyed key where
  rows := t.rows.filter p
  unique := t.unique.sublist ((filter_sublist).map key)

theorem get_retain (t : Keyed key) (p : α → Bool) (k : κ) :
    (t.retain p).get k = (t.get k).filter p := by
  ext r
  simp only [get_eq_some_iff, Option.filter_eq_some_iff, retain, mem_filter]
  exact and_right_comm

theorem get_updateWhere (t : Keyed key) (p : α → Bool) (f : α → α) (hk : ∀ r, key (f r) = key r)
    (k : κ) : (t.updateWhere p f hk).get k = (t.get k).map (fun r => if p r then f r else r) := by
  simp only [get, updateWhere, find?_map, Function.comp_def, key_ite hk]

theorem put_put (t : Keyed key) {row' : α} (h : key row = key row') :
    (t.put row).put row' = t.put row' := by
  have hrw : putRows key row' (putRows key row t.rows) = putRows key row' t.rows := by
    unfold putRows
    rw [← h]
    by_cases ho : key row ∈ t.rows.map key
    · have hks : (amend key (key row) (fun _ => row) t.rows).map key = t.rows.map key :=
        map_key_amend (fun _ _ _ => rfl)
      rw [if_pos ho, if_pos ho, hks, if_pos ho]
      unfold amend
      rw [map_map]
      refine map_congr_left ?_
      intro r _
      by_cases hr : key r = key row
      · simp [hr]
      · simp [hr]
    · have hl : key row ∈ (t.rows ++ [row]).map key := by simp
      have hrs : amend key (key row) (fun _ => row') t.rows = t.rows := amend_of_notMem ho
      rw [if_neg ho, if_neg ho, if_pos hl]
      rw [amend] at hrs ⊢
      rw [map_append, hrs]
      simp
  simp only [put, hrw]

section Keep

universe w

variable {α : Type u} {κ : Type v} {R : Type w} [LinearOrder R] {key : α → κ}

variable {rank : α → R} {xs : List α} {row r : α}

/-- The first row of the highest rank among those of its key. -/
def Wins (key : α → κ) (rank : α → R) (xs : List α) (r : α) : Prop :=
  ∃ before after, xs = before ++ r :: after ∧
    (∀ x ∈ before, key x = key r → rank x < rank r) ∧
    ∀ x ∈ after, key x = key r → rank x ≤ rank r

theorem Wins.mem (h : Wins key rank xs r) : r ∈ xs := by
  obtain ⟨before, after, rfl, -⟩ := h
  simp

theorem Wins.best (h : Wins key rank xs r) {x : α} (hx : x ∈ xs) (hkey : key x = key r) :
    rank x ≤ rank r := by
  obtain ⟨before, after, rfl, hbefore, hafter⟩ := h
  rcases mem_append.mp hx with hx | hx
  · exact (hbefore x hx hkey).le
  · rcases mem_cons.mp hx with rfl | hx
    · exact le_rfl
    · exact hafter x hx hkey

theorem wins_iff_of_nodup (hrank : (xs.map rank).Nodup) :
    Wins key rank xs r ↔ r ∈ xs ∧ ∀ x ∈ xs, key x = key r → rank x ≤ rank r := by
  refine ⟨fun h => ⟨h.mem, fun x hx hkey => h.best hx hkey⟩, ?_⟩
  rintro ⟨hr, hbest⟩
  obtain ⟨before, after, rfl⟩ := append_of_mem hr
  refine ⟨before, after, rfl, fun x hx hkey => ?_, fun x hx => hbest x (by simp [hx])⟩
  refine (hbest x (by simp [hx]) hkey).lt_of_ne fun heq => ?_
  rw [map_append, map_cons] at hrank
  exact disjoint_of_nodup_append hrank (mem_map_of_mem hx) (heq ▸ mem_cons_self)

theorem wins_append_singleton : Wins key rank (xs ++ [row]) r ↔
    (Wins key rank xs r ∧ (key row = key r → rank row ≤ rank r)) ∨
      r = row ∧ ∀ x ∈ xs, key x = key row → rank x < rank row := by
  constructor
  · rintro ⟨before, after, hsplit, hbefore, hafter⟩
    rcases eq_nil_or_concat after with rfl | ⟨after, last, rfl⟩
    · obtain ⟨rfl, hrow⟩ := append_inj' hsplit rfl
      cases hrow
      exact .inr ⟨rfl, hbefore⟩
    · rw [concat_eq_append, ← cons_append, ← append_assoc] at hsplit
      obtain ⟨rfl, hrow⟩ := append_inj' hsplit rfl
      cases hrow
      rw [concat_eq_append, forall_mem_append] at hafter
      exact .inl ⟨⟨before, after, rfl, hbefore, hafter.1⟩, hafter.2 row mem_cons_self⟩
  · rintro (⟨⟨before, after, rfl, hbefore, hafter⟩, hrow⟩ | ⟨rfl, hall⟩)
    · refine ⟨before, after ++ [row], by simp, hbefore, ?_⟩
      exact forall_mem_append.mpr ⟨hafter, forall_mem_singleton.mpr hrow⟩
    · exact ⟨xs, [], rfl, hall, by simp⟩

variable [DecidableEq κ]

def keep (rank : α → R) (t : Keyed key) (row : α) : Keyed key :=
  match t.get (key row) with
  | none => t.put row
  | some old => if rank old < rank row then t.put row else t

/-- The table holds the winner of every key seen in the list. -/
structure Keeps (rank : α → R) (xs : List α) (t : Keyed key) : Prop where
  mem_iff : ∀ r, r ∈ t.rows ↔ Wins key rank xs r
  seen : ∀ x ∈ xs, ∃ r ∈ t.rows, key r = key x

variable {t : Keyed key}

theorem Keeps.put (h : Keeps rank xs t) (hbeats : ∀ x ∈ xs, key x = key row → rank x < rank row) :
    Keeps rank (xs ++ [row]) (t.put row) where
  mem_iff r := by
    rw [mem_put, h.mem_iff, wins_append_singleton]
    constructor
    · rintro (rfl | ⟨hr, hne⟩)
      · exact .inr ⟨rfl, hbeats⟩
      · exact .inl ⟨hr, fun hkey => absurd hkey.symm hne⟩
    · rintro (⟨hr, hle⟩ | ⟨rfl, -⟩)
      · exact .inr ⟨hr, fun hkey => (hbeats r hr.mem hkey).not_ge (hle hkey.symm)⟩
      · exact .inl rfl
  seen := by
    refine forall_mem_append.mpr ⟨fun x hx => ?_, forall_mem_singleton.mpr ?_⟩
    · obtain ⟨r, hr, hkey⟩ := h.seen x hx
      by_cases hrow : key x = key row
      · exact ⟨row, mem_put.mpr (.inl rfl), hrow.symm⟩
      · exact ⟨r, mem_put.mpr (.inr ⟨hr, hkey ▸ hrow⟩), hkey⟩
    · exact ⟨row, mem_put.mpr (.inl rfl), rfl⟩

theorem Keeps.keep (h : Keeps rank xs t) (row : α) :
    Keeps rank (xs ++ [row]) (t.keep rank row) := by
  unfold Keyed.keep
  split
  · next hnone =>
    refine h.put fun x hx hkey => ?_
    obtain ⟨r, hr, hxr⟩ := h.seen x hx
    exact absurd (mem_map.mpr ⟨r, hr, hxr.trans hkey⟩) (get_eq_none_iff.mp hnone)
  · next old hold =>
    obtain ⟨hmem, hkey⟩ := get_eq_some_iff.mp hold
    have hwins := (h.mem_iff old).mp hmem
    split_ifs with hlt
    · exact h.put fun x hx hx' => (hwins.best hx (hx'.trans hkey.symm)).trans_lt hlt
    refine ⟨fun r => ?_, forall_mem_append.mpr ⟨h.seen, forall_mem_singleton.mpr ⟨old, hmem, hkey⟩⟩⟩
    rw [h.mem_iff, wins_append_singleton]
    constructor
    · intro hr
      refine .inl ⟨hr, fun hrow => (not_lt.mp hlt).trans ?_⟩
      exact hr.best hwins.mem (hkey.trans hrow)
    · rintro (⟨hr, -⟩ | ⟨-, hall⟩)
      · exact hr
      · exact absurd (hall old hwins.mem hkey) hlt

theorem keeps_foldl (rank : α → R) (xs : List α) :
    Keeps rank xs (xs.foldl (Keyed.keep rank) (empty : Keyed key)) := by
  induction xs using List.reverseRecOn with
  | nil => exact ⟨by simp [Wins], nofun⟩
  | append_singleton xs row ih =>
    rw [foldl_concat]
    exact ih.keep row

end Keep

end Keyed

end ETradie.Kernel
