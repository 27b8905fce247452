import ETradie.Execution.BookCache
import ETradie.Kernel.Keyed

namespace ETradie.Execution

open Kernel List Keyed

def cachedPositions (users : Users) (userID : String) : List BrokerEntry :=
  (cachedBook users userID).positions

def floatNear (a b : ℚ) : Bool :=
  let diff := a - b
  (if diff < 0 then -diff else diff) < 1e-6

variable (fold : String → String)

def positionsDiffer (ep bp : BrokerEntry) : Bool :=
  if floatNear ep.lotSize bp.lotSize = false then true
  else if floatNear ep.stopLoss bp.stopLoss = false then true
  else if floatNear ep.takeProfit bp.takeProfit = false then true
  else fold ep.direction ≠ fold bp.direction

abbrev ByTicket : Type := Keyed BrokerEntry.orderId

variable (positions : List BrokerEntry)

def brokerByTicket : ByTicket := positions.foldl Keyed.put Keyed.empty

def engineByTicket : ByTicket := (positions.filter (·.orderId ≠ "")).foldl Keyed.put Keyed.empty

structure MapOrders (positions : List BrokerEntry) where
  (adopting replacing : List BrokerEntry)
  adopts : adopting.Perm (brokerByTicket positions).rows
  replaces : replacing.Perm (brokerByTicket positions).rows

def adoptMissing (engine : ByTicket) (userID : String) (created : Int) (users : Users)
    (bp : BrokerEntry) : Users :=
  match engine.get bp.orderId with
  | some _ => users
  | none => adoptBrokerPosition users userID (some bp) created

def replaceMismatched (engine : ByTicket) (userID : String)
    (created : Int) (users : Users) (bp : BrokerEntry) : Users :=
  match engine.get bp.orderId with
  | none => users
  | some ep =>
    if positionsDiffer fold ep bp then replaceBrokerPosition users userID (some bp) created
    else users

def reconcilePositions (users : Users) (userID : String)
    {positions : List BrokerEntry} (orders : MapOrders positions) (created : Int) : Users :=
  let engine := engineByTicket (cachedPositions users userID)
  orders.replacing.foldl (replaceMismatched fold engine userID created)
    (orders.adopting.foldl (adoptMissing engine userID created) users)

variable {users : Users} {userID : String} {created : Int} {v : ByTicket} {p : BrokerEntry}
variable {rows : List BrokerEntry}

theorem replaceEntry_eq_putRows (h : (rows.map BrokerEntry.orderId).Nodup) :
    replaceEntry p rows = Keyed.putRows BrokerEntry.orderId p rows := by
  induction rows with
  | nil => rfl
  | cons q _ ih =>
    obtain ⟨hnm, hrs⟩ := nodup_cons.mp h
    have ih := ih hrs
    unfold Keyed.putRows amend at ih ⊢
    by_cases hq : q.orderId = p.orderId
    · have htail := amend_of_notMem (f := fun _ => p) (hq ▸ hnm)
      rw [amend] at htail
      simp [replaceEntry, hq, htail]
    · simp only [replaceEntry, hq, if_false, ih, map_cons, mem_cons, Ne.symm hq, false_or]
      split <;> rfl

theorem cachedPositions_edit (edit : List BrokerEntry → List BrokerEntry) :
    cachedPositions (editPositions users userID created edit) userID =
      edit (cachedPositions users userID) := by
  rw [cachedPositions, cachedBook_editPositions, Function.update_self]
  rfl

theorem namesPosition_some (hu : userID ≠ "") (hp : p.orderId ≠ "") :
    namesPosition userID (some p) = some p := by
  simp [namesPosition, hu, hp]

def Sets (users : Users) (userID : String) (v : ByTicket) (k : String)
    (f : Option BrokerEntry → Option BrokerEntry) : Prop :=
  ∃ v' : ByTicket, cachedPositions users userID = v'.rows ∧ v'.get k = f (v.get k) ∧
    ∀ k', k' ≠ k → v'.get k' = v.get k'

theorem sets_self (h : cachedPositions users userID = v.rows) (k : String) :
    Sets users userID v k id :=
  ⟨v, h, rfl, fun _ _ => rfl⟩

theorem sets_put (h : cachedPositions users userID = (v.put p).rows) :
    Sets users userID v p.orderId (fun _ => some p) :=
  ⟨v.put p, h, get_put_self v p, fun _ hk => get_put_ne v (Ne.symm hk)⟩

theorem sets_adopt (hu : userID ≠ "") (h : cachedPositions users userID = v.rows)
    (hp : p.orderId ≠ "") :
    Sets (adoptBrokerPosition users userID (some p) created) userID v p.orderId
      (·.or (some p)) := by
  have hvw : cachedPositions (adoptBrokerPosition users userID (some p) created) userID =
      adoptEntry p v.rows := by
    rw [adoptBrokerPosition, namesPosition_some hu hp, ← h]
    exact cachedPositions_edit _
  unfold adoptEntry at hvw
  cases hg : v.get p.orderId with
  | none =>
    have hn := get_eq_none_iff.mp hg
    have hrw : (v.put p).rows = v.rows ++ [p] := if_neg hn
    rw [if_neg (by simpa using hn), ← hrw] at hvw
    simpa [Sets, hg] using sets_put hvw
  | some q =>
    obtain ⟨hm, hk⟩ := get_eq_some_iff.mp hg
    rw [if_pos (any_eq_true.mpr ⟨q, hm, decide_eq_true hk⟩)] at hvw
    simpa [Sets, hg] using sets_self hvw p.orderId

theorem sets_replace (hu : userID ≠ "") (h : cachedPositions users userID = v.rows)
    (hp : p.orderId ≠ "") :
    Sets (replaceBrokerPosition users userID (some p) created) userID v p.orderId
      (fun _ => some p) := by
  refine sets_put ?_
  rw [replaceBrokerPosition, namesPosition_some hu hp]
  rw [cachedPositions_edit, h, replaceEntry_eq_putRows v.unique]
  rfl

theorem sets_loop {step : Users → BrokerEntry → Users}
    {f : BrokerEntry → Option BrokerEntry → Option BrokerEntry}
    (hst : ∀ users v bp, cachedPositions users userID = v.rows →
      Sets (step users bp) userID v bp.orderId (f bp))
    {bs : List BrokerEntry} (hks : (bs.map BrokerEntry.orderId).Nodup)
    (h : cachedPositions users userID = v.rows) :
    ∃ v' : ByTicket, cachedPositions (bs.foldl step users) userID = v'.rows ∧
      (∀ bp ∈ bs, v'.get bp.orderId = f bp (v.get bp.orderId)) ∧
      ∀ k, k ∉ bs.map BrokerEntry.orderId → v'.get k = v.get k := by
  induction bs generalizing users v with
  | nil => exact ⟨v, h, by simp, fun _ _ => rfl⟩
  | cons bp bs ih =>
    obtain ⟨hnm, hrs⟩ := nodup_cons.mp hks
    obtain ⟨v₁, hvw, hown, hoth⟩ := hst users v bp h
    obtain ⟨v', hvw', hm', hnot'⟩ := ih hrs hvw
    refine ⟨v', hvw', forall_mem_cons.mpr ⟨?_, ?_⟩, ?_⟩
    · rw [hnot' _ hnm, hown]
    · intro b hb
      rw [hm' b hb, hoth]
      rintro heq
      exact hnm (heq ▸ mem_map_of_mem hb)
    · intro k hk
      rw [map_cons, mem_cons, not_or] at hk
      rw [hnot' k hk.2, hoth k hk.1]

variable {positions}
variable {fold}

theorem get_engineByTicket (v : ByTicket) (k : String) :
    (engineByTicket v.rows).get k = if k = "" then none else v.get k := by
  have hsub : ((v.rows.filter (·.orderId ≠ "")).map BrokerEntry.orderId).Nodup :=
    v.unique.sublist (filter_sublist.map _)
  have hrw : (engineByTicket v.rows).rows = v.rows.filter (·.orderId ≠ "") := rows_foldl_put hsub
  refine Option.ext fun p => ?_
  rw [get_eq_some_iff, hrw, mem_filter]
  split
  next hk =>
    subst hk
    simp
  next hk =>
    rw [get_eq_some_iff, and_assoc]
    refine and_congr_right fun _ => and_iff_right_of_imp ?_
    rintro rfl
    exact decide_eq_true hk

def settled (fold : String → String) (bp : BrokerEntry) (old : Option BrokerEntry) :
    Option BrokerEntry :=
  if bp.orderId = "" then old
  else
    match old with
    | none => some bp
    | some ep => if positionsDiffer fold ep bp then some bp else some ep

variable {w : ByTicket}

theorem sets_adoptMissing (hu : userID ≠ "") (bp : BrokerEntry)
    (h : cachedPositions users userID = w.rows) :
    Sets (adoptMissing (engineByTicket v.rows) userID created users bp) userID w bp.orderId
      (fun old => if bp.orderId = "" then old else
        match v.get bp.orderId with | some _ => old | none => old.or (some bp)) := by
  unfold adoptMissing
  rw [get_engineByTicket]
  by_cases hna : bp.orderId = ""
  · have hgrd : adoptBrokerPosition users userID (some bp) created = users := by
      simp [adoptBrokerPosition, namesPosition, Option.filter, hna]
    simp only [hna, hgrd]
    exact sets_self h ""
  · simp only [hna]
    cases v.get bp.orderId with
    | some q => exact sets_self h _
    | none => exact sets_adopt hu h hna

theorem sets_replaceMismatched (hu : userID ≠ "") (bp : BrokerEntry)
    (h : cachedPositions users userID = w.rows) :
    Sets (replaceMismatched fold (engineByTicket v.rows) userID created users bp) userID w
      bp.orderId
      (fun old => if bp.orderId = "" then old else
        match v.get bp.orderId with
        | none => old
        | some ep => if positionsDiffer fold ep bp then some bp else old) := by
  unfold replaceMismatched
  rw [get_engineByTicket]
  by_cases hna : bp.orderId = ""
  · simp only [hna]
    exact sets_self h ""
  · simp only [hna, if_false]
    cases v.get bp.orderId with
    | none => exact sets_self h _
    | some ep =>
      dsimp only
      split
      next => exact sets_replace hu h hna
      next => exact sets_self h _

theorem exists_view_reconciled (fold : String → String) (created : Int) (hu : userID ≠ "")
    (h : cachedPositions users userID = v.rows) (orders : MapOrders positions) :
    ∃ v' : ByTicket,
      cachedPositions (reconcilePositions fold users userID orders created) userID = v'.rows ∧
        (∀ bp ∈ (brokerByTicket positions).rows,
          v'.get bp.orderId = settled fold bp (v.get bp.orderId)) ∧
        ∀ k, k ∉ (brokerByTicket positions).rows.map BrokerEntry.orderId → v'.get k = v.get k := by
  have hks : ∀ {bs : List BrokerEntry}, bs.Perm (brokerByTicket positions).rows →
      (bs.map BrokerEntry.orderId).Nodup := fun hpm =>
    (hpm.map _).nodup_iff.mpr (brokerByTicket positions).unique
  unfold reconcilePositions
  rw [h]
  obtain ⟨v₁, hvw₁, hm₁, hnot₁⟩ := sets_loop
    (fun _ _ bp hw => sets_adoptMissing hu bp hw) (hks orders.adopts) h
  obtain ⟨v₂, hvw₂, hm₂, hnot₂⟩ := sets_loop
    (fun _ _ bp hw => sets_replaceMismatched hu bp hw) (hks orders.replaces) hvw₁
  refine ⟨v₂, hvw₂, ?_, ?_⟩
  · intro bp hbp
    rw [hm₂ bp (orders.replaces.mem_iff.mpr hbp), hm₁ bp (orders.adopts.mem_iff.mpr hbp)]
    unfold settled
    split
    next => rfl
    next => cases v.get bp.orderId <;> simp
  · intro k _
    rw [hnot₂ k (by rwa [(orders.replaces.map _).mem_iff]),
      hnot₁ k (by rwa [(orders.adopts.map _).mem_iff])]

structure Agrees (fold : String → String) (p bp : BrokerEntry) : Prop where
  lot : |p.lotSize - bp.lotSize| < 1e-6
  stop : |p.stopLoss - bp.stopLoss| < 1e-6
  target : |p.takeProfit - bp.takeProfit| < 1e-6
  direction : fold p.direction = fold bp.direction

theorem floatNear_iff (a b : ℚ) : floatNear a b ↔ |a - b| < 1e-6 := by
  simp only [floatNear, decide_eq_true_eq]
  split
  next h => rw [abs_of_neg h]
  next h => rw [abs_of_nonneg (not_lt.mp h)]

variable {bp : BrokerEntry}

theorem positionsDiffer_eq_false_iff : positionsDiffer fold p bp = false ↔ Agrees fold p bp := by
  have hagr : Agrees fold p bp ↔ |p.lotSize - bp.lotSize| < 1e-6 ∧
      |p.stopLoss - bp.stopLoss| < 1e-6 ∧ |p.takeProfit - bp.takeProfit| < 1e-6 ∧
      fold p.direction = fold bp.direction :=
    ⟨fun h => ⟨h.1, h.2, h.3, h.4⟩, fun h => ⟨h.1, h.2.1, h.2.2.1, h.2.2.2⟩⟩
  rw [hagr, ← floatNear_iff, ← floatNear_iff, ← floatNear_iff]
  unfold positionsDiffer
  split_ifs <;> simp_all

theorem agrees_refl (p : BrokerEntry) : Agrees fold p p := by constructor <;> norm_num

theorem exists_agrees_settled (hna : bp.orderId ≠ "")
    (old : Option BrokerEntry) : ∃ p, settled fold bp old = some p ∧ Agrees fold p bp := by
  unfold settled
  rw [if_neg hna]
  cases old with
  | none => exact ⟨bp, rfl, agrees_refl bp⟩
  | some ep =>
    cases hdif : positionsDiffer fold ep bp with
    | true => exact ⟨bp, by simp [hdif], agrees_refl bp⟩
    | false => exact ⟨ep, by simp [hdif], positionsDiffer_eq_false_iff.mp hdif⟩

theorem foldl_eq_self {α β : Type} {f : β → α → β} {b : β} {l : List α} (h : ∀ a ∈ l, f b a = b) :
    l.foldl f b = b := by
  induction l with
  | nil => rfl
  | cons a l ih =>
    obtain ⟨hfst, hrs⟩ := forall_mem_cons.mp h
    rw [foldl_cons, hfst, ih hrs]

theorem reconcilePositions_eq_self (h : cachedPositions users userID = v.rows)
    (hagr : ∀ bp ∈ (brokerByTicket positions).rows, bp.orderId ≠ "" ∧
      ∃ p, v.get bp.orderId = some p ∧ Agrees fold p bp) (orders : MapOrders positions) :
    reconcilePositions fold users userID orders created = users := by
  have hkn : ∀ bp ∈ (brokerByTicket positions).rows,
      ∃ p, (engineByTicket v.rows).get bp.orderId = some p ∧ Agrees fold p bp := by
    intro bp hbp
    obtain ⟨hna, hp⟩ := hagr bp hbp
    rw [get_engineByTicket, if_neg hna]
    exact hp
  unfold reconcilePositions
  dsimp only
  rw [h, foldl_eq_self (l := orders.adopting), foldl_eq_self]
  · intro bp hbp
    obtain ⟨p, hg, hp⟩ := hkn bp (orders.replaces.mem_iff.mp hbp)
    simp [replaceMismatched, hg, positionsDiffer_eq_false_iff.mpr hp]
  · intro bp hbp
    obtain ⟨p, hg, -⟩ := hkn bp (orders.adopts.mem_iff.mp hbp)
    simp [adoptMissing, hg]

theorem reconcile_converges (fold : String → String) (users : Users) (userID : String)
    (positions : List BrokerEntry) (orders again : MapOrders positions) (created later : Int)
    (huser : userID ≠ "") (hview : ((cachedPositions users userID).map BrokerEntry.orderId).Nodup)
    (hbroker : (positions.map BrokerEntry.orderId).Nodup)
    (hnamed : ∀ bp ∈ positions, bp.orderId ≠ "") :
    let users' := reconcilePositions fold users userID orders created
    (∀ bp ∈ positions, ∃ p ∈ cachedPositions users' userID,
        p.orderId = bp.orderId ∧ Agrees fold p bp) ∧
      (∀ p, p.orderId ∉ positions.map BrokerEntry.orderId →
        (p ∈ cachedPositions users' userID ↔ p ∈ cachedPositions users userID)) ∧
      ((cachedPositions users' userID).map BrokerEntry.orderId).Nodup ∧
      reconcilePositions fold users' userID again later = users' := by
  have hrw : (brokerByTicket positions).rows = positions := rows_foldl_put hbroker
  obtain ⟨v', hview', hm, hnot⟩ :=
    exists_view_reconciled (v := ⟨cachedPositions users userID, hview⟩) fold created huser rfl
      orders
  rw [hrw] at hm hnot
  have hagr : ∀ bp ∈ positions, ∃ p, v'.get bp.orderId = some p ∧ Agrees fold p bp := by
    intro bp hbp
    rw [hm bp hbp]
    exact exists_agrees_settled (hnamed bp hbp) _
  refine ⟨?_, ?_, ?_, ?_⟩
  · intro bp hbp
    obtain ⟨p, hg, hp⟩ := hagr bp hbp
    obtain ⟨hin, hk⟩ := get_eq_some_iff.mp hg
    exact ⟨p, hview' ▸ hin, hk, hp⟩
  · intro p hp
    have hg := hnot p.orderId hp
    rw [hview']
    have hiff : ∀ w : ByTicket, p ∈ w.rows ↔ w.get p.orderId = some p := fun w => by
      simp [get_eq_some_iff]
    rw [hiff v', hg, ← hiff]
  · rw [hview']
    exact v'.unique
  · refine reconcilePositions_eq_self hview' ?_ again
    intro bp hbp
    rw [hrw] at hbp
    exact ⟨hnamed bp hbp, hagr bp hbp⟩

def eurusdLong : BrokerEntry where
  symbol := "EURUSD"
  orderId := "77"
  direction := "BUY"
  stopLoss := 1.09
  takeProfit := 1.12
  lotSize := 0.1

def gbpusdShort : BrokerEntry where
  symbol := "GBPUSD"
  orderId := "99"
  direction := "SELL"
  lotSize := 0.25

def tracking (positions : List BrokerEntry) : Users :=
  editPositions (fun _ => none) "u1" 0 (fun _ => positions)

def inListOrder (positions : List BrokerEntry) : MapOrders positions where
  adopting := (brokerByTicket positions).rows
  replacing := (brokerByTicket positions).rows
  adopts := .refl _
  replaces := .refl _

theorem reconcile_converges_two :
    cachedPositions
        (reconcilePositions id (tracking [eurusdLong]) "u1"
          (inListOrder [{ eurusdLong with stopLoss := 1.1 }, gbpusdShort]) 0) "u1" =
        [{ eurusdLong with stopLoss := 1.1 }, gbpusdShort] ∧
      ((cachedPositions
        (reconcilePositions id (tracking [eurusdLong]) "u1"
          (inListOrder [{ eurusdLong with stopLoss := 1.1 }, gbpusdShort]) 0) "u1").map
        BrokerEntry.orderId).Nodup :=
  ⟨by decide +kernel,
    (reconcile_converges id (tracking [eurusdLong]) "u1" _
      (inListOrder [{ eurusdLong with stopLoss := 1.1 }, gbpusdShort]) (inListOrder _) 0 0 (by decide)
      (by decide +kernel) (by decide) (by decide)).2.2.1⟩

structure Snapshot where
  snapshotTS : Int
  positions : List BrokerEntry
deriving DecidableEq

def detectGhostPositions (latest : Option Snapshot) (ghostMinAge now : Int) (users : Users)
    (userID : String) (brokerPositions : List BrokerEntry) : Users :=
  match latest with
  | none => users
  | some snap =>
    if now - snap.snapshotTS < ghostMinAge then users
    else
      snap.positions.foldl
        (fun users sp =>
          if sp.orderId = "" then users
          else if brokerPositions.any (·.orderId = sp.orderId) then users
          else (removeGhostPosition users userID sp.orderId).2) users

structure Cycle where
  brokerPositions : List BrokerEntry
  orders : MapOrders brokerPositions
  (created checkedAt writtenAt : Int)

structure CycleRun where
  users : Users
  latest : Option Snapshot := none
  clock : Int

def CycleRun.step (fold : String → String) (ghostMinAge : Int) (userID : String) (s : CycleRun)
    (c : Cycle) : Option CycleRun :=
  if s.clock ≤ c.checkedAt ∧ c.checkedAt ≤ c.writtenAt then
    let reconciled := reconcilePositions fold s.users userID c.orders c.created
    let users := detectGhostPositions s.latest ghostMinAge c.checkedAt reconciled userID
      c.brokerPositions
    some
      { users := users, latest := some ⟨c.writtenAt, cachedPositions users userID⟩
        clock := c.writtenAt }
  else none

def Lists (positions : List BrokerEntry) (ticket : String) : Prop :=
  ticket ∈ positions.map BrokerEntry.orderId

def CycleRun.Aged (ghostMinAge : Int) (ticket : String) (s : CycleRun) (c : Cycle) : Prop :=
  ∃ snap, s.latest = some snap ∧ ghostMinAge ≤ c.checkedAt - snap.snapshotTS ∧
    Lists snap.positions ticket

section Ghosts

variable {ticket : String}
variable {ghostMinAge : Int} {s t : CycleRun} {c : Cycle}

theorem removeEntry_eq_filter (h : (rows.map BrokerEntry.orderId).Nodup)
    (k : String) : removeEntry k rows = rows.filter (·.orderId ≠ k) := by
  unfold removeEntry
  induction rows with
  | nil => rfl
  | cons q rest ih =>
    obtain ⟨hnm, hrs⟩ := nodup_cons.mp h
    by_cases hq : q.orderId = k
    · have hke : rest.filter (·.orderId ≠ k) = rest := by
        rw [filter_eq_self]
        intro p hp
        exact decide_eq_true fun hpk => hnm (hq.trans hpk.symm ▸ mem_map_of_mem hp)
      rw [eraseP_cons_of_pos (by simpa using hq), filter_cons_of_neg (by simpa using hq), hke]
    · rw [eraseP_cons_of_neg (by simpa using hq), filter_cons_of_pos (by simpa using hq), ih hrs]

theorem cachedPositions_removeGhost (hu : userID ≠ "") (h : cachedPositions users userID = v.rows)
    {k : String} (hk : k ≠ "") :
    cachedPositions (removeGhostPosition users userID k).2 userID = (v.delete k).rows := by
  rw [cachedPositions, cachedBook_removeGhostPosition, if_neg (by simp [hu, hk]),
    Function.update_self]
  change removeEntry k (cachedPositions users userID) = _
  rw [h, removeEntry_eq_filter v.unique]
  rfl

theorem exists_view_removing (hu : userID ≠ "") (h : cachedPositions users userID = v.rows)
    (brokerPositions snapped : List BrokerEntry) :
    ∃ v' : ByTicket,
      cachedPositions
        (snapped.foldl
          (fun users sp =>
            if sp.orderId = "" then users
            else if brokerPositions.any (·.orderId = sp.orderId) then users
            else (removeGhostPosition users userID sp.orderId).2) users) userID = v'.rows ∧
        ∀ p, p ∈ v'.rows ↔ p ∈ v.rows ∧
          (p.orderId = "" ∨ Lists brokerPositions p.orderId ∨ ¬ Lists snapped p.orderId) := by
  induction snapped generalizing users v with
  | nil => exact ⟨v, h, fun p => by simp [Lists]⟩
  | cons sp snapped ih =>
    have hlst : brokerPositions.any (·.orderId = sp.orderId) ↔
        Lists brokerPositions sp.orderId := by
      simp [Lists]
    rw [foldl_cons]
    by_cases hna : sp.orderId = ""
    · rw [if_pos hna]
      obtain ⟨v', hvw, hm⟩ := ih h
      refine ⟨v', hvw, fun p => ?_⟩
      rw [hm]
      simp only [Lists, map_cons, mem_cons, hna]
      tauto
    · rw [if_neg hna]
      by_cases hbrk : Lists brokerPositions sp.orderId
      · rw [if_pos (hlst.mpr hbrk)]
        obtain ⟨v', hvw, hm⟩ := ih h
        refine ⟨v', hvw, fun p => ?_⟩
        rw [hm]
        by_cases hp : p.orderId = sp.orderId
        · simp [hp, hbrk]
        · simp [Lists, hp]
      · rw [if_neg (mt hlst.mp hbrk)]
        obtain ⟨v', hvw, hm⟩ := ih (cachedPositions_removeGhost hu h hna)
        refine ⟨v', hvw, fun p => ?_⟩
        rw [hm, mem_delete]
        by_cases hp : p.orderId = sp.orderId
        · have hsp : Lists (sp :: snapped) sp.orderId := mem_cons_self
          simp [hp, hna, hbrk, hsp]
        · simp [Lists, hp]

theorem exists_view_detected (hu : userID ≠ "") (h : cachedPositions users userID = v.rows)
    (s : CycleRun) (c : Cycle) :
    ∃ v' : ByTicket,
      cachedPositions (detectGhostPositions s.latest ghostMinAge c.checkedAt users userID
          c.brokerPositions) userID = v'.rows ∧
        ∀ p, p ∈ v'.rows ↔ p ∈ v.rows ∧ (p.orderId = "" ∨ Lists c.brokerPositions p.orderId ∨
          ¬ s.Aged ghostMinAge p.orderId c) := by
  unfold detectGhostPositions
  cases hlst : s.latest with
  | none => exact ⟨v, h, fun p => by simp [CycleRun.Aged, hlst]⟩
  | some snap =>
    dsimp only
    split
    next hyou =>
      refine ⟨v, h, fun p => ?_⟩
      simp [CycleRun.Aged, hlst, not_le.mpr hyou]
    next ho =>
      obtain ⟨v', hvw, hm⟩ := exists_view_removing hu h c.brokerPositions snap.positions
      refine ⟨v', hvw, fun p => ?_⟩
      simp [hm, CycleRun.Aged, hlst, not_lt.mp ho]

def CycleRun.Unique (userID : String) (s : CycleRun) : Prop :=
  ((cachedPositions s.users userID).map BrokerEntry.orderId).Nodup

def CycleRun.Tracks (userID ticket : String) (s : CycleRun) : Prop :=
  Lists (cachedPositions s.users userID) ticket

theorem lists_rows_iff (v : ByTicket) (k : String) : Lists v.rows k ↔ v.get k ≠ none := by
  rw [Ne, get_eq_none_iff, not_not]
  rfl

theorem lists_reconciled {v' : ByTicket}
    (hm : ∀ bp ∈ (brokerByTicket positions).rows,
      v'.get bp.orderId = settled fold bp (v.get bp.orderId))
    (hnot : ∀ k, k ∉ (brokerByTicket positions).rows.map BrokerEntry.orderId →
      v'.get k = v.get k) (h : Lists v.rows ticket) : Lists v'.rows ticket := by
  rw [lists_rows_iff] at h ⊢
  by_cases hlst : ticket ∈ (brokerByTicket positions).rows.map BrokerEntry.orderId
  · obtain ⟨bp, hbp, rfl⟩ := mem_map.mp hlst
    obtain ⟨ep, hep⟩ := Option.ne_none_iff_exists'.mp h
    rw [hm bp hbp, hep, settled]
    split_ifs <;> simp
  · rw [hnot ticket hlst]
    exact h

theorem mem_of_mem_brokerByTicket (h : p ∈ (brokerByTicket positions).rows) : p ∈ positions := by
  have hput : ∀ (l : List BrokerEntry) (v : ByTicket), p ∈ (l.foldl Keyed.put v).rows →
      p ∈ v.rows ∨ p ∈ l := by
    intro l
    induction l with
    | nil => exact fun v hp => .inl hp
    | cons q l ih =>
      intro v hp
      rcases ih _ hp with hq | hl
      · rcases mem_put.mp hq with rfl | ⟨hv, -⟩
        · exact .inr mem_cons_self
        · exact .inl hv
      · exact .inr (mem_cons_of_mem q hl)
  exact (hput positions Keyed.empty h).resolve_left (by simp)

theorem exists_view_step (hu : userID ≠ "") (hticket : ticket ≠ "") (hs : s.Unique userID)
    (h : s.step fold ghostMinAge userID c = some t) :
    ∃ v' : ByTicket, cachedPositions t.users userID = v'.rows ∧
      (s.Tracks userID ticket → (Lists v'.rows ticket ↔
        Lists c.brokerPositions ticket ∨ ¬ s.Aged ghostMinAge ticket c)) ∧
      (¬ Lists c.brokerPositions ticket →
        (Lists v'.rows ticket ↔ s.Tracks userID ticket ∧ ¬ s.Aged ghostMinAge ticket c)) := by
  unfold CycleRun.step at h
  split at h
  next =>
    cases h
    obtain ⟨v₁, hvw₁, hm₁, hnot₁⟩ :=
      exists_view_reconciled (v := ⟨_, hs⟩) fold c.created hu rfl c.orders
    obtain ⟨v', hvw', hm'⟩ := exists_view_detected hu hvw₁ s c
    have hkept : Lists v'.rows ticket ↔ Lists v₁.rows ticket ∧
        (Lists c.brokerPositions ticket ∨ ¬ s.Aged ghostMinAge ticket c) := by
      constructor
      · intro hlisted
        obtain ⟨q, hq, rfl⟩ := mem_map.mp hlisted
        obtain ⟨hq, hkeep⟩ := (hm' q).mp hq
        exact ⟨mem_map_of_mem hq, hkeep.resolve_left hticket⟩
      · rintro ⟨hlisted, hkeep⟩
        obtain ⟨q, hq, rfl⟩ := mem_map.mp hlisted
        exact mem_map_of_mem ((hm' q).mpr ⟨hq, .inr hkeep⟩)
    refine ⟨v', hvw', fun htracks => ?_, fun hmissing => ?_⟩
    · simp [hkept, lists_reconciled hm₁ hnot₁ htracks]
    · have hother : ticket ∉ (brokerByTicket c.brokerPositions).rows.map BrokerEntry.orderId := by
        intro hmem
        obtain ⟨q, hq, rfl⟩ := mem_map.mp hmem
        exact hmissing (mem_map_of_mem (mem_of_mem_brokerByTicket hq))
      have hsame : Lists v₁.rows ticket ↔ s.Tracks userID ticket := by
        rw [lists_rows_iff, hnot₁ ticket hother, ← lists_rows_iff]
        rfl
      simp [hkept, hsame, hmissing]
  next => cases h

theorem unique_step (hu : userID ≠ "") (hs : s.Unique userID)
    (h : s.step fold ghostMinAge userID c = some t) : t.Unique userID := by
  obtain ⟨v', hvw, -⟩ := exists_view_step hu (by decide : "77" ≠ "") hs h
  rw [CycleRun.Unique, hvw]
  exact v'.unique

/-- A position in the view is removed only by a cycle whose snapshot is old enough and whose reply
does not list it.  One that no reply lists is in the view at the end iff there is no such cycle. -/
theorem tracked_throughout_iff (fold : String → String) (ghostMinAge : Int)
    (userID ticket : String) (cycles : List Cycle) (s : CycleRun) (huser : userID ≠ "")
    (hticket : ticket ≠ "") (hunique : s.Unique userID) (htracks : s.Tracks userID ticket) :
    (Throughout (CycleRun.step fold ghostMinAge userID) (CycleRun.Tracks userID ticket) s cycles ↔
      Along (CycleRun.step fold ghostMinAge userID)
        (fun s c => Lists c.brokerPositions ticket ∨ ¬ s.Aged ghostMinAge ticket c) s cycles) ∧
      ∀ t, run (CycleRun.step fold ghostMinAge userID) s cycles = some t →
        (∀ c ∈ cycles, ¬ Lists c.brokerPositions ticket) →
        (t.Tracks userID ticket ↔ Along (CycleRun.step fold ghostMinAge userID)
          (fun s c => ¬ s.Aged ghostMinAge ticket c) s cycles) := by
  constructor
  · refine throughout_iff_along _ (fun _ _ _ hs h => unique_step huser hs h) ?_ cycles hunique
      htracks
    intro s c t hs hp h
    obtain ⟨v', hvw, hiff, -⟩ := exists_view_step huser hticket hs h
    rw [CycleRun.Tracks, hvw]
    exact hiff hp
  · intro t hrun hmissing
    rw [final_iff_along (CycleRun.step fold ghostMinAge userID) (I := CycleRun.Unique userID)
      (P := CycleRun.Tracks userID ticket) (q := fun c => ¬ Lists c.brokerPositions ticket)
      (C := fun s c => ¬ s.Aged ghostMinAge ticket c) (fun _ _ _ hs h => unique_step huser hs h)
      ?_ hunique hmissing hrun]
    · exact and_iff_right htracks
    · intro s c t hs hq h
      obtain ⟨v', hvw, -, hiff⟩ := exists_view_step huser hticket hs h
      rw [CycleRun.Tracks, hvw]
      exact hiff hq

end Ghosts

def quietCycle (now : Int) : Cycle where
  brokerPositions := []
  orders := inListOrder []
  created := 0
  checkedAt := now
  writtenAt := now

theorem ghost_survives_cycles :
    (run (CycleRun.step id 300 "u1") { users := tracking [eurusdLong], clock := 0 }
        ([0, 60, 120, 180, 240, 300, 360, 420].map quietCycle)).map
        (fun s => cachedPositions s.users "u1") = some [eurusdLong] := by
  decide +kernel

/-- The second cycle comes when the snapshot of the first one is 300 seconds old. -/
theorem ghost_dropped_after_gap :
    (run (CycleRun.step id 300 "u1") { users := tracking [eurusdLong], clock := 0 }
        ([0, 300].map quietCycle)).map (fun s => cachedPositions s.users "u1") = some [] ∧
      ∀ t, run (CycleRun.step id 300 "u1") { users := tracking [eurusdLong], clock := 0 }
          ([0, 300].map quietCycle) = some t →
        (t.Tracks "u1" "77" ↔ Along (CycleRun.step id 300 "u1") (fun s c => ¬ s.Aged 300 "77" c)
          { users := tracking [eurusdLong], clock := 0 } ([0, 300].map quietCycle)) :=
  ⟨by decide +kernel, fun t hrun =>
    (tracked_throughout_iff id 300 "u1" "77" _ _ (by decide) (by decide)
      (by unfold CycleRun.Unique; decide +kernel)
      (by unfold CycleRun.Tracks Lists; decide +kernel)).2 t hrun (by simp [quietCycle, Lists])⟩

end ETradie.Execution
