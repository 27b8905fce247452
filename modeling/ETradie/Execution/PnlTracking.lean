import ETradie.Execution.State
import ETradie.Kernel.Runs

namespace ETradie.Execution

open Kernel

variable (recorded : List (Int × ℚ))

def dayTotal (day : Int) : ℚ := ((recorded.filter (fun r => utcDay r.1 = day)).map Prod.snd).sum

def weekTotal (week : Int) : ℚ :=
  ((recorded.filter (fun r => weekIndex (utcDay r.1) = week)).map Prod.snd).sum

structure PnlSystem where
  users : Users
  table : PnlTable
  /-- Last reading of the wall clock. -/
  clock : Int
  recorded : List (Int × ℚ)
  /-- What was recorded for the periods of the user's record beyond its counters. -/
  unseen : PnlSnapshot
  /-- The last call was a `Refresh`. -/
  refreshed : Bool

def PnlSystem.init (start : Int) : PnlSystem where
  users := fun _ => none
  table := PnlTable.empty
  clock := start
  recorded := []
  unseen := ⟨0, 0⟩
  refreshed := false

inductive PnlAction where
  | refresh (view : BrokerView) (created now loaded : Int)
  | recordPnl (amount : ℚ) (now created : Int)
  | restart
deriving DecidableEq

section Steps

variable (userID : String)

def leftOut (created : Int) (us : UserState) : PnlSnapshot where
  dailyPnl := dayTotal recorded (utcDay created) - us.dailyPnl
  weeklyPnl := weekTotal recorded (weekIndex (utcDay created)) - us.weeklyPnl

def PnlSystem.unseenAt (s : PnlSystem) (created : Int) : PnlSnapshot :=
  match s.users userID with
  | some _ => s.unseen
  | none => leftOut s.recorded created (newUserState created)

def pnlStep (s : PnlSystem) : PnlAction → Option PnlSystem
  | .refresh view created now loaded =>
    if s.clock ≤ created ∧ created ≤ now ∧ now ≤ loaded then
      match refresh s.users s.table userID view created now loaded with
      | .error _ => none
      | .ok users =>
        let reload := boundaryChanged (getOrCreateUser s.users userID created) now
        some { s with
          users := users
          clock := if reload then loaded else now
          unseen := if reload then ⟨0, 0⟩ else s.unseenAt userID created
          refreshed := true }
    else none
  | .recordPnl amount now created =>
    if s.clock ≤ now ∧ now ≤ created then
      match recordPnl s.users s.table userID amount (.ok ()) now created with
      | .error _ => none
      | .ok (users, table) =>
        let recorded := (now, amount) :: s.recorded
        some
          { users := users, table := table
            clock := if (s.users userID).isSome then now else created
            recorded := recorded
            unseen :=
              match s.users userID with
              | some _ => s.unseen
              | none => leftOut recorded created
                  { newUserState created with dailyPnl := amount, weeklyPnl := amount }
            refreshed := false }
    else none
  | .restart => some { s with users := fun _ => none, refreshed := false }

def SeesTotals (s : PnlSystem) : Prop :=
  s.refreshed = true →
    ∃ us, s.users userID = some us ∧
      us.dailyPnl = dayTotal s.recorded (utcDay s.clock) ∧
      us.weeklyPnl = weekTotal s.recorded (weekIndex (utcDay s.clock)) ∧
      dailyLossPercent s.users userID =
        lossPercent us.account (dayTotal s.recorded (utcDay s.clock)) ∧
      weeklyDrawdownPercent s.users userID =
        lossPercent us.account (weekTotal s.recorded (weekIndex (utcDay s.clock)))

def ReloadsOrComplete (s : PnlSystem) : PnlAction → Prop
  | .refresh _ created now _ =>
    boundaryChanged (getOrCreateUser s.users userID created) now = true ∨
      s.unseenAt userID created = ⟨0, 0⟩
  | .recordPnl _ _ _ => True
  | .restart => True

end Steps

theorem dayTotal_cons (now : Int) (amount : ℚ) (recorded : List (Int × ℚ)) (day : Int) :
    dayTotal ((now, amount) :: recorded) day =
      dayTotal recorded day + (if utcDay now = day then amount else 0) := by
  by_cases h : utcDay now = day
  · simp [dayTotal, h, add_comm]
  · simp [dayTotal, h]

theorem weekTotal_cons (now : Int) (amount : ℚ) (recorded : List (Int × ℚ)) (week : Int) :
    weekTotal ((now, amount) :: recorded) week =
      weekTotal recorded week + (if weekIndex (utcDay now) = week then amount else 0) := by
  by_cases h : weekIndex (utcDay now) = week
  · simp [weekTotal, h, add_comm]
  · simp [weekTotal, h]

structure KeepsPeriods (recorded : List (Int × ℚ)) (clock : Int) (unseen : PnlSnapshot)
    (us : UserState) (day : Int) : Prop where
  started : day ≤ utcDay clock
  daily_key : us.dailyPeriodKey = civil day
  weekly_key : us.weeklyPeriodKey = isoWeek day
  daily_sum : utcDay clock = day → us.dailyPnl + unseen.dailyPnl = dayTotal recorded day
  weekly_sum : weekIndex (utcDay clock) = weekIndex day →
    us.weeklyPnl + unseen.weeklyPnl = weekTotal recorded (weekIndex day)

variable {now : Int} {us : UserState}

section Periods

variable {recorded} {clock : Int} {unseen : PnlSnapshot}
variable {day : Int}

theorem KeepsPeriods.later (h : KeepsPeriods recorded clock unseen us day) (hle : clock ≤ now) :
    KeepsPeriods recorded now unseen us day where
  started := le_trans h.started (utcDay_mono hle)
  daily_key := h.daily_key
  weekly_key := h.weekly_key
  daily_sum := by
    intro hnow
    have hday : utcDay clock = day := le_antisymm (hnow ▸ utcDay_mono hle) h.started
    exact h.daily_sum hday
  weekly_sum := by
    intro hnow
    have hwk : weekIndex (utcDay clock) = weekIndex day :=
      le_antisymm (hnow ▸ weekIndex_mono (utcDay_mono hle)) (weekIndex_mono h.started)
    exact h.weekly_sum hwk

theorem keepsPeriods_created (hdai : us.dailyPeriodKey = dailyPeriodKey now)
    (hwee : us.weeklyPeriodKey = weeklyPeriodKey now) :
    KeepsPeriods recorded now (leftOut recorded now us) us (utcDay now) where
  started := le_rfl
  daily_key := hdai
  weekly_key := hwee
  daily_sum := by
    intro _
    simp only [leftOut]
    ring
  weekly_sum := by
    intro _
    simp only [leftOut]
    ring

theorem KeepsPeriods.add (h : KeepsPeriods recorded now unseen us day) (amount : ℚ) :
    KeepsPeriods ((now, amount) :: recorded) now unseen
      { us with dailyPnl := us.dailyPnl + amount, weeklyPnl := us.weeklyPnl + amount } day where
  started := h.started
  daily_key := h.daily_key
  weekly_key := h.weekly_key
  daily_sum := by
    intro hnow
    rw [dayTotal_cons, if_pos hnow, ← h.daily_sum hnow]
    ring
  weekly_sum := by
    intro hnow
    rw [weekTotal_cons, if_pos hnow, ← h.weekly_sum hnow]
    ring

theorem KeepsPeriods.sums_of_unchanged (h : KeepsPeriods recorded now unseen us day)
    (hsm : boundaryChanged us now = false) :
    us.dailyPnl + unseen.dailyPnl = dayTotal recorded (utcDay now) ∧
      us.weeklyPnl + unseen.weeklyPnl = weekTotal recorded (weekIndex (utcDay now)) := by
  simp only [boundaryChanged, Bool.or_eq_false_iff, decide_eq_false_iff_not, not_not] at hsm
  have hday : utcDay now = day := civil_injective (hsm.1.trans h.daily_key)
  refine ⟨?_, ?_⟩
  · rw [hday]
    exact h.daily_sum hday
  · rw [hday]
    exact h.weekly_sum (by rw [hday])

end Periods

structure Tracked (userID : String) (s : PnlSystem) : Prop where
  daily_rows : ∀ day, (s.table.daily userID (civil day)).getD 0 = dayTotal s.recorded day
  weekly_rows : ∀ day,
    (s.table.weekly userID (isoWeek day)).getD 0 = weekTotal s.recorded (weekIndex day)
  record : ∀ us, s.users userID = some us → ∃ day, KeepsPeriods s.recorded s.clock s.unseen us day

variable {userID : String} {s t : PnlSystem} {created loaded : Int} {view : BrokerView}

section Invariant

variable {amount : ℚ}

theorem Tracked.working (h : Tracked userID s) (hle : s.clock ≤ created) :
    ∃ day, KeepsPeriods s.recorded created (s.unseenAt userID created)
      (getOrCreateUser s.users userID created) day := by
  cases hrec : s.users userID with
  | none =>
    refine ⟨utcDay created, ?_⟩
    simp only [PnlSystem.unseenAt, getOrCreateUser, hrec]
    exact keepsPeriods_created rfl rfl
  | some us =>
    obtain ⟨day, hkp⟩ := h.record us hrec
    refine ⟨day, ?_⟩
    simp only [PnlSystem.unseenAt, getOrCreateUser, hrec]
    exact hkp.later hle

theorem Tracked.loadCurrent_eq (h : Tracked userID s) (loaded : Int) :
    s.table.loadCurrent userID loaded =
      ⟨dayTotal s.recorded (utcDay loaded), weekTotal s.recorded (weekIndex (utcDay loaded))⟩ := by
  simp only [PnlTable.loadCurrent, dailyPeriodKey, weeklyPeriodKey, h.daily_rows, h.weekly_rows]

theorem Tracked.reloaded (h : Tracked userID s) (hle : now ≤ loaded)
    (hcha : boundaryChanged us now) :
    KeepsPeriods s.recorded loaded ⟨0, 0⟩
      (rollPeriods us s.table userID now loaded) (utcDay now) := by
  simp only [rollPeriods, if_pos hcha, h.loadCurrent_eq]
  refine ⟨utcDay_mono hle, rfl, rfl, ?_, ?_⟩
  · intro hday
    simp only [hday, add_zero]
  · intro hwk
    simp only [hwk, add_zero]

theorem pnlStep_refresh (h : pnlStep userID s (.refresh view created now loaded) = some t) :
    s.clock ≤ created ∧ created ≤ now ∧ now ≤ loaded ∧
      ∃ account,
        let us := getOrCreateUser s.users userID created
        t = { s with
          users := Function.update s.users userID
            (some (rollPeriods (adoptView us account view) s.table userID now loaded))
          clock := if boundaryChanged us now then loaded else now
          unseen := if boundaryChanged us now then ⟨0, 0⟩ else s.unseenAt userID created
          refreshed := true } := by
  simp only [pnlStep, refresh] at h
  by_cases htm : s.clock ≤ created ∧ created ≤ now ∧ now ≤ loaded
  swap
  · rw [if_neg htm] at h
    cases h
  rw [if_pos htm] at h
  obtain ⟨hcre, hnow, hloa⟩ := htm
  refine ⟨hcre, hnow, hloa, ?_⟩
  cases hacc : view.account with
  | error e =>
    rw [hacc] at h
    cases h
  | ok account =>
    rw [hacc] at h
    exact ⟨account, (Option.some.inj h).symm⟩

theorem tracked_refresh (hs : Tracked userID s)
    (h : pnlStep userID s (.refresh view created now loaded) = some t) : Tracked userID t := by
  obtain ⟨hcre, hnow, hloa, account, ht⟩ := pnlStep_refresh h
  obtain ⟨day, hkp⟩ := hs.working hcre
  have hkee := hkp.later hnow
  subst ht
  refine ⟨hs.daily_rows, hs.weekly_rows, ?_⟩
  intro _ hus
  simp only [Function.update_self, Option.some.injEq] at hus
  subst hus
  by_cases hcha : boundaryChanged (getOrCreateUser s.users userID created) now = true
  · refine ⟨utcDay now, ?_⟩
    simp only [if_pos hcha]
    exact hs.reloaded hloa hcha
  · refine ⟨day, ?_⟩
    have hsm : boundaryChanged
        (adoptView (getOrCreateUser s.users userID created) account view) now = false := by
      simpa using hcha
    simp only [if_neg hcha, rollPeriods_unchanged hsm]
    exact ⟨hkee.started, hkee.daily_key, hkee.weekly_key, hkee.daily_sum, hkee.weekly_sum⟩

theorem pnlStep_recordPnl (h : pnlStep userID s (.recordPnl amount now created) = some t) :
    s.clock ≤ now ∧
      t.table = s.table.recordPnl userID amount now ∧
      t.recorded = (now, amount) :: s.recorded ∧
      t.users = addPnl s.users userID amount created ∧
      ((∃ us, s.users userID = some us ∧ t.clock = now ∧ t.unseen = s.unseen) ∨
        (s.users userID = none ∧ t.clock = created ∧
          t.unseen = leftOut t.recorded created
            { newUserState created with dailyPnl := amount, weeklyPnl := amount })) := by
  simp only [pnlStep] at h
  by_cases htm : s.clock ≤ now ∧ now ≤ created
  swap
  · rw [if_neg htm] at h
    cases h
  rw [if_pos htm] at h
  have ht := (Option.some.inj h).symm
  subst ht
  refine ⟨htm.1, rfl, rfl, rfl, ?_⟩
  cases s.users userID with
  | none => exact Or.inr ⟨rfl, by simp, by simp⟩
  | some us => exact Or.inl ⟨us, rfl, by simp, by simp⟩

theorem tracked_recordPnl (hs : Tracked userID s)
    (h : pnlStep userID s (.recordPnl amount now created) = some t) : Tracked userID t := by
  obtain ⟨hnow, htbl, hrcd, huse, hcs⟩ := pnlStep_recordPnl h
  refine ⟨?_, ?_, ?_⟩
  · intro day
    rw [htbl, hrcd, daily_recordPnl, hs.daily_rows, dayTotal_cons]
  · intro day
    rw [htbl, hrcd, weekly_recordPnl, hs.weekly_rows, weekTotal_cons]
  · intro _ hus'
    simp only [huse, addPnl, Function.update_self, Option.some.injEq] at hus'
    subst hus'
    rcases hcs with ⟨us, hrec, hclk, huns⟩ | ⟨hrec, hclk, huns⟩
    · obtain ⟨day, hkp⟩ := hs.record us hrec
      refine ⟨day, ?_⟩
      simp only [getOrCreateUser, hrec]
      rw [hclk, huns, hrcd]
      exact (hkp.later hnow).add amount
    · refine ⟨utcDay created, ?_⟩
      simp only [getOrCreateUser, hrec, Option.getD_none]
      rw [hclk, huns]
      have hz : (newUserState created).dailyPnl = 0 ∧
          (newUserState created).weeklyPnl = 0 := ⟨rfl, rfl⟩
      rw [hz.1, hz.2, zero_add]
      exact keepsPeriods_created rfl rfl

theorem tracked_step (hs : Tracked userID s) (a : PnlAction) (h : pnlStep userID s a = some t) :
    Tracked userID t := by
  cases a with
  | refresh _ created now _ => exact tracked_refresh hs h
  | recordPnl _ now created => exact tracked_recordPnl hs h
  | restart =>
    simp only [pnlStep, Option.some.injEq] at h
    subst h
    refine ⟨hs.daily_rows, hs.weekly_rows, ?_⟩
    intro _ hus
    cases hus

theorem tracked_init (userID : String) (start : Int) : Tracked userID (PnlSystem.init start) := by
  refine ⟨fun _ => rfl, fun _ => rfl, ?_⟩
  intro _ hus
  cases hus

end Invariant

theorem seesTotals_refresh_iff (hs : Tracked userID s) (h : pnlStep userID s (.refresh view created now loaded) = some t) :
    SeesTotals userID t ↔ ReloadsOrComplete userID s (.refresh view created now loaded) := by
  obtain ⟨hcre, hnow, -, account, ht⟩ := pnlStep_refresh h
  obtain ⟨day, hkp⟩ := hs.working hcre
  subst ht
  simp only [SeesTotals, ReloadsOrComplete, dailyLossPercent, weeklyDrawdownPercent,
    Function.update_self, Option.some.injEq, exists_eq_left', true_implies]
  by_cases hcha : boundaryChanged (getOrCreateUser s.users userID created) now = true
  · simp [rollPeriods, hcha, hs.loadCurrent_eq]
  · have hsm : boundaryChanged (getOrCreateUser s.users userID created) now = false := by
      simpa using hcha
    obtain ⟨hdai, hwee⟩ := (hkp.later hnow).sums_of_unchanged hsm
    have hado : boundaryChanged
        (adoptView (getOrCreateUser s.users userID created) account view) now = false := hsm
    simp only [rollPeriods_unchanged hado, hsm, Bool.false_eq_true, if_false, false_or,
      ← hdai, ← hwee]
    constructor
    · rintro ⟨hd, hw, _⟩
      have hd' : (s.unseenAt userID created).dailyPnl = 0 := by simpa [adoptView] using hd
      have hw' : (s.unseenAt userID created).weeklyPnl = 0 := by simpa [adoptView] using hw
      calc s.unseenAt userID created
          = ⟨(s.unseenAt userID created).dailyPnl, (s.unseenAt userID created).weeklyPnl⟩ := rfl
        _ = ⟨0, 0⟩ := by rw [hd', hw']
    · intro huns
      simp [huns, adoptView]

theorem seesTotals_step_iff (hs : Tracked userID s) (a : PnlAction)
    (h : pnlStep userID s a = some t) : SeesTotals userID t ↔ ReloadsOrComplete userID s a := by
  cases a with
  | refresh _ created now _ => exact seesTotals_refresh_iff hs h
  | recordPnl _ now created =>
    have hfr : t.refreshed = false := by
      simp only [pnlStep] at h
      split at h
      · rw [← Option.some.inj h]
      · cases h
    simp [SeesTotals, ReloadsOrComplete, hfr]
  | restart =>
    simp only [pnlStep, Option.some.injEq] at h
    subst h
    simp [SeesTotals, ReloadsOrComplete]

theorem seesTotals_throughout_iff (userID : String) (start : Int) (calls : List PnlAction) :
    Throughout (pnlStep userID) (SeesTotals userID) (PnlSystem.init start) calls ↔
      Along (pnlStep userID) (ReloadsOrComplete userID) (PnlSystem.init start) calls := by
  have hin : SeesTotals userID (PnlSystem.init start) := by
    intro h
    cases h
  exact throughout_iff_along (pnlStep userID)
    (fun _ a _ hs h => tracked_step hs a h)
    (fun _ a _ hs _ h => seesTotals_step_iff hs a h)
    calls (tracked_init userID start) hin

def quietView : BrokerView where
  account := .ok ⟨10000⟩
  positions := .ok []
  pendingOrders := .ok []

def lossThenRestart : List PnlAction :=
  [.recordPnl (-300) 1773662400 1773662400,
   .restart,
   .refresh quietView 1773662460 1773662460 1773662460]

theorem restart_hides_daily_loss :
    (run (pnlStep "trader") (PnlSystem.init 1773662400) lossThenRestart).map
      (fun s => ((s.users "trader").map (fun us => us.dailyPnl),
        dailyLossPercent s.users "trader",
        dayTotal s.recorded (utcDay s.clock),
        lossPercent (some ⟨10000⟩) (dayTotal s.recorded (utcDay s.clock)))) =
      some (some 0, 0, -300, 3) := by
  decide +kernel

end ETradie.Execution
