import ETradie.Execution.Models
import ETradie.Kernel.Calendar

namespace ETradie.Execution

open Kernel

def dailyPeriodKey (now : Int) : Date := civil (utcDay now)

def weeklyPeriodKey (now : Int) : IsoWeek := isoWeek (utcDay now)

structure PnlTable where
  daily : String → Date → Option ℚ
  weekly : String → IsoWeek → Option ℚ

def PnlTable.empty : PnlTable where
  daily := fun _ _ => none
  weekly := fun _ _ => none

def upsertPnl {K : Type} [DecidableEq K] (rows : String → K → Option ℚ) (userID : String) (key : K)
    (amount : ℚ) : String → K → Option ℚ :=
  fun u k => if u = userID ∧ k = key then some ((rows u k).getD 0 + amount) else rows u k

variable (t : PnlTable) (text : CaseMap)

def PnlTable.recordPnl (userID : String) (amount : ℚ) (now : Int) : PnlTable where
  daily := upsertPnl t.daily userID (dailyPeriodKey now) amount
  weekly := upsertPnl t.weekly userID (weeklyPeriodKey now) amount

structure PnlSnapshot where
  (dailyPnl weeklyPnl : ℚ)
deriving DecidableEq

def PnlTable.loadCurrent (userID : String) (now : Int) : PnlSnapshot where
  dailyPnl := (t.daily userID (dailyPeriodKey now)).getD 0
  weeklyPnl := (t.weekly userID (weeklyPeriodKey now)).getD 0

structure UserState where
  (positions pendingOrders : List BrokerEntry := [])
  account : Option AccountInfo := none
  (dailyPnl weeklyPnl : ℚ := 0)
  dailyPeriodKey : Date
  weeklyPeriodKey : IsoWeek
deriving DecidableEq

abbrev Users := String → Option UserState

def newUserState (now : Int) : UserState where
  dailyPeriodKey := dailyPeriodKey now
  weeklyPeriodKey := weeklyPeriodKey now

variable (users : Users) (userID : String) (amount : ℚ)

def getOrCreateUser (now : Int) : UserState := (users userID).getD (newUserState now)

structure BrokerView where
  account : Except String AccountInfo
  (positions pendingOrders : Except String (List BrokerEntry))
deriving DecidableEq

def listOrNil (r : Except String (List BrokerEntry)) : List BrokerEntry :=
  match r with
  | .ok entries => entries
  | .error _ => []

variable (us : UserState) (account : AccountInfo) (now : Int)

def adoptView (view : BrokerView) : UserState :=
  { us with
    account := some account, positions := listOrNil view.positions
    pendingOrders := listOrNil view.pendingOrders }

def boundaryChanged : Bool :=
  dailyPeriodKey now ≠ us.dailyPeriodKey || weeklyPeriodKey now ≠ us.weeklyPeriodKey

def rollPeriods (table : PnlTable) (userID : String) (now loaded : Int) :
    UserState :=
  if boundaryChanged us now then
    { us with
      dailyPeriodKey := dailyPeriodKey now, weeklyPeriodKey := weeklyPeriodKey now
      dailyPnl := (table.loadCurrent userID loaded).dailyPnl
      weeklyPnl := (table.loadCurrent userID loaded).weeklyPnl }
  else us

@[simp] theorem boundaryChanged_adoptView
    (view : BrokerView) (now : Int) :
    boundaryChanged (adoptView us account view) now = boundaryChanged us now := by
  rfl

theorem rollPeriods_unchanged {us : UserState} {now : Int} (h : boundaryChanged us now = false)
    (table : PnlTable) (userID : String) (loaded : Int) :
    rollPeriods us table userID now loaded = us := by
  rw [rollPeriods, h]
  rfl

def refresh (table : PnlTable) (userID : String) (view : BrokerView)
    (created now loaded : Int) : Except String Users :=
  match view.account with
  | .error e => .error e
  | .ok account =>
    let us := adoptView (getOrCreateUser users userID created) account view
    .ok (Function.update users userID (some (rollPeriods us table userID now loaded)))

def addPnl (created : Int) : Users :=
  let us := getOrCreateUser users userID created
  Function.update users userID
    (some { us with
      dailyPnl := us.dailyPnl + amount
      weeklyPnl := us.weeklyPnl + amount })

def recordPnl (users : Users) (table : PnlTable) (userID : String) (amount : ℚ)
    (tx : Except String Unit) (now created : Int) : Except String (Users × PnlTable) :=
  match tx with
  | .error e => .error e
  | .ok () => .ok (addPnl users userID amount created, table.recordPnl userID amount now)

variable (symbol : String)

section Reads

def openPositionCount : Nat :=
  match users userID with
  | none => 0
  | some us => us.positions.length

def hasPositionOnPair : Bool :=
  match users userID with
  | none => false
  | some us =>
    us.positions.any (fun p => text.upper p.symbol = text.upper symbol) ||
      us.pendingOrders.any (fun o => text.upper o.symbol = text.upper symbol)

def correlatedPairGroups : List (List String) :=
  [["EURUSD", "GBPUSD", "AUDUSD", "NZDUSD"],
   ["USDJPY", "USDCHF", "USDCAD"],
   ["EURJPY", "GBPJPY", "AUDJPY", "NZDJPY"],
   ["EURGBP", "EURAUD", "EURNZD", "EURCHF", "EURCAD"],
   ["XAUUSD", "XAGUSD"]]

def correlatedGroupsFor : List Nat :=
  (correlatedPairGroups.zipIdx.filter
    (fun g => g.1.any (fun pair => text.upper pair = text.upper symbol))).map Prod.snd

def areCorrelated (a b : String) : Bool :=
  (correlatedGroupsFor text a).any (fun ga => (correlatedGroupsFor text b).contains ga)

def hasCorrelatedExposure : Bool :=
  match users userID with
  | none => false
  | some us =>
    let exposed := fun (e : BrokerEntry) =>
      let other := text.upper e.symbol
      decide (other ≠ text.upper symbol) && areCorrelated text (text.upper symbol) other
    us.positions.any exposed || us.pendingOrders.any exposed

def lossPercent (account : Option AccountInfo) (pnl : ℚ) : ℚ :=
  match account with
  | none => 0
  | some info =>
    if info.balance ≤ 0 then 0
    else if 0 ≤ pnl then 0
    else -pnl / info.balance * 100

def dailyLossPercent : ℚ :=
  match users userID with
  | none => 0
  | some us => lossPercent us.account us.dailyPnl

def weeklyDrawdownPercent : ℚ :=
  match users userID with
  | none => 0
  | some us => lossPercent us.account us.weeklyPnl

end Reads

section Reading

theorem daily_recordPnl (day : Int) :
    ((t.recordPnl userID amount now).daily userID (civil day)).getD 0 =
      (t.daily userID (civil day)).getD 0 + (if utcDay now = day then amount else 0) := by
  unfold PnlTable.recordPnl upsertPnl dailyPeriodKey
  by_cases hday : utcDay now = day
  · simp [hday]
  · have hk : civil day ≠ civil (utcDay now) := by
      intro h
      exact hday (civil_injective h).symm
    simp [hday, hk]

theorem weekly_recordPnl (day : Int) :
    ((t.recordPnl userID amount now).weekly userID (isoWeek day)).getD 0 =
      (t.weekly userID (isoWeek day)).getD 0 +
        (if weekIndex (utcDay now) = weekIndex day then amount else 0) := by
  unfold PnlTable.recordPnl upsertPnl weeklyPeriodKey
  by_cases hwk : weekIndex (utcDay now) = weekIndex day
  · have hk : isoWeek day = isoWeek (utcDay now) := (isoWeek_eq_iff _ _).mpr hwk.symm
    simp [hwk, hk]
  · have hk : isoWeek day ≠ isoWeek (utcDay now) := by
      intro h
      exact hwk ((isoWeek_eq_iff _ _).mp h).symm
    simp [hwk, hk]

end Reading

end ETradie.Execution
