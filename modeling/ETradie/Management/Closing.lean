import ETradie.Kernel.Calendar
import ETradie.Management.StopLoss

namespace ETradie.Management

open Kernel Account

section Deals

structure HistoryDeal where
  (ticket positionId symbol : String)
  (volume profit : ℚ)
  (commission swap : ℚ := 0)
deriving DecidableEq

def HistoryDeal.total (d : HistoryDeal) : ℚ := d.profit + d.commission + d.swap

def HistoryDeal.concerns (brokerOrderId symbol : String) (d : HistoryDeal) : Bool :=
  (d.positionId = brokerOrderId || d.ticket = brokerOrderId) && (d.symbol = "" || d.symbol = symbol)

abbrev HistoryAnswer := Option (List HistoryDeal)

def closedDeals (brokerOrderId symbol : String) (answer : HistoryAnswer) : List HistoryDeal :=
  if brokerOrderId = "" then []
  else ((answer.getD []).reverse).filter (HistoryDeal.concerns brokerOrderId symbol)

def fetchClosedDealProfit (brokerOrderId symbol : String) (answer : HistoryAnswer) : Option ℚ :=
  (closedDeals brokerOrderId symbol answer).head?.map HistoryDeal.total

def fetchLegProfit (brokerOrderId symbol : String) (closedVolume : ℚ) (answer : HistoryAnswer) :
    Option ℚ :=
  let deals := closedDeals brokerOrderId symbol answer
  let sameVolume := deals.find? (fun d =>
    closedVolume > 0 && |d.volume - closedVolume| ≤ lotEpsilon)
  (sameVolume <|> deals.head?).map HistoryDeal.total

def pollClosedDealProfit (fetch : HistoryAnswer → Option ℚ) (answers : List HistoryAnswer) :
    Option ℚ :=
  (answers.take 5).findSome? fetch

end Deals

structure Closure where
  (exitPrice pnl rMultiple : ℚ)
  outcome : TradeOutcome
deriving DecidableEq

def rMultipleAt (price : ℚ) (t : Trade) : ℚ :=
  if t.slDistanceFromEntry > 0 then t.progress price / t.slDistanceFromEntry else 0

def riskKnown (t : Trade) : Bool := t.slDistanceFromEntry > 0 && t.riskAmount > 0

def estimatedPnL (price : ℚ) (t : Trade) : ℚ :=
  if riskKnown t then rMultipleAt price t * t.riskAmount else 0

def stopClosure (answers : List HistoryAnswer) (closePrice : ℚ) (t : Trade) : Closure :=
  let profit := pollClosedDealProfit (fetchClosedDealProfit t.brokerOrderId t.symbol) answers
  let pnl := profit.getD (estimatedPnL closePrice t)
  { exitPrice := closePrice, pnl := pnl, rMultiple := rMultipleAt closePrice t
    outcome := if pnl ≥ 0 then .breakeven else .loss }

def externalClosure (answer : HistoryAnswer) (t : Trade) : Closure :=
  let profit := fetchClosedDealProfit t.brokerOrderId t.symbol answer
  let pnl := profit.getD (estimatedPnL t.currentPrice t)
  { exitPrice := t.currentPrice, pnl := pnl, rMultiple := rMultipleAt t.currentPrice t
    outcome := closeOutcome pnl }

def forcedClosure (price : ℚ) (t : Trade) : Closure where
  exitPrice := price
  pnl := estimatedPnL price t
  rMultiple := if riskKnown t then rMultipleAt price t else 0
  outcome := closeOutcome (estimatedPnL price t)

def cotClosure (price : ℚ) (t : Trade) : Closure := { forcedClosure price t with outcome := .loss }

def Closure.record (c : Closure) (t : Trade) : Trade :=
  { t with status := .closed, realizedPnL := t.realizedPnL + c.pnl }

def finalize (c : Closure) (writeOk : Bool) (a : Account) : Account :=
  ({ a with trade := c.record a.trade }).write writeOk
    (closeRow c.exitPrice c.pnl c.rMultiple c.outcome a.trade.slMoves a.trade.partials)

def noted (price : ℚ) (a : Account) : Account :=
  { a with trade := { a.trade with currentPrice := price } }

structure CloseDraw where
  accepted : Bool
  answers : List HistoryAnswer := []
  writeOk : Bool := true
deriving DecidableEq

def handleSLHit (draw : CloseDraw) (closePrice : ℚ) (a : Account) : Account :=
  if draw.accepted then finalize (stopClosure draw.answers closePrice a.trade) draw.writeOk a
  else a

def externalClose (answer : HistoryAnswer) (writeOk : Bool) (a : Account) : Account :=
  finalize (externalClosure answer a.trade) writeOk a

def utcMinute (now : Int) : Int := now % 3600 / 60

def eodDue (now : Int) (heldFor price : ℚ) (t : Trade) : Bool :=
  if t.status = .closed then false
  else if t.tradingStyle = styleIntraday then
    utcHour now > 16 || (utcHour now = 16 && utcMinute now ≥ 30)
  else if t.tradingStyle = styleScalping then heldFor ≥ 120 * 60
  else if t.tradingStyle = styleSwing then
    weekday (utcDay now) = 4 && utcHour now ≥ 16 && t.slDistanceFromEntry > 0 &&
      rMultipleAt price t < 1
  else false

def runEodCheck (now : Int) (heldFor : ℚ) (draw : CloseDraw) (price : ℚ) (a : Account) : Account :=
  if eodDue now heldFor price a.trade && draw.accepted then
    finalize (forcedClosure price a.trade) draw.writeOk (noted price a)
  else a

def structuralDue (breakDirection : String) (t : Trade) : Bool :=
  t.status ≠ .closed && against t breakDirection

def evaluateStructuralBreak (breakDirection : String) (draw : CloseDraw) (price : ℚ)
    (a : Account) : Account :=
  if structuralDue breakDirection a.trade && draw.accepted then
    finalize (forcedClosure price a.trade) draw.writeOk (noted price a)
  else a

def handleCotFlip (cotDirection : String) (stop : StopDraw) (draw : CloseDraw) (price : ℚ)
    (a : Account) : Account :=
  match evaluateCotFlip cotDirection price a.trade with
  | .ignore => a
  | .close => if draw.accepted then finalize (cotClosure price a.trade) draw.writeOk a else a
  | .tighten move => executeMove (some move) stop a

inductive ForcedClose where
  | endOfDay (now : Int) (heldFor : ℚ)
  | structuralBreak (breakDirection : String)
  | cotFlip (cotDirection : String) (stop : StopDraw)
deriving DecidableEq

namespace ForcedClose

def run (path : ForcedClose) (draw : CloseDraw) (price : ℚ) (a : Account) : Account :=
  match path with
  | .endOfDay now heldFor => runEodCheck now heldFor draw price a
  | .structuralBreak breakDirection => evaluateStructuralBreak breakDirection draw price a
  | .cotFlip cotDirection stop => handleCotFlip cotDirection stop draw price a

def closure (path : ForcedClose) (draw : CloseDraw) (price : ℚ) (t : Trade) : Option Closure :=
  match path with
  | .endOfDay now heldFor =>
    if eodDue now heldFor price t && draw.accepted then some (forcedClosure price t) else none
  | .structuralBreak breakDirection =>
    if structuralDue breakDirection t && draw.accepted then some (forcedClosure price t)
    else none
  | .cotFlip cotDirection _ =>
    if evaluateCotFlip cotDirection price t = .close && draw.accepted then
      some (cotClosure price t)
    else none

end ForcedClose

section Reconciled

variable {reads : SnapshotReads} {answer : HistoryAnswer}

end Reconciled

section Effects

variable {a : Account}

theorem finalize_effect (c : Closure) (writeOk : Bool) (hu : a.trade.userId ≠ "") :
    Effect a (finalize c writeOk a)
      (attempt writeOk
        (closeRow c.exitPrice c.pnl c.rMultiple c.outcome a.trade.slMoves a.trade.partials)) :=
  effect_amend (t := c.record a.trade) hu rfl rfl
    (Journal.keepsKey_close c.exitPrice c.pnl c.rMultiple c.outcome a.trade.slMoves
      a.trade.partials) writeOk

theorem finalize_grossPnL (c : Closure) (hu : a.trade.userId ≠ "") :
    (finalize c true a).row.map TradeRecord.grossPnL = a.row.map (fun _ => c.pnl) := by
  rw [(finalize_effect c true hu).row, Option.map_map]
  rfl

theorem finalize_rowStatus (c : Closure) (hu : a.trade.userId ≠ "") :
    (finalize c true a).row.map TradeRecord.status = a.row.map (fun _ => .closed) := by
  rw [(finalize_effect c true hu).row, Option.map_map]
  rfl

theorem quiet_noted (price : ℚ) (a : Account) : Quiet a (noted price a) := quiet_memory a rfl rfl id

theorem ForcedClose.run_cases (path : ForcedClose) (draw : CloseDraw) (price : ℚ)
    (hu : a.trade.userId ≠ "") :
    (path.closure draw price a.trade = none ∧ Quiet a (path.run draw price a)) ∨
      ∃ c b, path.closure draw price a.trade = some c ∧ draw.accepted ∧
        Quiet a b ∧ path.run draw price a = finalize c draw.writeOk b := by
  have hqt := Quiet.refl a
  cases path with
  | endOfDay now heldFor =>
    simp only [closure, run, runEodCheck]
    cases hdue : eodDue now heldFor price a.trade && draw.accepted with
    | false => exact .inl ⟨rfl, hqt⟩
    | true =>
      exact .inr ⟨_, noted price a, rfl, (Bool.and_eq_true_iff.mp hdue).2, quiet_noted price a, rfl⟩
  | structuralBreak breakDirection =>
    simp only [closure, run, evaluateStructuralBreak]
    cases hdue : structuralDue breakDirection a.trade && draw.accepted with
    | false => exact .inl ⟨rfl, hqt⟩
    | true =>
      exact .inr ⟨_, noted price a, rfl, (Bool.and_eq_true_iff.mp hdue).2, quiet_noted price a, rfl⟩
  | cotFlip cotDirection stop =>
    simp only [closure, run, handleCotFlip]
    cases evaluateCotFlip cotDirection price a.trade with
    | ignore => exact .inl ⟨rfl, hqt⟩
    | tighten move => exact .inl ⟨rfl, quiet_executeMove (some move) stop hu⟩
    | close =>
      cases draw.accepted with
      | false => exact .inl ⟨rfl, hqt⟩
      | true => exact .inr ⟨_, a, rfl, rfl, hqt, rfl⟩

end Effects

end ETradie.Management
