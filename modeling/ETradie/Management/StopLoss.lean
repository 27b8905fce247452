import ETradie.Management.Ledger

namespace ETradie.Management

open Kernel Account

def styleScalping : String := "SCALPING"
def styleIntraday : String := "INTRADAY"
def styleSwing : String := "SWING"
def stylePositional : String := "POSITIONAL"

def syntheticSymbolMarkers : List String :=
  ["VOLATILITY", "BOOM", "CRASH", "STEP", "JUMP", "V75", "DEX", "RANGE"]

variable (text : CaseMap)

def isSyntheticSymbol (symbol : String) : Bool :=
  syntheticSymbolMarkers.any (containsText (text.upper symbol))

def pipSize (symbol : String) (point : ℚ) (digits : Int) : ℚ :=
  if isSyntheticSymbol text symbol then 1
  else if point ≤ 0 then 0
  else if digits ≤ 2 then point
  else point * 10

def spreadBufferPips : ℚ := 2.5
def scalpBEThreshold : ℚ := 0.6
def intradayBETimeoutHours : ℚ := 3
def intradaySLReductionPct : ℚ := 0.5

variable (groups : List (List String)) (timeToEvent : ℚ)

namespace Trade

def progress (t : Trade) (price : ℚ) : ℚ :=
  if t.isLong then price - t.entryPrice else t.entryPrice - price

def room (t : Trade) (price level : ℚ) : ℚ := if t.isLong then price - level else level - price

def ahead (t : Trade) (price dist : ℚ) : ℚ := if t.isLong then price + dist else price - dist

def behind (t : Trade) (price dist : ℚ) : ℚ := if t.isLong then price - dist else price + dist

def reached (t : Trade) (price level : ℚ) : Bool :=
  if t.isLong then price ≥ level else price ≤ level

def tightens (t : Trade) (newSL : ℚ) : Bool :=
  if t.isLong then newSL > t.stopLoss else newSL < t.stopLoss

end Trade

inductive StopEngine where
  | breakeven | timeTightening | trailing | correlationShock | newsRiskOff | cotFlip
deriving DecidableEq

structure StopMove where
  engine : StopEngine
  (newSL newTP : ℚ)
deriving DecidableEq

def onlyTighten (engine : StopEngine) (newSL newTP : ℚ) (t : Trade) : Option StopMove :=
  if t.tightens newSL then some ⟨engine, newSL, newTP⟩ else none

structure SymbolScale where
  point : ℚ
  digits : Int
deriving DecidableEq

def SymbolScale.heal (si : SymbolScale) (t : Trade) : Trade :=
  { t with
    point := si.point
    digits := if 0 < si.digits then si.digits else t.digits }

variable (info : Option SymbolScale)

def selfHeal (writeOk : Bool) (a : Account) : Account :=
  match info with
  | none => a
  | some si =>
    if a.trade.point ≤ 0 ∧ 0 < si.point then
      ({ a with trade := si.heal a.trade }).write writeOk (pointRow si.point si.digits)
    else a

def breakevenPipSize (t : Trade) : ℚ :=
  let size := pipSize text t.symbol t.point t.digits
  if size ≤ 0 then
    if t.point > 0 then t.point * 10 else 0.0001 * 10
  else size

def pointForFallback (t : Trade) : ℚ := if t.point ≤ 0 then 0.0001 else t.point

def breakevenTarget (t : Trade) : ℚ :=
  if t.tp1Price = 0 then
    if 0 < t.initialSL then t.ahead t.entryPrice (t.room t.entryPrice t.initialSL)
    else t.ahead t.entryPrice (500 * pointForFallback t)
  else t.tp1Price

def breakevenTriggered (checkPrice : ℚ) (t : Trade) : Bool :=
  if t.tradingStyle = styleScalping then
    t.reached checkPrice (t.ahead t.entryPrice (t.progress (breakevenTarget t) * scalpBEThreshold))
  else t.reached checkPrice (breakevenTarget t)

def breakevenSL (t : Trade) : ℚ := t.ahead t.entryPrice (spreadBufferPips * breakevenPipSize text t)

def timeTightenedSL (t : Trade) : ℚ :=
  t.behind t.entryPrice (t.room t.entryPrice t.initialSL * intradaySLReductionPct)

def evaluateBreakeven (heldFor checkPrice : ℚ) (t : Trade) : Option StopMove :=
  if t.breakevenSet then none
  else if breakevenTriggered checkPrice t then
    some ⟨.breakeven, breakevenSL text t, t.brokerTakeProfit⟩
  else if t.tradingStyle = styleIntraday ∧ heldFor ≥ intradayBETimeoutHours * 3600 then
    onlyTighten .timeTightening (timeTightenedSL t) t.brokerTakeProfit t
  else none

def trailStyles : List String := [styleScalping, styleIntraday, styleSwing, stylePositional]

def trailFractionForStyle (style : String) (tp1Hit : Bool) : ℚ :=
  let base : ℚ :=
    if style = styleScalping then 0.6
    else if style = styleIntraday then 0.5
    else if style = styleSwing then 0.4
    else if style = stylePositional then 0.3
    else 0.5
  if tp1Hit then base + 0.1 else base

def evaluateTrailing (checkPrice : ℚ) (t : Trade) : Option StopMove :=
  if t.breakevenSet = false then none
  else if t.tradingStyle ∈ trailStyles then
    let totalMove := t.progress checkPrice
    if totalMove ≤ 0 then none
    else
      let newSL := t.behind checkPrice
        (totalMove * (1 - trailFractionForStyle t.tradingStyle t.tp1Hit))
      onlyTighten .trailing newSL t.brokerTakeProfit t
  else none

def halvedSL (price : ℚ) (t : Trade) : ℚ := t.behind price (t.room price t.stopLoss * 0.5)

variable (stoppedSymbol : String)

def evaluateCorrelationShock
    (price : ℚ) (t : Trade) : Option StopMove :=
  if t.status = .closed then none
  else if t.symbol = stoppedSymbol then none
  else if groups.any (fun pairs => t.symbol ∈ pairs ∧ stoppedSymbol ∈ pairs) then
    onlyTighten .correlationShock (halvedSL price t) 0 t
  else none

def newsSL (price : ℚ) (t : Trade) : ℚ :=
  if t.progress price > 0 then t.ahead t.entryPrice (spreadBufferPips * 0.0001)
  else halvedSL price t

def evaluatePreNewsRiskOff (price : ℚ) (t : Trade) : Option StopMove :=
  if t.status = .closed then none
  else if t.tradingStyle ≠ styleScalping ∧ t.tradingStyle ≠ styleIntraday then none
  else if timeToEvent > 16 ∨ timeToEvent < 4 then none
  else onlyTighten .newsRiskOff (newsSL price t) 0 t

def against (t : Trade) (direction : String) : Bool :=
  if t.isLong then direction = "BEARISH" else direction = "BULLISH"

inductive CotVerdict where
  | ignore
  | close
  | tighten (move : StopMove)
deriving DecidableEq

def evaluateCotFlip (cotDirection : String) (price : ℚ) (t : Trade) : CotVerdict :=
  if t.status = .closed then .ignore
  else if against t cotDirection = false then .ignore
  else if t.progress price < 0 then .close
  else
    match onlyTighten .cotFlip (t.behind price (t.progress price * 0.5)) 0 t with
    | none => .ignore
    | some move => .tighten move

variable (m : StopMove) (t : Trade)

def StopMove.record : Trade :=
  let moved := { t with stopLoss := m.newSL, slMoves := t.slMoves + 1 }
  match m.engine with
  | .breakeven => { moved with breakevenSet := true, status := .breakeven }
  | .trailing => { moved with status := .trailing }
  | .timeTightening => moved
  | .correlationShock => moved
  | .newsRiskOff => moved
  | .cotFlip => moved

def StopMove.persist (slOk runtimeOk : Bool) (a : Account) : Account :=
  let written := a.write slOk (stopRow m.newSL)
  match m.engine with
  | .breakeven => written.write runtimeOk (runtimeRow a.trade)
  | .timeTightening => written
  | .trailing => written
  | .correlationShock => written
  | .newsRiskOff => written
  | .cotFlip => written

theorem StopMove.persist_trade (slOk runtimeOk : Bool) (a : Account) :
    (m.persist slOk runtimeOk a).trade = a.trade := by
  unfold StopMove.persist
  cases m.engine <;> rfl

def StopMove.execute (accepted slOk runtimeOk : Bool) (a : Account) : Account :=
  if accepted then m.persist slOk runtimeOk { a with trade := m.record a.trade } else a

structure StopDraw where
  info : Option SymbolScale := none
  (accepted pointOk slOk runtimeOk : Bool := true)
deriving DecidableEq

def throttled (lastAttempt : Option ℚ) (now : ℚ) : Bool :=
  match lastAttempt with
  | none => false
  | some last => now - last < 10

variable (move : Option StopMove) (draw : StopDraw) (price checkPrice heldFor : ℚ) (a : Account)

def executeMove : Account :=
  match move with
  | none => a
  | some m => m.execute draw.accepted draw.slOk draw.runtimeOk a

def healBeforeBreakeven : Account :=
  if a.trade.breakevenSet then a else selfHeal draw.info draw.pointOk a

def runBreakeven (checkPrice : ℚ) (a : Account) :
    Account :=
  let healed := healBeforeBreakeven draw a
  executeMove (evaluateBreakeven text heldFor checkPrice healed.trade) draw healed

def runTrailing : Account := executeMove (evaluateTrailing checkPrice a.trade) draw a

def runCorrelationShock
    (draw : StopDraw) (price : ℚ) (a : Account) : Account :=
  executeMove (evaluateCorrelationShock groups stoppedSymbol price a.trade) draw a

def runPreNewsRiskOff : Account :=
  if a.trade.status = .active then
    executeMove (evaluatePreNewsRiskOff timeToEvent price a.trade) draw a
  else a

section Evaluations

variable {t} {m} {price checkPrice}

theorem onlyTighten_eq_some {engine : StopEngine} {newSL newTP : ℚ}
    (h : onlyTighten engine newSL newTP t = some m) :
    t.tightens m.newSL ∧ m.engine = engine := by
  unfold onlyTighten at h
  split at h
  next hbet =>
    cases h
    exact ⟨hbet, rfl⟩
  next => cases h

theorem evaluateBreakeven_cases {text : CaseMap} {heldFor : ℚ}
    (h : evaluateBreakeven text heldFor checkPrice t = some m) :
    (m.engine = .breakeven ∧ m.newSL = breakevenSL text t) ∨
      (m.engine = .timeTightening ∧ t.tightens m.newSL) := by
  revert h
  fun_cases evaluateBreakeven text heldFor checkPrice t
  any_goals rintro ⟨⟩
  · exact .inl ⟨rfl, rfl⟩
  · intro h
    obtain ⟨hbet, heng⟩ := onlyTighten_eq_some h
    exact .inr ⟨heng, hbet⟩

theorem evaluateTrailing_tightens (h : evaluateTrailing checkPrice t = some m) :
    t.tightens m.newSL ∧ m.engine = .trailing := by
  unfold evaluateTrailing at h
  split_ifs at h with hbe hsty
  simp only at h
  split at h
  next => cases h
  next => exact onlyTighten_eq_some h

theorem evaluateCorrelationShock_tightens {groups : List (List String)} {stoppedSymbol : String}
    (h : evaluateCorrelationShock groups stoppedSymbol price t = some m) :
    t.tightens m.newSL ∧ m.engine = .correlationShock := by
  unfold evaluateCorrelationShock at h
  split_ifs at h with hcls hsm hgro
  exact onlyTighten_eq_some h

theorem evaluatePreNewsRiskOff_tightens {timeToEvent : ℚ}
    (h : evaluatePreNewsRiskOff timeToEvent price t = some m) :
    t.tightens m.newSL ∧ m.engine = .newsRiskOff := by
  unfold evaluatePreNewsRiskOff at h
  split_ifs at h with hcls hsty hwin
  exact onlyTighten_eq_some h

theorem evaluateCotFlip_tightens {cotDirection : String}
    (h : evaluateCotFlip cotDirection price t = .tighten m) :
    t.tightens m.newSL ∧ m.engine = .cotFlip := by
  unfold evaluateCotFlip at h
  split_ifs at h with hcls haga hlo
  split at h
  next => cases h
  next _ hmv =>
    cases h
    exact onlyTighten_eq_some hmv

end Evaluations

section Effects

variable {a}

theorem StopMove.record_key :
    (m.record t).userId = t.userId ∧ (m.record t).tradeId = t.tradeId := by
  unfold StopMove.record
  cases m.engine <;> exact ⟨rfl, rfl⟩

theorem StopMove.record_closed {t : Trade} (h : (m.record t).status = .closed) :
    t.status = .closed := by
  unfold StopMove.record at h
  cases heng : m.engine <;> rw [heng] at h
  case breakeven => cases h
  case trailing => cases h
  all_goals exact h

theorem StopMove.quiet_persist (hu : a.trade.userId ≠ "")
    (slOk runtimeOk : Bool) : Quiet a (m.persist slOk runtimeOk a) := by
  have hsp : Quiet a (a.write slOk (stopRow m.newSL)) :=
    quiet_write hu (Journal.quietRow_stop m.newSL) slOk
  unfold StopMove.persist
  cases m.engine with
  | breakeven =>
    exact hsp.trans (quiet_write (hsp.owned hu) (Journal.quietRow_runtime a.trade) runtimeOk)
  | timeTightening | trailing | correlationShock | newsRiskOff | cotFlip => exact hsp

theorem StopMove.quiet_execute (hu : a.trade.userId ≠ "")
    (accepted slOk runtimeOk : Bool) : Quiet a (m.execute accepted slOk runtimeOk a) := by
  cases accepted with
  | false => exact Quiet.refl a
  | true =>
    obtain ⟨howr, hid⟩ := m.record_key a.trade
    have hm : Quiet a { a with trade := m.record a.trade } :=
      quiet_memory a howr hid m.record_closed
    exact hm.trans (m.quiet_persist (hm.owned hu) slOk runtimeOk)

theorem quiet_selfHeal (writeOk : Bool) (hu : a.trade.userId ≠ "") :
    Quiet a (selfHeal info writeOk a) := by
  unfold selfHeal
  split
  next => exact Quiet.refl a
  next si =>
    split
    next =>
      have hpt := Journal.quietRow_point si.point si.digits
      exact (effect_amend (t := si.heal a.trade) hu rfl rfl hpt.keepsKey
        writeOk).quiet id (attempt_column hpt.grossPnL writeOk) (attempt_column hpt.status writeOk)
    next => exact Quiet.refl a

theorem quiet_executeMove (hu : a.trade.userId ≠ "") :
    Quiet a (executeMove move draw a) := by
  cases move with
  | none => exact Quiet.refl a
  | some m => exact m.quiet_execute hu draw.accepted draw.slOk draw.runtimeOk

theorem quiet_runBreakeven (checkPrice : ℚ)
    (hu : a.trade.userId ≠ "") :
    Quiet a (runBreakeven text draw heldFor checkPrice a) := by
  have hheal : Quiet a (healBeforeBreakeven draw a) := by
    unfold healBeforeBreakeven
    split
    next => exact Quiet.refl a
    next => exact quiet_selfHeal draw.info draw.pointOk hu
  exact hheal.trans (quiet_executeMove _ draw (hheal.owned hu))

theorem quiet_runPreNewsRiskOff
    (hu : a.trade.userId ≠ "") :
    Quiet a (runPreNewsRiskOff timeToEvent draw price a) := by
  unfold runPreNewsRiskOff
  split
  next => exact quiet_executeMove _ draw hu
  next => exact Quiet.refl a

end Effects

end ETradie.Management
