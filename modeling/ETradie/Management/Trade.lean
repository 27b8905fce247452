import ETradie.Kernel.Registry
import ETradie.Kernel.Text

namespace ETradie.Management

abbrev Direction := String

def directionBuy : Direction := "BUY"

inductive TradeStatus where
  | active | breakeven | trailing | closing | closed
deriving DecidableEq

inductive TradeOutcome where
  | win | loss | breakeven
deriving DecidableEq

def originSystem : String := "SYSTEM"
def originManualReconciled : String := "MANUAL_RECONCILED"

def styleManualDefault : String := "POSITIONAL"

structure Trade where
  (tradeId symbol : String)
  point : ℚ := 0
  digits : Int := 0
  direction : Direction
  brokerOrderId : String
  (analysisId traceId : String := "")
  origin : String := originSystem
  userId : String
  (tradingStyle grade session setupType executionMode : String := "")
  confluenceScore : ℚ := 0
  (entryPrice stopLoss initialSL : ℚ)
  tp1Price : ℚ := 0
  tp1Pct : Int := 0
  tp2Price : ℚ := 0
  tp2Pct : Int := 0
  tp3Price : ℚ := 0
  tp3Pct : Int := 0
  (totalLotSize remainingLotSize : ℚ)
  (riskAmount riskPercent rrRatio slippage : ℚ := 0)
  status : TradeStatus := .active
  (breakevenSet tp1Hit tp2Hit tp3Hit : Bool := false)
  (realizedPnL currentPrice swap commission : ℚ := 0)
  (slMoves partials : Int := 0)
deriving DecidableEq, Inhabited

variable (t : Trade)

namespace Trade

def isLong : Bool :=
  t.direction = directionBuy

def priceForCheck (bid ask : ℚ) : ℚ :=
  if t.isLong then bid else ask

def isSLHit (checkPrice : ℚ) : Bool :=
  if t.stopLoss ≤ 0 then false
  else if t.isLong then checkPrice ≤ t.stopLoss
  else checkPrice ≥ t.stopLoss

def isTargetHit (target checkPrice : ℚ) : Bool :=
  if target ≤ 0 then false
  else if t.isLong then checkPrice ≥ target
  else checkPrice ≤ target

def isTP1Hit (checkPrice : ℚ) : Bool :=
  t.isTargetHit t.tp1Price checkPrice

def slDistanceFromEntry : ℚ :=
  let d := t.entryPrice - t.initialSL
  if d < 0 then -d else d

def brokerTakeProfit : ℚ :=
  if t.tp3Price > 0 then t.tp3Price
  else if t.tp2Price > 0 then t.tp2Price
  else t.tp1Price

end Trade

structure TradeRecord where
  (userId tradeId symbol direction : String)
  entryPrice : ℚ
  exitPrice : ℚ := 0
  (stopLoss initialSL : ℚ)
  tp1Price : ℚ := 0
  tp1Pct : Int := 0
  tp2Price : ℚ := 0
  tp2Pct : Int := 0
  tp3Price : ℚ := 0
  tp3Pct : Int := 0
  (totalLotSize remainingLotSize : ℚ)
  (grossPnL rMultiple riskAmount riskPercent rrRatio point : ℚ := 0)
  digits : Int := 0
  origin : String := originSystem
  (tp1Hit tp2Hit tp3Hit breakevenSet : Bool := false)
  confluenceScore : ℚ := 0
  (grade setupType tradingStyle session executionMode : String := "")
  slippage : ℚ := 0
  outcome : Option TradeOutcome := none
  status : TradeStatus := .active
  analysisId : String := ""
  brokerOrderId : String
  (slAdjustments partialCloses : Int := 0)
deriving DecidableEq

def TradeRecord.stored (rec : TradeRecord) : TradeRecord :=
  { rec with origin := if rec.origin = "" then originSystem else rec.origin }

abbrev Journal := List TradeRecord

variable (j : Journal)

namespace Journal

def getTradeByBrokerOrderId (queryFails : Bool) (userId brokerOrderId : String) :
    Option TradeRecord :=
  if brokerOrderId = "" ∨ userId = "" ∨ queryFails then none
  else j.find? (fun rec => rec.brokerOrderId = brokerOrderId ∧ rec.userId = userId)

def insertTrade (dbError : Option String) (rec : TradeRecord) :
    Except String Journal :=
  if rec.userId = "" then
    .error ("insert trade " ++ rec.tradeId ++ ": user_id must not be empty")
  else
    match dbError with
    | some e => .error ("insert trade " ++ rec.tradeId ++ ": " ++ e)
    | none =>
      if j.any (·.tradeId = rec.tradeId) then
        .error ("insert trade " ++ rec.tradeId ++ ": duplicate key value")
      else .ok (j ++ [rec.stored])

def update (writeOk : Bool) (userId tradeId : String)
    (f : TradeRecord → TradeRecord) : Journal :=
  if userId = "" ∨ writeOk = false then j
  else j.map (fun rec => if rec.tradeId = tradeId ∧ rec.userId = userId then f rec else rec)

end Journal

structure State where
  manager : Kernel.Registry String Trade
  journal : Journal

namespace State

def init : State where
  manager := Kernel.Registry.empty
  journal := []

def registerTrade (s : State) (t : Trade) : State :=
  { s with manager := s.manager.register t.tradeId t }

def removeTrade (s : State) (tradeId : String) : State :=
  { s with manager := s.manager.remove tradeId }

end State

end ETradie.Management
