import ETradie.Kernel.Text

namespace ETradie.Execution

abbrev Direction := String

def directionLong : Direction := "LONG"
def directionShort : Direction := "SHORT"

abbrev TradingStyle := String

def styleScalping : TradingStyle := "SCALPING"
def styleIntraday : TradingStyle := "INTRADAY"
def styleSwing : TradingStyle := "SWING"
def stylePositional : TradingStyle := "POSITIONAL"

def brokerDirection (d : Direction) : String :=
  if d = directionLong then "BUY"
  else if d = directionShort then "SELL"
  else d

inductive ExecutionMode where
  | limit
  | instant
  | auto
  | other (text : String)
deriving DecidableEq

def ExecutionMode.ofText (s : String) : ExecutionMode :=
  if s = "LIMIT" then .limit
  else if s = "INSTANT" then .instant
  else if s = "AUTO" then .auto
  else .other s

def ExecutionMode.text : ExecutionMode → String
  | .limit => "LIMIT"
  | .instant => "INSTANT"
  | .auto => "AUTO"
  | .other s => s

inductive OrderStatus where
  | pending | watching | rejected | queued | locked | paused | halted
  | partiallyFilled | duplicate
deriving DecidableEq

def OrderStatus.text : OrderStatus → String
  | .pending => "PENDING"
  | .watching => "WATCHING"
  | .rejected => "REJECTED"
  | .queued => "QUEUED"
  | .locked => "LOCKED"
  | .paused => "PAUSED"
  | .halted => "HALTED"
  | .partiallyFilled => "PARTIALLY_FILLED"
  | .duplicate => "DUPLICATE"

structure AccountInfo where
  balance : ℚ
deriving DecidableEq

structure BrokerEntry where
  (symbol orderId : String)
  direction : String := ""
  (entryPrice currentPrice stopLoss takeProfit lotSize unrealizedPnL : ℚ := 0)
  analysisId : String := ""
deriving DecidableEq

structure InstrumentInfo where
  (pipSize pipValue minLotSize maxLotSize lotStep spread avgSpread : ℚ)
deriving DecidableEq

structure TradeRequest where
  symbol : String
  direction : Direction
  (entryZoneLow entryZoneHigh stopLoss : ℚ)
  tp1Price : ℚ := 0
  tp1Pct : Int := 0
  tp2Price : ℚ := 0
  tp2Pct : Int := 0
  tp3Price : ℚ := 0
  tp3Pct : Int := 0
  rrRatio : ℚ
  grade : String := ""
  riskPercentage : ℚ
  tradingStyle : TradingStyle := ""
  session : String := ""
  (confluenceScore confidence : ℚ := 0)
  (analysisId traceId executionMode : String := "")
  ltfConfirmed : Bool := false
  setupType : String := ""
  (obUpper obLower : ℚ := 0)
  (ltfTimeframe htfTimeframe userId : String := "")
deriving DecidableEq

def TradeRequest.entryPrice (r : TradeRequest) : ℚ := (r.entryZoneLow + r.entryZoneHigh) / 2

def TradeRequest.entryZoneWidth (r : TradeRequest) : ℚ :=
  let w := r.entryZoneHigh - r.entryZoneLow
  if w < 0 then -w else w

structure SizingResult where
  (lotSize riskAmount accountBalance slDistancePips pipValue pipSize : ℚ)
deriving DecidableEq

structure Order where
  (orderId symbol : String)
  direction : Direction
  executionMode : ExecutionMode
  idempotencyKey : String := ""
  (entryPrice stopLoss : ℚ)
  tp1Price : ℚ := 0
  tp1Pct : Int := 0
  tp2Price : ℚ := 0
  tp2Pct : Int := 0
  tp3Price : ℚ := 0
  tp3Pct : Int := 0
  lotSize : ℚ
  (riskPercent riskAmount rrRatio accountBalance slDistancePips pipValue : ℚ := 0)
  analysisId : String := ""
  tradingStyle : TradingStyle := ""
  (session grade : String := "")
  (confluence confidence : ℚ := 0)
  setupType : String := ""
  ttlCandles : Nat := 0
  watcherId : String := ""
  overshootTolerance : ℚ := 0
  ltfConfirmed : Bool := false
  (obUpper obLower : ℚ := 0)
  (ltfTimeframe htfTimeframe : String := "")
  (timeoutOverride createdAt : Int := 0)
  (userId username role tier statusJwt authToken brokerOrderId : String := "")
deriving DecidableEq

def Order.brokerTakeProfit (o : Order) : ℚ :=
  if o.tp3Price > 0 then o.tp3Price
  else if o.tp2Price > 0 then o.tp2Price
  else o.tp1Price

structure OrderPlacement where
  (symbol direction orderType : String)
  (price stopLoss takeProfit lotSize : ℚ)
  comment : String
deriving DecidableEq

structure OrderResult where
  brokerOrderId : String
  fillPrice : ℚ := 0
  status : String
  errorMessage : String := ""
  (volumeFilled volumeRemaining : ℚ := 0)
deriving DecidableEq

structure ExecutionResult where
  accepted : Bool
  status : OrderStatus
  (orderId rejectionReason : String := "")
  order : Order
deriving DecidableEq

structure Config where
  maxOrderLatencyMs : Int := 5000
  defaultExecutionMode : String := "LIMIT"
  minLotSize : ℚ := 1 / 100
  maxLotSize : ℚ := 10
  maxConcurrentTrades : Int := 3
  dailyLossLimitPct : ℚ := 3
  weeklyDrawdownPct : ℚ := 5
  spreadMultiplierNormal : ℚ := 2
  spreadMultiplierScalping : ℚ := 3 / 2
  enabledSessions : List String := ["LONDON_OPEN", "LONDON_NY_OVERLAP", "NEW_YORK"]
  overshootToleranceMultiplier : ℚ := 3 / 2
deriving DecidableEq

def Config.executionMode (c : Config) : ExecutionMode := ExecutionMode.ofText c.defaultExecutionMode

structure BrokerReads where
  getAccountInfo : Except String AccountInfo
  getInstrumentInfo : String → Except String InstrumentInfo

end ETradie.Execution
