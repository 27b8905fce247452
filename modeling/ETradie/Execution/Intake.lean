import ETradie.Execution.Executor
import ETradie.Execution.Sizing
import ETradie.Execution.Validator
import ETradie.Rpc

namespace ETradie.Execution

open Kernel

structure ExecuteTradeRequest where
  (symbol direction : String)
  (entryZoneLow entryZoneHigh stopLoss : ℚ)
  tp1Price : ℚ := 0
  tp1Pct : Int := 0
  tp2Price : ℚ := 0
  tp2Pct : Int := 0
  tp3Price : ℚ := 0
  tp3Pct : Int := 0
  rrRatio : ℚ
  grade : String := ""
  riskPercentage : ℚ
  (tradingStyle session : String := "")
  (confluenceScore confidence : ℚ := 0)
  (analysisId traceId executionMode : String := "")
  ltfConfirmed : Bool := false
  setupType : String := ""
  (obUpper obLower : ℚ := 0)
  (ltfTimeframe htfTimeframe : String := "")
deriving DecidableEq

variable (claims : Option Claims)

section Admission

variable (text : CaseMap) (req : ExecuteTradeRequest)

def validateRequest : Except String Unit :=
  let direction := text.upper req.direction
  if trimSpace req.symbol = "" then .error "symbol is required"
  else if direction ≠ "LONG" ∧ direction ≠ "SHORT" then
    .error ("direction must be LONG or SHORT, got " ++ goQuote req.direction)
  else if req.entryZoneLow ≤ 0 ∨ req.entryZoneHigh ≤ 0 then
    .error "entry_zone_low and entry_zone_high must be positive"
  else if req.entryZoneHigh < req.entryZoneLow then
    .error "entry_zone_low must be <= entry_zone_high"
  else if req.stopLoss ≤ 0 then .error "stop_loss must be positive"
  else if req.riskPercentage ≤ 0 ∨ 5 < req.riskPercentage then
    .error ("risk_percentage must be 0..5, got " ++ fixed 2 req.riskPercentage)
  else if req.rrRatio ≤ 0 then .error "rr_ratio must be positive"
  else .ok ()

def parseRequest : TradeRequest :=
  { req with
    direction := text.upper req.direction, tradingStyle := text.upper req.tradingStyle
    session := text.upper req.session }

def authorizeTrader : Except RpcError String :=
  match claims with
  | none => .error ⟨.unauthenticated, "missing claims in context"⟩
  | some c =>
    if c.userId = "" then .error ⟨.unauthenticated, "user_id not found in context"⟩
    else if c.role ≠ roleAdmin ∧ c.tier = "free" then
      .error ⟨.permissionDenied, "automated trade execution is restricted to Pro users"⟩
    else .ok c.userId

def acceptRequest (claims : Option Claims) : Except RpcError TradeRequest :=
  match validateRequest text req with
  | .error e => .error ⟨.invalidArgument, "invalid request: " ++ e⟩
  | .ok () =>
    match authorizeTrader claims with
    | .error e => .error e
    | .ok userId => .ok { parseRequest text req with userId := userId }

theorem validateRequest_ok_iff :
    validateRequest text req = .ok () ↔
      trimSpace req.symbol ≠ "" ∧
      (text.upper req.direction = "LONG" ∨ text.upper req.direction = "SHORT") ∧
      0 < req.entryZoneLow ∧ req.entryZoneLow ≤ req.entryZoneHigh ∧
      0 < req.stopLoss ∧ (0 < req.riskPercentage ∧ req.riskPercentage ≤ 5) ∧
      0 < req.rrRatio := by
  unfold validateRequest
  dsimp only
  constructor
  · intro h
    split_ifs at h with hsym hdir hzn hord hsp hrisk hrr
    push Not at hzn hord hsp hrisk hrr
    refine ⟨hsym, ?_, hzn.1, hord, hsp, hrisk, hrr⟩
    by_contra hnei
    push Not at hnei
    exact hdir hnei
  · rintro ⟨hsym, hdir, hlow, hord, hsp, hrisk, hrr⟩
    have hdir' : ¬ (text.upper req.direction ≠ "LONG" ∧ text.upper req.direction ≠ "SHORT") := by
      rintro ⟨hlg, hsho⟩
      exact hdir.elim hlg hsho
    have hzn : ¬ (req.entryZoneLow ≤ 0 ∨ req.entryZoneHigh ≤ 0) := by rintro (h | h) <;> linarith
    have hrisk' : ¬ (req.riskPercentage ≤ 0 ∨ 5 < req.riskPercentage) := by
      rintro (h | h) <;> linarith
    rw [if_neg hsym, if_neg hdir', if_neg hzn, if_neg (not_lt.mpr hord),
      if_neg (not_le.mpr hsp), if_neg hrisk', if_neg (not_le.mpr hrr)]

end Admission

section Settings

structure Settings where
  executionMode : Option String := none
  maxConcurrentTrades : Option Int := none
  (dailyLossLimitPct weeklyDrawdownPct : Option ℚ := none)
  (globalHalted userHalted : Option Bool := none)
deriving DecidableEq

variable (text : CaseMap) (cfg : Config) (settings : Settings)

def withinOr {α : Type} [LE α] [DecidableLE α] (low high default : α) (value : Option α) : α :=
  match value with
  | none => default
  | some v => if low ≤ v ∧ v ≤ high then v else default

def resolveRuntimeParams : RuntimeParams where
  maxConcurrentTrades := withinOr 1 10 cfg.maxConcurrentTrades settings.maxConcurrentTrades
  dailyLossLimitPct := withinOr (1 / 2) 10 cfg.dailyLossLimitPct settings.dailyLossLimitPct
  weeklyDrawdownPct := withinOr 1 20 cfg.weeklyDrawdownPct settings.weeklyDrawdownPct
  -- A failed read counts as not halted.
  globalTradingHalted := settings.globalHalted.getD false
  userTradingHalted := settings.userHalted.getD false

def resolveExecutionMode : ExecutionMode :=
  match settings.executionMode with
  | none => .auto
  | some value =>
    match ExecutionMode.ofText (text.upper value) with
    | .other _ => .auto
    | mode => mode

def chooseMode (req : TradeRequest) : ExecutionMode :=
  match resolveExecutionMode text settings with
  | .auto =>
    match ExecutionMode.ofText (text.upper req.executionMode) with
    | .limit => .limit
    | .instant => .instant
    | _ => cfg.executionMode
  | mode => mode

end Settings

def generateOrderId (symbol stamp nonce : String) : String :=
  "ORD_" ++ symbol ++ "_" ++ stamp ++ "_" ++ nonce

def limitTtlCandles (style : TradingStyle) : Nat :=
  if style = styleScalping then 1
  else if style = styleIntraday then 4
  else if style = styleSwing then 18
  else if style = stylePositional then 42
  else 4

def watcherIdFor (kind symbol orderId : String) : String :=
  kind ++ "_" ++ symbol ++ "_" ++ String.ofList (orderId.toList.drop 4)

def buildWithMode (req : TradeRequest) (sizing : SizingResult) (cfg : Config)
    (mode : ExecutionMode) (orderId : String) (createdAt : Int := 0) : Order :=
  let order : Order :=
    { orderId := orderId, symbol := req.symbol, direction := req.direction, executionMode := mode
      entryPrice := req.entryPrice, stopLoss := req.stopLoss, tp1Price := req.tp1Price
      tp1Pct := req.tp1Pct, tp2Price := req.tp2Price, tp2Pct := req.tp2Pct, tp3Price := req.tp3Price
      tp3Pct := req.tp3Pct, lotSize := sizing.lotSize, riskPercent := req.riskPercentage
      riskAmount := sizing.riskAmount, rrRatio := req.rrRatio
      accountBalance := sizing.accountBalance, slDistancePips := sizing.slDistancePips
      pipValue := sizing.pipValue, analysisId := req.analysisId, tradingStyle := req.tradingStyle
      session := req.session, grade := req.grade, confluence := req.confluenceScore
      confidence := req.confidence, setupType := req.setupType, createdAt := createdAt }
  match mode with
  | .limit =>
    { order with
      ttlCandles := limitTtlCandles req.tradingStyle
      watcherId := watcherIdFor "LMT" req.symbol orderId }
  | .instant =>
    { order with
      watcherId := watcherIdFor "GRT" req.symbol orderId
      overshootTolerance := req.entryZoneWidth * cfg.overshootToleranceMultiplier
      ltfConfirmed := req.ltfConfirmed, obUpper := req.obUpper, obLower := req.obLower
      ltfTimeframe := req.ltfTimeframe, htfTimeframe := req.htfTimeframe }
  | _ => order

structure OrderDraw where
  reads : BrokerReads
  settings : Settings := {}
  (stamp nonce : String := "")
  createdAt : Int := 0
  (username role tier status rawToken idempotencyKey : String := "")

def prepareOrder (text : CaseMap) (cfg : Config) (req : TradeRequest) (draw : OrderDraw) :
    Except String Order :=
  match calculate cfg draw.reads req with
  | .error e => .error ("sizing failed: " ++ e)
  | .ok sizing =>
    .ok { buildWithMode req sizing cfg (chooseMode text cfg draw.settings req)
            (generateOrderId req.symbol draw.stamp draw.nonce) draw.createdAt with
      userId := req.userId
      username := draw.username
      role := draw.role
      tier := draw.tier
      statusJwt := draw.status
      authToken := draw.rawToken
      idempotencyKey := trimSpace draw.idempotencyKey }

variable (e : Executor) (draw : LimitDraw) (order : Order) (s : ExecutorState)

def execute :
    Except String ExecutionResult × ExecutorState :=
  match order.executionMode with
  | .limit => placeLimit e draw order s
  | .instant =>
    let (result, s') := handleInstant e draw.insertFate draw.selectFate draw.recordFate order s
    (.ok result, s')
  | mode => (.error ("executor: unknown execution mode " ++ goQuote mode.text), s)

structure ExecuteTradeResponse where
  accepted : Bool
  status : OrderStatus
  (orderId rejectionReason : String := "")
  rejectionCheck : Int := 0
  (lotSize riskAmount accountBalance slDistancePips pipValue : ℚ := 0)
  executionMode : String := ""
  entryPrice : ℚ := 0
  (analysisId traceId : String)
deriving DecidableEq

def rejectedResponse (req : TradeRequest) (reason : String) : ExecuteTradeResponse where
  accepted := false
  status := .rejected
  rejectionReason := reason
  analysisId := req.analysisId
  traceId := req.traceId

def outcomeToStatus : ValidationOutcome → OrderStatus
  | .reject => .rejected
  | .queue => .queued
  | .lock => .locked
  | .pause => .paused
  | .halted => .halted

def failedCheckResponse (req : TradeRequest) (failure : ValidationFailure) :
    ExecuteTradeResponse where
  accepted := false
  status := outcomeToStatus failure.outcome
  rejectionReason := failure.reason
  rejectionCheck := failure.failedCheck.number
  analysisId := req.analysisId
  traceId := req.traceId

def executedResponse (req : TradeRequest) (order : Order)
    (result : Except String ExecutionResult) : ExecuteTradeResponse :=
  match result with
  | .error e => rejectedResponse req ("execution failed: " ++ e)
  | .ok r =>
    if r.accepted then
      { order with
        accepted := true, status := r.status, orderId := r.orderId
        executionMode := order.executionMode.text, traceId := req.traceId }
    else
      { accepted := false, status := r.status, rejectionReason := r.rejectionReason
        analysisId := req.analysisId, traceId := req.traceId }

variable {text : CaseMap} {req : TradeRequest}

theorem acceptRequest_userId {msg : ExecuteTradeRequest} {claims : Claims} (h : acceptRequest text msg (some claims) = .ok req) :
    req.userId = claims.userId := by
  unfold acceptRequest authorizeTrader at h
  dsimp only at h
  split at h
  · cases h
  · split_ifs at h
    cases h
    rfl

theorem mem_arm {placed o : Order} {watchers : List Order} (h : o ∈ arm placed watchers) :
    o ∈ watchers ∨ o = placed := by
  unfold arm at h
  split_ifs at h
  · exact .inl h
  · simpa using h

/-- The order as the broker lists it. -/
def listed (o : Order) : BrokerEntry where
  symbol := o.symbol
  orderId := o.orderId

theorem placeAtBroker_watchers :
    ∀ o ∈ (placeAtBroker e draw order s).2.watchers, o ∈ s.watchers ∨ listed o = listed order := by
  intro o ho
  unfold placeAtBroker at ho
  cases hbrk : draw.broker (limitPlacement order) with
  | error _ =>
    rw [hbrk] at ho
    exact .inl ho
  | ok _ =>
    rw [hbrk] at ho
    dsimp only at ho
    split_ifs at ho
    all_goals first
      | exact .inl ho
      | exact (mem_arm ho).imp id (fun h => by rw [h]; rfl)

theorem placeLimit_adds :
    ((placeLimit e draw order s).2.standing = s.standing ∨
      (placeLimit e draw order s).2.standing = s.standing ++ [order]) ∧
      ∀ o ∈ (placeLimit e draw order s).2.watchers, o ∈ s.watchers ∨ listed o = listed order := by
  unfold placeLimit
  cases claim e draw.insertFate draw.selectFate order s.table with
  | mk prior table =>
    cases prior with
    | some _ => exact ⟨.inl rfl, fun o ho => .inl ho⟩
    | none =>
      obtain ⟨-, hstd, -⟩ := placeAtBroker_spec e draw order { s with table := table }
      refine ⟨?_, placeAtBroker_watchers e draw order { s with table := table }⟩
      rw [hstd]
      by_cases hlea : leavesOrder e draw order = true
      · rw [if_pos hlea]
        exact .inr rfl
      · rw [if_neg hlea]
        exact .inl rfl

theorem handleInstant_adds (insertFate selectFate recordFate : StatementFate)
    (order : Order) (s : ExecutorState) :
    (handleInstant e insertFate selectFate recordFate order s).2.standing = s.standing ∧
      ∀ o ∈ (handleInstant e insertFate selectFate recordFate order s).2.watchers,
        o ∈ s.watchers ∨ listed o = listed order := by
  unfold handleInstant
  cases claim e insertFate selectFate order s.table with
  | mk prior table =>
    cases prior with
    | some _ => exact ⟨rfl, fun o ho => .inl ho⟩
    | none =>
      refine ⟨rfl, ?_⟩
      intro o ho
      exact (mem_arm ho).imp id (congrArg listed)

theorem buildWithMode_levels (req : TradeRequest) (sizing : SizingResult) (cfg : Config)
    (mode : ExecutionMode) (orderId : String) (createdAt : Int) :
    let order := buildWithMode req sizing cfg mode orderId createdAt
    order.symbol = req.symbol ∧ order.direction = req.direction ∧
      order.entryPrice = req.entryPrice ∧ order.stopLoss = req.stopLoss ∧
      order.tp1Price = req.tp1Price ∧ order.tp2Price = req.tp2Price ∧
      order.tp3Price = req.tp3Price ∧ order.rrRatio = req.rrRatio := by
  cases mode <;> exact ⟨rfl, rfl, rfl, rfl, rfl, rfl, rfl, rfl⟩

theorem prepareOrder_levels {cfg : Config} {draw : OrderDraw}
    {order : Order} (h : prepareOrder text cfg req draw = .ok order) :
    order.symbol = req.symbol ∧ order.direction = req.direction ∧
      order.entryPrice = req.entryPrice ∧ order.stopLoss = req.stopLoss ∧
      order.tp1Price = req.tp1Price ∧ order.tp2Price = req.tp2Price ∧
      order.tp3Price = req.tp3Price ∧ order.rrRatio = req.rrRatio := by
  revert h
  fun_cases prepareOrder text cfg req draw
  all_goals rintro ⟨⟩
  exact buildWithMode_levels req _ cfg _ _ _

theorem execute_spec :
    ((execute e draw order s).2.standing = s.standing ∨
      (order.executionMode = .limit ∧
        (execute e draw order s).2.standing = s.standing ++ [order])) ∧
      ∀ o ∈ (execute e draw order s).2.watchers, o ∈ s.watchers ∨ listed o = listed order := by
  unfold execute
  cases order.executionMode with
  | limit =>
    obtain ⟨hstd, hwat⟩ := placeLimit_adds e draw order s
    refine ⟨?_, hwat⟩
    rcases hstd with h | h
    · exact .inl h
    · exact .inr ⟨rfl, h⟩
  | instant =>
    obtain ⟨hstd, hwat⟩ :=
      handleInstant_adds e draw.insertFate draw.selectFate draw.recordFate order s
    exact ⟨.inl hstd, hwat⟩
  | auto | other t => exact ⟨.inl rfl, fun o ho => .inl ho⟩

end ETradie.Execution
