import ETradie.Execution.State

namespace ETradie.Execution

open Kernel

inductive ValidationCheck where
  | killSwitch | newsLockout | sessionFilter | samePairPosition | correlatedExposure
  | maxConcurrentTrades | dailyLossLimit | weeklyDrawdown | spread | minRR
  | weekendDayFilter | minStopDistance
deriving DecidableEq

def ValidationCheck.number : ValidationCheck → Int
  | .killSwitch => 0
  | .newsLockout => 4
  | .sessionFilter => 5
  | .samePairPosition => 6
  | .correlatedExposure => 7
  | .maxConcurrentTrades => 8
  | .dailyLossLimit => 9
  | .weeklyDrawdown => 10
  | .spread => 11
  | .minRR => 12
  | .weekendDayFilter => 13
  | .minStopDistance => 14

inductive ValidationOutcome where
  | reject | queue | lock | pause | halted
deriving DecidableEq

structure ValidationFailure where
  failedCheck : ValidationCheck
  outcome : ValidationOutcome
  reason : String
deriving DecidableEq

abbrev ValidationResult := Except ValidationFailure Unit

def fail (outcome : ValidationOutcome) (check : ValidationCheck) (reason : String) :
    ValidationResult :=
  .error ⟨check, outcome, reason⟩

structure RuntimeParams where
  maxConcurrentTrades : Int
  (dailyLossLimitPct weeklyDrawdownPct : ℚ)
  (globalTradingHalted userTradingHalted : Bool := false)
deriving DecidableEq

structure CheckReads where
  users : Users
  getInstrumentInfo : String → Except String InstrumentInfo

structure SessionWindow where
  name : String
  (startHour endHour : Int)
deriving DecidableEq

def sessions : List SessionWindow :=
  [⟨"ASIAN", 0, 7⟩, ⟨"LONDON_OPEN", 7, 13⟩, ⟨"LONDON_NY_OVERLAP", 13, 17⟩,
   ⟨"NEW_YORK", 17, 22⟩, ⟨"ASIAN", 22, 24⟩]

variable (style : TradingStyle)

def minRRByStyle : Option ℚ :=
  if style = styleScalping then some 2
  else if style = styleIntraday then some 3
  else if style = styleSwing then some 3
  else if style = stylePositional then some 5
  else none

def fridayCutoffHourByStyle : Option Int :=
  if style = styleScalping then some 12
  else if style = styleIntraday then some 12
  else if style = styleSwing then some 14
  else if style = stylePositional then some 24
  else none

def mondayNoEntryBeforeHour : Int := 7

def minStopPipsForTimeframe (timeframe : String) : ℚ :=
  match timeframe with
  | "M1" => 8
  | "M5" => 12
  | "M15" => 18
  | "M30" => 25
  | "H1" => 35
  | "H3" => 55
  | "H4" => 70
  | "H6" => 90
  | "H8" => 110
  | "H12" => 140
  | "D1" => 200
  | "W1" => 400
  | "MN1" => 700
  | _ => 35

section Checks

variable (text : CaseMap) (cfg : Config) (req : TradeRequest) (params : RuntimeParams)
variable (now : Int) (reads : CheckReads)

def check0KillSwitch : ValidationResult :=
  if params.globalTradingHalted then
    fail .halted .killSwitch
      "global execution kill switch is engaged: trading is halted platform-wide by an administrator"
  else if params.userTradingHalted then
    fail .halted .killSwitch
      "per-user execution kill switch is engaged: trading is halted for this account"
  else .ok ()

def check4NewsLockout : ValidationResult := .ok ()

def is247Market (symbol : String) : Bool :=
  let s := text.upper symbol
  ["CRASH", "BOOM", "VOLATILITY", "STEP", "JUMP", "BTC", "ETH"].any (containsText s)

def isSessionEnabled (session : String) : Bool :=
  cfg.enabledSessions.contains (text.upper (trimSpace session))

def check5SessionFilter : ValidationResult :=
  if is247Market text req.symbol then .ok ()
  else
    let hour := utcHour now
    match sessions.find? (fun s => s.startHour ≤ hour ∧ hour < s.endHour) with
    | none =>
      fail .reject .sessionFilter ("no trading session active at " ++ toString hour ++ ":00 UTC")
    | some s =>
      if isSessionEnabled text cfg s.name then .ok ()
      else
        fail .reject .sessionFilter
          ("session " ++ s.name ++ " is disabled (hour " ++ toString hour ++ " UTC)")

def check6SamePairPosition : ValidationResult :=
  if hasPositionOnPair text reads.users req.userId req.symbol then
    fail .reject .samePairPosition ("existing position or pending order on " ++ req.symbol)
  else .ok ()

def check7CorrelatedExposure : ValidationResult :=
  if hasCorrelatedExposure text reads.users req.userId req.symbol then
    fail .reject .correlatedExposure
      ("correlated pair exposure: position exists in same group as " ++ req.symbol)
  else .ok ()

def check8MaxConcurrentTrades : ValidationResult :=
  let count := openPositionCount reads.users req.userId
  if params.maxConcurrentTrades ≤ count then
    fail .queue .maxConcurrentTrades
      ("at max concurrent trades: " ++ toString count ++ "/" ++ toString params.maxConcurrentTrades)
  else .ok ()

def check9DailyLossLimit : ValidationResult :=
  let loss := dailyLossPercent reads.users req.userId
  if params.dailyLossLimitPct ≤ loss then
    fail .lock .dailyLossLimit
      ("daily loss " ++ fixed 2 loss ++ "% exceeds limit " ++
        fixed 2 params.dailyLossLimitPct ++ "%")
  else .ok ()

def check10WeeklyDrawdown : ValidationResult :=
  let dd := weeklyDrawdownPercent reads.users req.userId
  if params.weeklyDrawdownPct ≤ dd then
    fail .pause .weeklyDrawdown
      ("weekly drawdown " ++ fixed 2 dd ++ "% exceeds limit " ++
        fixed 2 params.weeklyDrawdownPct ++ "%")
  else .ok ()

def check11Spread : ValidationResult :=
  match reads.getInstrumentInfo req.symbol with
  | .error err =>
    fail .reject .spread ("failed to get instrument info for " ++ req.symbol ++ ": " ++ err)
  | .ok info =>
    -- No average available: the trade is let through.
    if info.avgSpread ≤ 0 then .ok ()
    else
      let multiplier :=
        if req.tradingStyle = styleScalping then cfg.spreadMultiplierScalping
        else cfg.spreadMultiplierNormal
      let threshold := info.avgSpread * multiplier
      if threshold < info.spread then
        fail .reject .spread
          ("spread " ++ fixed 5 info.spread ++ " exceeds " ++ fixed 1 multiplier ++
            "x average (threshold " ++ fixed 5 threshold ++ ") for " ++ req.symbol)
      else .ok ()

def minRRFor : ℚ := (minRRByStyle style).getD ((minRRByStyle styleIntraday).getD 0)

def check12MinRR : ValidationResult :=
  if req.rrRatio < minRRFor req.tradingStyle then
    fail .reject .minRR
      ("R:R " ++ fixed 2 req.rrRatio ++ " below minimum " ++
        fixed 2 (minRRFor req.tradingStyle) ++ " for " ++ req.tradingStyle)
  else .ok ()

def check13WeekendDayFilter : ValidationResult :=
  if is247Market text req.symbol then .ok ()
  else
    let day := weekday (utcDay now)
    let hour := utcHour now
    if day = 5 then fail .reject .weekendDayFilter "no entries on Saturday"
    else if day = 6 then fail .reject .weekendDayFilter "no entries on Sunday"
    else if day = 0 ∧ hour < mondayNoEntryBeforeHour then
      fail .reject .weekendDayFilter
        ("Monday before " ++ toString mondayNoEntryBeforeHour ++ ":00 UTC - gap risk")
    else if day = 4 then
      match fridayCutoffHourByStyle req.tradingStyle with
      | none => .ok ()
      | some cutoff =>
        if cutoff ≤ hour then
          fail .reject .weekendDayFilter
            ("Friday after " ++ toString cutoff ++ ":00 UTC for " ++ req.tradingStyle ++ " style")
        else .ok ()
    else .ok ()

def check14MinStopDistance : ValidationResult :=
  let entry := req.entryPrice
  let distance := |entry - req.stopLoss|
  if distance ≤ 0 then
    fail .reject .minStopDistance
      ("stop-loss distance is zero (entry=" ++ fixed 5 entry ++ ", sl=" ++
        fixed 5 req.stopLoss ++ ")")
  else
    match reads.getInstrumentInfo req.symbol with
    | .error _ => .ok ()
    | .ok info =>
      if info.pipSize ≤ 0 then .ok ()
      else
        let pips := distance / info.pipSize
        let minPips := minStopPipsForTimeframe req.ltfTimeframe
        if pips < minPips then
          fail .reject .minStopDistance
            ("stop-loss too tight: " ++ fixed 1 pips ++ " pips < " ++ fixed 1 minPips ++
              " minimum for " ++ req.ltfTimeframe ++ " entry timeframe (" ++ req.symbol ++
              "); structural SL would inflate position size")
        else .ok ()

def runCheck : ValidationCheck → ValidationResult
  | .killSwitch => check0KillSwitch params
  | .newsLockout => check4NewsLockout
  | .sessionFilter => check5SessionFilter text cfg req now
  | .samePairPosition => check6SamePairPosition text req reads
  | .correlatedExposure => check7CorrelatedExposure text req reads
  | .maxConcurrentTrades => check8MaxConcurrentTrades req params reads
  | .dailyLossLimit => check9DailyLossLimit req params reads
  | .weeklyDrawdown => check10WeeklyDrawdown req params reads
  | .spread => check11Spread cfg req reads
  | .minRR => check12MinRR req
  | .weekendDayFilter => check13WeekendDayFilter text req now
  | .minStopDistance => check14MinStopDistance req reads

end Checks

def validatorChain : List ValidationCheck :=
  [.killSwitch, .newsLockout, .sessionFilter, .samePairPosition, .correlatedExposure,
   .maxConcurrentTrades, .dailyLossLimit, .weeklyDrawdown, .spread, .minRR,
   .weekendDayFilter, .minStopDistance]

def runChecks (check : ValidationCheck → ValidationResult) :
    List ValidationCheck → ValidationResult
  | [] => .ok ()
  | c :: rest =>
    match check c with
    | .error failure => .error failure
    | .ok () => runChecks check rest

def validate (text : CaseMap) (cfg : Config) (req : TradeRequest) (params : RuntimeParams)
    (now : Int) (reads : ValidationCheck → CheckReads) : ValidationResult :=
  runChecks (fun c => runCheck text cfg req params now (reads c) c) validatorChain

theorem runChecks_ok_iff (check : ValidationCheck → ValidationResult)
    (chain : List ValidationCheck) :
    runChecks check chain = .ok () ↔ ∀ c ∈ chain, check c = .ok () := by
  induction chain with
  | nil => simp [runChecks]
  | cons c _ ih =>
    simp only [List.mem_cons, forall_eq_or_imp, runChecks]
    cases check c with
    | error _ => simp
    | ok u => simp [ih]

theorem validate_ok_iff (text : CaseMap) (cfg : Config) (req : TradeRequest)
    (params : RuntimeParams) (now : Int) (reads : ValidationCheck → CheckReads) :
    validate text cfg req params now reads = .ok () ↔
      ∀ c, runCheck text cfg req params now (reads c) c = .ok () := by
  rw [validate, runChecks_ok_iff]
  constructor
  · intro h c
    exact h c (by cases c <;> decide)
  · intro h c _
    exact h c

section Passing

variable {text : CaseMap} {req : TradeRequest} {params : RuntimeParams} {reads : CheckReads}

theorem check6_ok_iff :
    check6SamePairPosition text req reads = .ok () ↔
      hasPositionOnPair text reads.users req.userId req.symbol = false := by
  unfold check6SamePairPosition fail
  split_ifs with h <;> simp [h]

theorem check7_ok_iff :
    check7CorrelatedExposure text req reads = .ok () ↔
      hasCorrelatedExposure text reads.users req.userId req.symbol = false := by
  unfold check7CorrelatedExposure fail
  split_ifs with h <;> simp [h]

theorem check8_ok_iff :
    check8MaxConcurrentTrades req params reads = .ok () ↔
      (openPositionCount reads.users req.userId : Int) < params.maxConcurrentTrades := by
  unfold check8MaxConcurrentTrades fail
  dsimp only
  split_ifs with h
  · simpa using h
  · simpa using h

end Passing

end ETradie.Execution
