import ETradie.Ta.StopLoss
import ETradie.Ta.ZoneRules

namespace ETradie.Ta

variable {c : SMCCandidate}

section Model

inductive PatternFamily where
  | turtleSoup
  | shBmsRto
  | smsBmsRto
  | chochBmsRto
  | amd
deriving DecidableEq

inductive CandidatePattern where
  | turtleSoupLong
  | turtleSoupShort
  | shBmsRtoBullish
  | shBmsRtoBearish
  | smsBmsRtoBullish
  | smsBmsRtoBearish
  | chochBmsRtoBullish
  | chochBmsRtoBearish
  | amdBullish
  | amdBearish
deriving DecidableEq

def PatternFamily.pattern : PatternFamily → Side → CandidatePattern
  | .turtleSoup, .high => .turtleSoupLong
  | .turtleSoup, .low => .turtleSoupShort
  | .shBmsRto, .high => .shBmsRtoBullish
  | .shBmsRto, .low => .shBmsRtoBearish
  | .smsBmsRto, .high => .smsBmsRtoBullish
  | .smsBmsRto, .low => .smsBmsRtoBearish
  | .chochBmsRto, .high => .chochBmsRtoBullish
  | .chochBmsRto, .low => .chochBmsRtoBearish
  | .amd, .high => .amdBullish
  | .amd, .low => .amdBearish

structure CandidateMetadata where
  confluences : Option Nat := none
  htfChochIsMinor : Option Bool := none
  fibContext : Option FibContext := none
  sweepContext : Option SweepContext := none
deriving DecidableEq

abbrev PricesPos (entryPrice stopLoss : ℚ) (takeProfit : Option ℚ) : Prop :=
  0 < entryPrice ∧ 0 < stopLoss ∧ ∀ target ∈ takeProfit, 0 < target

structure SMCCandidate where
  symbol : String
  timeframe : Timeframe
  pattern : CandidatePattern
  direction : Direction
  timestamp : Int
  (entryPrice stopLoss : ℚ)
  takeProfit : Option ℚ
  (htfTimeframe ltfTimeframe : Timeframe)
  bmsDetected : Bool := false
  bmsPrice : Option ℚ := none
  bmsTimestamp : Option Int := none
  chochDetected : Bool := false
  chochPrice : Option ℚ := none
  chochTimestamp : Option Int := none
  smsDetected : Bool := false
  smsPrice : Option ℚ := none
  smsTimestamp : Option Int := none
  (orderBlockUpper orderBlockLower : Option ℚ := none)
  orderBlockTimestamp : Option Int := none
  (fvgUpper fvgLower : Option ℚ := none)
  fvgTimestamp : Option Int := none
  liquiditySwept : Bool := false
  sweptLevel : Option ℚ := none
  sweepTimestamp : Option Int := none
  inducementCleared : Bool := false
  inducementLevel : Option ℚ := none
  ltfConfirmation : Bool := false
  ltfConfirmationTimestamp : Option Int := none
  (displacementPips fibLevel : Option ℚ := none)
  sessionContext : Option String := none
  metadata : CandidateMetadata := {}
  prices_pos : PricesPos entryPrice stopLoss takeProfit

inductive TaError where
  /-- a price of a candidate is not greater than 0 -/
  | candidatePrice
  /-- swing high must be > swing low -/
  | swingOrder
  /-- upper bound must be > lower bound -/
  | boundOrder
deriving DecidableEq

variable {entryPrice stopLoss : ℚ} {takeProfit : Option ℚ}

def construct (accepted : Bool)
    (candidate : PricesPos entryPrice stopLoss takeProfit → SMCCandidate) :
    Except TaError (Option SMCCandidate) :=
  if !accepted then .ok none
  else if h : PricesPos entryPrice stopLoss takeProfit then .ok (some (candidate h))
  else .error .candidatePrice

theorem construct_cases (accepted : Bool)
    (candidate : PricesPos entryPrice stopLoss takeProfit → SMCCandidate) (hent : 0 < entryPrice)
    (htgt : ∀ target ∈ takeProfit, 0 < target) :
    (accepted = false ∧ construct accepted candidate = .ok none) ∨
      (accepted ∧ ¬ 0 < stopLoss ∧ construct accepted candidate = .error .candidatePrice) ∨
      (accepted ∧ 0 < stopLoss ∧ ∃ c, construct accepted candidate = .ok (some c)) := by
  cases accepted with
  | false => exact .inl ⟨rfl, rfl⟩
  | true =>
    right
    unfold construct
    by_cases hsp : 0 < stopLoss
    · rw [dif_pos ⟨hent, hsp, htgt⟩]
      exact .inr ⟨rfl, hsp, _, rfl⟩
    · rw [dif_neg (fun h => hsp h.2.1)]
      exact .inl ⟨rfl, hsp, rfl⟩

theorem construct_eq_some {accepted : Bool}
    {candidate : PricesPos entryPrice stopLoss takeProfit → SMCCandidate}
    (h : construct accepted candidate = .ok (some c)) :
    accepted ∧ ∃ hprs, candidate hprs = c := by
  revert h
  fun_cases construct accepted candidate
  all_goals rintro ⟨⟩
  next hacp hprs => exact ⟨by simpa using hacp, hprs, rfl⟩

end Model

structure BlockSetup where
  family : PatternFamily
  side : Side
  ob : OrderBlock
  foundIn : CandleSequence
  htfTimeframe : Timeframe
  sweep : Option LiquiditySweep
  choch : Option ChangeOfCharacter
  bms : BreakInMarketStructure
  fvgs : List FairValueGap
  inducementEvents : List InducementEvent
  retracement : Option FibonacciRetracement
  invalidationLevel : ℚ
  bufferSymbol : String
  bufferTimeframe : Timeframe
  targets : List (Swing side)
  minTpRr : ℚ
  confluences : Nat
  chochDetected : Bool
  reportedChoch : Option ChangeOfCharacter
  sms : Option ShiftInMarketStructure := none
  reportsFvg : Bool := true
  htfChochIsMinor : Option Bool := none
  sessionContext : Option String := none
  level_pos : 0 < invalidationLevel

namespace BlockSetup

variable (config : SMCConfig) (ltf : CandleSequence) (b : BlockSetup)

def accepted : Bool :=
  validateAllObRules config b.ob b.fvgs b.sweep.toList b.inducementEvents b.retracement ltf

def entryPrice : ℚ := b.ob.midpoint

def innerEdge : ℚ :=
  match b.side with
  | .high => b.ob.lowerBound
  | .low => b.ob.upperBound

def stopLoss : ℚ :=
  structuralStopLoss b.side b.bufferSymbol b.bufferTimeframe b.invalidationLevel
    (some b.innerEdge) none

def takeProfit : Option ℚ :=
  findNearestTarget b.side b.entryPrice (|b.entryPrice - b.stopLoss| * b.minTpRr)
    (b.targets.map Swing.price)

def ltfConfirmed : Bool :=
  validateAllLtfConfirmations config b.sweep b.choch (some b.bms) (some b.ob) b.inducementEvents
    ltf (lastCandle ltf).close b.fvgs

def candidate (h : PricesPos b.entryPrice b.stopLoss b.takeProfit) : SMCCandidate :=
  let fvg := if b.reportsFvg then getAssociatedFvg config b.ob b.fvgs else none
  let idm := selectRelevantInducement b.side b.ob b.inducementEvents b.bms.breakoutPrice
  let fibContext := buildFibContext config b.entryPrice b.retracement
  let confirmed := b.ltfConfirmed config ltf
  { symbol := ltf.symbol, timeframe := ltf.timeframe, pattern := b.family.pattern b.side
    direction := b.side.breakDirection, timestamp := (lastCandle ltf).timestamp
    entryPrice := b.entryPrice, stopLoss := b.stopLoss, takeProfit := b.takeProfit
    htfTimeframe := b.htfTimeframe, ltfTimeframe := ltf.timeframe, bmsDetected := true
    bmsPrice := some b.bms.breakoutPrice, bmsTimestamp := some b.bms.timestamp
    chochDetected := b.chochDetected
    chochPrice := b.reportedChoch.map ChangeOfCharacter.breakoutPrice
    chochTimestamp := b.reportedChoch.map ChangeOfCharacter.timestamp, smsDetected := b.sms.isSome
    smsPrice := b.sms.map ShiftInMarketStructure.failedLevel
    smsTimestamp := b.sms.map ShiftInMarketStructure.timestamp
    orderBlockUpper := some b.ob.upperBound, orderBlockLower := some b.ob.lowerBound
    orderBlockTimestamp := some b.ob.timestamp, fvgUpper := fvg.map FairValueGap.upperBound
    fvgLower := fvg.map FairValueGap.lowerBound, fvgTimestamp := fvg.map FairValueGap.timestamp
    liquiditySwept := b.sweep.isSome, sweptLevel := b.sweep.map LiquiditySweep.sweptLevel
    sweepTimestamp := b.sweep.map LiquiditySweep.timestamp, inducementCleared := idm.isSome
    inducementLevel := idm.map InducementEvent.inducementLevel, ltfConfirmation := confirmed
    ltfConfirmationTimestamp := if confirmed then some (lastCandle ltf).timestamp else none
    displacementPips := some b.bms.displacementPips
    fibLevel := fibContext.map FibContext.percentage
    sessionContext := b.sessionContext
    metadata :=
      { confluences := some b.confluences, htfChochIsMinor := b.htfChochIsMinor
        fibContext := fibContext, sweepContext := b.sweep.map buildSweepContext }
    prices_pos := h }

def build : Except TaError (Option SMCCandidate) :=
  construct (b.accepted config ltf) (b.candidate config ltf)

end BlockSetup

namespace BlockSetup

variable {config : SMCConfig} {ltf : CandleSequence} {b : BlockSetup}

theorem lower_lt_entry : b.ob.lowerBound < b.entryPrice := by
  have h := b.ob.lower_lt_upper
  unfold entryPrice OrderBlock.midpoint
  linarith

theorem entry_lt_upper : b.entryPrice < b.ob.upperBound := by
  have h := b.ob.lower_lt_upper
  unfold entryPrice OrderBlock.midpoint
  linarith

theorem entryPrice_pos : 0 < b.entryPrice := b.ob.lower_pos.trans lower_lt_entry

theorem takeProfit_pos : ∀ target ∈ b.takeProfit, 0 < target := by
  intro target htgt
  obtain ⟨hm, -⟩ := findNearestTarget_eq_some htgt
  obtain ⟨swing, -, rfl⟩ := List.mem_map.mp hm
  exact swing.price_pos

theorem stopLoss_beyond (b : BlockSetup) : b.side.beyond b.stopLoss b.innerEdge :=
  (structuralStopLoss_beyond b.side b.bufferSymbol b.bufferTimeframe b.invalidationLevel
    (some b.innerEdge) none).2 b.innerEdge rfl

theorem stopLoss_lt_lower (hsi : b.side = .high) : b.stopLoss < b.ob.lowerBound := by
  have hbey := b.stopLoss_beyond
  simpa [innerEdge, hsi, Side.beyond] using hbey

theorem upper_lt_stopLoss (hsi : b.side = .low) : b.ob.upperBound < b.stopLoss := by
  have hbey := b.stopLoss_beyond
  simpa [innerEdge, hsi, Side.beyond] using hbey

theorem stopLoss_beyond_entry (b : BlockSetup) : b.side.beyond b.stopLoss b.entryPrice := by
  cases hsi : b.side with
  | high => exact decide_eq_true ((stopLoss_lt_lower hsi).trans lower_lt_entry)
  | low => exact decide_eq_true (entry_lt_upper.trans (upper_lt_stopLoss hsi))

def HasRoom (b : BlockSetup) : Prop :=
  b.side = .high →
    structuralBuffer b.bufferSymbol b.bufferTimeframe none < b.invalidationLevel ∧
      structuralBuffer b.bufferSymbol b.bufferTimeframe none < b.ob.lowerBound

theorem stopLoss_pos_iff : 0 < b.stopLoss ↔ b.HasRoom := by
  refine (structuralStopLoss_pos_iff b.level_pos).trans ?_
  unfold innerEdge
  refine imp_congr_right ?_
  intro hsi
  rw [hsi]

theorem build_cases (config : SMCConfig) (ltf : CandleSequence) (b : BlockSetup) :
    (b.accepted config ltf = false ∧ b.build config ltf = .ok none) ∨
      (b.accepted config ltf ∧ ¬ b.HasRoom ∧ b.build config ltf = .error .candidatePrice) ∨
      (b.accepted config ltf ∧ b.HasRoom ∧ ∃ c, b.build config ltf = .ok (some c)) := by
  rw [← stopLoss_pos_iff]
  exact construct_cases _ _ entryPrice_pos takeProfit_pos

structure Yields (b : BlockSetup) (ltf : CandleSequence) (c : SMCCandidate) : Prop where
  timeframe : c.timeframe = ltf.timeframe
  ltfTimeframe : c.ltfTimeframe = ltf.timeframe
  direction : c.direction = b.side.breakDirection
  entry : c.entryPrice = b.entryPrice
  stop : c.stopLoss = b.stopLoss
  target : c.takeProfit = b.takeProfit
  upper : c.orderBlockUpper = some b.ob.upperBound
  lower : c.orderBlockLower = some b.ob.lowerBound
  timestamp : c.orderBlockTimestamp = some b.ob.timestamp
  gap : ∀ t ∈ c.fvgTimestamp, ∃ fvg ∈ b.fvgs, fvg.timestamp = t

theorem build_eq_some (h : b.build config ltf = .ok (some c)) :
    b.accepted config ltf ∧ b.Yields ltf c := by
  obtain ⟨hacp, -, rfl⟩ := construct_eq_some h
  refine ⟨hacp, ⟨rfl, rfl, rfl, rfl, rfl, rfl, rfl, rfl, rfl, ?_⟩⟩
  intro t ht
  obtain ⟨fvg, hfvg, rfl⟩ := Option.map_eq_some_iff.mp ht
  refine ⟨fvg, ?_, rfl⟩
  split at hfvg
  · exact List.mem_of_find?_eq_some hfvg
  · cases hfvg

end BlockSetup

structure TurtleSetup where
  side : Side
  sweep : LiquiditySweep
  targets : List (Swing side)

namespace TurtleSetup

variable (config : SMCConfig) (ltf : CandleSequence) (b : TurtleSetup)

def sweptExtreme : ℚ :=
  match b.side with
  | .high => b.sweep.sweepLow
  | .low => b.sweep.sweepHigh

def accepted : Bool :=
  b.sweep.closedBackInside && config.turtleSoupMinPips ≤ b.sweep.sweepPips &&
    validateSessionTiming config ltf

def stopLoss : ℚ :=
  let structuralSl := structuralStopLoss b.side ltf.symbol ltf.timeframe b.sweptExtreme none none
  match b.side with
  | .high => min structuralSl (b.sweptExtreme - config.turtleSoupMinSlPips * pipValue ltf.symbol)
  | .low => max structuralSl (b.sweptExtreme + config.turtleSoupMinSlPips * pipValue ltf.symbol)

def takeProfit : Option ℚ :=
  findNearestTarget b.side b.sweep.sweptLevel
    (|b.sweep.sweptLevel - b.stopLoss config ltf| * minTpRr ltf.timeframe)
    (b.targets.map Swing.price)

def candidate (h : PricesPos b.sweep.sweptLevel (b.stopLoss config ltf) (b.takeProfit config ltf)) :
    SMCCandidate where
  symbol := ltf.symbol
  timeframe := ltf.timeframe
  pattern := PatternFamily.turtleSoup.pattern b.side
  direction := b.side.breakDirection
  timestamp := b.sweep.timestamp
  entryPrice := b.sweep.sweptLevel
  stopLoss := b.stopLoss config ltf
  takeProfit := b.takeProfit config ltf
  htfTimeframe := ltf.timeframe
  ltfTimeframe := ltf.timeframe
  liquiditySwept := true
  sweptLevel := some b.sweep.sweptLevel
  sweepTimestamp := some b.sweep.timestamp
  ltfConfirmation := true
  ltfConfirmationTimestamp := some b.sweep.timestamp
  metadata := { sweepContext := some (buildSweepContext b.sweep) }
  prices_pos := h

def build : Except TaError (Option SMCCandidate) :=
  construct (b.accepted config ltf) (b.candidate config ltf)

variable {config ltf b}

theorem takeProfit_pos : ∀ target ∈ b.takeProfit config ltf, 0 < target := by
  intro target htgt
  obtain ⟨hm, -⟩ := findNearestTarget_eq_some htgt
  obtain ⟨swing, -, rfl⟩ := List.mem_map.mp hm
  exact swing.price_pos

def HasRoom (config : SMCConfig) (ltf : CandleSequence) (b : TurtleSetup) : Prop :=
  b.side = .high →
    structuralBuffer ltf.symbol ltf.timeframe none < b.sweep.sweepLow ∧
      config.turtleSoupMinSlPips * pipValue ltf.symbol < b.sweep.sweepLow

theorem stopLoss_pos_iff : 0 < b.stopLoss config ltf ↔ b.HasRoom config ltf := by
  obtain ⟨side, sweep, -⟩ := b
  cases side
  · simp [stopLoss, HasRoom, structuralStopLoss, sweptExtreme]
  · have hbey := (structuralStopLoss_beyond .low ltf.symbol ltf.timeframe sweep.sweepHigh none
      none).1
    simp only [Side.beyond, decide_eq_true_eq] at hbey
    simp only [HasRoom, reduceCtorEq, false_imp_iff, iff_true]
    exact lt_max_of_lt_left (sweep.high_pos.trans hbey)

theorem stopLoss_beyond (config : SMCConfig) (ltf : CandleSequence) (b : TurtleSetup) :
    b.side.beyond (b.stopLoss config ltf) b.sweptExtreme := by
  have hbey := (structuralStopLoss_beyond b.side ltf.symbol ltf.timeframe b.sweptExtreme none
    none).1
  obtain ⟨side, sweep, targets⟩ := b
  cases side
  · simp only [Side.beyond, decide_eq_true_eq] at hbey
    exact decide_eq_true (min_lt_of_left_lt hbey)
  · simp only [Side.beyond, decide_eq_true_eq] at hbey
    exact decide_eq_true (lt_max_of_lt_left hbey)

theorem build_cases (config : SMCConfig) (ltf : CandleSequence) (b : TurtleSetup) :
    (b.accepted config ltf = false ∧ b.build config ltf = .ok none) ∨
      (b.accepted config ltf ∧ ¬ b.HasRoom config ltf ∧
        b.build config ltf = .error .candidatePrice) ∨
      (b.accepted config ltf ∧ b.HasRoom config ltf ∧ ∃ c, b.build config ltf = .ok (some c)) := by
  rw [← stopLoss_pos_iff]
  exact construct_cases _ _ b.sweep.level_pos takeProfit_pos

structure Yields (config : SMCConfig) (ltf : CandleSequence) (b : TurtleSetup)
    (c : SMCCandidate) : Prop where
  timeframe : c.timeframe = ltf.timeframe
  direction : c.direction = b.side.breakDirection
  entry : c.entryPrice = b.sweep.sweptLevel
  stop : c.stopLoss = b.stopLoss config ltf
  target : c.takeProfit = b.takeProfit config ltf
  upper : c.orderBlockUpper = none
  lower : c.orderBlockLower = none

theorem build_eq_some (h : b.build config ltf = .ok (some c)) : b.Yields config ltf c := by
  obtain ⟨-, -, rfl⟩ := construct_eq_some h
  exact ⟨rfl, rfl, rfl, rfl, rfl, rfl, rfl⟩

end TurtleSetup

end ETradie.Ta
