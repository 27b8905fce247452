import ETradie.Kernel.Collect
import ETradie.Ta.Candidates

namespace ETradie.Ta

def Side.opposite : Side → Side
  | .high => .low
  | .low => .high

structure SMCDetector where
  config : SMCConfig := .standard
  swing : SwingAnalyzer := .standard
  sweep : SweepAnalyzer := {}

def detectTurtleSoup {side : Side} (config : SMCConfig) (a : SweepAnalyzer) (s : CandleSequence)
    (swings : List (Swing side)) : List LiquiditySweep :=
  s.candles.zipIdx.flatMap (fun c => swings.filterMap (fun swing =>
    if c.2 ≤ swing.index then none
    else (detectSwingSweep a side c.1 swing c.2).filter (fun sweep =>
      sweep.closedBackInside && config.turtleSoupMinPips ≤ sweep.sweepPips)))

def Side.follows : Side → LiquiditySweep → Bool
  | .high, sweep => sweep.isBearishSweep
  | .low, sweep => sweep.isBullishSweep

def relevantSweepStep (config : SMCConfig) (side : Side) (bms : BreakInMarketStructure)
    (best : Option LiquiditySweep × Nat) (sweep : LiquiditySweep) : Option LiquiditySweep × Nat :=
  let distance := indexDistance sweep.candleIndex bms.candleIndex
  if config.sweepMaxCandleDistance < distance then best
  else if side.follows sweep ∧ distance < best.2 then (some sweep, distance)
  else best

def findRelevantSweep (config : SMCConfig) (sweeps : List LiquiditySweep) (side : Side)
    (bms : BreakInMarketStructure) : Option LiquiditySweep :=
  (sweeps.foldl (relevantSweepStep config side bms) (none, config.sweepMaxCandleDistance + 1)).1

def pivotAt (side : Side) (s : CandleSequence) (i : Nat) : Option (Swing side) :=
  match s.candles[i]?, s.candles[i + 1]?, s.candles[i + 2]? with
  | some before, some current, some after =>
    if side.beyond (side.extreme before) (side.extreme current) &&
        side.beyond (side.extreme after) (side.extreme current) then
      some
        { symbol := s.symbol, timeframe := s.timeframe, timestamp := current.timestamp
          price := side.extreme current, index := i + 1, strength := 1, leftBars := 1
          rightBars := 1, isEqual := false, equalTolerancePips := none
          price_pos := side.extreme_pos current, strength_bounds := ⟨le_refl 1, by decide⟩
          left_pos := le_refl 1, right_pos := le_refl 1 }
    else none
  | _, _, _ => none

def pivots (side : Side) (s : CandleSequence) : List (Swing side) :=
  (List.range (s.candles.length - 2)).filterMap (pivotAt side s)

namespace SMCDetector

variable (d : SMCDetector) (s htf ltf : CandleSequence) (side : Side)

def bms : List BreakInMarketStructure := detectBms d.config s (detectSwings d.swing side s)

def choch : List ChangeOfCharacter := detectChoch s (detectSwings d.swing side s)

def sms : List ShiftInMarketStructure := detectSms s (detectSwings d.swing side.opposite s)

def latestBms : Option BreakInMarketStructure :=
  latestBy BreakInMarketStructure.timestamp (d.bms s side)

def latestChoch : Option ChangeOfCharacter := latestBy ChangeOfCharacter.timestamp (d.choch s side)

def latestSms : Option ShiftInMarketStructure :=
  latestBy ShiftInMarketStructure.timestamp (d.sms s side)

def allFvgs : List FairValueGap := detectFvgs d.config ltf ++ detectFvgs d.config htf

def allInducements : List InducementEvent :=
  detectBullishInducement d.config ltf (detectSwingLows d.swing ltf) ++
    detectBearishInducement d.config ltf (detectSwingHighs d.swing ltf)

def turtleSoup : List LiquiditySweep :=
  if d.config.enableTurtleSoup then
    detectTurtleSoup d.config d.sweep ltf (detectSwings d.swing side.opposite ltf)
  else []

def allSweeps : List LiquiditySweep :=
  detectSweepsInSequence d.sweep ltf (detectSwingHighs d.swing ltf) (detectSwingLows d.swing ltf) ++
    d.turtleSoup ltf .high ++ d.turtleSoup ltf .low

def sweepFor (bms : BreakInMarketStructure) : Option LiquiditySweep :=
  findRelevantSweep d.config (d.allSweeps ltf) side bms

variable {d s side}

theorem bms_eq : d.bms s side = (detectSwings d.swing side s).filterMap (bmsOf d.config s) := by
  rw [bms, detectBms, sortedByTime_detectSwings]

theorem choch_eq : d.choch s side = (detectSwings d.swing side s).filterMap (chochOf s) := by
  rw [choch, detectChoch, sortedByTime_detectSwings]

theorem sms_eq : d.sms s side = smsEvents s (detectSwings d.swing side.opposite s) := by
  rw [sms, detectSms, sortedByTime_detectSwings]

end SMCDetector

section Confluences

variable (config : SMCConfig) (ob : OrderBlock) (fvgs : List FairValueGap)
  (retracement : Option FibonacciRetracement) (inducementEvents : List InducementEvent)

def sharedConfluences : Nat :=
  let fibScore := scoreObFibConfluence config ob retracement
  (fvgs.any (·.direction = ob.direction)).toNat +
    (if 3 ≤ fibScore then 2 else if 2 ≤ fibScore then 1 else 0) +
    (inducementEvents.any (·.cleared)).toNat

def blockConfluences : Nat :=
  (decide (0 < ob.displacementPips) && decide (config.bmsStrongDisplacementPips ≤
    ob.displacementPips / pipValue ob.symbol)).toNat + ob.isBreaker.toNat

def sweepConfluence (sweep : Option LiquiditySweep) : Nat := (sweep.any (·.closedBackInside)).toNat

def countConfluences (htfBms ltfBms : BreakInMarketStructure) (sweep : Option LiquiditySweep)
    (choch : Option ChangeOfCharacter) : Nat :=
  1 + htfBms.confirmed.toNat + ltfBms.confirmed.toNat + sweepConfluence sweep +
    choch.isSome.toNat + sharedConfluences config ob fvgs retracement inducementEvents +
    blockConfluences config ob

def countSmsConfluences (bms : BreakInMarketStructure) (choch : Option ChangeOfCharacter) : Nat :=
  2 + bms.confirmed.toNat + choch.isSome.toNat +
    sharedConfluences config ob fvgs retracement inducementEvents + blockConfluences config ob

def countChochConfluences (htfChoch : ChangeOfCharacter) (ltfBms : BreakInMarketStructure)
    (ltfChoch : Option ChangeOfCharacter) (sweep : Option LiquiditySweep) : Nat :=
  2 + (!htfChoch.isMinor).toNat + ltfBms.confirmed.toNat + ltfChoch.isSome.toNat +
    sweepConfluence sweep + sharedConfluences config ob fvgs retracement inducementEvents +
    blockConfluences config ob

def countAmdConfluences (sweep : Option LiquiditySweep) (choch : Option ChangeOfCharacter) : Nat :=
  2 + choch.isSome.toNat + sweepConfluence sweep +
    sharedConfluences config ob fvgs retracement inducementEvents

end Confluences

def legBetween (s : CandleSequence) (side : Side) (origin terminal : ℚ × Int)
    (horigin : 0 < origin.1) (hterminal : 0 < terminal.1) : Option FibonacciRetracement :=
  match side with
  | .high => buildLeg s true origin terminal horigin
  | .low => buildLeg s false terminal origin hterminal

def OrderBlock.edge (ob : OrderBlock) : Side → { level : ℚ // 0 < level }
  | .high => ⟨ob.lowerBound, ob.lower_pos⟩
  | .low => ⟨ob.upperBound, ob.lower_pos.trans ob.lower_lt_upper⟩

def LiquiditySweep.extremeFor (sweep : LiquiditySweep) : Side → { level : ℚ // 0 < level }
  | .high => ⟨sweep.sweepLow, sweep.low_pos⟩
  | .low => ⟨sweep.sweepHigh, sweep.high_pos⟩

def DealingRange.extremeFor (range : DealingRange) : Side → { level : ℚ // 0 < level }
  | .high => ⟨range.low, range.low_pos⟩
  | .low => ⟨range.high, range.low_pos.trans range.low_lt_high⟩

namespace SMCDetector

variable (d : SMCDetector) (htf ltf : CandleSequence) (side : Side)

def continuationSetup (htfBms : BreakInMarketStructure) (sweep : Option LiquiditySweep)
    (choch : Option ChangeOfCharacter) (bms : BreakInMarketStructure) (ob : OrderBlock)
    (foundIn : CandleSequence) : Option BlockSetup :=
  if htfBms.direction ≠ side.breakDirection ∨ bms.direction ≠ side.breakDirection ∨
      ob.direction ≠ side.breakDirection then none
  else
    let fvgs := d.allFvgs htf ltf
    let inducementEvents := d.allInducements ltf
    let retracement := sweep.bind (fun sweep => legBetween ltf side
      (sweep.sweptLevel, sweep.timestamp) (bms.breakoutPrice, bms.timestamp) sweep.level_pos
      bms.breakout_pos)
    let level := (sweep.map (·.extremeFor side)).getD (ob.edge side)
    some
      { family := .shBmsRto, side := side, ob := ob, foundIn := foundIn
        htfTimeframe := htf.timeframe, sweep := sweep, choch := choch, bms := bms, fvgs := fvgs
        inducementEvents := inducementEvents, retracement := retracement
        invalidationLevel := level.1, bufferSymbol := ob.symbol, bufferTimeframe := ob.timeframe
        targets := pivots side htf, minTpRr := minTpRr ob.timeframe
        confluences := countConfluences d.config ob fvgs retracement inducementEvents htfBms bms
          sweep choch
        chochDetected := choch.isSome
        reportedChoch := choch
        level_pos := level.2 }

def smsSetup (sms : ShiftInMarketStructure) (bms : BreakInMarketStructure)
    (choch : Option ChangeOfCharacter) (ob : OrderBlock) (foundIn : CandleSequence) :
    Option BlockSetup :=
  if sms.direction ≠ side.breakDirection ∨ bms.direction ≠ side.breakDirection ∨
      ob.direction ≠ side.breakDirection then none
  else
    let fvgs := d.allFvgs htf ltf
    let inducementEvents := d.allInducements ltf
    let retracement := legBetween ltf side (sms.failedLevel, sms.failedLevelTimestamp)
      (bms.breakoutPrice, bms.timestamp) sms.failed_pos bms.breakout_pos
    some
      { family := .smsBmsRto, side := side, ob := ob, foundIn := foundIn
        htfTimeframe := htf.timeframe, sweep := none, choch := choch, bms := bms, fvgs := fvgs
        inducementEvents := inducementEvents, retracement := retracement
        invalidationLevel := sms.failedLevel, bufferSymbol := ob.symbol
        bufferTimeframe := ob.timeframe, targets := detectSwings d.swing side ltf
        minTpRr := minTpRr ob.timeframe
        confluences := countSmsConfluences d.config ob fvgs retracement inducementEvents bms choch
        chochDetected := side = .low || choch.isSome, reportedChoch := choch, sms := some sms
        level_pos := sms.failed_pos }

def chochSetup (htfChoch : ChangeOfCharacter) (bms : BreakInMarketStructure)
    (ltfChoch : Option ChangeOfCharacter) (sweep : Option LiquiditySweep) (ob : OrderBlock)
    (foundIn : CandleSequence) : BlockSetup :=
  let fvgs := d.allFvgs htf ltf
  let inducementEvents := d.allInducements ltf
  let retracement := legBetween ltf side (htfChoch.brokenLevel, htfChoch.brokenLevelTimestamp)
    (htfChoch.breakoutPrice, htfChoch.timestamp) htfChoch.broken_pos htfChoch.breakout_pos
  { family := .chochBmsRto, side := side, ob := ob, foundIn := foundIn
    htfTimeframe := htf.timeframe, sweep := sweep, choch := ltfChoch, bms := bms, fvgs := fvgs
    inducementEvents := inducementEvents, retracement := retracement
    invalidationLevel := htfChoch.brokenLevel, bufferSymbol := ltf.symbol
    bufferTimeframe := ltf.timeframe, targets := detectSwings d.swing side ltf
    minTpRr := minTpRr ltf.timeframe
    confluences := countChochConfluences d.config ob fvgs retracement inducementEvents htfChoch bms
      ltfChoch sweep
    chochDetected := true
    reportedChoch := some htfChoch
    reportsFvg := false
    htfChochIsMinor := some htfChoch.isMinor
    level_pos := htfChoch.broken_pos }

def amdSetup (context : AMDContext) (sweep : Option LiquiditySweep) (bms : BreakInMarketStructure)
    (choch : Option ChangeOfCharacter) (ob : OrderBlock) (foundIn : CandleSequence) :
    Option BlockSetup :=
  if context.phase ≠ .distribution ∨ context.distributionDirection ≠ some side.breakDirection ∨
      bms.direction ≠ side.breakDirection ∨ ob.direction ≠ side.breakDirection then none
  else
    let fvgs := d.allFvgs htf ltf
    let inducementEvents := d.allInducements ltf
    let retracement := context.asianRange.bind (fun range => legBetween ltf side
      ((range.extremeFor side).1, range.startTime) (bms.breakoutPrice, bms.timestamp)
      (range.extremeFor side).2 bms.breakout_pos)
    let level := (context.asianRange.map (·.extremeFor side)).getD (ob.edge side)
    some
      { family := .amd, side := side, ob := ob, foundIn := foundIn, htfTimeframe := htf.timeframe
        sweep := sweep, choch := choch, bms := bms, fvgs := fvgs
        inducementEvents := inducementEvents, retracement := retracement
        invalidationLevel := level.1, bufferSymbol := ob.symbol, bufferTimeframe := ob.timeframe
        targets := detectSwings d.swing side ltf, minTpRr := minTpRr ob.timeframe
        confluences := countAmdConfluences d.config ob fvgs retracement inducementEvents sweep choch
        chochDetected := choch.isSome, reportedChoch := choch
        sessionContext := some "AMD_DISTRIBUTION", level_pos := level.2 }

/-- The continuations of the breaks of one sequence and their own order blocks. -/
def bmsSetups (latest : BreakInMarketStructure) (s : CandleSequence) : List BlockSetup :=
  (d.bms s side).filterMap (fun bms => (detectOb d.config side s bms).bind (fun ob =>
    d.continuationSetup htf ltf side latest (d.sweepFor ltf side bms) (d.latestChoch ltf side)
      bms ob s))

def continuationSetups : List BlockSetup :=
  match d.latestBms htf side with
  | none => []
  | some latest =>
    d.bmsSetups htf ltf side latest htf ++ d.bmsSetups htf ltf side latest ltf ++
    (d.choch ltf side).filterMap (fun event => (detectObFromChoch ltf event).bind (fun ob =>
      if ob.direction ≠ side.breakDirection then none
      else d.continuationSetup htf ltf side latest (d.sweepFor ltf side latest) (some event)
        latest ob ltf))

def smsCoherenceWindow : Int := htf.timeframe.minutes * d.config.smsMaxObCandleDistance * 60000000

def coherentSmsSetup (sms : ShiftInMarketStructure) (bms : BreakInMarketStructure)
    (choch : Option ChangeOfCharacter) (ob : OrderBlock) (foundIn : CandleSequence) :
    Option BlockSetup :=
  if d.smsCoherenceWindow htf < |ob.timestamp - sms.timestamp| then none
  else d.smsSetup htf ltf side sms bms choch ob foundIn

def reversalSetups : List BlockSetup :=
  match d.latestSms htf side with
  | none => []
  | some sms =>
    (d.bms ltf side).filterMap (fun bms => (detectOb d.config side ltf bms).bind (fun ob =>
      d.coherentSmsSetup htf ltf side sms bms (d.latestChoch ltf side) ob ltf)) ++
    if (d.bms ltf side).isEmpty then
      (d.sms htf side).filterMap (fun _ => (d.latestBms htf side).bind (fun bms =>
        (detectOb d.config side htf bms).bind (fun ob =>
          d.coherentSmsSetup htf ltf side sms bms none ob htf)))
    else []

def chochSetups : List BlockSetup :=
  match d.latestChoch htf side with
  | none => []
  | some htfChoch =>
    (d.bms ltf side).filterMap (fun bms => (detectOb d.config side ltf bms).map (fun ob =>
      d.chochSetup htf ltf side htfChoch bms (d.latestChoch ltf side) (d.sweepFor ltf side bms)
        ob ltf)) ++
    if (d.bms ltf side).isEmpty then
      ((d.latestBms htf side).bind (fun bms => (detectOb d.config side htf bms).map (fun ob =>
        d.chochSetup htf ltf side htfChoch bms none none ob htf))).toList
    else []

def turtleSetups : List TurtleSetup :=
  ((latestBy LiquiditySweep.timestamp (d.turtleSoup ltf side)).map (fun sweep =>
    { side := side, sweep := sweep
      targets := detectSwings d.swing side ltf })).toList

def amdSetups : List BlockSetup :=
  match detectAmdContext ltf with
  | none => []
  | some context =>
    if context.distributionDirection = some side.breakDirection then
      (d.bms ltf side).filterMap (fun bms => (detectOb d.config side ltf bms).bind (fun ob =>
        d.amdSetup htf ltf side context (d.sweepFor ltf side bms) bms (d.latestChoch ltf side)
          ob ltf))
    else []

def bothSides {α : Type} (enabled : Bool) (setups : Side → List α) : List α :=
  if enabled then setups .high ++ setups .low else []

end SMCDetector

inductive Setup where
  | block (b : BlockSetup)
  | turtle (b : TurtleSetup)

namespace Setup

def build (config : SMCConfig) (ltf : CandleSequence) : Setup → Except TaError (Option SMCCandidate)
  | .block b => b.build config ltf
  | .turtle b => b.build config ltf

def origin : Setup → Option (OrderBlock × CandleSequence)
  | .block b => some (b.ob, b.foundIn)
  | .turtle _ => none

def traced (config : SMCConfig) (ltf : CandleSequence) (setup : Setup) :
    Except TaError (Option (SMCCandidate × Option (OrderBlock × CandleSequence))) :=
  (setup.build config ltf).map (Option.map (fun c => (c, setup.origin)))

end Setup

namespace SMCDetector

variable (d : SMCDetector) (htf ltf : CandleSequence)

def setups : List Setup :=
  (bothSides d.config.enableShBmsRto (d.continuationSetups htf ltf)).map Setup.block ++
    (bothSides d.config.enableSmsBmsRto (d.reversalSetups htf ltf)).map Setup.block ++
    (bothSides d.config.enableChochReversal (d.chochSetups htf ltf)).map Setup.block ++
    (bothSides d.config.enableTurtleSoup (d.turtleSetups ltf)).map Setup.turtle ++
    (bothSides d.config.enableAmd (d.amdSetups htf ltf)).map Setup.block

def detectTraced : Except TaError (List (SMCCandidate × Option (OrderBlock × CandleSequence))) :=
  if d.config.enabled then Kernel.collect (Setup.traced d.config ltf) (d.setups htf ltf) else .ok []

def detectPatterns : Except TaError (List SMCCandidate) :=
  (d.detectTraced htf ltf).map (List.map Prod.fst)

end SMCDetector

section Displacement

variable {config : SMCConfig} {side : Side} {s : CandleSequence} {bms : BreakInMarketStructure}
variable {ob : OrderBlock}

theorem zero_displacement_nonneg : (0 : ℚ) ≤ 0 := by exact le_refl 0

def OrderBlock.flat (ob : OrderBlock) : OrderBlock :=
  { ob with displacementPips := 0, displacement_nonneg := zero_displacement_nonneg }

structure CountsDisplacement (config : SMCConfig) (ob : OrderBlock) (test : Prop) : Prop where
  continuation : ∀ fvgs retracement idms htfBms ltfBms sweep choch,
    countConfluences config ob fvgs retracement idms htfBms ltfBms sweep choch =
        countConfluences config ob.flat fvgs retracement idms htfBms ltfBms sweep choch + 1 ↔ test
  sms : ∀ fvgs retracement idms bms choch,
    countSmsConfluences config ob fvgs retracement idms bms choch =
        countSmsConfluences config ob.flat fvgs retracement idms bms choch + 1 ↔ test
  choch : ∀ fvgs retracement idms htfChoch ltfBms ltfChoch sweep,
    countChochConfluences config ob fvgs retracement idms htfChoch ltfBms ltfChoch sweep =
        countChochConfluences config ob.flat fvgs retracement idms htfChoch ltfBms ltfChoch sweep +
          1 ↔ test

theorem detectOb_displacement (h : detectOb config side s bms = some ob) :
    ob.displacementPips = pips (ob.edge side).1 bms.breakoutPrice s.symbol ∧
      ob.symbol = s.symbol := by
  unfold detectOb at h
  split_ifs at h
  obtain ⟨⟨c, j⟩, -, hob⟩ := Option.bind_eq_some_iff.mp h
  unfold OrderBlock.ofCandle at hob
  split_ifs at hob
  cases hob
  cases side
  · exact ⟨rfl, rfl⟩
  · exact ⟨rfl, rfl⟩

def displacementPoint (config : SMCConfig) (ob : OrderBlock) : Prop :=
  0 < ob.displacementPips ∧
    config.bmsStrongDisplacementPips ≤ ob.displacementPips / pipValue ob.symbol

theorem blockConfluences_flat :
    blockConfluences config ob = blockConfluences config ob.flat + 1 ↔
      displacementPoint config ob := by
  have hflat : blockConfluences config ob.flat = ob.isBreaker.toNat := by
    simp [blockConfluences, OrderBlock.flat]
  rw [hflat]
  unfold blockConfluences
  rw [← Bool.decide_and]
  by_cases h : 0 < ob.displacementPips ∧
      config.bmsStrongDisplacementPips ≤ ob.displacementPips / pipValue ob.symbol
  · rw [decide_eq_true h]
    exact iff_of_true (Nat.add_comm _ _) h
  · rw [decide_eq_false h]
    refine iff_of_false ?_ h
    rw [Bool.toNat_false]
    omega

theorem countsDisplacement_iff (bms : BreakInMarketStructure) {test : Prop} :
    CountsDisplacement config ob test ↔ (displacementPoint config ob ↔ test) := by
  have hcnt : ∀ {n m : Nat}, n = m + blockConfluences config ob →
      (n = m + blockConfluences config ob.flat + 1 ↔ displacementPoint config ob) := by
    intro n m hn
    rw [← blockConfluences_flat]
    omega
  constructor
  · intro h
    rw [← h.sms [] none [] bms none]
    exact (hcnt rfl).symm
  · intro h
    exact ⟨fun _ _ _ _ _ _ _ => (hcnt rfl).trans h, fun _ _ _ _ _ => (hcnt rfl).trans h,
      fun _ _ _ _ _ _ _ => (hcnt rfl).trans h⟩

theorem pipValue_le_one (symbol : String) : pipValue symbol ≤ 1 := by
  unfold pipValue
  split <;> norm_num

theorem displacement_point_iff (config : SMCConfig) (side : Side) (s : CandleSequence)
    (bms : BreakInMarketStructure) (ob : OrderBlock) (h : detectOb config side s bms = some ob)
    (hstrong : 0 < config.bmsStrongDisplacementPips) :
    CountsDisplacement config ob (config.bmsStrongDisplacementPips ≤
        pips (ob.edge side).1 bms.breakoutPrice s.symbol) ↔
      ¬ (config.bmsStrongDisplacementPips * pipValue s.symbol ≤
          pips (ob.edge side).1 bms.breakoutPrice s.symbol ∧
        pips (ob.edge side).1 bms.breakoutPrice s.symbol < config.bmsStrongDisplacementPips) := by
  obtain ⟨hdisp, hsym⟩ := detectOb_displacement h
  have hpip := pipValue_pos s.symbol
  have hsca : config.bmsStrongDisplacementPips * pipValue s.symbol ≤
      config.bmsStrongDisplacementPips := mul_le_of_le_one_right hstrong.le (pipValue_le_one _)
  rw [countsDisplacement_iff bms, displacementPoint, hsym, ← hdisp, le_div_iff₀ hpip,
    not_and, not_lt]
  constructor
  · intro hexact hrch
    exact hexact.mp ⟨(mul_pos hstrong hpip).trans_le hrch, hrch⟩
  · intro hsto
    exact ⟨fun hpt => hsto hpt.2, fun hrch => ⟨hstrong.trans_le hrch, hsca.trans hrch⟩⟩

end Displacement

def shallow? : Option CandleSequence :=
  CandleSequence.ofPrices? "EURUSD" .h1 32400000000
    ([(50, 60, 40, 50), (50, 65, 45, 60), (60, 70, 55, 65), (65, 75, 60, 70), (70, 80, 65, 75),
      (75, 100, 70, 95), (95, 98, 85, 90), (90, 96, 86, 92), (92, 97, 88, 95), (95, 98, 90, 98),
      (98, 99, 88, 89), (89, 136, 87, 135), (135, 141, 130, 140), (140, 150, 135, 145)].map
        (fun p : ℚ × ℚ × ℚ × ℚ => (11 / 10 + p.1 / 10000, 11 / 10 + p.2.1 / 10000,
          11 / 10 + p.2.2.1 / 10000, 11 / 10 + p.2.2.2 / 10000)))

theorem displacement_point_iff_shallow :
    ∃ s bms ob, shallow? = some s ∧ detectBullishOb .standard s bms = some ob ∧
      (CountsDisplacement .standard ob (50 ≤ pips ob.lowerBound bms.breakoutPrice s.symbol) ↔
        ¬ (50 * pipValue s.symbol ≤ pips ob.lowerBound bms.breakoutPrice s.symbol ∧
          pips ob.lowerBound bms.breakoutPrice s.symbol < 50)) := by
  have hso : (shallow?.bind (fun s =>
      (firstBullishBms s).bind (detectBullishOb .standard s))).isSome = true := by
    decide +kernel
  obtain ⟨ob, hb⟩ := Option.isSome_iff_exists.mp hso
  obtain ⟨s, hs, hblo⟩ := Option.bind_eq_some_iff.mp hb
  obtain ⟨bms, -, hob⟩ := Option.bind_eq_some_iff.mp hblo
  exact ⟨s, bms, ob, hs, hob, displacement_point_iff .standard .high s bms ob hob (by decide +kernel)⟩

theorem shallow_displacement :
    shallow?.bind (fun s => (firstBullishBms s).bind (fun bms =>
      (detectBullishOb .standard s bms).map (fun ob =>
        (pips ob.lowerBound bms.breakoutPrice s.symbol,
          countSmsConfluences .standard ob [] none [] bms none,
          countSmsConfluences .standard ob.flat [] none [] bms none)))) = some (47, 4, 3) := by
  decide +kernel

end ETradie.Ta
