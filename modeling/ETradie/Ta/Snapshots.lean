import ETradie.Ta.Geometry
import ETradie.Ta.SupplyDemand

namespace ETradie.Ta

variable {side : Side}

def brokenTrend (bmsEvents : List BreakInMarketStructure) (chochEvents : List ChangeOfCharacter) :
    Option Direction :=
  match latestBy BreakInMarketStructure.timestamp bmsEvents,
      latestBy ChangeOfCharacter.timestamp (chochEvents.filter (fun choch => !choch.isMinor)) with
  | some bms, some choch =>
    if choch.timestamp < bms.timestamp then some bms.direction else some choch.direction
  | some bms, none => some bms.direction
  | none, some choch => some choch.direction
  | none, none => none

def progresses (swings : List (Swing side)) : Bool :=
  let recent := (sortedByTime swings).drop (swings.length - 3)
  2 ≤ recent.length && (recent.zip recent.tail).all (fun p => side.beyond p.1.price p.2.price)

def farthest (first : Swing side) (rest : List (Swing side)) : ℚ :=
  rest.foldl (fun m swing => if side.beyond m swing.price then swing.price else m) first.price

def determineTrendDirection (s : CandleSequence) (swingHighs : List SwingHigh)
    (swingLows : List SwingLow) (bmsEvents : List BreakInMarketStructure)
    (chochEvents : List ChangeOfCharacter) : Direction :=
  match swingHighs, swingLows with
  | high :: highs, low :: lows =>
    (brokenTrend bmsEvents chochEvents).getD
      (let latestClose := (lastCandle s).close
      let highest := farthest high highs
      let lowest := farthest low lows
      if highest < latestClose then .bullish
      else if latestClose < lowest then .bearish
      else if progresses (high :: highs) then .bullish
      else if progresses (low :: lows) then .bearish
      else if (highest + lowest) / 2 ≤ latestClose then .bullish
      else .bearish)
  | _, _ => .neutral

def createRetracement (high : SwingHigh) (low : SwingLow) (isBullish : Bool) :
    Except TaError FibonacciRetracement :=
  if h : low.price < high.price then
    .ok
      { symbol := high.symbol, timeframe := high.timeframe, swingHigh := high.price
        swingLow := low.price, swingHighTimestamp := high.timestamp
        swingLowTimestamp := low.timestamp, isBullish := isBullish, low_pos := low.price_pos
        low_lt_high := h }
  else .error .swingOrder

def latestRetracements (swingHighs : List SwingHigh) (swingLows : List SwingLow) :
    Except TaError (List FibonacciRetracement) :=
  match latestBy Swing.timestamp swingHighs, latestBy Swing.timestamp swingLows with
  | some high, some low =>
    (createRetracement high low (high.timestamp < low.timestamp)).map (fun fib => [fib])
  | _, _ => .ok []

theorem createRetracement_ok_iff {high : SwingHigh} {low : SwingLow} {isBullish : Bool} :
    (∃ fib, createRetracement high low isBullish = .ok fib) ↔ low.price < high.price := by
  unfold createRetracement
  split
  · next h => simp [h]
  · next h => simp [h]

theorem latestRetracements_ok_iff {swingHighs : List SwingHigh} {swingLows : List SwingLow} :
    (∃ fibs, latestRetracements swingHighs swingLows = .ok fibs) ↔
      ∀ high ∈ latestBy Swing.timestamp swingHighs, ∀ low ∈ latestBy Swing.timestamp swingLows,
        low.price < high.price := by
  unfold latestRetracements
  cases latestBy Swing.timestamp swingHighs with
  | none => simp
  | some high =>
    cases latestBy Swing.timestamp swingLows with
    | none => simp
    | some low => simp [Kernel.exists_map_eq_ok, createRetracement_ok_iff]

structure TechnicalSnapshot where
  symbol : String
  timeframe : Timeframe
  timestamp : Int
  candles : CandleSequence
  swingHighs : List SwingHigh
  swingLows : List SwingLow
  chochEvents : List ChangeOfCharacter
  bmsEvents : List BreakInMarketStructure
  smsEvents : List ShiftInMarketStructure
  srFlips : List SRFlip
  rsFlips : List RSFlip
  liquiditySweeps : List LiquiditySweep
  inducementEvents : List InducementEvent
  equalHighsLows : List EqualHighsLows
  orderBlocks : List OrderBlock
  fvgs : List FairValueGap
  breakerBlocks : List BreakerBlock
  supplyZones : List SupplyZone
  demandZones : List DemandZone
  qmlLevels : List QuasiModoLevel
  fibonacciRetracements : List FibonacciRetracement
  dealingRanges : List DealingRange
  activeSession : Session
  trendDirection : Direction

structure TAOrchestrator where
  smc : SMCDetector := {}
  marubozu : MarubozuAnalyzer := {}
  liquidity : LiquidityAnalyzer := .standard

namespace TAOrchestrator

variable (o : TAOrchestrator) (s : CandleSequence) (side : Side)

def swings : List (Swing side) := detectSwings o.smc.swing side s

def allBms : List BreakInMarketStructure := o.smc.bms s .high ++ o.smc.bms s .low

def allChoch : List ChangeOfCharacter := o.smc.choch s .high ++ o.smc.choch s .low

def blockOf (bms : BreakInMarketStructure) : Option OrderBlock :=
  if bms.direction = .bullish then detectBullishOb o.smc.config s bms
  else detectBearishOb o.smc.config s bms

def orderBlocks : List OrderBlock :=
  ((o.allBms s).filterMap (o.blockOf s)).map (fun ob =>
    if validateZoneFreshness ob s then ob else { ob with mitigated := true })

def flips : List (LevelFlip side) := detectFlips o.marubozu s (o.swings s side)

def qmLevels : List QuasiModoLevel := detectQm s (o.swings s side) (o.swings s side.opposite)

def zones : Except TaError (List (QmZone side)) :=
  createZones side s (o.qmLevels s side) (o.flips s side.opposite)

def retracements : Except TaError (List FibonacciRetracement) :=
  latestRetracements (o.swings s .high) (o.swings s .low)

def dealingRanges : List DealingRange :=
  [Session.asia, .london, .newYork].filterMap
    (fun session => (extractSessionRange s session).bind createFromSession)

def assemble (supplyZones : List SupplyZone) (demandZones : List DemandZone)
    (retracements : List FibonacciRetracement) : TechnicalSnapshot where
  symbol := s.symbol
  timeframe := s.timeframe
  timestamp := (lastCandle s).timestamp
  candles := s
  swingHighs := o.swings s .high
  swingLows := o.swings s .low
  chochEvents := o.allChoch s
  bmsEvents := o.allBms s
  smsEvents := o.smc.sms s .high ++ o.smc.sms s .low
  srFlips := o.flips s .low
  rsFlips := o.flips s .high
  liquiditySweeps := detectSweepsInSequence o.smc.sweep s (o.swings s .high) (o.swings s .low)
  inducementEvents := detectBullishInducement o.smc.config s (o.swings s .low) ++
    detectBearishInducement o.smc.config s (o.swings s .high)
  equalHighsLows := detectEqual o.liquidity (o.swings s .high) ++
    detectEqual o.liquidity (o.swings s .low)
  orderBlocks := o.orderBlocks s
  fvgs := detectFvgs o.smc.config s
  breakerBlocks := (o.orderBlocks s).filterMap (detectBreakerFromOb s)
  supplyZones := supplyZones
  demandZones := demandZones
  qmlLevels := o.qmLevels s .high ++ o.qmLevels s .low
  fibonacciRetracements := retracements
  dealingRanges := dealingRanges s
  activeSession := identifySession (lastCandle s).timestamp
  trendDirection := determineTrendDirection s (o.swings s .high) (o.swings s .low) (o.allBms s)
    (o.allChoch s)

def enrichedSnapshot : Except TaError TechnicalSnapshot :=
  match o.zones s .high with
  | .error e => .error e
  | .ok supplyZones =>
    match o.zones s .low with
    | .error e => .error e
    | .ok demandZones =>
      match o.retracements s with
      | .error e => .error e
      | .ok retracements => .ok (o.assemble s supplyZones demandZones retracements)

def buildEnrichedSnapshot : Option TechnicalSnapshot := (o.enrichedSnapshot s).toOption

variable {o s}

theorem buildEnrichedSnapshot_eq_some {snap : TechnicalSnapshot}
    (h : o.buildEnrichedSnapshot s = some snap) :
    ∃ supplyZones demandZones retracements,
      o.zones s .high = .ok supplyZones ∧ o.zones s .low = .ok demandZones ∧
        o.retracements s = .ok retracements ∧
          snap = o.assemble s supplyZones demandZones retracements := by
  revert h
  unfold buildEnrichedSnapshot
  fun_cases enrichedSnapshot o s
  all_goals rintro ⟨⟩
  next hsup _ hdem _ hrtr => exact ⟨_, _, _, hsup, hdem, hrtr, rfl⟩

structure Drawable (o : TAOrchestrator) (s : CandleSequence) : Prop where
  leg : ∀ high ∈ latestBy Swing.timestamp (o.swings s .high),
    ∀ low ∈ latestBy Swing.timestamp (o.swings s .low), low.price < high.price
  zone : ∀ side, ∀ qm ∈ o.qmLevels s side, ∀ flip ∈ o.flips s side.opposite,
    qm.qmlPrice ≠ flip.newLevel

theorem buildEnrichedSnapshot_isSome_iff :
    (o.buildEnrichedSnapshot s).isSome ↔ o.Drawable s := by
  rw [Option.isSome_iff_exists]
  constructor
  · rintro ⟨snap, h⟩
    obtain ⟨supplyZones, demandZones, retracements, hsup, hdem, hrtr, -⟩ :=
      buildEnrichedSnapshot_eq_some h
    refine ⟨latestRetracements_ok_iff.mp ⟨retracements, hrtr⟩, ?_⟩
    intro side
    cases side
    · exact createZones_ok_iff.mp ⟨supplyZones, hsup⟩
    · exact createZones_ok_iff.mp ⟨demandZones, hdem⟩
  · rintro ⟨hleg, hzn⟩
    have hzon : ∀ side, ∃ zones, o.zones s side = .ok zones :=
      fun side => createZones_ok_iff.mpr (hzn side)
    obtain ⟨supplyZones, hsup⟩ := hzon .high
    obtain ⟨demandZones, hdem⟩ := hzon .low
    obtain ⟨retracements, hrtr⟩ := latestRetracements_ok_iff.mpr hleg
    refine ⟨o.assemble s supplyZones demandZones retracements, ?_⟩
    unfold buildEnrichedSnapshot enrichedSnapshot
    rw [hsup]
    rw [hdem]
    rw [TAOrchestrator.retracements, hrtr]
    rfl

end TAOrchestrator

section TrendFacts

variable {o : TAOrchestrator} {s : CandleSequence}

end TrendFacts

variable {ltf : CandleSequence}

section Completion

namespace Setup

def accepted (config : SMCConfig) (ltf : CandleSequence) : Setup → Bool
  | .block b => b.accepted config ltf
  | .turtle b => b.accepted config ltf

def HasRoom (config : SMCConfig) (ltf : CandleSequence) : Setup → Prop
  | .block b => b.HasRoom
  | .turtle b => b.HasRoom config ltf

theorem build_cases (config : SMCConfig) (ltf : CandleSequence) (setup : Setup) :
    (setup.accepted config ltf = false ∧ setup.build config ltf = .ok none) ∨
      (setup.accepted config ltf ∧ ¬ setup.HasRoom config ltf ∧
        setup.build config ltf = .error .candidatePrice) ∨
      (setup.accepted config ltf ∧ setup.HasRoom config ltf ∧
        ∃ c, setup.build config ltf = .ok (some c)) := by
  cases setup with
  | block b | turtle b => exact b.build_cases config ltf

theorem build_ok_iff {config : SMCConfig} {setup : Setup} :
    (∃ r, setup.build config ltf = .ok r) ↔
      (setup.accepted config ltf → setup.HasRoom config ltf) := by
  rcases setup.build_cases config ltf with
    ⟨hacp, hbld⟩ | ⟨hacp, hrm, hbld⟩ | ⟨hacp, hrm, c, hbld⟩
  · simp [hacp, hbld]
  · simp [hacp, hrm, hbld]
  · simp [hrm, hbld]

end Setup

variable {d : SMCDetector} {htf : CandleSequence}

theorem detectTraced_ok_iff :
    (∃ built, d.detectTraced htf ltf = .ok built) ↔
      (d.config.enabled → ∀ setup ∈ d.setups htf ltf,
        setup.accepted d.config ltf → setup.HasRoom d.config ltf) := by
  unfold SMCDetector.detectTraced
  split
  · next hen =>
    rw [Kernel.collect_ok_iff]
    simp only [Setup.traced, Kernel.exists_map_eq_ok, Setup.build_ok_iff, hen, true_imp_iff]
  · next hen => simp [hen]

theorem analysis_completes_iff (o : TAOrchestrator) (htf ltf : CandleSequence) :
    ((∃ cs, o.smc.detectPatterns htf ltf = .ok cs) ∧
        (o.buildEnrichedSnapshot htf).isSome = true ∧
        (o.buildEnrichedSnapshot ltf).isSome = true) ↔
      (o.smc.config.enabled = true → ∀ setup ∈ o.smc.setups htf ltf,
        setup.accepted o.smc.config ltf = true → setup.HasRoom o.smc.config ltf) ∧
        o.Drawable htf ∧ o.Drawable ltf := by
  rw [SMCDetector.detectPatterns, Kernel.exists_map_eq_ok, detectTraced_ok_iff,
    TAOrchestrator.buildEnrichedSnapshot_isSome_iff,
    TAOrchestrator.buildEnrichedSnapshot_isSome_iff]

def lowClimb? : Option CandleSequence :=
  CandleSequence.ofPrices? "US30" .mn1 32400000000
    [(100, 110, 90, 100), (100, 210, 100, 200), (200, 300, 200, 290), (290, 295, 240, 250),
      (250, 1700, 239, 1650), (1650, 1800, 1600, 1700), (1700, 1900, 1650, 1800)]

def fall? : Option CandleSequence :=
  CandleSequence.ofPrices? "US30" .mn1 32400000000
    [(100, 110, 95, 100), (100, 108, 92, 95), (95, 100, 90, 98), (98, 99, 91, 92),
      (92, 93, 50, 52), (52, 54, 45, 46), (46, 53, 42, 43), (43, 60, 41, 42), (42, 45, 38, 39)]

theorem valid_data_aborts :
    lowClimb?.bind (fun htf => quietDay?.map (fun ltf =>
        (({} : SMCDetector).detectPatterns htf ltf).isOk)) = some false ∧
      fall?.map (fun s => (({} : TAOrchestrator).buildEnrichedSnapshot s).isSome) = some false := by
  constructor
  · decide +kernel
  · decide +kernel

end Completion

end ETradie.Ta
