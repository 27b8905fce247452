import ETradie.Ta.Patterns

namespace ETradie.Ta

structure MarubozuAnalyzer where
  minBodyPercentage : ℚ := 80
  maxWickPercentage : ℚ := 10
  minDisplacementPips : ℚ := 15

def displacementScale : Timeframe → ℚ
  | .m1 => 15 / 100
  | .m5 => 25 / 100
  | .m15 => 40 / 100
  | .m30 => 55 / 100
  | .h1 => 1
  | .h3 => 3 / 2
  | .h4 => 2
  | .h6 => 3
  | .h8 => 4
  | .h12 => 5
  | .d1 => 5
  | .w1 => 12
  | .mn1 => 25

def Side.drives : Side → Candle → Bool
  | .high, c => c.isBullish
  | .low, c => c.isBearish

namespace MarubozuAnalyzer

def isMarubozuForTimeframe (a : MarubozuAnalyzer) (c : Candle) (tf : Timeframe) : Bool :=
  if c.bodyPercentage < a.minBodyPercentage then false
  else if a.maxWickPercentage < c.upperWickPercentage then false
  else if a.maxWickPercentage < c.lowerWickPercentage then false
  else !decide (pips c.openPrice c.close c.symbol < a.minDisplacementPips * displacementScale tf)

def isDrivingMarubozu (a : MarubozuAnalyzer) (side : Side) (c : Candle) (tf : Timeframe) : Bool :=
  side.drives c && a.isMarubozuForTimeframe c tf

end MarubozuAnalyzer

structure LevelFlip (side : Side) where
  symbol : String
  timeframe : Timeframe
  timestamp : Int
  originalLevel : ℚ
  originalTimestamp : Int
  breakoutCandleIndex : Nat
  (breakoutPrice newLevel : ℚ)
  direction : Direction
  isValid : Bool
  original_pos : 0 < originalLevel
  breakout_pos : 0 < breakoutPrice
  new_pos : 0 < newLevel

abbrev SRFlip := LevelFlip .low

abbrev RSFlip := LevelFlip .high

variable {side : Side}

def flipOf (a : MarubozuAnalyzer) (s : CandleSequence) (swing : Swing side) :
    Option (LevelFlip side) :=
  if s.candles.length - 1 ≤ swing.index then none
  else
    ((s.candles.zipIdx.drop (swing.index + 1)).find? (fun c =>
      a.isDrivingMarubozu side c.1 s.timeframe && side.beyond swing.price c.1.close)).map
        (fun c =>
          { symbol := s.symbol, timeframe := s.timeframe, timestamp := c.1.timestamp
            originalLevel := swing.price, originalTimestamp := swing.timestamp
            breakoutCandleIndex := c.2, breakoutPrice := c.1.close, newLevel := swing.price
            direction := side.breakDirection, isValid := true, original_pos := swing.price_pos
            breakout_pos := c.1.close_pos, new_pos := swing.price_pos })

def detectFlips (a : MarubozuAnalyzer) (s : CandleSequence) (swings : List (Swing side)) :
    List (LevelFlip side) :=
  swings.filterMap (flipOf a s)

structure QuasiModoLevel where
  symbol : String
  timeframe : Timeframe
  qmlPrice : ℚ
  timestamp : Int
  candleIndex : Nat
  direction : Direction
  shoulderPrice : ℚ
  shoulderTimestamp : Int
  headPrice : ℚ
  headTimestamp : Int
  headIndex : Nat
  necklinePrice : ℚ
  necklineTimestamp : Int
  confirmPrice : ℚ
  (confirmTimestamp breakTimestamp : Int)
  (isValid tested : Bool)
  qml_pos : 0 < qmlPrice
  points_pos : 0 < shoulderPrice ∧ 0 < headPrice ∧ 0 < necklinePrice ∧ 0 < confirmPrice

def qmRequired : Timeframe → Nat
  | .m1 => 1
  | .m5 => 1
  | .m15 => 2
  | .m30 => 2
  | _ => 3

variable (swings : List (Swing side))

def neckline (start stop : Int) : Option (Swing side) :=
  (swings.filter (fun swing => start < swing.timestamp && swing.timestamp < stop)).foldl
    (fun best swing =>
      match best with
      | none => some swing
      | some farthest => if side.beyond farthest.price swing.price then some swing else best)
    none

variable (s : CandleSequence)

def qmOf (others : List (Swing side.opposite)) (shoulder head : Swing side) :
    Option QuasiModoLevel :=
  if !side.beyond shoulder.price head.price then none
  else
    (neckline (sortedByTime others) shoulder.timestamp head.timestamp).bind (fun neck =>
      (confirmedBreak side.opposite s.candles head.index neck.price
        (fun _ => some (qmRequired s.timeframe))).map (fun r =>
          { symbol := s.symbol, timeframe := s.timeframe, qmlPrice := shoulder.price
            timestamp := shoulder.timestamp, candleIndex := r.2.1, direction := side.failDirection
            shoulderPrice := shoulder.price, shoulderTimestamp := shoulder.timestamp
            headPrice := head.price, headTimestamp := head.timestamp, headIndex := head.index
            necklinePrice := neck.price, necklineTimestamp := neck.timestamp
            confirmPrice := r.2.2.close, confirmTimestamp := r.2.2.timestamp
            breakTimestamp := r.2.2.timestamp, isValid := true, tested := false
            qml_pos := shoulder.price_pos
            points_pos := ⟨shoulder.price_pos, head.price_pos, neck.price_pos, r.2.2.close_pos⟩ }))

def detectQm (swings : List (Swing side))
    (others : List (Swing side.opposite)) : List QuasiModoLevel :=
  if swings.length < 2 ∨ others.isEmpty then []
  else
    ((sortedByTime swings).zip (sortedByTime swings).tail).filterMap
      (fun p => qmOf s others p.1 p.2)

section Zones

structure QmZone (side : Side) where
  symbol : String
  timeframe : Timeframe
  (upperBound lowerBound : ℚ)
  timestamp : Int
  qmLevel : ℚ
  qmTimestamp : Int
  flipLevel : ℚ
  flipTimestamp : Int
  isValid : Bool
  lower_pos : 0 < lowerBound
  lower_lt_upper : lowerBound < upperBound

abbrev SupplyZone := QmZone .high

abbrev DemandZone := QmZone .low

def createZone (side : Side) (s : CandleSequence) (qm : QuasiModoLevel)
    (flip : LevelFlip side.opposite) : Except TaError (QmZone side) :=
  if h : min qm.qmlPrice flip.newLevel < max qm.qmlPrice flip.newLevel then
    .ok
      { symbol := s.symbol, timeframe := s.timeframe, upperBound := max qm.qmlPrice flip.newLevel
        lowerBound := min qm.qmlPrice flip.newLevel, timestamp := flip.timestamp
        qmLevel := qm.qmlPrice, qmTimestamp := qm.timestamp, flipLevel := flip.newLevel
        flipTimestamp := flip.timestamp, isValid := true
        lower_pos := lt_min qm.qml_pos flip.new_pos, lower_lt_upper := h }
  else .error .boundOrder

def createZones (side : Side) (s : CandleSequence) (qms : List QuasiModoLevel)
    (flips : List (LevelFlip side.opposite)) : Except TaError (List (QmZone side)) :=
  Kernel.collect (fun p => (createZone side s p.1 p.2).map some) (qms ×ˢ flips)

variable {s}

theorem createZone_ok_iff {qm : QuasiModoLevel} {flip : LevelFlip side.opposite} :
    (∃ zone, createZone side s qm flip = .ok zone) ↔ qm.qmlPrice ≠ flip.newLevel := by
  unfold createZone
  rw [← min_lt_max]
  split
  · next h => simp [h]
  · next h => simp [h]

theorem createZones_ok_iff {qms : List QuasiModoLevel} {flips : List (LevelFlip side.opposite)} :
    (∃ zones, createZones side s qms flips = .ok zones) ↔
      ∀ qm ∈ qms, ∀ flip ∈ flips, qm.qmlPrice ≠ flip.newLevel := by
  unfold createZones
  rw [Kernel.collect_ok_iff]
  simp only [Kernel.exists_map_eq_ok, createZone_ok_iff, List.mem_product, Prod.forall, and_imp]
  exact forall_congr' fun qm => forall_comm

end Zones

section EqualLevels

structure LiquidityAnalyzer where
  equalTolerancePips : ℚ := 2
  minTouches : Nat := 2
  touches_ge : 2 ≤ minTouches := by decide
  tolerance_nonneg : 0 ≤ equalTolerancePips := by norm_num

def LiquidityAnalyzer.standard : LiquidityAnalyzer := {}

structure EqualHighsLows where
  symbol : String
  timeframe : Timeframe
  liquidityType : LiquidityType
  priceLevel : ℚ
  timestamps : List Int
  tolerancePips : ℚ
  candleIndices : List Nat
  level_pos : 0 < priceLevel
  two_timestamps : 2 ≤ timestamps.length
  two_indices : 2 ≤ candleIndices.length
  tolerance_nonneg : 0 ≤ tolerancePips
  type_equal : liquidityType = .equalHighs ∨ liquidityType = .equalLows

def Side.equalType : Side → LiquidityType
  | .high => .equalHighs
  | .low => .equalLows

theorem Side.equalType_eq (side : Side) :
    side.equalType = .equalHighs ∨ side.equalType = .equalLows := by
  cases side
  · exact .inl rfl
  · exact .inr rfl

variable (a : LiquidityAnalyzer)

def equalGroup (swings : List (Swing side)) (processed : List Nat) (swing : Swing side × Nat) :
    List (Swing side × Nat) :=
  (swings.zipIdx.drop (swing.2 + 1)).filter (fun other =>
    !processed.contains other.2 &&
      isWithinTolerance swing.1.price other.1.price a.equalTolerancePips swing.1.symbol)

def equalStep (swings : List (Swing side)) (state : List Nat × List EqualHighsLows)
    (swing : Swing side × Nat) : List Nat × List EqualHighsLows :=
  if state.1.contains swing.2 then state
  else
    let group := swing :: equalGroup a swings state.1 swing
    if h : a.minTouches ≤ group.length then
      (state.1 ++ group.map Prod.snd, state.2 ++
        [{ symbol := swing.1.symbol, timeframe := swing.1.timeframe, liquidityType := side.equalType
           priceLevel := swing.1.price, timestamps := group.map (·.1.timestamp)
           tolerancePips := a.equalTolerancePips
           candleIndices := group.map (·.1.index), level_pos := swing.1.price_pos
           two_timestamps := by
             rw [List.length_map]
             exact a.touches_ge.trans h
           two_indices := by
             rw [List.length_map]
             exact a.touches_ge.trans h
           tolerance_nonneg := a.tolerance_nonneg
           type_equal := side.equalType_eq }])
    else (state.1 ++ group.tail.map Prod.snd, state.2)

def detectEqual (swings : List (Swing side)) : List EqualHighsLows :=
  (swings.zipIdx.foldl (equalStep a swings) ([], [])).2

end EqualLevels

structure BreakerBlock where
  symbol : String
  timeframe : Timeframe
  (upperBound lowerBound : ℚ)
  timestamp : Int
  candleIndex : Nat
  direction : Direction
  (originalObTimestamp brokenTimestamp : Int)
  mitigated : Bool
  lower_pos : 0 < lowerBound
  lower_lt_upper : lowerBound < upperBound

def detectBreakerFromOb (ob : OrderBlock) : Option BreakerBlock :=
  if s.candles.length - 1 ≤ ob.candleIndex then none
  else
    ((s.candles.drop (ob.candleIndex + 1)).find? ob.takenOutBy).map (fun broken =>
      { ob with
        direction := if ob.direction = .bullish then .bearish else .bullish
        originalObTimestamp := ob.timestamp, brokenTimestamp := broken.timestamp
        mitigated := false })

end ETradie.Ta
