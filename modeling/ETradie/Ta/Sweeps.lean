import ETradie.Ta.Swings

/-! # Liquidity sweeps

A candle that passes a level and closes back inside sweeps it. Swings and previous-day extremes
are scanned candle by candle; a level is remembered by its price once it is swept or broken. -/

namespace ETradie.Ta

structure SweepAnalyzer where
  minSweepPips : ℚ := 2
  turtleSoupMinPips : ℚ := 5

inductive LiquidityType where
  | bsl
  | ssl
  | equalHighs
  | equalLows
  | inducement
  | compression
  | pdhSweep
  | pdlSweep
deriving DecidableEq

structure LiquiditySweep where
  symbol : String
  timeframe : Timeframe
  timestamp : Int
  liquidityType : LiquidityType
  sweptLevel : ℚ
  sweptLevelTimestamp : Int
  (sweepHigh sweepLow sweepPips : ℚ)
  closedBackInside : Bool
  closePrice : Option ℚ
  candleIndex : Nat
  isMajorSweep : Bool
  level_pos : 0 < sweptLevel
  high_pos : 0 < sweepHigh
  low_pos : 0 < sweepLow
  pips_nonneg : 0 ≤ sweepPips

namespace LiquiditySweep

def isBullishSweep (s : LiquiditySweep) : Bool := s.liquidityType ∈ [.bsl, .equalHighs, .pdhSweep]

def isBearishSweep (s : LiquiditySweep) : Bool := s.liquidityType ∈ [.ssl, .equalLows, .pdlSweep]

end LiquiditySweep

structure SweepScan where
  sweeps : List LiquiditySweep := []
  (invalidatedHighs invalidatedLows : List ℚ := [])

namespace SweepScan

def invalidated (st : SweepScan) : Side → List ℚ
  | .high => st.invalidatedHighs
  | .low => st.invalidatedLows

def invalidate (st : SweepScan) : Side → ℚ → SweepScan
  | .high, level => { st with invalidatedHighs := level :: st.invalidatedHighs }
  | .low, level => { st with invalidatedLows := level :: st.invalidatedLows }

def append (st : SweepScan) (sweep : LiquiditySweep) : SweepScan :=
  { st with sweeps := st.sweeps ++ [sweep] }

end SweepScan

def Side.swingLiquidity : Side → LiquidityType
  | .high => .bsl
  | .low => .ssl

def Side.dayLiquidity : Side → LiquidityType
  | .high => .pdhSweep
  | .low => .pdlSweep

section Detection

variable (a : SweepAnalyzer) (side : Side)

def detectSwingSweep (candle : Candle) (swing : Swing side) (candleIndex : Nat) :
    Option LiquiditySweep :=
  let sweepPips := pips swing.price (side.extreme candle) candle.symbol
  if !side.beyond swing.price (side.extreme candle) then none
  else if sweepPips < a.minSweepPips then none
  else
    some
      { symbol := candle.symbol, timeframe := candle.timeframe, timestamp := candle.timestamp
        liquidityType := side.swingLiquidity, sweptLevel := swing.price
        sweptLevelTimestamp := swing.timestamp, sweepHigh := candle.high, sweepLow := candle.low
        sweepPips := sweepPips, closedBackInside := side.beyond candle.close swing.price
        closePrice := some candle.close, candleIndex := candleIndex, isMajorSweep := false
        level_pos := swing.price_pos, high_pos := candle.high_pos, low_pos := candle.low_pos
        pips_nonneg := pips_nonneg _ _ _ }

def sweepSwing (candle : Candle) (i : Nat) (st : SweepScan) (swing : Swing side) : SweepScan :=
  if i ≤ swing.index ∨ swing.price ∈ st.invalidated side then st
  else if side.beyond swing.price (side.extreme candle) then
    if side.beyond swing.price candle.close then st.invalidate side swing.price
    else
      match detectSwingSweep a side candle swing i with
      | some sweep =>
        (st.append { sweep with isMajorSweep := 5 ≤ swing.strength }).invalidate side swing.price
      | none => st
  else st

def previousDayExtreme (cs : List Candle) (date : Int) : Option { level : ℚ // 0 < level } :=
  match ((cs.map Candle.date).filter (fun d => d < date)).max? with
  | none => none
  | some previous =>
    let extremes := (cs.filter (·.date = previous)).map
      (fun c => (⟨side.extreme c, side.extreme_pos c⟩ : { level : ℚ // 0 < level }))
    match side with
    | .high => extremes.max?
    | .low => extremes.min?

def sweepDay (cs : List Candle) (candle : Candle) (i : Nat) (st : SweepScan) : SweepScan :=
  match previousDayExtreme side cs candle.date with
  | none => st
  | some ⟨level, hlevel⟩ =>
    if level ∈ st.invalidated side then st
    else if side.beyond level (side.extreme candle) then
      if side.beyond level candle.close then st.invalidate side level
      else
        let sweepPips := pips level (side.extreme candle) candle.symbol
        if a.minSweepPips ≤ sweepPips then
          (st.append
            { symbol := candle.symbol, timeframe := candle.timeframe, timestamp := candle.timestamp
              liquidityType := side.dayLiquidity, sweptLevel := level
              sweptLevelTimestamp := candle.timestamp, sweepHigh := candle.high
              sweepLow := candle.low, sweepPips := sweepPips, closedBackInside := true
              closePrice := some candle.close, candleIndex := i, isMajorSweep := true
              level_pos := hlevel, high_pos := candle.high_pos, low_pos := candle.low_pos
              pips_nonneg := pips_nonneg _ _ _ }).invalidate side level
        else st
    else st

end Detection

section Sequence

variable (a : SweepAnalyzer)

def sweepCandle (cs : List Candle) (swingHighs : List SwingHigh) (swingLows : List SwingLow)
    (st : SweepScan) (c : Candle × Nat) : SweepScan :=
  let st := sweepDay a .high cs c.1 c.2 st
  let st := sweepDay a .low cs c.1 c.2 st
  let st := swingHighs.foldl (sweepSwing a .high c.1 c.2) st
  swingLows.foldl (sweepSwing a .low c.1 c.2) st

def detectSweepsInSequence (s : CandleSequence) (swingHighs : List SwingHigh)
    (swingLows : List SwingLow) : List LiquiditySweep :=
  (s.candles.zipIdx.foldl (sweepCandle a s.candles swingHighs swingLows) {}).sweeps

end Sequence

section Growth

variable {a : SweepAnalyzer} {side : Side}

@[simp] theorem sweeps_invalidate (st : SweepScan) (side : Side) (level : ℚ) :
    (st.invalidate side level).sweeps = st.sweeps := by
  cases side <;> rfl

@[simp] theorem sweeps_append (st : SweepScan) (sweep : LiquiditySweep) :
    (st.append sweep).sweeps = st.sweeps ++ [sweep] :=
  rfl

/-- The candle closes beyond the level or reaches it by the least sweep: it consumes the level. -/
def tests (a : SweepAnalyzer) (side : Side) (level : ℚ) (candle : Candle) : Bool :=
  side.beyond level candle.close || (side.beyond level (side.extreme candle) &&
    a.minSweepPips ≤ pips level (side.extreme candle) candle.symbol)

def StillOpen (swing : Swing side) (i : Nat) (st : SweepScan) : Prop :=
  swing.index < i ∧ swing.price ∉ st.invalidated side

theorem sweepSwing_cases (candle : Candle) (i : Nat) (st : SweepScan) (swing : Swing side) :
    (¬ (StillOpen swing i st ∧ tests a side swing.price candle) ∧
      sweepSwing a side candle i st swing = st) ∨
    StillOpen swing i st ∧ tests a side swing.price candle ∧
      ((side.beyond swing.price candle.close ∧
        sweepSwing a side candle i st swing = st.invalidate side swing.price) ∨
      (side.beyond swing.price candle.close = false ∧
        ∃ sweep : LiquiditySweep, sweep.liquidityType = side.swingLiquidity ∧
          sweep.sweptLevelTimestamp = swing.timestamp ∧ sweep.candleIndex = i ∧
          sweepSwing a side candle i st swing =
            (st.append sweep).invalidate side swing.price)) := by
  unfold sweepSwing
  split
  · next hcls =>
    refine .inl ⟨?_, rfl⟩
    rintro ⟨⟨hlat, hfr⟩, -⟩
    rcases hcls with herl | hspt
    · omega
    · exact hfr hspt
  · next hop =>
    rw [not_or, not_le] at hop
    cases hcl : side.beyond swing.price candle.close with
    | true =>
      have hextreme := Side.beyond_extreme_of_close hcl
      rw [if_pos hextreme]
      exact .inr ⟨hop, by rw [tests, hcl, Bool.true_or], .inl ⟨rfl, rfl⟩⟩
    | false =>
      cases hextreme : side.beyond swing.price (side.extreme candle) with
      | false => exact .inl ⟨by simp [tests, hcl, hextreme], rfl⟩
      | true =>
        by_cases hpi : a.minSweepPips ≤ pips swing.price (side.extreme candle) candle.symbol
        · simp only [detectSwingSweep, hextreme, not_lt.mpr hpi, tests, hpi]
          exact .inr ⟨hop, by simp, .inr ⟨trivial, _, rfl, rfl, rfl, rfl⟩⟩
        · simp [detectSwingSweep, not_le.mp hpi, tests, hcl]

theorem sweepDay_cases (side : Side) (cs : List Candle) (candle : Candle) (i : Nat) (st : SweepScan) :
    ((∀ level ∈ previousDayExtreme side cs candle.date,
        level.1 ∈ st.invalidated side ∨ ¬ tests a side level.1 candle) ∧
      sweepDay a side cs candle i st = st) ∨
      ∃ level, previousDayExtreme side cs candle.date = some level ∧
        tests a side level.1 candle ∧
        (sweepDay a side cs candle i st = st.invalidate side level.1 ∨
          ∃ sweep : LiquiditySweep, sweep.liquidityType = side.dayLiquidity ∧
            sweepDay a side cs candle i st = (st.append sweep).invalidate side level.1) := by
  unfold sweepDay
  split
  · next hnone => exact .inl ⟨by simp [hnone], rfl⟩
  · next level hpos hprevious =>
    rw [hprevious]
    simp only [Option.mem_def, Option.some.injEq, forall_eq']
    split_ifs with hspent hextreme hclose hpips
    · exact .inl ⟨.inl hspent, rfl⟩
    · exact .inr ⟨_, rfl, by simp [tests, hclose], .inl rfl⟩
    · exact .inr ⟨_, rfl, by simp [tests, hextreme, hpips], .inr ⟨_, rfl, rfl⟩⟩
    · exact .inl ⟨.inr (by simp [tests, hclose, hpips]), rfl⟩
    · refine .inl ⟨.inr fun htest => hextreme ?_, rfl⟩
      rcases Bool.or_eq_true_iff.mp htest with hclose | hreach
      · exact Side.beyond_extreme_of_close hclose
      · exact (Bool.and_eq_true_iff.mp hreach).1

theorem sweepSwing_sweeps (candle : Candle) (i : Nat) (st : SweepScan) (swing : Swing side) :
    st.sweeps ⊆ (sweepSwing a side candle i st swing).sweeps := by
  rcases sweepSwing_cases (a := a) candle i st swing with ⟨-, h⟩ | ⟨-, -, ⟨-, h⟩ | ⟨-, _, -, -, -, h⟩⟩
  · simp [h]
  · simp [h]
  · simp [h]

theorem sweepDay_sweeps (cs : List Candle) (candle : Candle) (i : Nat) (st : SweepScan) :
    st.sweeps ⊆ (sweepDay a side cs candle i st).sweeps := by
  rcases sweepDay_cases (a := a) side cs candle i st with ⟨-, h⟩ | ⟨_, -, -, h | ⟨_, -, h⟩⟩
  · simp [h]
  · simp [h]
  · simp [h]

theorem sweepSwings_sweeps (candle : Candle) (i : Nat) (swings : List (Swing side))
    (st : SweepScan) : st.sweeps ⊆ (swings.foldl (sweepSwing a side candle i) st).sweeps := by
  induction swings generalizing st with
  | nil => exact List.Subset.refl _
  | cons swing swings ih => exact List.Subset.trans (sweepSwing_sweeps candle i st swing) (ih _)

theorem sweepCandle_sweeps (cs : List Candle) (swingHighs : List SwingHigh)
    (swingLows : List SwingLow) (st : SweepScan) (c : Candle × Nat) :
    st.sweeps ⊆ (sweepCandle a cs swingHighs swingLows st c).sweeps :=
  List.Subset.trans (sweepDay_sweeps cs c.1 c.2 st) <|
    List.Subset.trans (sweepDay_sweeps cs c.1 c.2 _) <|
      List.Subset.trans (sweepSwings_sweeps c.1 c.2 swingHighs _)
        (sweepSwings_sweeps c.1 c.2 swingLows _)

theorem sweepCandles_sweeps (cs : List Candle) (swingHighs : List SwingHigh)
    (swingLows : List SwingLow) (rows : List (Candle × Nat)) (st : SweepScan) :
    st.sweeps ⊆ (rows.foldl (sweepCandle a cs swingHighs swingLows) st).sweeps := by
  induction rows generalizing st with
  | nil => exact List.Subset.refl _
  | cons row rows ih =>
    exact List.Subset.trans (sweepCandle_sweeps cs swingHighs swingLows st row) (ih _)

end Growth

section View

variable {a : SweepAnalyzer} {side side' : Side}

def Side.Hears (side : Side) (sweep : LiquiditySweep) : Prop :=
  sweep.liquidityType = side.swingLiquidity ∨ sweep.liquidityType = side.dayLiquidity

instance (side : Side) (sweep : LiquiditySweep) : Decidable (side.Hears sweep) :=
  inferInstanceAs (Decidable (_ ∨ _))

def SweepScan.view (side : Side) (st : SweepScan) : List ℚ × List LiquiditySweep :=
  (st.invalidated side, st.sweeps.filter (fun sweep => side.Hears sweep))

theorem view_invalidate (hsi : side' ≠ side) (st : SweepScan) (level : ℚ) :
    (st.invalidate side' level).view side = st.view side := by
  cases side <;> cases side' <;> simp_all [SweepScan.view, SweepScan.invalidate, SweepScan.invalidated]

theorem view_append (hsi : side' ≠ side) (st : SweepScan) {sweep : LiquiditySweep}
    (hswp : side'.Hears sweep) : (st.append sweep).view side = st.view side := by
  have hdeaf : ¬ side.Hears sweep := by
    rcases hswp with h | h <;> unfold Side.Hears <;> rw [h] <;>
      cases side <;> cases side' <;> simp_all [Side.swingLiquidity, Side.dayLiquidity]
  cases side <;> simp [SweepScan.view, SweepScan.append, SweepScan.invalidated, hdeaf]

theorem view_sweepDay (side' : Side) (hsi : side' ≠ side) (cs : List Candle) (c : Candle)
    (i : Nat) (st : SweepScan) : (sweepDay a side' cs c i st).view side = st.view side := by
  rcases sweepDay_cases side' cs c i st with ⟨-, h⟩ | ⟨_, -, -, h | ⟨sweep, hty, h⟩⟩
  · rw [h]
  · rw [h, view_invalidate hsi]
  · rw [h, view_invalidate hsi, view_append hsi _ (.inr hty)]

theorem view_sweepSwings (side' : Side) (hsi : side' ≠ side) (c : Candle) (i : Nat)
    (swings : List (Swing side')) (st : SweepScan) :
    (swings.foldl (sweepSwing a side' c i) st).view side = st.view side := by
  induction swings generalizing st with
  | nil => rfl
  | cons swing swings ih =>
    rw [List.foldl_cons, ih]
    rcases sweepSwing_cases c i st swing with ⟨-, h⟩ | ⟨-, -, ⟨-, h⟩ | ⟨-, sweep, hty, -, -, h⟩⟩
    · rw [h]
    · rw [h, view_invalidate hsi]
    · rw [h, view_invalidate hsi, view_append hsi _ (.inl hty)]

end View

end ETradie.Ta
