import ETradie.Ta.Structure

namespace ETradie.Ta

open List

section Blocks

structure OrderBlock where
  symbol : String
  timeframe : Timeframe
  (upperBound lowerBound : ℚ)
  timestamp : Int
  candleIndex : Nat
  direction : Direction
  displacementPips : ℚ
  (isBreaker mitigated : Bool)
  lower_pos : 0 < lowerBound
  lower_lt_upper : lowerBound < upperBound
  displacement_nonneg : 0 ≤ displacementPips

namespace OrderBlock

def midpoint (ob : OrderBlock) : ℚ := (ob.upperBound + ob.lowerBound) / 2

def ofCandle (s : CandleSequence) (direction : Direction) (displacement : ℚ)
    (hdisplacement : 0 ≤ displacement) (c : Candle × Nat) : Option OrderBlock :=
  if h : c.1.low < c.1.high then
    some
      { symbol := s.symbol, timeframe := s.timeframe, upperBound := c.1.high, lowerBound := c.1.low
        timestamp := c.1.timestamp, candleIndex := c.2, direction := direction
        displacementPips := displacement, isBreaker := false, mitigated := false
        lower_pos := c.1.low_pos, lower_lt_upper := h, displacement_nonneg := hdisplacement }
  else none

end OrderBlock

def Side.opposes : Side → Candle → Bool
  | .high, c => c.isBearish
  | .low, c => c.isBullish

def Side.origin : Side → Candle → ℚ
  | .high, c => c.low
  | .low, c => c.high

def lastBefore (cs : List Candle) (index : Nat) (test : Candle → Bool) : Option (Candle × Nat) :=
  (cs.zipIdx.take index).reverse.find? (fun c => test c.1)

variable (config : SMCConfig)

def qualifies (side : Side) (s : CandleSequence) (breakoutPrice : ℚ) (c : Candle) : Bool :=
  side.opposes c &&
    config.obBodyPercentageThreshold ≤ c.bodyPercentage &&
    config.minDisplacementPips ≤ pips (side.origin c) breakoutPrice s.symbol

def detectOb (side : Side) (s : CandleSequence) (bms : BreakInMarketStructure) :
    Option OrderBlock :=
  if bms.direction ≠ side.breakDirection then none
  else if bms.candleIndex < 1 then none
  else
    (lastBefore s.candles bms.candleIndex (qualifies config side s bms.breakoutPrice)).bind
      (fun c => OrderBlock.ofCandle s side.breakDirection
        (pips (side.origin c.1) bms.breakoutPrice s.symbol) (pips_nonneg _ _ _) c)

def detectBullishOb (s : CandleSequence) (bms : BreakInMarketStructure) : Option OrderBlock :=
  detectOb config .high s bms

def detectBearishOb (s : CandleSequence) (bms : BreakInMarketStructure) : Option OrderBlock :=
  detectOb config .low s bms

def detectObFromBreak (side : Side) (s : CandleSequence) (choch : ChangeOfCharacter) :
    Option OrderBlock :=
  (lastBefore s.candles choch.candleIndex side.opposes).bind
    (OrderBlock.ofCandle s side.breakDirection 0 (le_refl 0))

def detectObFromChoch (s : CandleSequence) (choch : ChangeOfCharacter) : Option OrderBlock :=
  if choch.candleIndex < 1 then none
  else if choch.direction = .bullish then detectObFromBreak .high s choch
  else detectObFromBreak .low s choch

end Blocks

section Gaps

structure FairValueGap where
  symbol : String
  timeframe : Timeframe
  (upperBound lowerBound : ℚ)
  timestamp : Int
  candleIndex : Nat
  direction : Direction
  filled : Bool
  lower_pos : 0 < lowerBound
  lower_lt_upper : lowerBound < upperBound

def detectImbalance (first third : Candle) : Option { gap : ℚ × ℚ // 0 < gap.1 ∧ gap.1 < gap.2 } :=
  if h : first.high < third.low then
    some ⟨(first.high, third.low), first.high_pos, h⟩
  else if h : third.high < first.low then
    some ⟨(third.high, first.low), third.high_pos, h⟩
  else none

variable (config : SMCConfig) (s : CandleSequence)

def fvgAt (i : Nat) : Option FairValueGap :=
  match s.candles[i]?, s.candles[i + 1]?, s.candles[i + 2]? with
  | some first, some second, some third =>
    match detectImbalance first third with
    | none => none
    | some gap =>
      if pips gap.1.1 gap.1.2 s.symbol < config.fvgMinGapPips then none
      else
        some
          { symbol := s.symbol, timeframe := s.timeframe, upperBound := gap.1.2
            lowerBound := gap.1.1, timestamp := second.timestamp, candleIndex := i + 1
            direction := if second.isBullish then .bullish else .bearish
            filled := false
            lower_pos := gap.2.1
            lower_lt_upper := gap.2.2 }
  | _, _, _ => none

def detectFvgs : List FairValueGap := (List.range (s.candles.length - 2)).filterMap (fvgAt config s)

end Gaps

section GapFacts

variable {config : SMCConfig} {s : CandleSequence} {i : Nat} {direction direction' : Direction}
variable {lower upper lower' upper' : ℚ} {fvg : FairValueGap}

def OpenGap (config : SMCConfig) (s : CandleSequence) (i : Nat) (direction : Direction)
    (lower upper : ℚ) : Prop :=
  ∃ first third, s.candles[i]? = some first ∧ s.candles[i + 2]? = some third ∧
    (direction = .bullish ∧ lower = first.high ∧ upper = third.low ∨
      direction = .bearish ∧ lower = third.high ∧ upper = first.low) ∧
    lower < upper ∧ config.fvgMinGapPips ≤ pips lower upper s.symbol

def middleDirection (second : Candle) : Direction := if second.isBullish then .bullish else .bearish

theorem fvgAt_eq_some (h : fvgAt config s i = some fvg) :
    fvg.candleIndex = i + 1 ∧ (∃ second, s.candles[i + 1]? = some second ∧
      fvg.direction = middleDirection second) ∧
      ∃ direction, OpenGap config s i direction fvg.lowerBound fvg.upperBound := by
  revert h
  fun_cases fvgAt config s i
  all_goals rintro ⟨⟩
  next first second third hthd hsnd hfst _ hgap hpi =>
  refine ⟨rfl, ⟨second, hsnd, rfl⟩, ?_⟩
  unfold detectImbalance at hgap
  split_ifs at hgap with hup hdn
  · cases hgap
    exact ⟨.bullish, first, third, hfst, hthd, .inl ⟨rfl, rfl, rfl⟩, hup, not_lt.mp hpi⟩
  · cases hgap
    exact ⟨.bearish, first, third, hfst, hthd, .inr ⟨rfl, rfl, rfl⟩, hdn, not_lt.mp hpi⟩

theorem OpenGap.fvgAt_eq_some (h : OpenGap config s i direction lower upper) :
    ∃ fvg, fvgAt config s i = some fvg ∧ fvg.lowerBound = lower ∧ fvg.upperBound = upper := by
  obtain ⟨first, third, hfst, hthd, hgap, hlt, hpi⟩ := h
  obtain ⟨hlen, -⟩ := List.getElem?_eq_some_iff.mp hthd
  have hlow := first.low_le_high
  have hhi := third.low_le_high
  have hsnd := getElem?_eq_getElem (l := s.candles) (i := i + 1) (by omega)
  unfold fvgAt detectImbalance
  rw [hfst, hsnd, hthd]
  rcases hgap with ⟨-, rfl, rfl⟩ | ⟨-, rfl, rfl⟩
  · simp only [hlt, dif_pos, if_neg (not_lt.mpr hpi)]
    exact ⟨_, rfl, rfl, rfl⟩
  · have hup : ¬ first.high < third.low := by linarith
    simp only [hup, hlt, dif_pos, dif_neg, not_false_eq_true, if_neg (not_lt.mpr hpi)]
    exact ⟨_, rfl, rfl, rfl⟩

theorem mem_detectFvgs : fvg ∈ detectFvgs config s ↔ ∃ i, fvgAt config s i = some fvg := by
  unfold detectFvgs
  rw [mem_filterMap]
  constructor
  · rintro ⟨i, -, h⟩
    exact ⟨i, h⟩
  · rintro ⟨i, h⟩
    obtain ⟨-, -, -, -, third, -, hthd, -⟩ := Ta.fvgAt_eq_some h
    obtain ⟨hlen, -⟩ := List.getElem?_eq_some_iff.mp hthd
    exact ⟨i, mem_range.mpr (by omega), h⟩

theorem detectFvgs_oriented_iff (config : SMCConfig) (s : CandleSequence) :
    (∀ i direction lower upper,
      (∃ fvg ∈ detectFvgs config s, fvg.candleIndex = i + 1 ∧ fvg.lowerBound = lower ∧
        fvg.upperBound = upper ∧ fvg.direction = direction) ↔
      OpenGap config s i direction lower upper) ↔
    ∀ i direction lower upper, OpenGap config s i direction lower upper →
      ∀ second ∈ s.candles[i + 1]?, middleDirection second = direction := by
  constructor
  · intro hexact i direction lower upper hgap second hsnd
    obtain ⟨fvg, hm, hidx, -, -, hdrc⟩ := (hexact i direction lower upper).mpr hgap
    obtain ⟨j, hj⟩ := mem_detectFvgs.mp hm
    obtain ⟨hidx', ⟨second', hsnd', hmid⟩, -⟩ := Ta.fvgAt_eq_some hj
    obtain rfl : i = j := by omega
    rw [Option.mem_def.mp hsnd, Option.some.injEq] at hsnd'
    rw [hsnd', ← hmid, hdrc]
  · intro hmid i direction lower upper
    constructor
    · rintro ⟨fvg, hm, hidx, rfl, rfl, rfl⟩
      obtain ⟨j, hj⟩ := mem_detectFvgs.mp hm
      obtain ⟨hidx', ⟨second, hsnd, hdrc⟩, direction, hgap⟩ := Ta.fvgAt_eq_some hj
      obtain rfl : i = j := by omega
      rw [hdrc, hmid i direction _ _ hgap second hsnd]
      exact hgap
    · intro hgap
      obtain ⟨fvg, hfvg, hlo, hup⟩ := hgap.fvgAt_eq_some
      obtain ⟨hidx, ⟨second, hsnd, hdrc⟩, -⟩ := Ta.fvgAt_eq_some hfvg
      exact ⟨fvg, mem_detectFvgs.mpr ⟨i, hfvg⟩, hidx, hlo, hup,
        hdrc.trans (hmid i direction lower upper hgap second hsnd)⟩

end GapFacts

def gapUp? : Option CandleSequence :=
  CandleSequence.ofPrices? "US30" .h1 32400000000
    [(100, 110, 90, 105), (120, 130, 108, 120), (140, 150, 135, 145)]

theorem gapUp_detectFvgs :
    gapUp?.map (fun s => (detectFvgs .standard s).map (fun fvg =>
      (fvg.candleIndex, fvg.lowerBound, fvg.upperBound, fvg.direction))) =
      some [(1, 110, 135, .bearish)] := by
  decide +kernel

variable {config : SMCConfig} {s : CandleSequence} {ob : OrderBlock} {c : Candle}

section BlockFacts

variable {side : Side} {cs : List Candle}
variable {j : Nat} {choch : ChangeOfCharacter}

theorem lastBefore_eq_some {index : Nat} {test : Candle → Bool}
    (h : lastBefore cs index test = some (c, j)) : cs[j]? = some c ∧ j < index ∧ test c := by
  have hte : test c := by simpa using find?_some h
  have hm := mem_reverse.mp (mem_of_find?_eq_some h)
  obtain ⟨k, hk⟩ := getElem?_of_mem hm
  obtain ⟨hlt, -⟩ := List.getElem?_eq_some_iff.mp hk
  rw [length_take] at hlt
  rw [getElem?_take_of_lt (by omega), getElem?_zipIdx, Option.map_eq_some_iff] at hk
  obtain ⟨c', hg, hpa⟩ := hk
  obtain ⟨rfl, rfl⟩ := Prod.mk.inj hpa
  refine ⟨?_, by omega, hte⟩
  rw [Nat.zero_add]
  exact hg

structure OrderBlock.From (ob : OrderBlock) (s : CandleSequence) (c : Candle) : Prop where
  candle : s.candles[ob.candleIndex]? = some c
  upper : ob.upperBound = c.high
  lower : ob.lowerBound = c.low
  timestamp : ob.timestamp = c.timestamp
  symbol : ob.symbol = s.symbol
  timeframe : ob.timeframe = s.timeframe
  unmarked : ob.mitigated = false

theorem ofCandle_eq_some {direction : Direction} {displacement : ℚ}
    {hdisp : 0 ≤ displacement} (hj : s.candles[j]? = some c)
    (h : OrderBlock.ofCandle s direction displacement hdisp (c, j) = some ob) :
    ob.From s c ∧ ob.candleIndex = j ∧ ob.direction = direction := by
  unfold OrderBlock.ofCandle at h
  split_ifs at h
  cases h
  exact ⟨⟨hj, rfl, rfl, rfl, rfl, rfl, rfl⟩, rfl, rfl⟩

theorem detectOb_eq_some {bms : BreakInMarketStructure} (h : detectOb config side s bms = some ob) :
    (∃ c, ob.From s c) ∧ ob.candleIndex < bms.candleIndex ∧ ob.direction = side.breakDirection ∧
      bms.direction = side.breakDirection := by
  unfold detectOb at h
  split_ifs at h with hdrc
  obtain ⟨⟨c, j⟩, hl, hob⟩ := Option.bind_eq_some_iff.mp h
  obtain ⟨hg, hlt, -⟩ := lastBefore_eq_some hl
  obtain ⟨hfm, hidx, hdir⟩ := ofCandle_eq_some hg hob
  rw [hidx]
  exact ⟨⟨c, hfm⟩, hlt, hdir, not_not.mp hdrc⟩

theorem detectObFromBreak_eq_some (h : detectObFromBreak side s choch = some ob) :
    (∃ c, ob.From s c) ∧ ob.candleIndex < choch.candleIndex ∧
      ob.direction = side.breakDirection := by
  obtain ⟨⟨c, j⟩, hl, hob⟩ := Option.bind_eq_some_iff.mp h
  obtain ⟨hg, hlt, -⟩ := lastBefore_eq_some hl
  obtain ⟨hfm, hidx, hdir⟩ := ofCandle_eq_some hg hob
  rw [hidx]
  exact ⟨⟨c, hfm⟩, hlt, hdir⟩

theorem detectObFromChoch_eq_some (h : detectObFromChoch s choch = some ob) :
    (∃ c, ob.From s c) ∧ ob.candleIndex < choch.candleIndex ∧
      ob.direction = if choch.direction = .bullish then .bullish else .bearish := by
  unfold detectObFromChoch at h
  split at h
  · cases h
  · split at h
    · next hdrc =>
      rw [if_pos hdrc]
      exact detectObFromBreak_eq_some h
    · next hdrc =>
      rw [if_neg hdrc]
      exact detectObFromBreak_eq_some h

end BlockFacts

def OrderBlock.takenOutBy (ob : OrderBlock) (c : Candle) : Bool :=
  match ob.direction with
  | .bullish => c.close < ob.lowerBound
  | _ => ob.upperBound < c.close

def validateZoneFreshness (ob : OrderBlock) (s : CandleSequence) : Bool :=
  if s.candles.length - 1 ≤ ob.candleIndex then true
  else (s.candles.drop (ob.candleIndex + 1)).all (fun c => !ob.takenOutBy c)

def checkObStillFresh (s : CandleSequence) (direction : Direction) (obUpper obLower : ℚ) : Bool :=
  if obUpper - obLower ≤ 0 then true
  else
    s.candles.all (fun c =>
      match direction with
      | .bullish => !decide (c.close < obLower)
      | .bearish => !decide (obUpper < c.close)
      | .neutral => true)

def DetectedOn (config : SMCConfig) (s : CandleSequence) (ob : OrderBlock) : Prop :=
  (∃ side bms, detectOb config side s bms = some ob) ∨ ∃ choch, detectObFromChoch s choch = some ob

theorem DetectedOn.from_candle (h : DetectedOn config s ob) :
    (∃ c, ob.From s c) ∧ (ob.direction = .bullish ∨ ob.direction = .bearish) := by
  rcases h with ⟨side, bms, h⟩ | ⟨choch, h⟩
  · obtain ⟨hfm, -, hdrc, -⟩ := detectOb_eq_some h
    refine ⟨hfm, ?_⟩
    cases side
    · exact .inl hdrc
    · exact .inr hdrc
  · obtain ⟨hfm, -, hdrc⟩ := detectObFromChoch_eq_some h
    refine ⟨hfm, ?_⟩
    split at hdrc
    · exact .inl hdrc
    · exact .inr hdrc

theorem validateZoneFreshness_eq (ob : OrderBlock) (s : CandleSequence) :
    validateZoneFreshness ob s =
      (s.candles.drop (ob.candleIndex + 1)).all (fun c => !ob.takenOutBy c) := by
  unfold validateZoneFreshness
  split
  · rw [drop_eq_nil_of_le (by omega)]
    rfl
  · rfl

theorem validateZoneFreshness_iff :
    validateZoneFreshness ob s ↔
      ∀ c ∈ s.candles.drop (ob.candleIndex + 1), ob.takenOutBy c = false := by
  rw [validateZoneFreshness_eq]
  simp

theorem checkObStillFresh_eq (s : CandleSequence)
    (hdrc : ob.direction = .bullish ∨ ob.direction = .bearish) :
    checkObStillFresh s ob.direction ob.upperBound ob.lowerBound =
      s.candles.all (fun c => !ob.takenOutBy c) := by
  have hhei : ¬ ob.upperBound - ob.lowerBound ≤ 0 := by
    have hlt := ob.lower_lt_upper
    linarith
  unfold checkObStillFresh OrderBlock.takenOutBy
  rw [if_neg hhei]
  rcases hdrc with hdrc | hdrc
  · rw [hdrc]
  · rw [hdrc]

theorem not_takenOutBy_own (h : ob.From s c) : ob.takenOutBy c = false := by
  have hlow := c.low_le_close
  have hhi := c.close_le_high
  unfold OrderBlock.takenOutBy
  rw [h.upper, h.lower]
  split
  · exact decide_eq_false (not_lt.mpr hlow)
  · exact decide_eq_false (not_lt.mpr hhi)

theorem still_fresh_eq_freshness_iff (config : SMCConfig) (s : CandleSequence) (ob : OrderBlock)
    (h : DetectedOn config s ob) :
    checkObStillFresh s ob.direction ob.upperBound ob.lowerBound = validateZoneFreshness ob s ↔
      (∀ c ∈ s.candles.take ob.candleIndex, ob.takenOutBy c = false) ∨
        ∃ c ∈ s.candles.drop (ob.candleIndex + 1), ob.takenOutBy c = true := by
  obtain ⟨⟨own, hfm⟩, hdrc⟩ := h.from_candle
  have hown := not_takenOutBy_own hfm
  obtain ⟨hlt, hg⟩ := List.getElem?_eq_some_iff.mp hfm.candle
  -- the candles are those before the block, its own, and those after
  have hspl : s.candles.all (fun c => !ob.takenOutBy c) =
      ((s.candles.take ob.candleIndex).all (fun c => !ob.takenOutBy c) &&
        (s.candles.drop (ob.candleIndex + 1)).all (fun c => !ob.takenOutBy c)) := by
    conv_lhs => rw [← take_append_drop ob.candleIndex s.candles]
    rw [all_append, drop_eq_getElem_cons hlt, all_cons, hg, hown]
    rfl
  rw [checkObStillFresh_eq s hdrc, hspl, validateZoneFreshness_eq]
  cases haft : (s.candles.drop (ob.candleIndex + 1)).all (fun c => !ob.takenOutBy c) with
  | false =>
    rw [Bool.and_false]
    refine iff_of_true rfl (.inr ?_)
    simpa using haft
  | true =>
    rw [Bool.and_true, all_eq_true]
    rw [all_eq_true] at haft
    constructor
    · intro hbef
      left
      intro c hc
      simpa using hbef c hc
    · rintro (hbef | ⟨c, hc, hout⟩)
      · intro c hc
        rw [hbef c hc]
        rfl
      · have hkp := haft c hc
        rw [hout] at hkp
        cases hkp

def firstBullishBms (s : CandleSequence) : Option BreakInMarketStructure :=
  (detectBullishBms .standard s (detectSwingHighs .standard s)).head?

def firstBullishBlock (s : CandleSequence) : Option OrderBlock :=
  (firstBullishBms s).bind (detectBullishOb .standard s)

def climb? : Option CandleSequence :=
  CandleSequence.ofPrices? "US30" .mn1 32400000000
    [(1000, 1100, 900, 1000), (1000, 2100, 1000, 2000), (2000, 3000, 2000, 2900),
      (2900, 2950, 2400, 2500), (2500, 4600, 2390, 4500), (4500, 4700, 4400, 4600),
      (4600, 4900, 4500, 4800)]

theorem still_fresh_eq_freshness_iff_climb :
    ∃ s ob, climb? = some s ∧ firstBullishBlock s = some ob ∧
      (checkObStillFresh s ob.direction ob.upperBound ob.lowerBound = validateZoneFreshness ob s ↔
        (∀ c ∈ s.candles.take ob.candleIndex, ob.takenOutBy c = false) ∨
          ∃ c ∈ s.candles.drop (ob.candleIndex + 1), ob.takenOutBy c = true) := by
  have hso : (climb?.bind firstBullishBlock).isSome = true := by decide +kernel
  obtain ⟨ob, hb⟩ := Option.isSome_iff_exists.mp hso
  obtain ⟨s, hs, hblo⟩ := Option.bind_eq_some_iff.mp hb
  obtain ⟨bms, -, hob⟩ := Option.bind_eq_some_iff.mp hblo
  exact ⟨s, ob, hs, hblo, still_fresh_eq_freshness_iff .standard s ob (.inl ⟨.high, bms, hob⟩)⟩

theorem climb_still_fresh :
    climb?.bind (fun s => (firstBullishBlock s).map (fun ob =>
      (ob.lowerBound, ob.upperBound, ob.candleIndex, validateZoneFreshness ob s,
        checkObStillFresh s ob.direction ob.upperBound ob.lowerBound))) =
      some (2400, 2950, 3, true, false) := by
  decide +kernel

end ETradie.Ta
