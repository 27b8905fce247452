import ETradie.Ta.Swings

namespace ETradie.Ta

open Kernel List

structure SMCConfig where
  enabled : Bool := true
  minDisplacementPips : ℚ := 20
  bmsStrongDisplacementPips : ℚ := 50
  bmsModerateDisplacementPips : ℚ := 30
  bmsWeakConfirmCandles : Nat := 5
  turtleSoupMinPips : ℚ := 5
  turtleSoupMinSlPips : ℚ := 10
  obBodyPercentageThreshold : ℚ := 50
  fvgMinGapPips : ℚ := 2
  (requireFvgWithOb requireSessionTiming enableTurtleSoup enableShBmsRto : Bool := true)
  (enableSmsBmsRto enableAmd enableChochReversal : Bool := true)
  fibonacciTolerancePips : ℚ := 5
  fvgMaxCandleDistance : Nat := 5
  sweepMaxCandleDistance : Nat := 10
  smsMaxObCandleDistance : Nat := 20
  inducementMinBreakPips : ℚ := 1
  weakConfirm_ge : 3 ≤ bmsWeakConfirmCandles := by decide

def SMCConfig.standard : SMCConfig := {}

def tfScale : Timeframe → ℚ
  | .m1 => 1 / 10
  | .m5 => 1 / 5
  | .m15 => 7 / 20
  | .m30 => 1 / 2
  | .h1 => 1
  | .h3 => 3 / 2
  | .h4 => 2
  | .h6 => 3
  | .h8 => 4
  | .h12 => 5
  | .d1 => 5
  | .w1 => 12
  | .mn1 => 25

variable (first : Nat) (s : CandleSequence) (level : ℚ)

section Breaks

variable (side : Side) (cs : List Candle)

def firstBreak (start : Nat) (level : ℚ) : Option (Candle × Nat) :=
  (cs.zipIdx.drop start).find? (fun c => side.beyond level c.1.close)

def closesBeyond (first : Nat) (level : ℚ) : Nat :=
  ((cs.drop first).takeWhile (fun c => side.beyond level c.close)).length

def confirmedBreak (index : Nat) (level : ℚ) (required : Candle → Option Nat) :
    Option (Candle × Nat × Candle) :=
  match firstBreak side cs (index + 1) level with
  | none => none
  | some (breakout, first) =>
    match required breakout with
    | none => none
    | some closes =>
      if closesBeyond side cs first level < closes then none
      else
        (cs[min (first + closes - 1) (cs.length - 1)]?).map
          (fun confirm => (breakout, first, confirm))

end Breaks

section BreakFacts

variable {side : Side} {cs rest : List Candle}
variable {level} {start index : Nat} {required : Candle → Option Nat}

theorem firstBreak_eq_some {j : Nat} {c : Candle}
    (h : firstBreak side cs start level = some (c, j)) :
    cs[j]? = some c ∧ start ≤ j ∧ side.beyond level c.close := by
  have hcl : side.beyond level c.close := by simpa using find?_some h
  obtain ⟨k, hk⟩ := getElem?_of_mem (mem_of_find?_eq_some h)
  rw [getElem?_drop, getElem?_zipIdx, Option.map_eq_some_iff] at hk
  obtain ⟨c', hg, hpa⟩ := hk
  obtain ⟨rfl, rfl⟩ := Prod.mk.inj hpa
  refine ⟨?_, by omega, hcl⟩
  rw [Nat.zero_add]
  exact hg

theorem firstBreak_append {r : Candle × Nat} (h : firstBreak side cs start level = some r) :
    firstBreak side (cs ++ rest) start level = some r := by
  unfold firstBreak at h ⊢
  rw [zipIdx_append, drop_append, find?_append, h]
  rfl

theorem closesBeyond_append (level : ℚ) :
    closesBeyond side cs first level ≤ closesBeyond side (cs ++ rest) first level := by
  unfold closesBeyond
  rw [drop_append, takeWhile_append]
  split
  · rw [length_append]
    omega
  · rfl

theorem closesBeyond_le (level : ℚ) :
    closesBeyond side cs first level ≤ cs.length - first := by
  rw [← length_drop]
  exact (takeWhile_sublist _).length_le

theorem confirmedBreak_eq_some {first : Nat} {breakout confirm : Candle}
    (h : confirmedBreak side cs index level required = some (breakout, first, confirm)) :
    firstBreak side cs (index + 1) level = some (breakout, first) ∧
      ∃ closes, required breakout = some closes ∧ closes ≤ closesBeyond side cs first level ∧
        cs[first + closes - 1]? = some confirm := by
  unfold confirmedBreak at h
  split at h
  · cases h
  next _ _ hfst =>
    split at h
    · cases h
    next closes hclo =>
      split_ifs at h with heno
      rw [not_lt] at heno
      obtain ⟨confirm', hg, hpa⟩ := Option.map_eq_some_iff.mp h
      cases hpa
      have hle : closesBeyond side cs first level ≤ cs.length - first := closesBeyond_le first level
      have hlt := (List.getElem?_eq_some_iff.mp (firstBreak_eq_some hfst).1).1
      rw [min_eq_left (by omega)] at hg
      exact ⟨hfst, closes, hclo, heno, hg⟩

theorem confirmedBreak_append (rest : List Candle) {r : Candle × Nat × Candle}
    (h : confirmedBreak side cs index level required = some r) :
    confirmedBreak side (cs ++ rest) index level required = some r := by
  obtain ⟨breakout, first, confirm⟩ := r
  obtain ⟨hfst, closes, hclo, heno, hg⟩ := confirmedBreak_eq_some h
  have hmr : closes ≤ closesBeyond side (cs ++ rest) first level :=
    heno.trans (closesBeyond_append first level)
  have hbd := (List.getElem?_eq_some_iff.mp hg).1
  have hidx : min (first + closes - 1) ((cs ++ rest).length - 1) = first + closes - 1 := by
    rw [length_append]
    omega
  unfold confirmedBreak
  rw [firstBreak_append hfst]
  simp only [hclo]
  rw [if_neg (not_lt.mpr hmr), hidx, getElem?_append_left hbd, hg]
  rfl

end BreakFacts

structure BreakInMarketStructure where
  symbol : String
  timeframe : Timeframe
  timestamp : Int
  direction : Direction
  brokenLevel : ℚ
  brokenLevelTimestamp : Int
  breakoutPrice : ℚ
  candleIndex : Nat
  displacementPips : ℚ
  confirmed : Bool
  broken_pos : 0 < brokenLevel
  breakout_pos : 0 < breakoutPrice
  displacement_nonneg : 0 ≤ displacementPips

structure ChangeOfCharacter where
  symbol : String
  timeframe : Timeframe
  timestamp : Int
  direction : Direction
  brokenLevel : ℚ
  brokenLevelTimestamp : Int
  breakoutPrice : ℚ
  candleIndex : Nat
  isMinor : Bool
  broken_pos : 0 < brokenLevel
  breakout_pos : 0 < breakoutPrice

structure ShiftInMarketStructure where
  symbol : String
  timeframe : Timeframe
  timestamp : Int
  direction : Direction
  failedLevel : ℚ
  failedLevelTimestamp : Int
  reversalPrice : ℚ
  candleIndex : Nat
  isFailureSwing : Bool
  failed_pos : 0 < failedLevel
  reversal_pos : 0 < reversalPrice

def sortedByTime {side : Side} (swings : List (Swing side)) : List (Swing side) :=
  swings.mergeSort (fun x y => x.timestamp ≤ y.timestamp)

theorem sortedByTime_detectSwings (a : SwingAnalyzer) (side : Side) (s : CandleSequence) :
    sortedByTime (detectSwings a side s) = detectSwings a side s := by
  refine mergeSort_of_pairwise ?_
  refine (detectSwings_timestamps a side s).imp ?_
  intro x y hlt
  exact decide_eq_true hlt.le

variable (swingHighs : List SwingHigh) (swingLows : List SwingLow)

section Bms

variable (config : SMCConfig)

def requiredConfirmationCandles (displacement strongThreshold moderateThreshold : ℚ)
    (weakCount : Nat) : Nat :=
  if strongThreshold ≤ displacement then 2
  else if moderateThreshold ≤ displacement then 3
  else weakCount

def bmsRequired (tf : Timeframe) (displacement : ℚ) : Option Nat :=
  let scale := tfScale tf
  if displacement < config.minDisplacementPips * scale then none
  else some (requiredConfirmationCandles displacement (config.bmsStrongDisplacementPips * scale)
    (config.bmsModerateDisplacementPips * scale) config.bmsWeakConfirmCandles)

def bmsDisplacement (breakout : Candle) : ℚ := round2 (pips level breakout.close s.symbol)

theorem bmsDisplacement_nonneg (breakout : Candle) :
    0 ≤ bmsDisplacement s level breakout :=
  round2_nonneg (pips_nonneg _ _ _)

def bmsOf {side : Side} (s : CandleSequence) (swing : Swing side) : Option BreakInMarketStructure :=
  (confirmedBreak side s.candles swing.index swing.price
    (fun breakout => bmsRequired config s.timeframe (bmsDisplacement s swing.price breakout))).map
      (fun r =>
        { symbol := s.symbol, timeframe := s.timeframe, timestamp := r.2.2.timestamp
          direction := side.breakDirection, brokenLevel := swing.price
          brokenLevelTimestamp := swing.timestamp, breakoutPrice := r.1.close, candleIndex := r.2.1
          displacementPips := bmsDisplacement s swing.price r.1, confirmed := true
          broken_pos := swing.price_pos, breakout_pos := r.1.close_pos
          displacement_nonneg := bmsDisplacement_nonneg _ _ _ })

def detectBms {side : Side} (s : CandleSequence) (swings : List (Swing side)) :
    List BreakInMarketStructure :=
  (sortedByTime swings).filterMap (bmsOf config s)

def detectBullishBms (s : CandleSequence) (swingHighs : List SwingHigh) :
    List BreakInMarketStructure :=
  detectBms config s swingHighs

end Bms

def chochMaxStrength : Nat := 8

def chochRequired : Timeframe → Nat
  | .m1 => 1
  | .m5 => 1
  | .m15 => 2
  | .m30 => 2
  | _ => 3

def chochOf {side : Side} (s : CandleSequence) (swing : Swing side) : Option ChangeOfCharacter :=
  if chochMaxStrength < swing.strength then none
  else
    (confirmedBreak side s.candles swing.index swing.price
      (fun _ => some (chochRequired s.timeframe))).map
        (fun r =>
          { symbol := s.symbol, timeframe := s.timeframe, timestamp := r.2.2.timestamp
            direction := side.breakDirection, brokenLevel := swing.price
            brokenLevelTimestamp := swing.timestamp, breakoutPrice := r.1.close
            candleIndex := r.2.1, isMinor := swing.strength ≤ 5, broken_pos := swing.price_pos
            breakout_pos := r.1.close_pos })

def detectChoch {side : Side} (s : CandleSequence) (swings : List (Swing side)) :
    List ChangeOfCharacter :=
  (sortedByTime swings).filterMap (chochOf s)

def detectBullishChoch :
    List ChangeOfCharacter :=
  detectChoch s swingHighs

def Side.failDirection : Side → Direction
  | .high => .bearish
  | .low => .bullish

def smsOf {side : Side} (s : CandleSequence) (first second third : Swing side) :
    Option ShiftInMarketStructure :=
  if !side.beyond first.price second.price then none
  else if side.beyond second.price third.price then none
  else
    (s.candles[third.index]?).map (fun reversal =>
      { symbol := s.symbol, timeframe := s.timeframe, timestamp := reversal.timestamp
        direction := side.failDirection, failedLevel := second.price
        failedLevelTimestamp := second.timestamp, reversalPrice := reversal.close
        candleIndex := third.index, isFailureSwing := true, failed_pos := second.price_pos
        reversal_pos := reversal.close_pos })

def smsEvents {side : Side} (s : CandleSequence) : List (Swing side) → List ShiftInMarketStructure
  | first :: second :: third :: rest =>
    (smsOf s first second third).toList ++ smsEvents s (second :: third :: rest)
  | _ => []

def detectSms {side : Side} (s : CandleSequence) (swings : List (Swing side)) :
    List ShiftInMarketStructure :=
  smsEvents s (sortedByTime swings)

end ETradie.Ta
