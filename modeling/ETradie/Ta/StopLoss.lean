import ETradie.Ta.Candles

namespace ETradie.Ta

def timeframeFloorPips : Timeframe → ℚ
  | .m1 => 8
  | .m5 => 12
  | .m15 => 18
  | .m30 => 25
  | .h1 => 35
  | .h3 => 55
  | .h4 => 70
  | .h6 => 90
  | .h8 => 110
  | .h12 => 140
  | .d1 => 200
  | .w1 => 400
  | .mn1 => 700

def timeframeMinTpRrTable : Timeframe → ℚ
  | .m1 => 2
  | .m5 => 2
  | .m15 => 5 / 2
  | .m30 => 5 / 2
  | .h1 => 3
  | .h3 => 3
  | .h4 => 7 / 2
  | .h6 => 7 / 2
  | .h8 => 4
  | .h12 => 4
  | .d1 => 5
  | .w1 => 5
  | .mn1 => 5

def lowestStyleMinRr : ℚ := 2

variable (tf : Timeframe)

def timeframeMinTpRr : ℚ := max lowestStyleMinRr (timeframeMinTpRrTable tf)

def resolveMinTpRr (tf : Option Timeframe) (styleMinRr : Option ℚ) : ℚ :=
  match styleMinRr, tf.map timeframeMinTpRr with
  | none, none => lowestStyleMinRr
  | some style, none => style
  | none, some floor => floor
  | some style, some floor => max style floor

def minTpRr : ℚ := resolveMinTpRr (some tf) none

theorem timeframeFloorPips_pos : 0 < timeframeFloorPips tf := by
  cases tf <;> norm_num [timeframeFloorPips]

theorem minTpRr_pos : 0 < minTpRr tf := by
  have htwo : lowestStyleMinRr ≤ minTpRr tf := le_max_left _ _
  unfold lowestStyleMinRr at htwo
  linarith

theorem minTpRr_mono {ltf htf : Timeframe} (h : ltf.minutes ≤ htf.minutes) :
    minTpRr ltf ≤ minTpRr htf := by
  refine max_le_max (le_refl _) ?_
  cases ltf <;> cases htf <;>
    first
    | (exfalso; revert h; decide)
    | norm_num [timeframeMinTpRrTable]

def structuralBuffer (symbol : String) (tf : Timeframe) (invalidationCandleRange : Option ℚ) : ℚ :=
  let floor := timeframeFloorPips tf * pipValue symbol
  match invalidationCandleRange with
  | none => floor
  | some range => if 0 < range then max (range * (1 / 4)) floor else floor

def structuralStopLoss (side : Side) (symbol : String) (tf : Timeframe) (invalidationLevel : ℚ)
    (obInnerEdge invalidationCandleRange : Option ℚ) : ℚ :=
  let buffer := structuralBuffer symbol tf invalidationCandleRange
  match side with
  | .low =>
    match obInnerEdge with
    | none => invalidationLevel + buffer
    | some edge => max (invalidationLevel + buffer) (edge + buffer)
  | .high =>
    match obInnerEdge with
    | none => invalidationLevel - buffer
    | some edge => min (invalidationLevel - buffer) (edge - buffer)

theorem structuralBuffer_pos (symbol : String) (tf : Timeframe)
    (invalidationCandleRange : Option ℚ) :
    0 < structuralBuffer symbol tf invalidationCandleRange := by
  have hflo : 0 < timeframeFloorPips tf * pipValue symbol :=
    mul_pos (timeframeFloorPips_pos tf) (pipValue_pos symbol)
  unfold structuralBuffer
  cases invalidationCandleRange with
  | none => exact hflo
  | some _ =>
    simp only
    split
    · exact lt_max_of_lt_right hflo
    · exact hflo

theorem structuralStopLoss_beyond (side : Side) (symbol : String) (tf : Timeframe)
    (invalidationLevel : ℚ) (obInnerEdge invalidationCandleRange : Option ℚ) :
    side.beyond (structuralStopLoss side symbol tf invalidationLevel obInnerEdge
        invalidationCandleRange) invalidationLevel ∧
      ∀ edge ∈ obInnerEdge, side.beyond (structuralStopLoss side symbol tf invalidationLevel
        obInnerEdge invalidationCandleRange) edge := by
  have hbuf := structuralBuffer_pos symbol tf invalidationCandleRange
  have hbel : ∀ x, x - structuralBuffer symbol tf invalidationCandleRange < x := by
    intro x
    linarith
  have habo : ∀ x, x < x + structuralBuffer symbol tf invalidationCandleRange := by
    intro x
    linarith
  cases side <;> cases obInnerEdge <;>
    simp only [Side.beyond, decide_eq_true_eq, Option.mem_def, Option.some.injEq, forall_eq',
      reduceCtorEq, false_imp_iff, implies_true, and_true]
  · exact hbel _
  · exact ⟨min_lt_of_left_lt (hbel _), min_lt_of_right_lt (hbel _)⟩
  · exact habo _
  · exact ⟨lt_max_of_lt_left (habo _), lt_max_of_lt_right (habo _)⟩

variable {side : Side}

theorem structuralStopLoss_pos_iff {symbol : String} {tf : Timeframe}
    {invalidationLevel edge : ℚ} (hlvl : 0 < invalidationLevel) :
    0 < structuralStopLoss side symbol tf invalidationLevel (some edge) none ↔
      (side = .high → structuralBuffer symbol tf none < invalidationLevel ∧
        structuralBuffer symbol tf none < edge) := by
  have hbuf := structuralBuffer_pos symbol tf none
  unfold structuralStopLoss
  cases side
  · simp
  · simp only [reduceCtorEq, false_imp_iff, iff_true]
    exact lt_max_of_lt_left (by linarith)

def Side.gain : Side → (entry price : ℚ) → ℚ
  | .high, entry, price => price - entry
  | .low, entry, price => entry - price

def findNearestTarget (side : Side) (entryPrice minReward : ℚ) (prices : List ℚ) : Option ℚ :=
  let eligible := prices.filter
    (fun p => side.beyond entryPrice p && minReward ≤ side.gain entryPrice p)
  match side with
  | .high => eligible.min?
  | .low => eligible.max?

theorem findNearestTarget_eq_some {entryPrice minReward target : ℚ} {prices : List ℚ}
    (h : findNearestTarget side entryPrice minReward prices = some target) :
    target ∈ prices ∧ minReward ≤ side.gain entryPrice target := by
  have hm : target ∈ prices.filter
      (fun p => side.beyond entryPrice p && minReward ≤ side.gain entryPrice p) := by
    cases side
    · exact List.min?_mem h
    · exact List.max?_mem h
  rw [List.mem_filter, Bool.and_eq_true, decide_eq_true_eq] at hm
  exact ⟨hm.1, hm.2.2⟩

end ETradie.Ta
