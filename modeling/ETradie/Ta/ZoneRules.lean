import ETradie.Ta.Ranges

namespace ETradie.Ta

section Rules

variable (config : SMCConfig)

def rangesOverlap (aLower aUpper bLower bUpper : ℚ) : Bool := aLower ≤ bUpper && bLower ≤ aUpper

def indexDistance (i j : Nat) : Nat := (i - j) + (j - i)

def isAssociated (ob : OrderBlock) (fvg : FairValueGap) : Bool :=
  fvg.direction = ob.direction &&
    indexDistance fvg.candleIndex ob.candleIndex ≤ config.fvgMaxCandleDistance &&
    (rangesOverlap ob.lowerBound ob.upperBound fvg.lowerBound fvg.upperBound ||
      match ob.direction with
      | .bullish => decide (ob.lowerBound ≤ fvg.lowerBound)
      | _ => decide (fvg.upperBound ≤ ob.upperBound))

def getAssociatedFvg (ob : OrderBlock) (fvgs : List FairValueGap) : Option FairValueGap :=
  fvgs.find? (isAssociated config ob)

def validateObHasFvg (ob : OrderBlock) (fvgs : List FairValueGap) : Bool :=
  !config.requireFvgWithOb || (getAssociatedFvg config ob fvgs).isSome

def inducementNear (ob : OrderBlock) (idm : InducementEvent) : Bool :=
  match idm.cleared, idm.clearedTimestamp with
  | true, some clearedTimestamp =>
    clearedTimestamp ≤ ob.timestamp ||
      indexDistance idm.candleIndex ob.candleIndex ≤ config.fvgMaxCandleDistance
  | _, _ => false

def validateObHasLiquidity (ob : OrderBlock) (liquiditySweeps : List LiquiditySweep)
    (inducementEvents : List InducementEvent) : Bool :=
  if liquiditySweeps.any
      (fun sweep => indexDistance sweep.candleIndex ob.candleIndex ≤ config.fvgMaxCandleDistance)
    then true
  else if inducementEvents.any (inducementNear config ob) then true
  else true

@[simp] theorem validateObHasLiquidity_eq (ob : OrderBlock) (liquiditySweeps : List LiquiditySweep)
    (inducementEvents : List InducementEvent) :
    validateObHasLiquidity config ob liquiditySweeps inducementEvents := by
  unfold validateObHasLiquidity
  split_ifs <;> rfl

def scoreObFibConfluence (ob : OrderBlock) : Option FibonacciRetracement → Nat
  | none => 0
  | some r =>
    if r.isAtOte ob.midpoint config.fibonacciTolerancePips then 3
    else
      match ob.direction, r.zoneForPrice ob.midpoint with
      | .bullish, .discount => 2
      | .bearish, .premium => 2
      | _, .equilibrium => 1
      | _, _ => 0

def validateObAtPremiumDiscount (_ob : OrderBlock) (_retracement : Option FibonacciRetracement) :
    Bool :=
  true

def validateAllObRules (ob : OrderBlock) (fvgs : List FairValueGap)
    (liquiditySweeps : List LiquiditySweep) (inducementEvents : List InducementEvent)
    (retracement : Option FibonacciRetracement) (s : CandleSequence) : Bool :=
  validateObHasFvg config ob fvgs &&
    validateObHasLiquidity config ob liquiditySweeps inducementEvents &&
    validateObAtPremiumDiscount ob retracement && validateZoneFreshness ob s

theorem validateAllObRules_eq (ob : OrderBlock) (fvgs : List FairValueGap)
    (liquiditySweeps : List LiquiditySweep) (inducementEvents : List InducementEvent)
    (retracement : Option FibonacciRetracement) (s : CandleSequence) :
    validateAllObRules config ob fvgs liquiditySweeps inducementEvents retracement s =
      (validateObHasFvg config ob fvgs && validateZoneFreshness ob s) := by
  simp [validateAllObRules, validateObAtPremiumDiscount]

end Rules

section Reports

variable (config : SMCConfig)

def isOnPath (side : Side) (ob : OrderBlock) (bmsBreakoutPrice : ℚ) (idm : InducementEvent) :
    Bool :=
  idm.cleared && idm.direction = side.breakDirection &&
    match side with
    | .high => ob.lowerBound ≤ idm.inducementLevel && idm.inducementLevel ≤ bmsBreakoutPrice
    | .low => idm.inducementLevel ≤ ob.upperBound && bmsBreakoutPrice ≤ idm.inducementLevel

def selectRelevantInducement (side : Side) (ob : OrderBlock)
    (inducementEvents : List InducementEvent) (bmsBreakoutPrice : ℚ) : Option InducementEvent :=
  latestBy (fun idm => idm.clearedTimestamp.getD idm.inducementTimestamp)
    (inducementEvents.filter (isOnPath side ob bmsBreakoutPrice))

structure SweepContext where
  liquidityType : LiquidityType
  sweepPips : ℚ
  (closedBackInside isMajorSweep : Bool)
deriving DecidableEq

def buildSweepContext (sweep : LiquiditySweep) : SweepContext where
  liquidityType := sweep.liquidityType
  sweepPips := round2 sweep.sweepPips
  closedBackInside := sweep.closedBackInside
  isMajorSweep := sweep.isMajorSweep

structure FibContext where
  percentage : ℚ
  zone : PriceZone
  isInOte : Bool
  nearestLevel : ℚ
deriving DecidableEq

def round4 (x : ℚ) : ℚ := Kernel.roundHalfEven (x * 10000) / 10000

def buildFibContext (price : ℚ) : Option FibonacciRetracement → Option FibContext
  | none => none
  | some r =>
    if price < r.swingLow ∨ r.swingHigh < price then none
    else
      let percentage :=
        if r.isBullish then (r.swingHigh - price) / r.rangeSize
        else (price - r.swingLow) / r.rangeSize
      some
        { percentage := round4 percentage, zone := r.zoneForPrice price
          isInOte := r.isAtOte price config.fibonacciTolerancePips
          nearestLevel := (fibonacciValues.argmin (fun v => |percentage - v|)).getD 0 }

end Reports

section FibScore

variable {config : SMCConfig} {r : FibonacciRetracement} {side : Side} {price tolerancePips : ℚ}

namespace FibonacciRetracement

def centre (r : FibonacciRetracement) : ℚ := (r.swingHigh + r.swingLow) / 2

theorem zoneForPrice_eq (r : FibonacciRetracement) (price : ℚ) :
    r.zoneForPrice price =
      if |price - r.centre| ≤ r.rangeSize * (2 / 100) then .equilibrium
      else if r.isBullish = decide (r.centre < price) then .premium else .discount := by
  have hlt := r.low_lt_high
  have hhf : r.levelPrice (1 / 2) = r.centre := by
    unfold levelPrice centre rangeSize
    split <;> ring
  have hlow : price < r.swingLow → price < r.centre := by
    unfold centre
    intro h
    linarith
  have hhi : r.swingHigh < price → r.centre < price := by
    unfold centre
    intro h
    linarith
  unfold zoneForPrice
  rw [hhf]
  by_cases hnear : |price - r.centre| ≤ r.rangeSize * (2 / 100)
  · have hins : ¬ (price < r.swingLow ∨ r.swingHigh < price) := by
      rw [abs_le] at hnear
      unfold centre rangeSize at hnear
      rw [not_or]
      constructor <;> linarith
    rw [if_neg hins, if_pos hnear, if_pos hnear]
  · have hne : price ≠ r.centre := by
      rintro rfl
      rw [sub_self] at hnear
      exact hnear (mul_nonneg rangeSize_pos.le (by norm_num))
    rw [if_neg hnear, if_neg hnear]
    rcases lt_or_gt_of_ne hne with hbel | habo
    · have hnot : ¬ r.swingHigh < price := fun h => hbel.not_gt (hhi h)
      cases r.isBullish <;> simp [hbel, hbel.not_gt, hnot]
    · have hnot : ¬ price < r.swingLow := fun h => habo.not_gt (hlow h)
      cases r.isBullish <;> simp [habo, habo.not_gt, hnot]

end FibonacciRetracement

def Side.inPocket (side : Side) (r : FibonacciRetracement) (price tolerancePips : ℚ) : Bool :=
  let tolerance := tolerancePips * pipValue r.symbol
  match side with
  | .high =>
    r.swingHigh - r.rangeSize * (786 / 1000) - tolerance ≤ price &&
      price ≤ r.swingHigh - r.rangeSize * (618 / 1000) + tolerance
  | .low =>
    r.swingLow + r.rangeSize * (618 / 1000) - tolerance ≤ price &&
      price ≤ r.swingLow + r.rangeSize * (786 / 1000) + tolerance

def Side.depth : Side → FibonacciRetracement → ℚ → ℚ
  | .high, r, price => r.centre - price
  | .low, r, price => price - r.centre

def Side.fibScore (config : SMCConfig) (side : Side) (r : FibonacciRetracement) (price : ℚ) : Nat :=
  if side.inPocket r price config.fibonacciTolerancePips then 3
  else if r.rangeSize * (2 / 100) < side.depth r price then 2
  else if |price - r.centre| ≤ r.rangeSize * (2 / 100) then 1
  else 0

theorem isAtOte_eq (hleg : r.isBullish = decide (side = .high)) :
    r.isAtOte price tolerancePips = side.inPocket r price tolerancePips := by
  have hsz : 0 < r.rangeSize := r.rangeSize_pos
  unfold FibonacciRetracement.isAtOte FibonacciRetracement.oteZone
  simp only [FibonacciRetracement.levelPrice, hleg]
  cases side
  · have hord : r.swingHigh - r.rangeSize * (786 / 1000) ≤
        r.swingHigh - r.rangeSize * (618 / 1000) := by linarith
    simp only [decide_true, if_true, max_eq_left hord, min_eq_right hord]
    rfl
  · have hord : r.swingLow + r.rangeSize * (618 / 1000) ≤
        r.swingLow + r.rangeSize * (786 / 1000) := by linarith
    simp only [reduceCtorEq, decide_false, if_false, max_eq_right hord, min_eq_left hord]
    rfl

theorem fib_score_eq_iff (config : SMCConfig) (ob : OrderBlock) (r : FibonacciRetracement)
    (side : Side) (hblock : ob.direction = side.breakDirection)
    (hleg : r.isBullish = decide (side = .high)) :
    scoreObFibConfluence config ob (some r) = side.fibScore config r ob.midpoint ↔
      side = .high ∨ side.inPocket r ob.midpoint config.fibonacciTolerancePips = true ∨
        |ob.midpoint - r.centre| ≤ r.rangeSize * (2 / 100) := by
  have hsz : 0 < r.rangeSize := r.rangeSize_pos
  unfold scoreObFibConfluence Side.fibScore
  dsimp only
  rw [isAtOte_eq hleg, hblock, r.zoneForPrice_eq, hleg]
  by_cases hpoc : side.inPocket r ob.midpoint config.fibonacciTolerancePips = true
  · simp [hpoc]
  by_cases hnear : |ob.midpoint - r.centre| ≤ r.rangeSize * (2 / 100)
  · have hsha : ¬ r.rangeSize * (2 / 100) < side.depth r ob.midpoint := by
      rw [abs_le] at hnear
      cases side <;> simp only [Side.depth] <;> linarith
    simp [hnear, hsha]
  -- away from the 50% level only the side of it matters
  rcases lt_abs.mp (not_le.mp hnear) with habo | hbel
  · have hsi : r.centre < ob.midpoint := by linarith
    have hsha : ¬ r.rangeSize * (2 / 100) < r.centre - ob.midpoint := by linarith
    cases side <;> simp [Side.depth, Side.breakDirection, hsi, hsha, habo, hpoc, hnear]
  · have hsi : ¬ r.centre < ob.midpoint := by linarith
    have hdeep : r.rangeSize * (2 / 100) < r.centre - ob.midpoint := by linarith
    have hsha : ¬ r.rangeSize * (2 / 100) < ob.midpoint - r.centre := by linarith
    cases side <;> simp [Side.depth, Side.breakDirection, hsi, hsha, hdeep, hpoc, hnear]

def downLeg : FibonacciRetracement where
  symbol := "US30"
  timeframe := .h1
  swingHigh := 200
  swingLow := 100
  swingHighTimestamp := 0
  swingLowTimestamp := 1
  isBullish := false
  low_pos := by norm_num
  low_lt_high := by norm_num

def premiumBlock : OrderBlock where
  symbol := "US30"
  timeframe := .h1
  upperBound := 191
  lowerBound := 189
  timestamp := 0
  candleIndex := 0
  direction := .bearish
  displacementPips := 90
  isBreaker := false
  mitigated := false
  lower_pos := by norm_num
  lower_lt_upper := by norm_num
  displacement_nonneg := by norm_num

theorem fib_score_eq_iff_premiumBlock :
    scoreObFibConfluence .standard premiumBlock (some downLeg) =
        Side.low.fibScore .standard downLeg premiumBlock.midpoint ↔
      Side.low = .high ∨ Side.low.inPocket downLeg premiumBlock.midpoint 5 = true ∨
        |premiumBlock.midpoint - downLeg.centre| ≤ downLeg.rangeSize * (2 / 100) :=
  fib_score_eq_iff .standard premiumBlock downLeg .low rfl rfl

theorem premiumBlock_score :
    scoreObFibConfluence .standard premiumBlock (some downLeg) = 0 ∧
      Side.low.fibScore .standard downLeg premiumBlock.midpoint = 2 := by
  decide +kernel

end FibScore

end ETradie.Ta
