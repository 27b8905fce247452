import ETradie.Ta.Confirmation

/-! # Ranges, retracements and the AMD cycle

The retracement of a leg, the range of a session, and the context of accumulation, manipulation
and distribution that the London and New York candles give to the latest Asian range. -/

namespace ETradie.Ta

open List

inductive PriceZone where
  | premium
  | equilibrium
  | discount
deriving DecidableEq

structure FibonacciRetracement where
  symbol : String
  timeframe : Timeframe
  (swingHigh swingLow : ℚ)
  (swingHighTimestamp swingLowTimestamp : Int)
  isBullish : Bool
  low_pos : 0 < swingLow
  low_lt_high : swingLow < swingHigh

structure PremiumDiscountZone where
  symbol : String
  timeframe : Timeframe
  zoneType : PriceZone
  (upperBound lowerBound equilibrium : ℚ)
  lower_pos : 0 < lowerBound
  lower_lt_upper : lowerBound < upperBound
  equilibrium_pos : 0 < equilibrium
  centred : |equilibrium - (upperBound + lowerBound) / 2| ≤ (upperBound - lowerBound) / 100

def fibonacciValues : List ℚ :=
  [0, 236 / 1000, 382 / 1000, 1 / 2, 618 / 1000, 705 / 1000, 786 / 1000, 79 / 100, 1]

namespace FibonacciRetracement

variable (r : FibonacciRetracement)

def rangeSize : ℚ := r.swingHigh - r.swingLow

def levelPrice (fibValue : ℚ) : ℚ :=
  if r.isBullish then r.swingHigh - r.rangeSize * fibValue
  else r.swingLow + r.rangeSize * fibValue

def zoneForPrice (price : ℚ) : PriceZone :=
  if price < r.swingLow ∨ r.swingHigh < price then
    if r.isBullish then if r.swingHigh < price then .premium else .discount
    else if r.swingHigh < price then .discount else .premium
  else if |price - r.levelPrice (1 / 2)| ≤ r.rangeSize * (2 / 100) then .equilibrium
  else if r.isBullish then if r.levelPrice (1 / 2) < price then .premium else .discount
  else if price < r.levelPrice (1 / 2) then .premium else .discount

variable {r}

theorem rangeSize_pos : 0 < r.rangeSize := sub_pos.mpr r.low_lt_high

theorem levelPrice_pos {fibValue : ℚ} (hz : 0 ≤ fibValue) (hone : fibValue ≤ 1) :
    0 < r.levelPrice fibValue := by
  have hlow := r.low_pos
  have hsz : 0 < r.rangeSize := rangeSize_pos
  have hle : r.rangeSize * fibValue ≤ r.rangeSize := mul_le_of_le_one_right hsz.le hone
  have hnn : 0 ≤ r.rangeSize * fibValue := mul_nonneg hsz.le hz
  unfold levelPrice
  split
  · unfold rangeSize at *
    linarith
  · linarith

theorem levelPrice_ne {x y : ℚ} (h : x ≠ y) : r.levelPrice x ≠ r.levelPrice y := by
  have hsz : 0 < r.rangeSize := rangeSize_pos
  unfold levelPrice
  intro heq
  apply h
  split at heq
  · exact mul_left_cancel₀ hsz.ne' (sub_right_injective heq)
  · exact mul_left_cancel₀ hsz.ne' (add_left_cancel heq)

def oteZone (r : FibonacciRetracement) : PremiumDiscountZone :=
  let level618 := r.levelPrice (618 / 1000)
  let level786 := r.levelPrice (786 / 1000)
  { symbol := r.symbol, timeframe := r.timeframe
    zoneType := if r.isBullish then .discount else .premium
    upperBound := max level618 level786
    lowerBound := min level618 level786
    equilibrium := (max level618 level786 + min level618 level786) / 2
    lower_pos := lt_min (levelPrice_pos (by norm_num) (by norm_num))
      (levelPrice_pos (by norm_num) (by norm_num))
    lower_lt_upper := min_lt_max.mpr (levelPrice_ne (by norm_num))
    equilibrium_pos := by
      have h618 : 0 < level618 := levelPrice_pos (by norm_num) (by norm_num)
      have h786 : 0 < level786 := levelPrice_pos (by norm_num) (by norm_num)
      rw [max_add_min]
      linarith
    centred := by
      have hlt : min level618 level786 < max level618 level786 :=
        min_lt_max.mpr (levelPrice_ne (by norm_num))
      rw [sub_self, abs_zero]
      linarith }

def isAtOte (r : FibonacciRetracement) (price tolerancePips : ℚ) : Bool :=
  let tolerance := tolerancePips * pipValue r.symbol
  r.oteZone.lowerBound - tolerance ≤ price && price ≤ r.oteZone.upperBound + tolerance

end FibonacciRetracement

variable (s : CandleSequence)

def buildLeg (isBullish : Bool) (low high : ℚ × Int) (hlow : 0 < low.1) :
    Option FibonacciRetracement :=
  if h : low.1 < high.1 then
    some
      { symbol := s.symbol, timeframe := s.timeframe, swingHigh := high.1, swingLow := low.1
        swingHighTimestamp := high.2, swingLowTimestamp := low.2, isBullish := isBullish
        low_pos := hlow, low_lt_high := h }
  else none

structure SessionRange where
  symbol : String
  timeframe : Timeframe
  session : Session
  (startTime endTime : Int)
  (high low openPrice close : ℚ)
  low_pos : 0 < low
  low_le_high : low ≤ high
  start_le_end : startTime ≤ endTime

variable (first : Candle) (rest : List Candle)

def highestOf : ℚ := rest.foldl (fun m c => max m c.high) first.high

def lowestOf : ℚ := rest.foldl (fun m c => min m c.low) first.low

theorem le_foldl_max (m : ℚ) (cs : List Candle) : m ≤ cs.foldl (fun m c => max m c.high) m := by
  induction cs generalizing m with
  | nil => exact le_refl m
  | cons c cs ih => exact (le_max_left m c.high).trans (ih _)

theorem foldl_min_le (m : ℚ) (cs : List Candle) : cs.foldl (fun m c => min m c.low) m ≤ m := by
  induction cs generalizing m with
  | nil => exact le_refl m
  | cons c cs ih => exact (ih _).trans (min_le_left m c.low)

theorem foldl_min_pos {m : ℚ} (hm : 0 < m) (cs : List Candle) :
    0 < cs.foldl (fun m c => min m c.low) m := by
  induction cs generalizing m with
  | nil => exact hm
  | cons c cs ih => exact ih (lt_min hm c.low_pos)

theorem lowestOf_le_highestOf :
    lowestOf first rest ≤ highestOf first rest :=
  (foldl_min_le _ _).trans (first.low_le_high.trans (le_foldl_max _ _))

theorem timestamp_le_getLast {first : Candle} {rest : List Candle}
    (h : (first :: rest).Pairwise (fun c c' => c.timestamp < c'.timestamp)) :
    first.timestamp ≤ ((first :: rest).getLast (cons_ne_nil _ _)).timestamp := by
  cases rest with
  | nil => exact le_refl _
  | cons _ rest => exact ((pairwise_cons.mp h).1 _ (getLast_mem _)).le

variable (session : Session)

def SessionRange.ofCandles :
    (block : List Candle) → block.Pairwise (fun c c' => c.timestamp < c'.timestamp) →
      Option SessionRange
  | [], _ => none
  | first :: rest, h =>
    some
      { symbol := s.symbol, timeframe := s.timeframe, session := session
        startTime := first.timestamp
        endTime := ((first :: rest).getLast (cons_ne_nil _ _)).timestamp
        high := highestOf first rest, low := lowestOf first rest, openPrice := first.openPrice
        close := ((first :: rest).getLast (cons_ne_nil _ _)).close
        low_pos := foldl_min_pos first.low_pos rest, low_le_high := lowestOf_le_highestOf first rest
        start_le_end := timestamp_le_getLast h }

def sessionCandles : List Candle :=
  s.candles.filter (fun c => session.containsTimestamp c.timestamp)

def extractSessionRange : Option SessionRange :=
  SessionRange.ofCandles s session (sessionCandles s session) (s.sorted.sublist filter_sublist)

def lastSessionBlock : List Candle :=
  ((s.candles.reverse.dropWhile (fun c => !session.containsTimestamp c.timestamp)).takeWhile
    (fun c => session.containsTimestamp c.timestamp)).reverse

theorem lastSessionBlock_sorted :
    (lastSessionBlock s session).Pairwise (fun c c' => c.timestamp < c'.timestamp) := by
  refine s.sorted.sublist ?_
  rw [← reverse_sublist]
  unfold lastSessionBlock
  rw [reverse_reverse]
  exact (takeWhile_sublist _).trans (dropWhile_sublist _)

def extractMostRecentSessionRange : Option SessionRange :=
  SessionRange.ofCandles s session (lastSessionBlock s session) (lastSessionBlock_sorted s session)

structure DealingRange where
  symbol : String
  timeframe : Timeframe
  (high low : ℚ)
  startTime : Int
  endTime : Option Int
  low_pos : 0 < low
  low_lt_high : low < high
  start_le_end : ∀ t ∈ endTime, startTime ≤ t

def DealingRange.equilibrium (r : DealingRange) : ℚ := (r.high + r.low) / 2

def minRangePips : ℚ := 20

theorem low_lt_high_of_minRangePips {r : SessionRange}
    (h : ¬ pips r.low r.high r.symbol < minRangePips) : r.low < r.high := by
  refine lt_of_le_of_ne r.low_le_high ?_
  intro heq
  apply h
  unfold pips minRangePips
  rw [heq, sub_self, abs_zero]
  norm_num

def createFromSession (r : SessionRange) : Option DealingRange :=
  if h : pips r.low r.high r.symbol < minRangePips then none
  else
    some
      { r with
        endTime := some r.endTime, low_lt_high := low_lt_high_of_minRangePips h
        start_le_end := by
          intro t ht
          cases ht
          exact r.start_le_end }

inductive AMDPhase where
  | accumulation
  | manipulation
  | distribution
deriving DecidableEq

structure AMDContext where
  phase : AMDPhase
  asianRange : Option DealingRange
  (manipulationDirection distributionDirection : Option Direction)

def openCandles : List Candle := sessionCandles s .london ++ sessionCandles s .newYork

def detectManipulation (range : DealingRange) : Option Direction :=
  (openCandles s).findSome? (fun c =>
    if range.high < c.high then some .bullish
    else if c.low < range.low then some .bearish
    else none)

def detectDistribution (range : DealingRange) : Direction → Option Direction
  | .bullish => if (openCandles s).any (·.close < range.equilibrium) then some .bearish else none
  | .bearish =>
    if (openCandles s).any (fun c => range.equilibrium < c.close) then some .bullish else none
  | .neutral => none

def extractAsianRange : Option DealingRange :=
  (extractMostRecentSessionRange s .asia).bind createFromSession

def detectAmdContext : Option AMDContext :=
  match extractAsianRange s with
  | none => none
  | some range =>
    match detectManipulation s range with
    | none => some ⟨.accumulation, some range, none, none⟩
    | some manipulation =>
      match detectDistribution s range manipulation with
      | none => some ⟨.manipulation, some range, some manipulation, none⟩
      | some distribution => some ⟨.distribution, some range, some manipulation, some distribution⟩

section Cycle

variable {s} {range : DealingRange} {m : Direction}

def DealingRange.tradedBeyond (range : DealingRange) : Direction → Candle → Bool
  | .bullish, c => range.high < c.high
  | .bearish, c => c.low < range.low
  | .neutral, _ => false

def DealingRange.closedBack (range : DealingRange) : Direction → Candle → Bool
  | .bullish, c => c.close < range.equilibrium
  | .bearish, c => range.equilibrium < c.close
  | .neutral, _ => false

def AMDContext.Ordered (s : CandleSequence) (context : AMDContext) : Prop :=
  ∀ range ∈ context.asianRange, ∀ stop ∈ range.endTime,
    (context.phase = .distribution → ∃ m ∈ context.manipulationDirection,
      ∃ c ∈ openCandles s, stop < c.timestamp ∧ range.tradedBeyond m c = true ∧
        ∃ c' ∈ openCandles s, c.timestamp ≤ c'.timestamp ∧ range.closedBack m c' = true) ∧
    (context.phase = .accumulation → ∀ c ∈ openCandles s, stop < c.timestamp →
      ∀ m, range.tradedBeyond m c = false)

/-- The first candle beyond the range, London before New York. -/
def firstBeyond (s : CandleSequence) (range : DealingRange) : Option Candle :=
  (openCandles s).find? (fun c => range.high < c.high || c.low < range.low)

def DealingRange.sideOf (range : DealingRange) (c : Candle) : Direction :=
  if range.high < c.high then .bullish else .bearish

def breakTimes (s : CandleSequence) (range : DealingRange) (stop : Int) (m : Direction) :
    List Int :=
  ((openCandles s).filter (fun c => stop < c.timestamp && range.tradedBeyond m c)).map
    Candle.timestamp

def returnTimes (s : CandleSequence) (range : DealingRange) (m : Direction) : List Int :=
  ((openCandles s).filter (range.closedBack m)).map Candle.timestamp

/-- On the side of the first candle beyond the range: the last close across the equilibrium does
not come before the first break after the Asian block. -/
def InOrder (s : CandleSequence) : Prop :=
  ∀ range ∈ extractAsianRange s, ∀ stop ∈ range.endTime, ∀ c ∈ firstBeyond s range,
    ∀ last ∈ (returnTimes s range (range.sideOf c)).max?,
      ∃ first ∈ (breakTimes s range stop (range.sideOf c)).min?, first ≤ last

instance : Decidable (InOrder s) :=
  inferInstanceAs (Decidable (∀ range ∈ extractAsianRange s, ∀ stop ∈ range.endTime, _))

theorem detectManipulation_eq :
    detectManipulation s range = (firstBeyond s range).map range.sideOf := by
  unfold detectManipulation firstBeyond
  induction openCandles s with
  | nil => rfl
  | cons c cs ih =>
    rw [findSome?_cons, find?_cons]
    by_cases hhigh : range.high < c.high
    · simp [hhigh, DealingRange.sideOf]
    · by_cases hlow : c.low < range.low
      · simp [hhigh, hlow, DealingRange.sideOf]
      · simpa [hhigh, hlow] using ih

theorem detectManipulation_eq_none (h : detectManipulation s range = none) :
    ∀ c ∈ openCandles s, ∀ m, range.tradedBeyond m c = false := by
  intro c hc m
  have hno := findSome?_eq_none_iff.mp h c hc
  split_ifs at hno with hhi hlow
  cases m
  · exact decide_eq_false hhi
  · exact decide_eq_false hlow
  · rfl

theorem detectDistribution_eq_none_iff :
    detectDistribution s range m = none ↔ returnTimes s range m = [] := by
  have hany : ∀ p : Candle → Bool, (openCandles s).any p = false ↔
      ((openCandles s).filter p).map Candle.timestamp = [] := by
    intro p
    rw [map_eq_nil_iff, filter_eq_nil_iff, any_eq_false]
  cases m with
  | bullish =>
    rw [returnTimes, ← hany, detectDistribution]
    cases hback : (openCandles s).any (range.closedBack .bullish) <;>
      simp_all [DealingRange.closedBack]
  | bearish =>
    rw [returnTimes, ← hany, detectDistribution]
    cases hback : (openCandles s).any (range.closedBack .bearish) <;>
      simp_all [DealingRange.closedBack]
  | neutral => simp [detectDistribution, returnTimes, DealingRange.closedBack]

theorem ordered_iff {stop last : Int} (hlast : (returnTimes s range m).max? = some last) :
    (∃ c ∈ openCandles s, stop < c.timestamp ∧ range.tradedBeyond m c = true ∧
      ∃ c' ∈ openCandles s, c.timestamp ≤ c'.timestamp ∧ range.closedBack m c' = true) ↔
      ∃ first ∈ (breakTimes s range stop m).min?, first ≤ last := by
  obtain ⟨hreturn, hmax⟩ := max?_eq_some_iff.mp hlast
  constructor
  · rintro ⟨c, hc, hstop, hbeyond, c', hc', hle, hback⟩
    have hbreak : c.timestamp ∈ breakTimes s range stop m :=
      mem_map_of_mem (mem_filter.mpr ⟨hc, by simp [hstop, hbeyond]⟩)
    obtain ⟨first, hfirst⟩ := Option.isSome_iff_exists.mp (isSome_min?_of_mem hbreak)
    refine ⟨first, hfirst, ?_⟩
    calc first ≤ c.timestamp := (min?_eq_some_iff.mp hfirst).2 _ hbreak
      _ ≤ c'.timestamp := hle
      _ ≤ last := hmax _ (mem_map_of_mem (mem_filter.mpr ⟨hc', hback⟩))
  · rintro ⟨first, hfirst, hle⟩
    obtain ⟨c, hc, rfl⟩ := mem_map.mp (min?_eq_some_iff.mp hfirst).1
    obtain ⟨c', hc', rfl⟩ := mem_map.mp hreturn
    obtain ⟨hc, hbreak⟩ := mem_filter.mp hc
    obtain ⟨hc', hback⟩ := mem_filter.mp hc'
    obtain ⟨hstop, hbeyond⟩ := Bool.and_eq_true_iff.mp hbreak
    exact ⟨c, hc, of_decide_eq_true hstop, hbeyond, c', hc', hle, hback⟩

/-- The phases are ordered in time exactly when the candles are. -/
theorem amd_phases_ordered (s : CandleSequence) (context : AMDContext)
    (h : detectAmdContext s = some context) : context.Ordered s ↔ InOrder s := by
  unfold detectAmdContext at h
  unfold InOrder
  split at h
  · cases h
  next range hrange =>
    simp only [hrange, Option.mem_def, Option.some.injEq, forall_eq']
    split at h
    · next hnone =>
      cases h
      have hfirst : firstBeyond s range = none := by
        rwa [detectManipulation_eq, Option.map_eq_none_iff] at hnone
      refine iff_of_true ?_ (by simp [hfirst])
      rintro _ ⟨⟩ stop -
      exact ⟨nofun, fun _ c hc _ => detectManipulation_eq_none hnone c hc⟩
    next m hmanipulation =>
      rw [detectManipulation_eq] at hmanipulation
      obtain ⟨c, hfirst, rfl⟩ := Option.map_eq_some_iff.mp hmanipulation
      simp only [hfirst, Option.some.injEq, forall_eq']
      split at h
      · next hnone =>
        cases h
        have hreturns := detectDistribution_eq_none_iff.mp hnone
        refine iff_of_true ?_ (by simp [hreturns])
        rintro _ ⟨⟩ stop -
        exact ⟨nofun, nofun⟩
      next distribution hdistribution =>
        cases h
        obtain ⟨last, hlast⟩ : ∃ last, (returnTimes s range (range.sideOf c)).max? = some last := by
          rw [← Option.isSome_iff_exists, Option.isSome_iff_ne_none, Ne, max?_eq_none_iff,
            ← detectDistribution_eq_none_iff, hdistribution]
          nofun
        simp only [AMDContext.Ordered, hlast, Option.mem_def, Option.some.injEq, forall_eq',
          exists_eq_left', reduceCtorEq, false_imp_iff, forall_const, and_true, ordered_iff hlast]

def oneCycle? : Option CandleSequence :=
  CandleSequence.ofPrices? "US30" .h12 0 [(110, 130, 100, 120), (120, 150, 104, 105)]

theorem amd_phases_ordered_oneCycle :
    ∃ s context, oneCycle? = some s ∧ detectAmdContext s = some context ∧
      context.phase = .distribution ∧ context.Ordered s := by
  have hso : (oneCycle?.bind (fun s => (detectAmdContext s).filter (fun context =>
      context.phase = .distribution ∧ InOrder s))).isSome = true := by
    decide +kernel
  obtain ⟨context, hb⟩ := Option.isSome_iff_exists.mp hso
  obtain ⟨s, hs, hflt⟩ := Option.bind_eq_some_iff.mp hb
  obtain ⟨hctx, hte⟩ := Option.filter_eq_some_iff.mp hflt
  obtain ⟨hph, hcyc⟩ := of_decide_eq_true hte
  exact ⟨s, context, hs, hctx, hph, (amd_phases_ordered s context hctx).mpr hcyc⟩

def lastCycle? : Option CandleSequence :=
  CandleSequence.ofPrices? "US30" .h12 43200000000 [(120, 150, 104, 105), (110, 130, 100, 120)]

theorem lastCycle_distribution :
    lastCycle?.bind (fun s => (detectAmdContext s).map (fun context =>
      (context.phase, context.manipulationDirection, context.asianRange.bind DealingRange.endTime,
        (openCandles s).map Candle.timestamp))) =
      some (.distribution, some .bullish, some 86400000000, [43200000000, 43200000000]) := by
  decide +kernel

end Cycle

end ETradie.Ta
