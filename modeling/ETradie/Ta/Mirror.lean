import ETradie.Ta.Patterns
import ETradie.Ta.Repainting

namespace ETradie.Ta

open List Function OrderBlock

variable {K : ℚ} {side : Side}

section Candles

structure Below (K : ℚ) where
  candle : Candle
  below : candle.high < K

def Below.mirror (c : Below K) : Candle :=
  { c.candle with
    openPrice := K - c.candle.openPrice, high := K - c.candle.low, low := K - c.candle.high
    close := K - c.candle.close, low_pos := sub_pos.mpr c.below
    low_le_open := sub_le_sub_left c.candle.open_le_high K
    low_le_close := sub_le_sub_left c.candle.close_le_high K
    open_le_high := sub_le_sub_left c.candle.low_le_open K
    close_le_high := sub_le_sub_left c.candle.low_le_close K }

structure Mirrors (l : List (Below K)) (s s' : CandleSequence) : Prop where
  symbol : s'.symbol = s.symbol
  timeframe : s'.timeframe = s.timeframe
  candles : s.candles = l.map Below.candle
  mirrored : s'.candles = l.map Below.mirror

def CandleSequence.mirror (s : CandleSequence) (K : ℚ) (h : ∀ c ∈ s.candles, c.high < K) :
    CandleSequence where
  symbol := s.symbol
  timeframe := s.timeframe
  candles := (s.candles.pmap Below.mk h).map Below.mirror
  nonempty := by simpa using s.nonempty
  oneSymbol := by
    simp only [mem_map, mem_pmap]
    rintro _ ⟨_, ⟨c, hc, rfl⟩, rfl⟩ _ ⟨_, ⟨c', hc', rfl⟩, rfl⟩
    exact s.oneSymbol c hc c' hc'
  oneTimeframe := by
    simp only [mem_map, mem_pmap]
    rintro _ ⟨_, ⟨c, hc, rfl⟩, rfl⟩ _ ⟨_, ⟨c', hc', rfl⟩, rfl⟩
    exact s.oneTimeframe c hc c' hc'
  sorted := by
    rw [pairwise_map]
    exact s.sorted.pmap h (fun _ _ _ _ hlt => hlt)

theorem CandleSequence.mirrors (s : CandleSequence) (K : ℚ) (h : ∀ c ∈ s.candles, c.high < K) :
    Mirrors (s.candles.pmap Below.mk h) s (s.mirror K h) :=
  ⟨rfl, rfl, by simp [map_pmap], rfl⟩

variable {c : Below K} {x y : ℚ}

@[simp] theorem beyond_mirror : side.opposite.beyond (K - x) (K - y) = side.beyond x y := by
  cases side <;> simp [Side.beyond, Side.opposite]

@[simp] theorem extreme_mirror : side.opposite.extreme c.mirror = K - side.extreme c.candle := by
  cases side <;> rfl

@[simp] theorem close_mirror : c.mirror.close = K - c.candle.close := rfl

@[simp] theorem origin_mirror : side.opposite.origin c.mirror = K - side.origin c.candle := by
  cases side <;> rfl

@[simp] theorem opposes_mirror : side.opposite.opposes c.mirror = side.opposes c.candle := by
  cases side <;> simp [Side.opposes, Side.opposite, Candle.isBullish, Candle.isBearish, Below.mirror]

@[simp] theorem bodyPercentage_mirror : c.mirror.bodyPercentage = c.candle.bodyPercentage := by
  simp [Candle.bodyPercentage, Candle.bodySize, Candle.totalRange, Below.mirror, abs_sub_comm]

@[simp] theorem pips_mirror (symbol : String) : pips (K - x) (K - y) symbol = pips x y symbol := by
  rw [pips, pips, sub_sub_sub_cancel_left, abs_sub_comm]

end Candles

structure Reading where
  (ofSide ofDay : Bool)
  index : Nat
  timestamps : List Int
  prices : List ℚ

def Reading.mirror (K : ℚ) (r : Reading) : Reading := { r with prices := r.prices.map (K - ·) }

def BreakInMarketStructure.read (side : Side) (x : BreakInMarketStructure) : Reading :=
  ⟨x.direction = side.breakDirection, false, x.candleIndex, [x.timestamp, x.brokenLevelTimestamp],
    [x.brokenLevel, x.breakoutPrice]⟩

def ChangeOfCharacter.read (side : Side) (x : ChangeOfCharacter) : Reading :=
  ⟨x.direction = side.breakDirection, false, x.candleIndex, [x.timestamp, x.brokenLevelTimestamp],
    [x.brokenLevel, x.breakoutPrice]⟩

def ShiftInMarketStructure.read (side : Side) (x : ShiftInMarketStructure) : Reading :=
  ⟨x.direction = side.failDirection, false, x.candleIndex, [x.timestamp, x.failedLevelTimestamp],
    [x.failedLevel, x.reversalPrice]⟩

def OrderBlock.read (side : Side) (x : OrderBlock) : Reading :=
  ⟨x.direction = side.breakDirection, false, x.candleIndex, [x.timestamp],
    [(x.edge side).1, (x.edge side.opposite).1]⟩

def LiquiditySweep.read (side : Side) (x : LiquiditySweep) : Reading :=
  ⟨side.Hears x, x.liquidityType = side.dayLiquidity, x.candleIndex,
    [x.timestamp, x.sweptLevelTimestamp],
    [x.sweptLevel, (x.extremeFor side).1, (x.extremeFor side.opposite).1] ++ x.closePrice.toList⟩

def Reflects {Event : Type} (K : ℚ) (read : Side → Event → Reading) (side : Side) (x x' : Event) :
    Prop :=
  (read side x).ofSide = true ∧ read side.opposite x' = (read side x).mirror K

structure Swing.Mirrors {side : Side} (K : ℚ) (x : Swing side) (x' : Swing side.opposite) :
    Prop where
  index : x'.index = x.index
  timestamp : x'.timestamp = x.timestamp
  price : x'.price = K - x.price
  strength : x'.strength = x.strength
  isEqual : x'.isEqual = x.isEqual

variable {a : SwingAnalyzer} {s s' : CandleSequence}

section Swings

variable {l : List (Below K)}
variable {found : List (Swing side)} {found' : List (Swing side.opposite)}

theorem calculateStrength_mirror (h : Mirrors l s s') (i : Nat) (price : ℚ) :
    calculateStrength side.opposite s'.candles i (K - price) =
      calculateStrength side s.candles i price := by
  rw [h.candles, h.mirrored]
  simp [calculateStrength, dominated, ← map_take, ← map_drop, ← map_reverse,
    takeWhile_map, comp_def]

theorem standsOut_mirror (h : Mirrors l s s') (left right i : Nat) (price : ℚ) :
    standsOut side.opposite s'.candles left right i (K - price) =
      standsOut side s.candles left right i price := by
  rw [h.candles, h.mirrored]
  simp [standsOut, ← map_take, ← map_drop, comp_def]

theorem checkEqual_mirror (h : List.Forall₂ (Swing.Mirrors K) found found') (price : ℚ)
    (symbol : String) :
    checkEqual a (K - price) found' symbol = checkEqual a price found symbol := by
  unfold checkEqual isWithinTolerance
  rw [← h.length_eq]
  have hl := forall₂_drop (found.length - 5) h
  generalize found.drop _ = recent, found'.drop _ = recent' at hl
  induction hl with
  | nil => rfl
  | cons hx _ ih => simp [hx.price, ih]

theorem swingAt_mirror (h : Mirrors l s s') (hfnd : List.Forall₂ (Swing.Mirrors K) found found')
    (i : Nat) :
    Option.Rel (Swing.Mirrors K) (swingAt a side s found i) (swingAt a side.opposite s' found' i) := by
  have hg : s.candles[i]? = l[i]?.map Below.candle := by rw [h.candles, getElem?_map]
  have hg' : s'.candles[i]? = l[i]?.map Below.mirror := by rw [h.mirrored, getElem?_map]
  unfold swingAt
  rw [hg, hg']
  cases l[i]? with
  | none => exact .none
  | some c =>
    simp only [Option.map_some, extreme_mirror, h.timeframe, standsOut_mirror h,
      calculateStrength_mirror h, checkEqual_mirror hfnd]
    split
    · exact .some ⟨rfl, rfl, rfl, rfl, rfl⟩
    · exact .none

theorem detectSwings_mirror (side : Side) (h : Mirrors l s s') :
    List.Forall₂ (Swing.Mirrors K) (detectSwings a side s) (detectSwings a side.opposite s') := by
  have hscan : ∀ (is : List Nat) {found : List (Swing side)} {found' : List (Swing side.opposite)},
      List.Forall₂ (Swing.Mirrors K) found found' →
      List.Forall₂ (Swing.Mirrors K) (scanSwings a side s found is)
        (scanSwings a side.opposite s' found' is) := by
    intro is
    induction is with
    | nil => exact id
    | cons i is ih =>
      intro found found' hfnd
      rw [scanSwings, scanSwings]
      generalize swingAt a side s found i = o, swingAt a side.opposite s' found' i = o',
        swingAt_mirror h hfnd i = hat
      cases hat with
      | none => exact ih hfnd
      | some hx => exact ih (rel_append hfnd (.cons hx .nil))
  have hlen : s'.candles.length = s.candles.length := by simp [h.candles, h.mirrored]
  unfold detectSwings
  rw [h.timeframe, hlen]
  exact hscan _ .nil

end Swings

section Events

variable {config : SMCConfig} {l : List (Below K)}
variable {x y z : Swing side} {x' y' z' : Swing side.opposite}

theorem confirmedBreak_mirror (h : Mirrors l s s') (hx : x.Mirrors K x')
    (required required' : Candle → Option Nat)
    (hreq : ∀ c : Below K, required' c.mirror = required c.candle) :
    ∃ o : Option (Below K × Nat × Below K),
      confirmedBreak side s.candles x.index x.price required =
        o.map (fun r => (r.1.candle, r.2.1, r.2.2.candle)) ∧
      confirmedBreak side.opposite s'.candles x'.index x'.price required' =
        o.map (fun r => (r.1.mirror, r.2.1, r.2.2.mirror)) := by
  rw [h.candles, h.mirrored, hx.index, hx.price]
  have hfst : ∀ (f : Below K → Candle) (side' : Side) (level' : ℚ),
      (∀ c, side'.beyond level' (f c).close = side.beyond x.price c.candle.close) →
      firstBreak side' (l.map f) (x.index + 1) level' =
        ((l.zipIdx.drop (x.index + 1)).find? (fun c => side.beyond x.price c.1.candle.close)).map
          (Prod.map f id) ∧
      ∀ first, closesBeyond side' (l.map f) first level' =
        ((l.drop first).takeWhile (fun c => side.beyond x.price c.candle.close)).length := by
    intro f side' level' hf
    constructor
    · simp [firstBreak, zipIdx_map, ← map_drop, hf]
    · simp [closesBeyond, ← map_drop, takeWhile_map, comp_def, hf]
  obtain ⟨hbre, hclo⟩ := hfst Below.candle side x.price (fun _ => rfl)
  obtain ⟨hbre', hclo'⟩ := hfst Below.mirror side.opposite (K - x.price) (fun _ => beyond_mirror)
  unfold confirmedBreak
  rw [hbre, hbre']
  cases (l.zipIdx.drop (x.index + 1)).find? (fun c => side.beyond x.price c.1.candle.close) with
  | none => exact ⟨none, rfl, rfl⟩
  | some c =>
    simp only [Option.map_some, Prod.map, hreq, hclo, hclo']
    cases required c.1.candle with
    | none => exact ⟨none, rfl, rfl⟩
    | some closes =>
      simp only
      split
      · exact ⟨none, rfl, rfl⟩
      · exact ⟨l[min (c.2 + closes - 1) (l.length - 1)]?.map (fun confirm => (c.1, c.2, confirm)),
          by simp [comp_def], by simp [comp_def]⟩

theorem bmsOf_mirror (h : Mirrors l s s') (hx : x.Mirrors K x') :
    Option.Rel (Reflects K BreakInMarketStructure.read side) (bmsOf config s x)
      (bmsOf config s' x') := by
  obtain ⟨o, ho, ho'⟩ := confirmedBreak_mirror h hx
    (fun c => bmsRequired config s.timeframe (bmsDisplacement s x.price c))
    (fun c => bmsRequired config s'.timeframe (bmsDisplacement s' x'.price c))
    (fun c => by simp [bmsDisplacement, h.symbol, h.timeframe, hx.price])
  unfold bmsOf
  rw [ho, ho']
  cases o with
  | none => exact .none
  | some r =>
    exact .some ⟨decide_eq_true rfl, by
      simp [BreakInMarketStructure.read, Reading.mirror, hx.price, hx.timestamp, Below.mirror]⟩

theorem chochOf_mirror (h : Mirrors l s s') (hx : x.Mirrors K x') :
    Option.Rel (Reflects K ChangeOfCharacter.read side) (chochOf s x) (chochOf s' x') := by
  obtain ⟨o, ho, ho'⟩ := confirmedBreak_mirror h hx
    (fun _ => some (chochRequired s.timeframe)) (fun _ => some (chochRequired s'.timeframe))
    (fun _ => by rw [h.timeframe])
  unfold chochOf
  rw [hx.strength, ho, ho']
  split
  · exact .none
  cases o with
  | none => exact .none
  | some r =>
    exact .some ⟨decide_eq_true rfl, by
      simp [ChangeOfCharacter.read, Reading.mirror, hx.price, hx.timestamp, Below.mirror]⟩

theorem smsOf_mirror (h : Mirrors l s s') (hx : x.Mirrors K x') (hy : y.Mirrors K y')
    (hz : z.Mirrors K z') :
    Option.Rel (Reflects K ShiftInMarketStructure.read side) (smsOf s x y z) (smsOf s' x' y' z') := by
  have hfst : side.opposite.beyond x'.price y'.price = side.beyond x.price y.price := by
    rw [hx.price, hy.price, beyond_mirror]
  have hsnd : side.opposite.beyond y'.price z'.price = side.beyond y.price z.price := by
    rw [hy.price, hz.price, beyond_mirror]
  unfold smsOf
  rw [hfst, hsnd, hz.index, h.candles, h.mirrored, getElem?_map, getElem?_map]
  split
  · exact .none
  split
  · exact .none
  cases l[z.index]? with
  | none => exact .none
  | some c =>
    exact .some ⟨decide_eq_true rfl, by
      simp [ShiftInMarketStructure.read, Reading.mirror, hy.price, hy.timestamp, Below.mirror]⟩

theorem smsEvents_mirror (h : Mirrors l s s') {swings : List (Swing side)}
    {swings' : List (Swing side.opposite)} (hswi : List.Forall₂ (Swing.Mirrors K) swings swings') :
    List.Forall₂ (Reflects K ShiftInMarketStructure.read side) (smsEvents s swings)
      (smsEvents s' swings') := by
  induction hswi with
  | nil => exact .nil
  | cons hx hrs ih =>
    rcases hrs with _ | ⟨hy, _ | ⟨hz, hrs⟩⟩
    · exact .nil
    · exact .nil
    · refine rel_append ?_ ih
      generalize smsOf_mirror h hx hy hz = hsms
      revert hsms
      generalize smsOf s _ _ _ = o, smsOf s' _ _ _ = o'
      rintro (hsms | _)
      · exact .cons hsms .nil
      · exact .nil

theorem lastBefore_mirror (h : Mirrors l s s') (index : Nat) (test test' : Candle → Bool)
    (hte : ∀ c : Below K, test' c.mirror = test c.candle) :
    ∃ o : Option (Below K × Nat),
      lastBefore s.candles index test = o.map (Prod.map Below.candle id) ∧
        lastBefore s'.candles index test' = o.map (Prod.map Below.mirror id) := by
  refine ⟨(l.zipIdx.take index).reverse.find? (fun c => test c.1.candle), ?_, ?_⟩
  · simp [lastBefore, h.candles, zipIdx_map, ← map_take, ← map_reverse]
  · simp [lastBefore, h.mirrored, zipIdx_map, ← map_take, ← map_reverse, hte]

theorem ofCandle_mirror {pips pips' : ℚ} (hpi : 0 ≤ pips)
    (hpi' : 0 ≤ pips') (c : Below K × Nat) :
    Option.Rel (Reflects K OrderBlock.read side)
      (ofCandle s side.breakDirection pips hpi (c.1.candle, c.2))
      (ofCandle s' side.opposite.breakDirection pips' hpi' (c.1.mirror, c.2)) := by
  by_cases hrng : c.1.candle.low < c.1.candle.high
  · have hrng' : c.1.mirror.low < c.1.mirror.high := sub_lt_sub_left hrng K
    rw [ofCandle, ofCandle, dif_pos hrng, dif_pos hrng']
    refine .some ⟨decide_eq_true rfl, ?_⟩
    cases side <;> rfl
  · have hrng' : ¬ c.1.mirror.low < c.1.mirror.high := by
      simpa [Below.mirror] using hrng
    rw [ofCandle, ofCandle, dif_neg hrng, dif_neg hrng']
    exact .none

theorem detectOb_mirror (h : Mirrors l s s') {e e' : BreakInMarketStructure}
    (he : Reflects K BreakInMarketStructure.read side e e') :
    Option.Rel (Reflects K OrderBlock.read side) (detectOb config side s e)
      (detectOb config side.opposite s' e') := by
  obtain ⟨hdir, hrd⟩ := he
  simp only [BreakInMarketStructure.read, Reading.mirror, Reading.mk.injEq, map_cons,
    List.cons.injEq] at hdir hrd
  obtain ⟨hdir', -, hidx, -, -, hpr, -⟩ := hrd
  rw [hdir] at hdir'
  obtain ⟨o, ho, ho'⟩ := lastBefore_mirror h e.candleIndex
    (qualifies config side s e.breakoutPrice)
    (qualifies config side.opposite s' e'.breakoutPrice)
    (fun c => by simp [qualifies, hpr, h.symbol])
  unfold detectOb
  rw [if_neg (not_not.mpr (of_decide_eq_true hdir)),
    if_neg (not_not.mpr (of_decide_eq_true hdir')), hidx, ho, ho']
  split
  · exact .none
  cases o with
  | none => exact .none
  | some c => exact ofCandle_mirror _ _ c

theorem detectObFromChoch_mirror (h : Mirrors l s s') {e e' : ChangeOfCharacter}
    (he : Reflects K ChangeOfCharacter.read side e e') :
    Option.Rel (Reflects K OrderBlock.read side) (detectObFromChoch s e)
      (detectObFromChoch s' e') := by
  obtain ⟨hdir, hrd⟩ := he
  simp only [ChangeOfCharacter.read, Reading.mirror, Reading.mk.injEq] at hdir hrd
  obtain ⟨hdir', -, hidx, -⟩ := hrd
  rw [hdir] at hdir'
  have hcho : ∀ {side : Side} {s : CandleSequence} {e : ChangeOfCharacter},
      e.direction = side.breakDirection → detectObFromChoch s e =
        if e.candleIndex < 1 then none else detectObFromBreak side s e := by
    intro side s e hsi
    rw [detectObFromChoch, hsi]
    cases side <;> rfl
  obtain ⟨o, ho, ho'⟩ := lastBefore_mirror h e.candleIndex side.opposes side.opposite.opposes
    (fun _ => opposes_mirror)
  rw [hcho (of_decide_eq_true hdir), hcho (of_decide_eq_true hdir'),
    detectObFromBreak, detectObFromBreak, hidx, ho, ho']
  split
  · exact .none
  cases o with
  | none => exact .none
  | some c => exact ofCandle_mirror _ _ c

end Events

section Sweeps

variable {b : SweepAnalyzer} {l : List (Below K)}
variable {st st' : SweepScan}

theorem max_map_min_map {α : Type} {f g : α → { level : ℚ // 0 < level }}
    (h : ∀ x y, f x ≤ f y → g y ≤ g x) (xs : List α) :
    ∃ o : Option α, (xs.map f).max? = o.map f ∧ (xs.map g).min? = o.map g := by
  cases hmax : (xs.map f).max? with
  | none =>
    rw [max?_eq_none_iff, map_eq_nil_iff] at hmax
    exact ⟨none, rfl, by rw [hmax]; rfl⟩
  | some level =>
    obtain ⟨hm, hle⟩ := max?_eq_some_iff.mp hmax
    obtain ⟨x, hx, rfl⟩ := mem_map.mp hm
    refine ⟨some x, rfl, min?_eq_some_iff.mpr ⟨mem_map_of_mem hx, ?_⟩⟩
    intro level hlvl
    obtain ⟨y, hy, rfl⟩ := mem_map.mp hlvl
    exact h y x (hle _ (mem_map_of_mem hy))

theorem previousDayExtreme_mirror (side : Side) (h : Mirrors l s s') (date : Int) :
    ∃ o : Option (Below K),
      previousDayExtreme side s.candles date =
        o.map (fun c => ⟨side.extreme c.candle, side.extreme_pos _⟩) ∧
      previousDayExtreme side.opposite s'.candles date =
        o.map (fun c => ⟨side.opposite.extreme c.mirror, side.opposite.extreme_pos _⟩) := by
  have hdat : s'.candles.map Candle.date = s.candles.map Candle.date := by
    rw [h.candles, h.mirrored, map_map, map_map]
    rfl
  unfold previousDayExtreme
  rw [hdat]
  cases ((s.candles.map Candle.date).filter (fun d => d < date)).max? with
  | none => exact ⟨none, rfl, rfl⟩
  | some _ =>
    simp only [h.candles, h.mirrored, filter_map, map_map]
    cases side with
    | high => exact max_map_min_map (fun x y hle => sub_le_sub_left (Subtype.coe_le_coe.mpr hle) K) _
    | low =>
      obtain ⟨o, hmax, hmin⟩ := max_map_min_map 
        (f := fun c : Below K => ⟨c.mirror.high, c.mirror.high_pos⟩)
        (g := fun c : Below K => ⟨c.candle.low, c.candle.low_pos⟩)
        (fun x y hle => (sub_le_sub_iff_left K).mp hle) _
      exact ⟨o, hmin, hmax⟩

def InStep (K : ℚ) (side : Side) (st st' : SweepScan) : Prop :=
  (st'.view side.opposite).1 = (st.view side).1.map (K - ·) ∧
    List.Forall₂ (Reflects K LiquiditySweep.read side) (st.view side).2 (st'.view side.opposite).2

theorem InStep.congr {u u' : SweepScan} (h : InStep K side st st')
    (hvw : u.view side = st.view side)
    (hvw' : u'.view side.opposite = st'.view side.opposite) : InStep K side u u' := by
  rwa [InStep, hvw, hvw']

theorem mem_invalidated_mirror (h : InStep K side st st')
    (level : ℚ) : K - level ∈ st'.invalidated side.opposite ↔ level ∈ st.invalidated side := by
  have hlvls : st'.invalidated side.opposite = (st.invalidated side).map (K - ·) := h.1
  simp [hlvls]

theorem inStep_invalidate (h : InStep K side st st') (level : ℚ) :
    InStep K side (st.invalidate side level) (st'.invalidate side.opposite (K - level)) := by
  obtain ⟨hlvls, hswe⟩ := h
  cases side <;> exact ⟨congrArg ((K - level) :: ·) hlvls, hswe⟩

theorem inStep_append (h : InStep K side st st')
    {sweep sweep' : LiquiditySweep} (hswp : Reflects K LiquiditySweep.read side sweep sweep') :
    InStep K side (st.append sweep) (st'.append sweep') := by
  obtain ⟨hlvls, hswe⟩ := h
  have hears := hswp.1
  have hears' : side.opposite.Hears sweep' :=
    of_decide_eq_true ((congrArg Reading.ofSide hswp.2).trans hears)
  refine ⟨?_, ?_⟩
  · cases side <;> exact hlvls
  · simp only [SweepScan.view, sweeps_append, filter_append, filter_singleton,
      show side.Hears sweep from of_decide_eq_true hears, hears']
    exact rel_append hswe (.cons hswp .nil)

theorem sweepSwing_mirror (h : InStep K side st st')
    {x : Swing side} {x' : Swing side.opposite} (hx : x.Mirrors K x') (c : Below K) (i : Nat) :
    InStep K side (sweepSwing b side c.candle i st x)
      (sweepSwing b side.opposite c.mirror i st' x') := by
  have hspt := mem_invalidated_mirror h x.price
  unfold sweepSwing detectSwingSweep
  simp only [hspt, hx.index, hx.price, hx.timestamp, extreme_mirror, beyond_mirror, close_mirror]
  split
  · exact h
  split
  · next hbey =>
    split
    · exact inStep_invalidate h _
    · simp only [hbey, pips_mirror, show c.mirror.symbol = c.candle.symbol from rfl]
      by_cases hsml : pips x.price (side.extreme c.candle) c.candle.symbol < b.minSweepPips
      · simpa only [hsml, if_true, ite_self] using h
      · simp only [hsml]
        refine inStep_invalidate (inStep_append h ⟨?_, ?_⟩) _
        · exact decide_eq_true (.inl rfl)
        · cases side <;> rfl
  · exact h

theorem sweepDay_mirror (h : Mirrors l s s') (c : Below K) (i : Nat) (hst : InStep K side st st') :
    InStep K side (sweepDay b side s.candles c.candle i st)
      (sweepDay b side.opposite s'.candles c.mirror i st') := by
  obtain ⟨o, ho, ho'⟩ := previousDayExtreme_mirror side h c.candle.date
  unfold sweepDay
  rw [ho, show c.mirror.date = c.candle.date from rfl, ho']
  cases o with
  | none => exact hst
  | some d =>
    simp only [Option.map_some, extreme_mirror, mem_invalidated_mirror hst, beyond_mirror, close_mirror, pips_mirror, show c.mirror.symbol = c.candle.symbol from rfl]
    split
    · exact hst
    split
    · split
      · exact inStep_invalidate hst _
      · split
        · refine inStep_invalidate (inStep_append hst ⟨?_, ?_⟩) _
          · exact decide_eq_true (.inr rfl)
          · cases side <;> rfl
        · exact hst
    · exact hst

theorem sweepSwings_mirror (c : Below K) (i : Nat) {xs : List (Swing side)}
    {xs' : List (Swing side.opposite)} (hxs : List.Forall₂ (Swing.Mirrors K) xs xs')
    (h : InStep K side st st') :
    InStep K side (xs.foldl (sweepSwing b side c.candle i) st)
      (xs'.foldl (sweepSwing b side.opposite c.mirror i) st') := by
  induction hxs generalizing st st' with
  | nil => exact h
  | cons hx _ ih => exact ih (sweepSwing_mirror h hx c i)

theorem sweepCandle_mirror (h : Mirrors l s s') (c : Below K) (i : Nat)
    (hst : InStep K side st st') :
    InStep K side
      (sweepCandle b s.candles (detectSwingHighs a s) (detectSwingLows a s) st (c.candle, i))
      (sweepCandle b s'.candles (detectSwingHighs a s') (detectSwingLows a s') st' (c.mirror, i)) := by
  have hswi := detectSwings_mirror (a := a) side h
  cases side with
  | high =>
    refine (sweepSwings_mirror c i hswi ?_).congr (view_sweepSwings .low (by decide) _ _ _ _) rfl
    refine (sweepDay_mirror h c i ?_).congr (view_sweepDay .low (by decide) _ _ _ _)
      (view_sweepSwings .high (by decide) _ _ _ _)
    exact hst.congr rfl (view_sweepDay .high (by decide) _ _ _ _)
  | low =>
    refine (sweepSwings_mirror c i hswi ?_).congr rfl (view_sweepSwings .low (by decide) _ _ _ _)
    refine (sweepDay_mirror h c i ?_).congr (view_sweepSwings .high (by decide) _ _ _ _)
      (view_sweepDay .low (by decide) _ _ _ _)
    exact hst.congr (view_sweepDay .high (by decide) _ _ _ _) rfl

end Sweeps

section Symmetry

variable (a : SwingAnalyzer) (b : SweepAnalyzer) (config : SMCConfig)

def sideSweeps (side : Side) (s : CandleSequence) : List LiquiditySweep :=
  (detectSweepsInSequence b s (detectSwingHighs a s) (detectSwingLows a s)).filter
    (fun sweep => side.Hears sweep)

theorem mirror_symmetry (s : CandleSequence) (K : ℚ) (hK : ∀ c ∈ s.candles, c.high < K)
    (side : Side) :
    let s' := s.mirror K hK
    let bms := detectBms config s (detectSwings a side s)
    let bms' := detectBms config s' (detectSwings a side.opposite s')
    let choch := detectChoch s (detectSwings a side s)
    let choch' := detectChoch s' (detectSwings a side.opposite s')
    List.Forall₂ (Swing.Mirrors K) (detectSwings a side s) (detectSwings a side.opposite s') ∧
    List.Forall₂ (Reflects K BreakInMarketStructure.read side) bms bms' ∧
    List.Forall₂ (Reflects K ChangeOfCharacter.read side) choch choch' ∧
    List.Forall₂ (Reflects K ShiftInMarketStructure.read side)
      (detectSms s (detectSwings a side s)) (detectSms s' (detectSwings a side.opposite s')) ∧
    List.Forall₂ (Reflects K OrderBlock.read side)
      (bms.filterMap (detectOb config side s)) (bms'.filterMap (detectOb config side.opposite s')) ∧
    List.Forall₂ (Reflects K OrderBlock.read side)
      (choch.filterMap (detectObFromChoch s)) (choch'.filterMap (detectObFromChoch s')) ∧
    List.Forall₂ (Reflects K LiquiditySweep.read side) (sideSweeps a b side s)
      (sideSweeps a b side.opposite s') := by
  intro s' bms bms' choch choch'
  have h := s.mirrors K hK
  have hswi := detectSwings_mirror (a := a) side h
  have hbms : List.Forall₂ (Reflects K BreakInMarketStructure.read side) bms bms' := by
    unfold bms bms' detectBms
    rw [sortedByTime_detectSwings, sortedByTime_detectSwings]
    exact rel_filterMap (fun _ _ hx => bmsOf_mirror h hx) hswi
  have hcho : List.Forall₂ (Reflects K ChangeOfCharacter.read side) choch choch' := by
    unfold choch choch' detectChoch
    rw [sortedByTime_detectSwings, sortedByTime_detectSwings]
    exact rel_filterMap (fun _ _ hx => chochOf_mirror h hx) hswi
  refine ⟨hswi, hbms, hcho, ?_, ?_, ?_, ?_⟩
  · rw [detectSms, detectSms, sortedByTime_detectSwings, sortedByTime_detectSwings]
    exact smsEvents_mirror h hswi
  · exact rel_filterMap (fun _ _ he => detectOb_mirror h he) hbms
  · exact rel_filterMap (fun _ _ he => detectObFromChoch_mirror h he) hcho
  · have hrun : ∀ (rows : List (Below K × Nat)) (st st' : SweepScan), InStep K side st st' →
        InStep K side
          ((rows.map (Prod.map Below.candle id)).foldl
            (sweepCandle b s.candles (detectSwingHighs a s) (detectSwingLows a s)) st)
          ((rows.map (Prod.map Below.mirror id)).foldl
            (sweepCandle b s'.candles (detectSwingHighs a s') (detectSwingLows a s')) st') := by
      intro rows
      induction rows with
      | nil => exact fun _ _ hst => hst
      | cons c rows ih => exact fun _ _ hst => ih _ _ (sweepCandle_mirror h c.1 c.2 hst)
    have hsta : InStep K side {} {} := by cases side <;> exact ⟨rfl, .nil⟩
    have hend := (hrun (s.candles.pmap Below.mk hK).zipIdx {} {} hsta).2
    rw [← zipIdx_map, ← zipIdx_map, ← h.candles] at hend
    exact hend

theorem mirror_symmetry_climb :
    ∃ s, ∃ hK : ∀ c ∈ s.candles, c.high < 10000, climb? = some s ∧
      List.Forall₂ (Swing.Mirrors 10000) (detectSwingHighs .standard s)
        (detectSwingLows .standard (s.mirror 10000 hK)) := by
  have hso : (climb?.filter (fun s => s.candles.all (fun c => c.high < 10000))).isSome = true := by
    decide +kernel
  obtain ⟨s, hs⟩ := Option.isSome_iff_exists.mp hso
  obtain ⟨hcli, hbel⟩ := Option.filter_eq_some_iff.mp hs
  have hK : ∀ c ∈ s.candles, c.high < 10000 := by simpa using hbel
  exact ⟨s, hK, hcli, (mirror_symmetry .standard {} .standard s 10000 hK .high).1⟩

end Symmetry

end ETradie.Ta
