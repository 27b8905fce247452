import ETradie.Ta.Structure
import ETradie.Ta.Sweeps

namespace ETradie.Ta

open List

structure Extends (p s : CandleSequence) (rest : List Candle) : Prop where
  symbol : s.symbol = p.symbol
  timeframe : s.timeframe = p.timeframe
  candles : s.candles = p.candles ++ rest

theorem extends_take (s : CandleSequence) (n : Nat) (hn : 0 < n) :
    Extends (s.take n hn) s (s.candles.drop n) :=
  ⟨rfl, rfl, (take_append_drop n s.candles).symm⟩

variable {a : SwingAnalyzer} {side : Side} {p s : CandleSequence} {rest : List Candle} {i : Nat}

def refresh (s : CandleSequence) (swing : Swing side) : Swing side :=
  { swing with
    strength := calculateStrength side s.candles swing.index swing.price
    strength_bounds := strengthOf_bounds _ }

theorem checkEqual_refresh (price : ℚ) (existing : List (Swing side)) (symbol : String) :
    checkEqual a price (existing.map (refresh s)) symbol = checkEqual a price existing symbol := by
  rw [checkEqual, length_map, ← map_drop, any_map]
  rfl

variable {cs : List Candle}

theorem standsOut_append {left right : Nat} (price : ℚ)
    (h : i + right < cs.length) (hlf : left ≤ i) :
    standsOut side (cs ++ rest) left right i price = standsOut side cs left right i price := by
  have hwin : ∀ k m, k + m ≤ cs.length → ((cs ++ rest).drop k).take m = (cs.drop k).take m := by
    intro k m _
    rw [drop_append_of_le_length (by omega), take_append_of_le_length]
    rw [length_drop]
    omega
  rw [standsOut, standsOut, hwin _ _ (by omega), hwin _ _ (by omega)]

theorem swingAt_extends (h : Extends p s rest) (hi : i + a.rightOf p.timeframe < p.candles.length)
    (hlf : a.leftOf p.timeframe ≤ i) (existing : List (Swing side)) :
    swingAt a side s (existing.map (refresh s)) i =
      (swingAt a side p existing i).map (refresh s) := by
  have hg : s.candles[i]? = p.candles[i]? := by rw [h.candles, List.getElem?_append_left (by omega)]
  have hout : ∀ price, standsOut side s.candles (a.leftOf p.timeframe) (a.rightOf p.timeframe) i
      price = standsOut side p.candles (a.leftOf p.timeframe) (a.rightOf p.timeframe) i price := by
    intro price
    rw [h.candles]
    exact standsOut_append price hi hlf
  unfold swingAt
  rw [hg]
  cases p.candles[i]? with
  | none => rfl
  | some _ =>
    simp only [h.timeframe, hout, checkEqual_refresh]
    split
    · rfl
    · rfl

theorem scanSwings_extends (h : Extends p s rest) {is : List Nat}
    (his : ∀ i ∈ is, a.leftOf p.timeframe ≤ i ∧ i + a.rightOf p.timeframe < p.candles.length)
    (found : List (Swing side)) :
    scanSwings a side s (found.map (refresh s)) is =
      (scanSwings a side p found is).map (refresh s) := by
  induction is generalizing found with
  | nil => rfl
  | cons i is ih =>
    obtain ⟨hlf, hrig⟩ := his i (mem_cons_self)
    have hrs : ∀ j ∈ is, a.leftOf p.timeframe ≤ j ∧
        j + a.rightOf p.timeframe < p.candles.length := by
      intro j hj
      exact his j (mem_cons_of_mem _ hj)
    rw [scanSwings, scanSwings, swingAt_extends h hrig hlf]
    cases swingAt a side p found i with
    | none => exact ih hrs found
    | some swing =>
      have hmap := ih hrs (found ++ [swing])
      rw [map_append] at hmap
      exact hmap

theorem detectSwings_extends (a : SwingAnalyzer) (side : Side) (h : Extends p s rest) :
    ∃ more, detectSwings a side s = (detectSwings a side p).map (refresh s) ++ more ∧
      ∀ swing ∈ more, p.candles.length ≤ swing.index + a.rightOf p.timeframe ∧
        ∃ existing, swingAt a side s existing swing.index = some swing := by
  have hlen : p.candles.length ≤ s.candles.length := by
    rw [h.candles, length_append]
    omega
  -- the indices of the longer sequence begin with those of the shorter one
  obtain ⟨tail, htail, hla⟩ : ∃ tail,
      List.range' (a.leftOf p.timeframe)
        (s.candles.length - a.rightOf p.timeframe - a.leftOf p.timeframe) =
      List.range' (a.leftOf p.timeframe)
        (p.candles.length - a.rightOf p.timeframe - a.leftOf p.timeframe) ++ tail ∧
      ∀ i ∈ tail, p.candles.length ≤ i + a.rightOf p.timeframe := by
    refine ⟨List.range' (a.leftOf p.timeframe +
        (p.candles.length - a.rightOf p.timeframe - a.leftOf p.timeframe))
      ((s.candles.length - a.rightOf p.timeframe - a.leftOf p.timeframe) -
        (p.candles.length - a.rightOf p.timeframe - a.leftOf p.timeframe)), ?_, ?_⟩
    · rw [range'_append_1]
      congr 1
      omega
    · intro i hi
      rw [mem_range'_1] at hi
      omega
  have hscan : scanSwings a side s ([] : List (Swing side))
      (List.range' (a.leftOf p.timeframe)
        (p.candles.length - a.rightOf p.timeframe - a.leftOf p.timeframe)) =
      (detectSwings a side p).map (refresh s) := by
    refine scanSwings_extends h ?_ []
    intro i hi
    rw [mem_range'_1] at hi
    omega
  obtain ⟨more, hmr, hsub, hat⟩ := scanSwings_append ((detectSwings a side p).map (refresh s)) tail
  refine ⟨more, ?_, ?_⟩
  · rw [detectSwings, h.timeframe, htail, scanSwings_scanSwings, hscan, hmr]
  · intro swing hsw
    exact ⟨hla _ (hsub.subset (mem_map_of_mem hsw)), hat swing hsw⟩

variable {c : Candle}

section Events

variable {price : ℚ} {swing : Swing side}

theorem dominated_append (hc : c ∈ cs) (hbey : side.beyond price (side.extreme c)) :
    dominated side price (cs ++ rest) = dominated side price cs := by
  unfold dominated
  rw [takeWhile_append, if_neg]
  intro hall
  have hwh : cs.takeWhile (fun c => !side.beyond price (side.extreme c)) = cs :=
    (takeWhile_sublist _).eq_of_length hall
  rw [← hwh] at hc
  have hkp := all_eq_true.mp all_takeWhile c hc
  simp [hbey] at hkp

theorem calculateStrength_extends (h : Extends p s rest) {j : Nat} (hij : i < j)
    (hj : p.candles[j]? = some c) (hbey : side.beyond price (side.extreme c)) :
    calculateStrength side s.candles i price = calculateStrength side p.candles i price := by
  have hlt := (List.getElem?_eq_some_iff.mp hj).1
  have hm : c ∈ p.candles.drop (i + 1) := by
    refine mem_of_getElem? (i := j - (i + 1)) ?_
    rw [getElem?_drop, ← hj]
    congr 1
    omega
  rw [calculateStrength, calculateStrength, h.candles,
    take_append_of_le_length (by omega), drop_append_of_le_length (by omega),
    dominated_append hm hbey]

theorem bmsDisplacement_extends (h : Extends p s rest) : bmsDisplacement s = bmsDisplacement p := by
  funext level breakout
  rw [bmsDisplacement, bmsDisplacement, h.symbol]

theorem bmsOf_extends (config : SMCConfig) (h : Extends p s rest) {bms : BreakInMarketStructure}
    (hbms : bmsOf config p swing = some bms) : bmsOf config s (refresh s swing) = some bms := by
  obtain ⟨r, hr, rfl⟩ := Option.map_eq_some_iff.mp hbms
  have hlon := confirmedBreak_append rest hr
  rw [← h.candles, ← h.timeframe, ← bmsDisplacement_extends h] at hlon
  refine Option.map_eq_some_iff.mpr ⟨r, hlon, ?_⟩
  simp only [h.symbol, h.timeframe, bmsDisplacement_extends h]
  rfl

theorem chochOf_extends (h : Extends p s rest) {choch : ChangeOfCharacter}
    (hstr : swing.strength = calculateStrength side p.candles swing.index swing.price)
    (hcho : chochOf p swing = some choch) : chochOf s (refresh s swing) = some choch := by
  unfold chochOf at hcho
  split at hcho
  · cases hcho
  · next hmin =>
    obtain ⟨r, hr, rfl⟩ := Option.map_eq_some_iff.mp hcho
    obtain ⟨hfst, -⟩ := confirmedBreak_eq_some hr
    obtain ⟨hg, hlat, hcl⟩ := firstBreak_eq_some hfst
    -- the break exceeds the swing, so its strength is final
    have hsm : (refresh s swing).strength = swing.strength := by
      rw [hstr]
      exact calculateStrength_extends h hlat hg (Side.beyond_extreme_of_close hcl)
    have hlon := confirmedBreak_append rest hr
    rw [← h.candles, ← h.timeframe] at hlon
    unfold chochOf
    rw [hsm, if_neg hmin]
    refine Option.map_eq_some_iff.mpr ⟨r, hlon, ?_⟩
    simp only [h.symbol, h.timeframe]
    rfl

theorem smsOf_extends (h : Extends p s rest) {first second third : Swing side}
    {sms : ShiftInMarketStructure} (hsms : smsOf p first second third = some sms) :
    smsOf s (refresh s first) (refresh s second) (refresh s third) = some sms := by
  change smsOf s first second third = some sms
  unfold smsOf at hsms ⊢
  split_ifs at hsms with hbey hfai
  obtain ⟨reversal, hg, rfl⟩ := Option.map_eq_some_iff.mp hsms
  have hlon : s.candles[third.index]? = some reversal := by
    rw [h.candles, List.getElem?_append_left (List.getElem?_eq_some_iff.mp hg).1, hg]
  rw [if_neg hbey, if_neg hfai]
  refine Option.map_eq_some_iff.mpr ⟨reversal, hlon, ?_⟩
  simp only [h.symbol, h.timeframe]

theorem smsEvents_extends (h : Extends p s rest) (more : List (Swing side)) :
    ∀ swings : List (Swing side), ∀ sms ∈ smsEvents p swings,
      sms ∈ smsEvents s (swings.map (refresh s) ++ more)
  | [], sms, hsms => by simp [smsEvents] at hsms
  | [_], sms, hsms => by simp [smsEvents] at hsms
  | [_, _], sms, hsms => by simp [smsEvents] at hsms
  | first :: second :: third :: swings, sms, hsms => by
      rw [smsEvents, mem_append] at hsms
      simp only [map_cons, cons_append]
      rw [smsEvents, mem_append]
      rcases hsms with hsms | hsms
      · left
        rw [Option.mem_toList] at hsms ⊢
        exact smsOf_extends h hsms
      · right
        exact smsEvents_extends h more (second :: third :: swings) sms hsms

end Events

section Sweeps

variable {b : SweepAnalyzer}
variable {swing : Swing side}

theorem date_le_of_extends (h : Extends p s rest) {c' : Candle} (hc : c ∈ p.candles)
    (hc' : c' ∈ rest) : c.date ≤ c'.date := by
  have hsor := s.sorted
  rw [h.candles, pairwise_append] at hsor
  exact Int.ediv_le_ediv (by decide) (hsor.2.2 c hc c' hc').le

theorem previousDayExtreme_extends (h : Extends p s rest) (hc : c ∈ p.candles) :
    previousDayExtreme side s.candles c.date = previousDayExtreme side p.candles c.date := by
  have hdat : (s.candles.map Candle.date).filter (fun d => decide (d < c.date)) =
      (p.candles.map Candle.date).filter (fun d => decide (d < c.date)) := by
    have hno : (rest.map Candle.date).filter (fun d => decide (d < c.date)) = [] := by
      rw [filter_eq_nil_iff]
      intro d hd
      obtain ⟨c', hc', rfl⟩ := mem_map.mp hd
      simpa using date_le_of_extends h hc hc'
    rw [h.candles, map_append, filter_append, hno, append_nil]
  unfold previousDayExtreme
  rw [hdat]
  split
  · rfl
  · next previous hprv =>
    have hbef : previous < c.date := by
      have hm := max?_mem hprv
      simpa using (mem_filter.mp hm).2
    have hday : s.candles.filter (fun c => decide (c.date = previous)) =
        p.candles.filter (fun c => decide (c.date = previous)) := by
      have hno : rest.filter (fun c => decide (c.date = previous)) = [] := by
        rw [filter_eq_nil_iff]
        intro c' hc'
        have hle := date_le_of_extends h hc hc'
        simp only [decide_eq_true_eq]
        omega
      rw [h.candles, filter_append, hno, append_nil]
    rw [hday]

theorem not_beyond_of_beyond {x y : ℚ} (h : side.beyond x y) : side.beyond y x = false := by
  cases hba : side.beyond y x with
  | false => rfl
  | true =>
    have hsf := Side.beyond_trans h hba
    rw [Side.beyond_irrefl] at hsf
    cases hsf

theorem sweepSwing_of_late (h : Extends p s rest) (hi : p.candles[i]? = some c)
    (hla : p.candles.length ≤ swing.index + a.rightOf p.timeframe) {existing : List (Swing side)}
    (hat : swingAt a side s existing swing.index = some swing) (st : SweepScan) :
    sweepSwing b side c i st swing = st := by
  have hlt := (List.getElem?_eq_some_iff.mp hi).1
  by_cases hidx : i ≤ swing.index
  · rw [sweepSwing, if_pos (.inl hidx)]
  · have hwin : c ∈ (s.candles.drop (swing.index + 1)).take (a.rightOf s.timeframe) := by
      refine mem_of_getElem? (i := i - (swing.index + 1)) ?_
      rw [h.timeframe, getElem?_take_of_lt (by omega), getElem?_drop, h.candles,
        List.getElem?_append_left (by omega), ← hi]
      congr 1
      omega
    obtain ⟨-, -, hout, -⟩ := swingAt_eq_some hat
    have hbel : side.beyond swing.price (side.extreme c) = false := by
      simp only [standsOut, Bool.and_eq_true, all_eq_true] at hout
      exact not_beyond_of_beyond (hout.2 c hwin)
    rw [sweepSwing, hbel]
    simp

theorem sweepSwing_refresh (h : Extends p s rest) (hi : p.candles[i]? = some c)
    (hstr : swing.strength = calculateStrength side p.candles swing.index swing.price)
    (st : SweepScan) :
    sweepSwing b side c i st (refresh s swing) = sweepSwing b side c i st swing := by
  by_cases hidx : i ≤ swing.index
  · rw [sweepSwing, if_pos (.inl hidx), sweepSwing, if_pos (.inl hidx)]
  · cases hbey : side.beyond swing.price (side.extreme c) with
    | true =>
      have hsm : refresh s swing = swing := by
        have hfin := calculateStrength_extends h (not_le.mp hidx) hi hbey
        rw [← hstr] at hfin
        simp only [refresh, hfin]
      rw [hsm]
    | false =>
      have hbey' : side.beyond (refresh s swing).price (side.extreme c) = false := hbey
      rw [sweepSwing, sweepSwing, hbey, hbey']
      rfl

theorem foldl_eq_self {α β : Type} {f : β → α → β} {l : List α} (h : ∀ x ∈ l, ∀ y, f y x = y)
    (y : β) : l.foldl f y = y := by
  induction l generalizing y with
  | nil => rfl
  | cons x l ih =>
    rw [foldl_cons, h x mem_cons_self]
    exact ih (fun x hx => h x (mem_cons_of_mem _ hx)) y

theorem sweepSwings_extends (h : Extends p s rest) (hi : p.candles[i]? = some c) (st : SweepScan) :
    (detectSwings a side s).foldl (sweepSwing b side c i) st =
      (detectSwings a side p).foldl (sweepSwing b side c i) st := by
  obtain ⟨more, heq, hmr⟩ := detectSwings_extends a side h
  rw [heq, foldl_append, foldl_map]
  have hla : ∀ swing ∈ more, ∀ st, sweepSwing b side c i st swing = st := by
    intro swing hsw st
    obtain ⟨hla, existing, hat⟩ := hmr swing hsw
    exact sweepSwing_of_late h hi hla hat st
  rw [foldl_eq_self hla]
  refine foldl_ext _ _ _ ?_
  intro st swing hsw
  obtain ⟨-, existing, hat⟩ := mem_detectSwings hsw
  obtain ⟨-, -, -, -, -, -, -, -, hstr⟩ := swingAt_eq_some hat
  exact sweepSwing_refresh h hi hstr st

theorem sweepCandle_extends (h : Extends p s rest) (hi : p.candles[i]? = some c) (st : SweepScan) :
    sweepCandle b s.candles (detectSwingHighs a s) (detectSwingLows a s) st (c, i) =
      sweepCandle b p.candles (detectSwingHighs a p) (detectSwingLows a p) st (c, i) := by
  have hc := mem_of_getElem? hi
  have hday : ∀ side st, sweepDay b side s.candles c i st = sweepDay b side p.candles c i st := by
    intro side st
    rw [sweepDay, sweepDay, previousDayExtreme_extends h hc]
  simp only [sweepCandle, hday, detectSwingHighs, detectSwingLows]
  rw [sweepSwings_extends h hi, sweepSwings_extends h hi]

theorem detectSweeps_extends (h : Extends p s rest) :
    detectSweepsInSequence b p (detectSwingHighs a p) (detectSwingLows a p) ⊆
      detectSweepsInSequence b s (detectSwingHighs a s) (detectSwingLows a s) := by
  have hsho : p.candles.zipIdx.foldl
      (sweepCandle b s.candles (detectSwingHighs a s) (detectSwingLows a s)) {} =
      p.candles.zipIdx.foldl
        (sweepCandle b p.candles (detectSwingHighs a p) (detectSwingLows a p)) {} := by
    refine foldl_ext _ _ _ ?_
    rintro st ⟨c, i⟩ hm
    have hi : p.candles[i]? = some c := by simpa using mk_mem_zipIdx_iff_getElem?.mp hm
    exact sweepCandle_extends h hi st
  have hlon : s.candles.zipIdx =
      p.candles.zipIdx ++ rest.zipIdx (0 + p.candles.length) := by
    rw [h.candles, zipIdx_append]
  rw [detectSweepsInSequence, detectSweepsInSequence, hlon, foldl_append, hsho]
  exact sweepCandles_sweeps _ _ _ _ _

end Sweeps

def Swing.reading (swing : Swing side) : Nat × Int × ℚ × Bool :=
  (swing.index, swing.timestamp, swing.price, swing.isEqual)

theorem readings_extends (a : SwingAnalyzer) (side : Side) (h : Extends p s rest) :
    (detectSwings a side p).map Swing.reading =
      ((detectSwings a side s).filter (fun swing =>
        decide (swing.index < p.candles.length - a.rightOf s.timeframe))).map Swing.reading := by
  obtain ⟨more, heq, hmr⟩ := detectSwings_extends a side h
  have herl : ((detectSwings a side p).map (refresh s)).filter (fun swing =>
      decide (swing.index < p.candles.length - a.rightOf s.timeframe)) =
        (detectSwings a side p).map (refresh s) := by
    rw [filter_eq_self]
    intro swing hsw
    obtain ⟨swing', hsw', rfl⟩ := mem_map.mp hsw
    rw [h.timeframe]
    exact decide_eq_true (mem_detectSwings hsw').1.2
  have hla : more.filter (fun swing =>
      decide (swing.index < p.candles.length - a.rightOf s.timeframe)) = [] := by
    rw [filter_eq_nil_iff]
    intro swing hsw
    have hle := (hmr swing hsw).1
    rw [h.timeframe]
    simp only [decide_eq_true_eq]
    omega
  rw [heq, filter_append, herl, hla, append_nil, map_map]
  rfl

theorem filterMap_extends (a : SwingAnalyzer) (h : Extends p s rest) {Event : Type}
    {f g : Swing side → Option Event}
    (hevt : ∀ swing ∈ detectSwings a side p, ∀ event, f swing = some event →
      g (refresh s swing) = some event) :
    (sortedByTime (detectSwings a side p)).filterMap f ⊆
      (sortedByTime (detectSwings a side s)).filterMap g := by
  rw [sortedByTime_detectSwings, sortedByTime_detectSwings]
  intro event hm
  obtain ⟨swing, hsw, hf⟩ := mem_filterMap.mp hm
  obtain ⟨more, heq, -⟩ := detectSwings_extends a side h
  refine mem_filterMap.mpr ⟨refresh s swing, ?_, hevt swing hsw event hf⟩
  rw [heq]
  exact mem_append_left _ (mem_map_of_mem hsw)

theorem no_repainting (a : SwingAnalyzer) (b : SweepAnalyzer) (config : SMCConfig)
    (s : CandleSequence) (n : Nat) :
    let p := s.take (n + 1) (Nat.succ_pos n)
    (∀ side, (detectSwings a side p).map Swing.reading =
      ((detectSwings a side s).filter (fun swing =>
        decide (swing.index < p.candles.length - a.rightOf s.timeframe))).map Swing.reading) ∧
    (∀ side, detectBms config p (detectSwings a side p) ⊆
      detectBms config s (detectSwings a side s)) ∧
    (∀ side, detectChoch p (detectSwings a side p) ⊆ detectChoch s (detectSwings a side s)) ∧
    (∀ side, detectSms p (detectSwings a side p) ⊆ detectSms s (detectSwings a side s)) ∧
    detectSweepsInSequence b p (detectSwingHighs a p) (detectSwingLows a p) ⊆
      detectSweepsInSequence b s (detectSwingHighs a s) (detectSwingLows a s) := by
  intro p
  have h : Extends p s (s.candles.drop (n + 1)) := extends_take s (n + 1) (Nat.succ_pos n)
  refine ⟨?_, ?_, ?_, ?_, detectSweeps_extends h⟩
  · intro side
    exact readings_extends a side h
  · intro side
    refine filterMap_extends a h ?_
    intro swing _ _ hbms
    exact bmsOf_extends config h hbms
  · intro side
    refine filterMap_extends a h ?_
    intro swing hsw _ hcho
    obtain ⟨-, existing, hat⟩ := mem_detectSwings hsw
    obtain ⟨-, -, -, -, -, -, -, -, hstr⟩ := swingAt_eq_some hat
    exact chochOf_extends h hstr hcho
  · intro side sms hsms
    obtain ⟨more, heq, -⟩ := detectSwings_extends a side h
    rw [detectSms, sortedByTime_detectSwings] at hsms ⊢
    rw [heq]
    exact smsEvents_extends h more _ sms hsms

end ETradie.Ta
