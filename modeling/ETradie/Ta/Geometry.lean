import ETradie.Ta.Patterns

namespace ETradie.Ta

open List Option SMCDetector CandleSequence BlockSetup Side

variable {d : SMCDetector} {htf ltf : CandleSequence}
variable {config : SMCConfig} {p : SMCCandidate × Option (OrderBlock × CandleSequence)}

theorem traced_eq_some {setup : Setup} :
    setup.traced config ltf = .ok (some p) ↔
      setup.build config ltf = .ok (some p.1) ∧ setup.origin = p.2 := by
  rw [Setup.traced, Kernel.map_eq_ok]
  simp [Prod.ext_iff]

theorem mem_detectTraced {built : List (SMCCandidate × Option (OrderBlock × CandleSequence))}
    (h : d.detectTraced htf ltf = .ok built) (hp : p ∈ built) :
    ∃ setup ∈ d.setups htf ltf, setup.build d.config ltf = .ok (some p.1) ∧ setup.origin = p.2 := by
  unfold detectTraced at h
  split at h
  · obtain ⟨setup, hm, hbld⟩ := (Kernel.mem_collect h p).mp hp
    exact ⟨setup, hm, traced_eq_some.mp hbld⟩
  · cases h
    cases hp

variable {cs : List SMCCandidate}

theorem detectPatterns_eq_ok (h : d.detectPatterns htf ltf = .ok cs) :
    ∃ built, d.detectTraced htf ltf = .ok built ∧ cs = built.map Prod.fst := by
  obtain ⟨built, hblt, rfl⟩ := Kernel.map_eq_ok.mp h
  exact ⟨built, hblt, rfl⟩

variable {side : Side} {b : BlockSetup}

section Placement

variable {ob : OrderBlock} {bms : BreakInMarketStructure} {choch : Option ChangeOfCharacter}
variable {sweep : Option LiquiditySweep}

structure BlockSetup.Placed (htf ltf : CandleSequence) (b : BlockSetup) : Prop where
  found : b.foundIn = htf ∨ b.foundIn = ltf
  multiple : b.minTpRr = Ta.minTpRr b.foundIn.timeframe ∨ b.minTpRr = Ta.minTpRr ltf.timeframe

def TurtleSetup.Placed (b : TurtleSetup) : Prop :=
  b.side.beyond b.sweptExtreme b.sweep.sweptLevel = true

variable {s : CandleSequence}

theorem detectOb_timeframe (h : detectOb config side s bms = some ob) :
    ob.timeframe = s.timeframe := by
  obtain ⟨⟨c, hfm⟩, -⟩ := detectOb_eq_some h
  exact hfm.timeframe

theorem placed_of_block (hs : s = htf ∨ s = ltf) (hob : ob.timeframe = s.timeframe)
    (hfnd : b.foundIn = s) (hmul : b.minTpRr = Ta.minTpRr ob.timeframe) :
    b.Placed htf ltf := by
  subst hfnd
  rw [hob] at hmul
  exact ⟨hs, .inl hmul⟩

structure SMCDetector.Continues (d : SMCDetector) (htf ltf : CandleSequence) (b : BlockSetup) :
    Prop where
  found : b.foundIn = htf ∨ b.foundIn = ltf
  bms : b.bms ∈ d.bms htf b.side ∨ b.bms ∈ d.bms ltf b.side
  block : DetectedOn d.config b.foundIn b.ob
  sweep : b.sweep = d.sweepFor ltf b.side b.bms
  gaps : b.fvgs = d.allFvgs htf ltf
  multiple : b.minTpRr = Ta.minTpRr b.ob.timeframe

def FibonacciRetracement.Forward (r : FibonacciRetracement) : Prop :=
  match r.isBullish with
  | true => r.swingLowTimestamp < r.swingHighTimestamp
  | false => r.swingHighTimestamp < r.swingLowTimestamp

def BlockSetup.StartsFirst (ltf : CandleSequence) (b : BlockSetup) : Prop :=
  match b.family with
  | .shBmsRto => ∀ sweep ∈ b.sweep, sweep.timestamp < b.bms.timestamp
  | .smsBmsRto => ∀ sms ∈ b.sms, sms.failedLevelTimestamp < b.bms.timestamp
  | .amd => ∀ context ∈ detectAmdContext ltf, ∀ range ∈ context.asianRange,
      range.startTime < b.bms.timestamp
  | _ => True

structure SMCDetector.Formed (d : SMCDetector) (htf ltf : CandleSequence) (b : BlockSetup) :
    Prop where
  placed : b.Placed htf ltf
  backed : b.chochDetected = (b.family = .smsBmsRto && b.side = .low || b.reportedChoch.isSome)
  leg : ∀ r ∈ b.retracement, r.Forward ↔ b.StartsFirst ltf
  smsChoch : b.family = .smsBmsRto → (b.reportedChoch.isSome ↔
    d.bms ltf b.side ≠ [] ∧ d.latestChoch ltf b.side ≠ none)

structure SMCDetector.Continuation (d : SMCDetector) (htf ltf : CandleSequence) (b : BlockSetup) :
    Prop where
  continues : d.Continues htf ltf b
  formed : d.Formed htf ltf b
  family : b.family = .shBmsRto
  sms : b.sms = none

theorem legBetween_forward {origin terminal : ℚ × Int} {horg : 0 < origin.1}
    {hter : 0 < terminal.1} {r : FibonacciRetracement}
    (h : legBetween s side origin terminal horg hter = some r) :
    r.Forward ↔ origin.2 < terminal.2 := by
  unfold legBetween at h
  cases side
  · dsimp only at h
    unfold buildLeg at h
    split_ifs at h
    cases h
    rfl
  · dsimp only at h
    unfold buildLeg at h
    split_ifs at h
    cases h
    rfl

theorem choch_forward {choch : ChangeOfCharacter} (h : choch ∈ d.choch s side) :
    choch.brokenLevelTimestamp < choch.timestamp := by
  obtain ⟨swing, hsw, h⟩ := mem_filterMap.mp h
  obtain ⟨-, existing, hat⟩ := mem_detectSwings (mem_mergeSort.mp hsw)
  obtain ⟨current, hcur, -, -, -, htm, -⟩ := swingAt_eq_some hat
  unfold chochOf at h
  split_ifs at h
  obtain ⟨⟨breakout, first, confirm⟩, hbre, rfl⟩ := map_eq_some_iff.mp h
  obtain ⟨hfst, closes, hclo, -, hcon⟩ := confirmedBreak_eq_some hbre
  obtain ⟨-, hle, -⟩ := firstBreak_eq_some hfst
  have hpos : 1 ≤ closes := by
    cases hclo
    unfold chochRequired
    split <;> decide
  rw [htm]
  exact timestamp_lt hcur hcon (by omega)

theorem continuationSetup_eq_some {htfBms : BreakInMarketStructure} (hs : s = htf ∨ s = ltf)
    (hbms : bms ∈ d.bms htf side ∨ bms ∈ d.bms ltf side) (hob : DetectedOn d.config s ob)
    (h : d.continuationSetup htf ltf side htfBms (d.sweepFor ltf side bms) choch bms ob s = some b) :
    d.Continuation htf ltf b := by
  obtain ⟨⟨c, hfm⟩, -⟩ := hob.from_candle
  unfold continuationSetup at h
  split_ifs at h
  cases h
  refine ⟨⟨hs, hbms, hob, rfl, rfl, rfl⟩,
    ⟨placed_of_block hs hfm.timeframe rfl rfl, rfl, ?_, nofun⟩, rfl, rfl⟩
  intro r hr
  obtain ⟨sweep, hswp, hleg⟩ := bind_eq_some_iff.mp hr
  refine (legBetween_forward hleg).trans ?_
  dsimp only [StartsFirst]
  rw [hswp]
  simp

theorem coherentSmsSetup_eq_some {sms : ShiftInMarketStructure} (hs : s = htf ∨ s = ltf)
    (hob : detectOb d.config side s bms = some ob)
    (hchoch : choch.isSome ↔ d.bms ltf side ≠ [] ∧ d.latestChoch ltf side ≠ none)
    (h : d.coherentSmsSetup htf ltf side sms bms choch ob s = some b) : d.Formed htf ltf b := by
  unfold coherentSmsSetup smsSetup at h
  split_ifs at h
  cases h
  refine ⟨placed_of_block hs (detectOb_timeframe hob) rfl rfl, rfl, ?_, fun _ => hchoch⟩
  intro r hr
  refine (legBetween_forward hr).trans ?_
  simp [StartsFirst]

theorem amdSetup_eq_some {context : AMDContext} (hctx : detectAmdContext ltf = some context)
    (hob : detectOb d.config side ltf bms = some ob)
    (h : d.amdSetup htf ltf side context sweep bms choch ob ltf = some b) :
    d.Formed htf ltf b := by
  unfold amdSetup at h
  split_ifs at h
  cases h
  refine ⟨placed_of_block (.inr rfl) (detectOb_timeframe hob) rfl rfl, rfl, ?_, nofun⟩
  intro r hr
  obtain ⟨range, hrng, hleg⟩ := bind_eq_some_iff.mp hr
  refine (legBetween_forward hleg).trans ?_
  dsimp only [StartsFirst]
  rw [hctx]
  simp [hrng]

theorem chochSetup_formed {htfChoch : ChangeOfCharacter} (hs : s = htf ∨ s = ltf)
    (hcho : htfChoch ∈ d.choch htf side) :
    d.Formed htf ltf (d.chochSetup htf ltf side htfChoch bms choch sweep ob s) := by
  refine ⟨⟨hs, .inr rfl⟩, rfl, ?_, nofun⟩
  intro r hr
  exact (legBetween_forward hr).trans (iff_of_true (choch_forward hcho) trivial)

theorem mem_bmsSetups {latest : BreakInMarketStructure}
    (h : b ∈ d.bmsSetups htf ltf side latest s) : ∃ bms ∈ d.bms s side, ∃ ob,
      detectOb d.config side s bms = some ob ∧ d.continuationSetup htf ltf side latest
        (d.sweepFor ltf side bms) (d.latestChoch ltf side) bms ob s = some b := by
  obtain ⟨bms, hbms, h⟩ := mem_filterMap.mp h
  obtain ⟨ob, hob, h⟩ := bind_eq_some_iff.mp h
  exact ⟨bms, hbms, ob, hob, h⟩

theorem continuation_of_mem (h : b ∈ d.continuationSetups htf ltf side) :
    d.Continuation htf ltf b := by
  unfold continuationSetups at h
  split at h
  · cases h
  next _ hlst =>
    rw [mem_append, mem_append] at h
    rcases h with (h | h) | h
    · obtain ⟨bms, hbms, ob, hob, h⟩ := mem_bmsSetups h
      exact continuationSetup_eq_some (.inl rfl) (.inl hbms) (.inl ⟨side, bms, hob⟩) h
    · obtain ⟨bms, hbms, ob, hob, h⟩ := mem_bmsSetups h
      exact continuationSetup_eq_some (.inr rfl) (.inr hbms) (.inl ⟨side, bms, hob⟩) h
    · obtain ⟨event, -, h⟩ := mem_filterMap.mp h
      obtain ⟨ob, hob, h⟩ := bind_eq_some_iff.mp h
      split at h
      · cases h
      · exact continuationSetup_eq_some (.inr rfl) (.inl (latestBy_mem hlst)) (.inr ⟨event, hob⟩) h

theorem formed_of_reversal (h : b ∈ d.reversalSetups htf ltf side) : d.Formed htf ltf b := by
  unfold reversalSetups at h
  split at h
  · cases h
  · rw [mem_append] at h
    rcases h with h | h
    · obtain ⟨bms, hbms, h⟩ := mem_filterMap.mp h
      obtain ⟨ob, hob, h⟩ := bind_eq_some_iff.mp h
      refine coherentSmsSetup_eq_some (.inr rfl) hob ?_ h
      rw [isSome_iff_ne_none]
      exact (and_iff_right (ne_nil_of_mem hbms)).symm
    · split at h
      · next hempty =>
        obtain ⟨-, -, h⟩ := mem_filterMap.mp h
        obtain ⟨bms, -, h⟩ := bind_eq_some_iff.mp h
        obtain ⟨ob, hob, h⟩ := bind_eq_some_iff.mp h
        refine coherentSmsSetup_eq_some (.inl rfl) hob ?_ h
        exact iff_of_false nofun fun hlower => hlower.1 (isEmpty_iff.mp hempty)
      · cases h

theorem formed_of_choch (h : b ∈ d.chochSetups htf ltf side) : d.Formed htf ltf b := by
  unfold chochSetups at h
  split at h
  · cases h
  next _ hlst =>
    have hcho := latestBy_mem hlst
    rw [mem_append] at h
    rcases h with h | h
    · obtain ⟨bms, -, h⟩ := mem_filterMap.mp h
      obtain ⟨ob, -, rfl⟩ := map_eq_some_iff.mp h
      exact chochSetup_formed (.inr rfl) hcho
    · split at h
      · obtain ⟨bms, -, h⟩ := bind_eq_some_iff.mp (mem_toList.mp h)
        obtain ⟨ob, -, rfl⟩ := map_eq_some_iff.mp h
        exact chochSetup_formed (.inl rfl) hcho
      · cases h

theorem formed_of_amd (h : b ∈ d.amdSetups htf ltf side) : d.Formed htf ltf b := by
  unfold amdSetups at h
  split at h
  · cases h
  next _ hctx =>
    split at h
    · obtain ⟨bms, -, h⟩ := mem_filterMap.mp h
      obtain ⟨ob, hob, h⟩ := bind_eq_some_iff.mp h
      exact amdSetup_eq_some hctx hob h
    · cases h

theorem mem_bothSides {α : Type} {enabled : Bool} {setups : Side → List α} {x : α}
    (h : x ∈ bothSides enabled setups) : ∃ side, x ∈ setups side := by
  unfold bothSides at h
  split at h
  · rcases mem_append.mp h with h | h
    · exact ⟨.high, h⟩
    · exact ⟨.low, h⟩
  · cases h

theorem formed_of_mem_setups (h : Setup.block b ∈ d.setups htf ltf) : d.Formed htf ltf b := by
  unfold SMCDetector.setups at h
  simp only [List.mem_append, List.mem_map, Setup.block.injEq, exists_eq_right, reduceCtorEq,
    and_false, exists_false, or_false] at h
  rcases h with ((h | h) | h) | h
  · obtain ⟨side, h⟩ := mem_bothSides h
    exact (continuation_of_mem h).formed
  · obtain ⟨side, h⟩ := mem_bothSides h
    exact formed_of_reversal h
  · obtain ⟨side, h⟩ := mem_bothSides h
    exact formed_of_choch h
  · obtain ⟨side, h⟩ := mem_bothSides h
    exact formed_of_amd h

theorem mem_detectTurtleSoup {a : SweepAnalyzer} {swings : List (Swing side)}
    {sweep : LiquiditySweep} (h : sweep ∈ detectTurtleSoup config a s swings) :
    ∃ c swing i, detectSwingSweep a side c swing i = some sweep := by
  obtain ⟨⟨c, i⟩, -, h⟩ := mem_flatMap.mp h
  obtain ⟨swing, -, h⟩ := mem_filterMap.mp h
  split at h
  · cases h
  · exact ⟨c, swing, i, (filter_eq_some_iff.mp h).1⟩

theorem turtlePlaced_of_mem {b : TurtleSetup} (h : b ∈ d.turtleSetups ltf side) : b.Placed := by
  obtain ⟨sweep, hlst, rfl⟩ := map_eq_some_iff.mp (mem_toList.mp h)
  have hm := latestBy_mem hlst
  unfold turtleSoup at hm
  split at hm
  · obtain ⟨c, swing, i, hswp⟩ := mem_detectTurtleSoup hm
    unfold detectSwingSweep at hswp
    simp only at hswp
    split at hswp
    · cases hswp
    · next hbey =>
      split at hswp
      · cases hswp
      · cases hswp
        cases side
        · have hlow : c.low < swing.price := by
            simpa [beyond, opposite, extreme] using hbey
          exact decide_eq_true hlow
        · have hhi : swing.price < c.high := by
            simpa [beyond, opposite, extreme] using hbey
          exact decide_eq_true hhi
  · cases hm

theorem turtlePlaced_of_mem_setups {b : TurtleSetup} (h : Setup.turtle b ∈ d.setups htf ltf) :
    b.Placed := by
  unfold SMCDetector.setups at h
  simp only [List.mem_append, List.mem_map, reduceCtorEq, and_false, exists_false, or_false,
    false_or, Setup.turtle.injEq, exists_eq_right] at h
  obtain ⟨side, h⟩ := mem_bothSides h
  exact turtlePlaced_of_mem h

end Placement

section Geometry

variable {c : SMCCandidate} {stop entry : ℚ}

structure SMCCandidate.WellFormed (c : SMCCandidate) (side : Side) : Prop where
  direction : c.direction = side.breakDirection
  stop : side.beyond c.stopLoss c.entryPrice = true
  block : ∀ lower ∈ c.orderBlockLower, ∀ upper ∈ c.orderBlockUpper,
    lower ≤ c.entryPrice ∧ c.entryPrice ≤ upper ∧
      (side = .high → c.stopLoss < lower) ∧ (side = .low → upper < c.stopLoss)
  target : ∀ target ∈ c.takeProfit,
    minTpRr c.timeframe * side.gain c.stopLoss c.entryPrice ≤ side.gain c.entryPrice target

theorem Side.gain_eq_abs (h : side.beyond stop entry) :
    side.gain stop entry = |entry - stop| := by
  cases side
  · simp only [beyond, decide_eq_true_eq] at h
    exact (abs_of_pos (sub_pos.mpr h)).symm
  · simp only [beyond, decide_eq_true_eq] at h
    rw [abs_sub_comm]
    exact (abs_of_pos (sub_pos.mpr h)).symm

theorem pays_of_findNearestTarget {multiple target : ℚ} {prices : List ℚ} {tf : Timeframe}
    (hsp : side.beyond stop entry) (hmul : minTpRr tf ≤ multiple)
    (h : findNearestTarget side entry (|entry - stop| * multiple) prices = some target) :
    minTpRr tf * side.gain stop entry ≤ side.gain entry target := by
  obtain ⟨-, hrew⟩ := findNearestTarget_eq_some h
  rw [gain_eq_abs hsp]
  calc minTpRr tf * |entry - stop|
      ≤ multiple * |entry - stop| := mul_le_mul_of_nonneg_right hmul (abs_nonneg _)
    _ = |entry - stop| * multiple := mul_comm _ _
    _ ≤ side.gain entry target := hrew

theorem BlockSetup.Placed.multiple_le (hpla : b.Placed htf ltf)
    (htim : ltf.timeframe.minutes ≤ htf.timeframe.minutes) :
    Ta.minTpRr ltf.timeframe ≤ b.minTpRr := by
  rcases hpla.multiple with hmul | hmul
  · rw [hmul]
    rcases hpla.found with hfnd | hfnd
    · rw [hfnd]
      exact minTpRr_mono htim
    · rw [hfnd]
  · exact hmul.ge

theorem wellFormed_of_block (htim : ltf.timeframe.minutes ≤ htf.timeframe.minutes)
    (hpla : b.Placed htf ltf) (h : b.build d.config ltf = .ok (some c)) :
    c.WellFormed b.side := by
  obtain ⟨-, hyld⟩ := build_eq_some h
  refine ⟨hyld.direction, ?_, ?_, ?_⟩
  · rw [hyld.stop, hyld.entry]
    exact b.stopLoss_beyond_entry
  · intro lower hl upper hu
    rw [hyld.lower] at hl
    rw [hyld.upper] at hu
    cases hl
    cases hu
    rw [hyld.entry, hyld.stop]
    exact ⟨lower_lt_entry.le, entry_lt_upper.le, stopLoss_lt_lower, upper_lt_stopLoss⟩
  · intro target htgt
    rw [hyld.target] at htgt
    rw [hyld.timeframe, hyld.stop, hyld.entry]
    exact pays_of_findNearestTarget b.stopLoss_beyond_entry (hpla.multiple_le htim) htgt

theorem wellFormed_of_turtle {b : TurtleSetup} (hpla : b.Placed)
    (h : b.build d.config ltf = .ok (some c)) : c.WellFormed b.side := by
  have hyld := TurtleSetup.build_eq_some h
  have hsp : b.side.beyond (b.stopLoss d.config ltf) b.sweep.sweptLevel :=
    beyond_trans (TurtleSetup.stopLoss_beyond d.config ltf b) hpla
  refine ⟨hyld.direction, ?_, ?_, ?_⟩
  · rw [hyld.stop, hyld.entry]
    exact hsp
  · intro lower hl
    rw [hyld.lower] at hl
    cases hl
  · intro target htgt
    rw [hyld.target] at htgt
    rw [hyld.timeframe, hyld.stop, hyld.entry]
    exact pays_of_findNearestTarget hsp (le_refl _) htgt

theorem wellFormed_of_mem (htim : ltf.timeframe.minutes ≤ htf.timeframe.minutes)
    (h : d.detectPatterns htf ltf = .ok cs) (hc : c ∈ cs) : ∃ side, c.WellFormed side := by
  obtain ⟨built, hblt, rfl⟩ := detectPatterns_eq_ok h
  obtain ⟨p, hp, rfl⟩ := mem_map.mp hc
  obtain ⟨setup, hm, hbld, -⟩ := mem_detectTraced hblt hp
  cases setup with
  | block b => exact ⟨b.side, wellFormed_of_block htim (formed_of_mem_setups hm).placed hbld⟩
  | turtle b => exact ⟨b.side, wellFormed_of_turtle (turtlePlaced_of_mem_setups hm) hbld⟩

def SMCCandidate.Geometry (c : SMCCandidate) : Prop :=
  (c.direction = .bullish ∨ c.direction = .bearish) ∧
    (c.direction = .bullish →
      c.stopLoss < c.entryPrice ∧
      (∀ lower ∈ c.orderBlockLower, ∀ upper ∈ c.orderBlockUpper,
        c.stopLoss < lower ∧ lower ≤ c.entryPrice ∧ c.entryPrice ≤ upper) ∧
      0 < resolveMinTpRr (some c.timeframe) none * (c.entryPrice - c.stopLoss) ∧
      ∀ target ∈ c.takeProfit,
        resolveMinTpRr (some c.timeframe) none * (c.entryPrice - c.stopLoss) ≤
          target - c.entryPrice) ∧
    (c.direction = .bearish →
      c.entryPrice < c.stopLoss ∧
      (∀ lower ∈ c.orderBlockLower, ∀ upper ∈ c.orderBlockUpper,
        lower ≤ c.entryPrice ∧ c.entryPrice ≤ upper ∧ upper < c.stopLoss) ∧
      0 < resolveMinTpRr (some c.timeframe) none * (c.stopLoss - c.entryPrice) ∧
      ∀ target ∈ c.takeProfit,
        resolveMinTpRr (some c.timeframe) none * (c.stopLoss - c.entryPrice) ≤
          c.entryPrice - target)

theorem candidate_geometry (d : SMCDetector) (htf ltf : CandleSequence)
    (htimeframes : ltf.timeframe.minutes ≤ htf.timeframe.minutes) (cs : List SMCCandidate)
    (h : d.detectPatterns htf ltf = .ok cs) (c : SMCCandidate) (hc : c ∈ cs) : c.Geometry := by
  obtain ⟨side, hwe⟩ := wellFormed_of_mem htimeframes h hc
  have hpos : 0 < resolveMinTpRr (some c.timeframe) none := minTpRr_pos c.timeframe
  have hsp := hwe.stop
  cases side with
  | high =>
    have hbul : c.direction = .bullish := hwe.direction
    have hlt : c.stopLoss < c.entryPrice := by simpa [beyond] using hsp
    refine ⟨.inl hbul, ?_, ?_⟩
    · intro _
      refine ⟨hlt, ?_, mul_pos hpos (sub_pos.mpr hlt), hwe.target⟩
      intro lower hl upper hu
      obtain ⟨hlo, hup, hbey, -⟩ := hwe.block lower hl upper hu
      exact ⟨hbey rfl, hlo, hup⟩
    · intro hbea
      rw [hbul] at hbea
      cases hbea
  | low =>
    have hbea : c.direction = .bearish := hwe.direction
    have hlt : c.entryPrice < c.stopLoss := by simpa [beyond] using hsp
    refine ⟨.inr hbea, ?_, ?_⟩
    · intro hbul
      rw [hbea] at hbul
      cases hbul
    · intro _
      refine ⟨hlt, ?_, mul_pos hpos (sub_pos.mpr hlt), hwe.target⟩
      intro lower hl upper hu
      obtain ⟨hlo, hup, -, hbey⟩ := hwe.block lower hl upper hu
      exact ⟨hlo, hup, hbey rfl⟩

def quietDay? : Option CandleSequence :=
  CandleSequence.ofPrices? "US30" .d1 15584400000000 [(4800, 4850, 4700, 4750)]

def firstCandidate (htf ltf : CandleSequence) : Option SMCCandidate :=
  match ({} : SMCDetector).detectPatterns htf ltf with
  | .ok (c :: _) => some c
  | _ => none

theorem climb_candidate :
    ∃ htf ltf cs c, climb? = some htf ∧ quietDay? = some ltf ∧ htf.timeframe = .mn1 ∧
      ltf.timeframe = .d1 ∧ ({} : SMCDetector).detectPatterns htf ltf = .ok cs ∧ c ∈ cs := by
  have htf? : climb?.map timeframe = some .mn1 := by decide +kernel
  have ltf? : quietDay?.map timeframe = some .d1 := by decide +kernel
  have hso : (climb?.bind (fun htf => quietDay?.bind (firstCandidate htf))).isSome := by
    decide +kernel
  obtain ⟨c, hb⟩ := isSome_iff_exists.mp hso
  obtain ⟨htf, hhtf, hb⟩ := bind_eq_some_iff.mp hb
  obtain ⟨ltf, hltf, hfst⟩ := bind_eq_some_iff.mp hb
  rw [hhtf] at htf?
  rw [hltf] at ltf?
  unfold firstCandidate at hfst
  split at hfst
  · next _ cs hcs =>
    cases hfst
    exact ⟨htf, ltf, _, c, hhtf, hltf, Option.some.inj htf?, Option.some.inj ltf?, hcs,
      mem_cons_self⟩
  · cases hfst

theorem candidate_geometry_climb :
    ∃ htf ltf cs c, climb? = some htf ∧ quietDay? = some ltf ∧
      ({} : SMCDetector).detectPatterns htf ltf = .ok cs ∧ c ∈ cs ∧ c.Geometry := by
  obtain ⟨htf, ltf, cs, c, hhtf, hltf, hmon, hday, hcs, hc⟩ := climb_candidate
  have htim : ltf.timeframe.minutes ≤ htf.timeframe.minutes := by
    rw [hmon, hday]
    decide
  exact ⟨htf, ltf, cs, c, hhtf, hltf, hcs, hc, candidate_geometry {} htf ltf htim cs hcs c hc⟩

end Geometry

end ETradie.Ta
