import ETradie.Ta.OrderBlocks
import ETradie.Ta.Sweeps

namespace ETradie.Ta

inductive Session where
  | asia
  | london
  | newYork
  | overlapLondonNy
deriving DecidableEq

variable (timestamp : Int)

def hourOf : Int := timestamp / 3600000000 % 24

def Session.containsHour : Session → Int → Bool
  | .asia, hour => 0 ≤ hour && hour < 9
  | .london, hour => 7 ≤ hour && hour < 16
  | .newYork, hour => 12 ≤ hour && hour < 21
  | .overlapLondonNy, hour => 12 ≤ hour && hour < 16

def Session.containsTimestamp (session : Session) (timestamp : Int) : Bool :=
  session.containsHour (hourOf timestamp)

def activeSessions : List Session :=
  [Session.asia, .london, .newYork].filter (·.containsTimestamp timestamp)

def identifySession : Session :=
  match activeSessions timestamp with
  | [] => .asia
  | [session] => session
  | session :: rest =>
    if Session.london ∈ session :: rest ∧ Session.newYork ∈ session :: rest then .overlapLondonNy
    else session

section Inducements

structure InducementEvent where
  symbol : String
  timeframe : Timeframe
  timestamp : Int
  inducementLevel : ℚ
  inducementTimestamp : Int
  direction : Direction
  cleared : Bool
  clearedTimestamp : Option Int
  candleIndex : Nat
  isInternal : Bool
  level_pos : 0 < inducementLevel

variable (config : SMCConfig) {side : Side} (s : CandleSequence)

def clearanceThreshold (swing : Swing side) : ℚ :=
  match side with
  | .high => swing.price + config.inducementMinBreakPips * pipValue s.symbol
  | .low => swing.price - config.inducementMinBreakPips * pipValue s.symbol

def inducementOf (swing : Swing side) : Option InducementEvent :=
  if 5 ≤ swing.strength then none
  else if s.candles.length - 1 ≤ swing.index then none
  else
    let clearing := (s.candles.drop (swing.index + 1)).find?
      (fun c => side.beyond (clearanceThreshold config s swing) (side.extreme c))
    some
      { symbol := s.symbol, timeframe := s.timeframe, timestamp := swing.timestamp
        inducementLevel := swing.price, inducementTimestamp := swing.timestamp
        direction := side.failDirection, cleared := clearing.isSome
        clearedTimestamp := clearing.map Candle.timestamp, candleIndex := swing.index
        isInternal := true, level_pos := swing.price_pos }

def detectInducement (swings : List (Swing side)) : List InducementEvent :=
  swings.filterMap (inducementOf config s)

def detectBullishInducement (swingLows : List SwingLow) : List InducementEvent :=
  detectInducement config s swingLows

def detectBearishInducement (swingHighs : List SwingHigh) : List InducementEvent :=
  detectInducement config s swingHighs

end Inducements

variable (inducementEvents : List InducementEvent)

section Validators

variable (config : SMCConfig)

def validateLiquidityTaken : Option LiquiditySweep → Bool
  | none => false
  | some sweep => sweep.closedBackInside

def validateChochPresent : Option ChangeOfCharacter → Option LiquiditySweep → Bool
  | none, _ => false
  | some _, none => true
  | some choch, some sweep => sweep.candleIndex ≤ choch.candleIndex

def validateBmsConfirmed : Option BreakInMarketStructure → Option ChangeOfCharacter → Bool
  | some bms, some choch => choch.candleIndex ≤ bms.candleIndex && bms.direction = choch.direction
  | _, _ => false

def validateRtoToOb : Option OrderBlock → Option BreakInMarketStructure → ℚ → Bool
  | some ob, some bms, currentPrice =>
    if ob.timestamp ≤ bms.timestamp then false
    else ob.lowerBound ≤ currentPrice && currentPrice ≤ ob.upperBound
  | _, _, _ => false

def lastCandle (s : CandleSequence) : Candle := s.candles.getLast s.nonempty

def validateSessionTiming (s : CandleSequence) : Bool :=
  if !config.requireSessionTiming then true
  else identifySession (lastCandle s).timestamp ∈ [Session.london, .newYork, .overlapLondonNy]

def relevantInducements (ob : OrderBlock) :
    List InducementEvent :=
  inducementEvents.filter (fun idm => idm.timestamp < ob.timestamp && idm.direction = ob.direction)

def validateInducementCleared :
    Option OrderBlock → Bool
  | none => false
  | some ob => (relevantInducements inducementEvents ob).all (·.cleared)

def validateLtfFvgPresent (ltfFvgs : List FairValueGap) : Option OrderBlock → Bool
  | none => false
  | some ob => ltfFvgs.any (·.direction = ob.direction)

def validateAllLtfConfirmations (sweep : Option LiquiditySweep) (choch : Option ChangeOfCharacter)
    (bms : Option BreakInMarketStructure) (ob : Option OrderBlock)
    (inducementEvents : List InducementEvent) (s : CandleSequence) (currentPrice : ℚ)
    (ltfFvgs : List FairValueGap) : Bool :=
  validateLiquidityTaken sweep && validateChochPresent choch sweep &&
    validateBmsConfirmed bms choch && validateRtoToOb ob bms currentPrice &&
    validateSessionTiming config s && validateInducementCleared inducementEvents ob &&
    validateLtfFvgPresent ltfFvgs ob

end Validators

section Exactness

def OrderBlock.Contains (ob : OrderBlock) (price : ℚ) : Prop :=
  ob.lowerBound ≤ price ∧ price ≤ ob.upperBound

instance (ob : OrderBlock) (price : ℚ) : Decidable (ob.Contains price) :=
  inferInstanceAs (Decidable (_ ∧ _))

structure Confirmed (config : SMCConfig) (sweep : Option LiquiditySweep)
    (choch : Option ChangeOfCharacter) (bms : BreakInMarketStructure) (ob : OrderBlock)
    (inducementEvents : List InducementEvent) (s : CandleSequence) (price : ℚ)
    (ltfFvgs : List FairValueGap) : Prop where
  liquidityTaken : ∃ sw, sweep = some sw ∧ sw.closedBackInside = true
  inOrder : ∃ ch, choch = some ch ∧ (∀ sw, sweep = some sw → sw.candleIndex ≤ ch.candleIndex) ∧
    ch.candleIndex ≤ bms.candleIndex ∧ bms.direction = ch.direction
  inside : ob.Contains price
  session : config.requireSessionTiming = true →
    identifySession (lastCandle s).timestamp ∈ [Session.london, .newYork, .overlapLondonNy]
  cleared : ∀ idm ∈ inducementEvents, idm.timestamp < ob.timestamp →
    idm.direction = ob.direction → idm.cleared = true
  gap : ∃ fvg ∈ ltfFvgs, fvg.direction = ob.direction

variable {config : SMCConfig} {side : Side} {s : CandleSequence} {swings : List (Swing side)}
  {bms : BreakInMarketStructure} {ob : OrderBlock}

theorem validateRtoToOb_of_before (h : ob.timestamp ≤ bms.timestamp) (price : ℚ) :
    validateRtoToOb (some ob) (some bms) price = false := by
  simp only [validateRtoToOb]
  rw [if_pos h]

theorem validateSessionTiming_iff :
    validateSessionTiming config s ↔
      (config.requireSessionTiming →
        identifySession (lastCandle s).timestamp ∈
          [Session.london, .newYork, .overlapLondonNy]) := by
  unfold validateSessionTiming
  cases config.requireSessionTiming
  · simp
  · simp

theorem validateInducementCleared_iff {inducementEvents : List InducementEvent} :
    validateInducementCleared inducementEvents (some ob) ↔
      ∀ idm ∈ inducementEvents, idm.timestamp < ob.timestamp →
        idm.direction = ob.direction → idm.cleared := by
  simp only [validateInducementCleared, relevantInducements, List.all_eq_true, List.mem_filter,
    Bool.and_eq_true, decide_eq_true_eq]
  constructor
  · intro h idm hm hbef hdir
    exact h idm ⟨hm, hbef, hdir⟩
  · rintro h idm ⟨hm, hbef, hdir⟩
    exact h idm hm hbef hdir

theorem inOrder_iff {sweep : Option LiquiditySweep} {choch : Option ChangeOfCharacter} :
    (validateChochPresent choch sweep ∧ validateBmsConfirmed (some bms) choch) ↔
      ∃ ch, choch = some ch ∧ (∀ sw, sweep = some sw → sw.candleIndex ≤ ch.candleIndex) ∧
        ch.candleIndex ≤ bms.candleIndex ∧ bms.direction = ch.direction := by
  cases choch with
  | none => simp [validateChochPresent]
  | some ch =>
    cases sweep with
    | none | some sw => simp [validateChochPresent, validateBmsConfirmed]

theorem validateAllLtfConfirmations_iff {sweep : Option LiquiditySweep}
    {choch : Option ChangeOfCharacter} {inducementEvents : List InducementEvent} {price : ℚ}
    {ltfFvgs : List FairValueGap}
    (h : validateRtoToOb (some ob) (some bms) price ↔ ob.Contains price) :
    validateAllLtfConfirmations config sweep choch (some bms) (some ob) inducementEvents s price
        ltfFvgs ↔
      Confirmed config sweep choch bms ob inducementEvents s price ltfFvgs := by
  have hliq : validateLiquidityTaken sweep ↔
      ∃ sw, sweep = some sw ∧ sw.closedBackInside := by
    cases sweep with
    | none | some sw => simp [validateLiquidityTaken]
  have hgap : validateLtfFvgPresent ltfFvgs (some ob) ↔
      ∃ fvg ∈ ltfFvgs, fvg.direction = ob.direction := by
    simp [validateLtfFvgPresent]
  unfold validateAllLtfConfirmations
  simp only [Bool.and_eq_true]
  constructor
  · rintro ⟨⟨⟨⟨⟨⟨hl, hc⟩, hb⟩, hr⟩, hs⟩, hi⟩, hg⟩
    exact
      { liquidityTaken := hliq.mp hl, inOrder := inOrder_iff.mp ⟨hc, hb⟩, inside := h.mp hr
        session := validateSessionTiming_iff.mp hs, cleared := validateInducementCleared_iff.mp hi
        gap := hgap.mp hg }
  · intro hcon
    obtain ⟨hc, hb⟩ := inOrder_iff.mpr hcon.inOrder
    exact ⟨⟨⟨⟨⟨⟨hliq.mpr hcon.liquidityTaken, hc⟩, hb⟩, h.mpr hcon.inside⟩,
      validateSessionTiming_iff.mpr hcon.session⟩,
      validateInducementCleared_iff.mpr hcon.cleared⟩, hgap.mpr hcon.gap⟩

theorem confirmation_of_mem_detectBms (h : bms ∈ detectBms config s swings) :
    ∃ j confirm, bms.candleIndex ≤ j ∧ s.candles[j]? = some confirm ∧
      bms.timestamp = confirm.timestamp := by
  obtain ⟨swing, -, hof⟩ := List.mem_filterMap.mp h
  obtain ⟨⟨breakout, first, confirm⟩, hbre, rfl⟩ := Option.map_eq_some_iff.mp hof
  obtain ⟨-, closes, hclo, -, hg⟩ := confirmedBreak_eq_some hbre
  have hweak := config.weakConfirm_ge
  have htwo : 1 ≤ closes := by
    unfold bmsRequired at hclo
    simp only at hclo
    split at hclo
    · cases hclo
    · cases hclo
      unfold requiredConfirmationCandles
      split_ifs <;> omega
  refine ⟨first + closes - 1, confirm, ?_, hg, rfl⟩
  change first ≤ first + closes - 1
  omega

theorem block_before_break {side' : Side} (hbms : bms ∈ detectBms config s swings)
    (hob : detectOb config side' s bms = some ob) : ob.timestamp < bms.timestamp := by
  obtain ⟨j, confirm, hj, hcon, hbme⟩ := confirmation_of_mem_detectBms hbms
  obtain ⟨⟨c, hfm⟩, hidx, -, -⟩ := detectOb_eq_some hob
  rw [hbme, hfm.timestamp]
  exact CandleSequence.timestamp_lt hfm.candle hcon (by omega)

theorem confirmation_exact_iff_outside (config : SMCConfig) (side side' : Side) (s : CandleSequence)
    (swings : List (Swing side)) (bms : BreakInMarketStructure) (ob : OrderBlock)
    (hbms : bms ∈ detectBms config s swings) (hob : detectOb config side' s bms = some ob)
    (price : ℚ) (sweep : Option LiquiditySweep) (choch : Option ChangeOfCharacter)
    (inducementEvents : List InducementEvent) (ltfFvgs : List FairValueGap) :
    ((validateRtoToOb (some ob) (some bms) price = true ↔ ob.Contains price) ∧
      (validateAllLtfConfirmations config sweep choch (some bms) (some ob) inducementEvents s price
          ltfFvgs = true ↔
        Confirmed config sweep choch bms ob inducementEvents s price ltfFvgs)) ↔
      ¬ ob.Contains price := by
  have hnvr := validateRtoToOb_of_before (block_before_break hbms hob).le price
  constructor
  · rintro ⟨hrto, -⟩ hins
    rw [hrto.mpr hins] at hnvr
    cases hnvr
  · intro hout
    have hrto : validateRtoToOb (some ob) (some bms) price = true ↔ ob.Contains price := by
      rw [hnvr]
      exact iff_of_false Bool.false_ne_true hout
    exact ⟨hrto, validateAllLtfConfirmations_iff hrto⟩

theorem confirmation_exact_iff_outside_climb :
    ∃ s bms ob, climb? = some s ∧ firstBullishBms s = some bms ∧
      detectBullishOb .standard s bms = some ob ∧
      (((validateRtoToOb (some ob) (some bms) 3000 = true ↔ ob.Contains 3000) ∧
        (validateAllLtfConfirmations .standard none none (some bms) (some ob) [] s 3000 [] = true ↔
          Confirmed .standard none none bms ob [] s 3000 [])) ↔
        ¬ ob.Contains 3000) := by
  have hso : (climb?.bind firstBullishBlock).isSome = true := by decide +kernel
  obtain ⟨ob, hb⟩ := Option.isSome_iff_exists.mp hso
  obtain ⟨s, hs, hblo⟩ := Option.bind_eq_some_iff.mp hb
  obtain ⟨bms, hbms, hob⟩ := Option.bind_eq_some_iff.mp hblo
  exact ⟨s, bms, ob, hs, hbms, hob, confirmation_exact_iff_outside .standard .high .high s
    (detectSwingHighs .standard s) bms ob (List.mem_of_mem_head? hbms) hob 3000 none none [] []⟩

def answersAt (s : CandleSequence) (price : ℚ) : Option (List Bool × Bool × Bool × Bool) :=
  let highs := detectSwingHighs .standard s
  let lows := detectSwingLows .standard s
  let sweep := (detectSweepsInSequence {} s highs lows).find? LiquiditySweep.isBearishSweep
  let choch := (detectBullishChoch s highs).head?
  let inducements := detectBullishInducement .standard s lows ++
    detectBearishInducement .standard s highs
  let fvgs := detectFvgs .standard s
  (firstBullishBms s).bind (fun bms => (detectBullishOb .standard s bms).map (fun ob =>
    ([validateLiquidityTaken sweep, validateChochPresent choch sweep,
        validateBmsConfirmed (some bms) choch, validateSessionTiming .standard s,
        validateInducementCleared inducements (some ob), validateLtfFvgPresent fvgs (some ob)],
      ob.Contains price, validateRtoToOb (some ob) (some bms) price,
      validateAllLtfConfirmations .standard sweep choch (some bms) (some ob) inducements s price
        fvgs)))

theorem climb_return_denied :
    climb?.bind (fun s => answersAt s 2500) =
      some ([true, true, true, true, true, true], true, false, false) := by
  decide +kernel

end Exactness

end ETradie.Ta
