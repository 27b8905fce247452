import ETradie.Ta.Geometry

/-! # The evidence of a candidate

Sweeps, gaps and breaks carry the index of their candle in the sequence they were found in, and
the distances between them are distances of indices. A continuation links the sweeps of the lower
sequence and the gaps of both to breaks and blocks of either. -/

namespace ETradie.Ta

open List Option SMCDetector

variable {d : SMCDetector} {htf ltf : CandleSequence} {b : BlockSetup}

def BlockSetup.linkedFvg (config : SMCConfig) (b : BlockSetup) : Option FairValueGap :=
  getAssociatedFvg config b.ob b.fvgs

/-- The linked sweep was found on the sequence of the break and the linked gap on the sequence of
the block, each within its distance there. -/
def SMCDetector.OneAxis (d : SMCDetector) (htf ltf : CandleSequence) (b : BlockSetup) : Prop :=
  (∀ sweep ∈ b.sweep, ∃ s ∈ [htf, ltf], b.bms ∈ d.bms s b.side ∧ sweep ∈ d.allSweeps s ∧
    indexDistance sweep.candleIndex b.bms.candleIndex ≤ d.config.sweepMaxCandleDistance) ∧
  ∀ fvg ∈ b.linkedFvg d.config, DetectedOn d.config b.foundIn b.ob ∧
    fvg ∈ detectFvgs d.config b.foundIn ∧
    indexDistance fvg.candleIndex b.ob.candleIndex ≤ d.config.fvgMaxCandleDistance

/-- The gap of one sequence that is associated with the block. -/
def SMCDetector.gapOf (d : SMCDetector) (s : CandleSequence) (ob : OrderBlock) :
    Option FairValueGap :=
  getAssociatedFvg d.config ob (detectFvgs d.config s)

theorem relevantSweep_fold (config : SMCConfig) (side : Side) (bms : BreakInMarketStructure)
    (sweeps : List LiquiditySweep) (best : Option LiquiditySweep × Nat) {sweep : LiquiditySweep}
    (h : (sweeps.foldl (relevantSweepStep config side bms) best).1 = some sweep) :
    best.1 = some sweep ∨ sweep ∈ sweeps ∧
      indexDistance sweep.candleIndex bms.candleIndex ≤ config.sweepMaxCandleDistance := by
  induction sweeps generalizing best with
  | nil => exact .inl h
  | cons x sweeps ih =>
    rcases ih _ h with hbs | ⟨hm, hnear⟩
    · unfold relevantSweepStep at hbs
      simp only at hbs
      split_ifs at hbs with hfar hclo
      · exact .inl hbs
      · cases hbs
        exact .inr ⟨mem_cons_self, not_lt.mp hfar⟩
      · exact .inl hbs
    · exact .inr ⟨mem_cons_of_mem _ hm, hnear⟩

theorem associated_of_linked {ob : OrderBlock} {fvgs : List FairValueGap} {fvg : FairValueGap}
    (h : getAssociatedFvg d.config ob fvgs = some fvg) :
    fvg ∈ fvgs ∧ indexDistance fvg.candleIndex ob.candleIndex ≤ d.config.fvgMaxCandleDistance := by
  have hass := find?_some h
  rw [isAssociated, Bool.and_eq_true, Bool.and_eq_true] at hass
  exact ⟨mem_of_find?_eq_some h, of_decide_eq_true hass.1.2⟩

theorem sweep_on_axis_iff (hcon : d.Continues htf ltf b) :
    (∀ sweep ∈ b.sweep, ∃ s ∈ [htf, ltf], b.bms ∈ d.bms s b.side ∧ sweep ∈ d.allSweeps s ∧
      indexDistance sweep.candleIndex b.bms.candleIndex ≤ d.config.sweepMaxCandleDistance) ↔
    ∀ sweep ∈ d.sweepFor ltf b.side b.bms, b.bms ∈ d.bms ltf b.side ∨ sweep ∈ d.allSweeps htf := by
  rw [hcon.sweep]
  refine forall₂_congr fun sweep hsweep => ?_
  have hlinked := (relevantSweep_fold d.config b.side b.bms _ _ hsweep).resolve_left nofun
  constructor
  · rintro ⟨s, hs, hbms, hfound, -⟩
    simp only [mem_cons, not_mem_nil, or_false] at hs
    rcases hs with rfl | rfl
    · exact .inr hfound
    · exact .inl hbms
  · rintro (hbms | hfound)
    · exact ⟨ltf, by simp, hbms, hlinked⟩
    · rcases hcon.bms with hbms | hbms
      · exact ⟨htf, by simp, hbms, hfound, hlinked.2⟩
      · exact ⟨ltf, by simp, hbms, hlinked⟩

theorem gap_on_axis_iff (hcon : d.Continues htf ltf b) :
    (∀ fvg ∈ b.linkedFvg d.config, DetectedOn d.config b.foundIn b.ob ∧
      fvg ∈ detectFvgs d.config b.foundIn ∧
      indexDistance fvg.candleIndex b.ob.candleIndex ≤ d.config.fvgMaxCandleDistance) ↔
    (b.foundIn = ltf → d.gapOf ltf b.ob = none → d.gapOf htf b.ob = none) ∧
      (b.foundIn = htf → ∀ fvg ∈ d.gapOf ltf b.ob, fvg ∈ detectFvgs d.config htf) := by
  have hlinked : b.linkedFvg d.config = (d.gapOf ltf b.ob).or (d.gapOf htf b.ob) := by
    rw [BlockSetup.linkedFvg, hcon.gaps, allFvgs, getAssociatedFvg, find?_append]
    rfl
  rw [hlinked]
  constructor
  · intro haxis
    constructor
    · intro hfound hnone
      by_contra hgap
      obtain ⟨fvg, hfvg⟩ := ne_none_iff_exists'.mp hgap
      -- a gap of the higher sequence that lies on the lower one would be associated there
      have hmem := (haxis fvg (by simp [hnone, hfvg])).2.1
      rw [hfound] at hmem
      exact find?_eq_none.mp hnone fvg hmem (find?_some hfvg)
    · intro hfound fvg hfvg
      have hmem := (haxis fvg (by simp [Option.mem_def.mp hfvg])).2.1
      rwa [hfound] at hmem
  · rintro ⟨hlower, hhigher⟩ fvg hfvg
    refine ⟨hcon.block, ?_⟩
    rcases or_eq_some_iff.mp hfvg with hgap | ⟨hnone, hgap⟩
    · obtain ⟨hmem, hnear⟩ := associated_of_linked hgap
      refine ⟨?_, hnear⟩
      rcases hcon.found with hfound | hfound
      · rw [hfound]
        exact hhigher hfound fvg hgap
      · rwa [hfound]
    · obtain ⟨hmem, hnear⟩ := associated_of_linked hgap
      refine ⟨?_, hnear⟩
      rcases hcon.found with hfound | hfound
      · rwa [hfound]
      · rw [hlower hfound hnone] at hgap
        cases hgap

/-- The evidence of a continuation lies on one axis exactly when a linked sweep meets a break of
the lower sequence, a block of the lower sequence has a gap there before one of the higher is
taken, and a block of the higher sequence has none on the lower. -/
theorem evidence_on_one_axis (d : SMCDetector) (htf ltf : CandleSequence) (side : Side)
    (b : BlockSetup) (hmem : b ∈ d.continuationSetups htf ltf side) :
    d.OneAxis htf ltf b ↔
      (∀ sweep ∈ d.sweepFor ltf b.side b.bms, b.bms ∈ d.bms ltf b.side ∨ sweep ∈ d.allSweeps htf) ∧
      (b.foundIn = ltf → d.gapOf ltf b.ob = none → d.gapOf htf b.ob = none) ∧
      (b.foundIn = htf → ∀ fvg ∈ d.gapOf ltf b.ob, fvg ∈ detectFvgs d.config htf) := by
  have hcon := (continuation_of_mem hmem).continues
  exact and_congr (sweep_on_axis_iff hcon) (gap_on_axis_iff hcon)

def builtSetup (d : SMCDetector) (htf ltf : CandleSequence) (test : BlockSetup → Bool) :
    Option BlockSetup :=
  (d.continuationSetups htf ltf .high).find? (fun b => test b &&
    match b.build d.config ltf with
    | .ok (some _) => true
    | _ => false)

theorem builtSetup_eq_some {test : BlockSetup → Bool} (h : builtSetup d htf ltf test = some b) :
    b ∈ d.continuationSetups htf ltf .high ∧ test b ∧ ∃ c, b.build d.config ltf = .ok (some c) := by
  have hfnd := find?_some h
  rw [Bool.and_eq_true] at hfnd
  refine ⟨mem_of_find?_eq_some h, hfnd.1, ?_⟩
  obtain ⟨-, hblt⟩ := hfnd
  split at hblt
  · next c hc => exact ⟨c, hc⟩
  · cases hblt

theorem evidence_on_one_axis_climb :
    ∃ htf ltf b, climb? = some htf ∧ quietDay? = some ltf ∧
      b ∈ ({} : SMCDetector).continuationSetups htf ltf .high ∧
      (∃ c, b.build .standard ltf = .ok (some c)) ∧ b.linkedFvg .standard ≠ none ∧
      ({} : SMCDetector).OneAxis htf ltf b := by
  have hsome : (climb?.bind (fun htf => quietDay?.bind (fun ltf => builtSetup {} htf ltf (fun b =>
      (b.linkedFvg .standard).isSome && (SMCDetector.sweepFor {} ltf b.side b.bms).isNone &&
        (SMCDetector.gapOf {} ltf b.ob).isNone &&
        decide (b.foundIn.timeframe ≠ ltf.timeframe))))).isSome = true := by
    decide +kernel
  obtain ⟨b, hbind⟩ := isSome_iff_exists.mp hsome
  obtain ⟨htf, hhtf, hbind⟩ := bind_eq_some_iff.mp hbind
  obtain ⟨ltf, hltf, hbuilt⟩ := bind_eq_some_iff.mp hbind
  obtain ⟨hmem, htest, hreturned⟩ := builtSetup_eq_some hbuilt
  simp only [Bool.and_eq_true, Option.isNone_iff_eq_none, decide_eq_true_eq] at htest
  obtain ⟨⟨⟨hlinked, hsweep⟩, hgap⟩, htimeframe⟩ := htest
  refine ⟨htf, ltf, b, hhtf, hltf, hmem, hreturned, isSome_iff_ne_none.mp hlinked,
    (evidence_on_one_axis {} htf ltf .high b hmem).mpr ⟨?_, ?_, ?_⟩⟩
  · simp [hsweep]
  · exact fun hfound => absurd (congrArg CandleSequence.timeframe hfound) htimeframe
  · simp [hgap]

def sweptDays? : Option CandleSequence :=
  CandleSequence.ofPrices? "US30" .d1 15584400000000
    [(4800, 4850, 4700, 4750), (4750, 4800, 4690, 4740)]

theorem climb_sweep_on_other_axis :
    ∃ htf ltf b, climb? = some htf ∧ sweptDays? = some ltf ∧
      b ∈ ({} : SMCDetector).continuationSetups htf ltf .high ∧
      (∃ c, b.build .standard ltf = .ok (some c)) ∧ ¬ ({} : SMCDetector).OneAxis htf ltf b := by
  have hso : (climb?.bind (fun htf => sweptDays?.bind (fun ltf => builtSetup {} htf ltf (fun b =>
      b.sweep.any (fun sweep => (({} : SMCDetector).allSweeps htf).all (fun x =>
        x.timestamp ≠ sweep.timestamp)) && (({} : SMCDetector).bms ltf b.side).isEmpty)))).isSome =
      true := by
    decide +kernel
  obtain ⟨b, hbind⟩ := isSome_iff_exists.mp hso
  obtain ⟨htf, hhtf, hbind⟩ := bind_eq_some_iff.mp hbind
  obtain ⟨ltf, hltf, hblt⟩ := bind_eq_some_iff.mp hbind
  obtain ⟨hm, hte, hbld⟩ := builtSetup_eq_some hblt
  simp only [Bool.and_eq_true, List.isEmpty_iff, Option.any_eq_true, List.all_eq_true] at hte
  obtain ⟨⟨sweep, hb, hmon⟩, hdays⟩ := hte
  refine ⟨htf, ltf, b, hhtf, hltf, hm, hbld, ?_⟩
  rintro ⟨hswp, -⟩
  obtain ⟨s, hs, hbms, hswe, -⟩ := hswp sweep hb
  simp only [mem_cons, not_mem_nil, or_false] at hs
  rcases hs with rfl | rfl
  · simpa using hmon sweep hswe
  · rw [hdays] at hbms
    cases hbms

section Flags

def SMCCandidate.Backed (c : SMCCandidate) : Prop :=
  c.bmsDetected = c.bmsTimestamp.isSome ∧ c.chochDetected = c.chochTimestamp.isSome ∧
    c.smsDetected = c.smsTimestamp.isSome ∧ c.liquiditySwept = c.sweepTimestamp.isSome ∧
    c.ltfConfirmation = c.ltfConfirmationTimestamp.isSome

theorem pattern_eq_smsBearish_iff {family : PatternFamily} {side : Side} :
    family.pattern side = .smsBmsRtoBearish ↔ family = .smsBmsRto ∧ side = .low := by
  cases family <;> cases side <;> decide

/-- The flags of a candidate agree with its timestamps, save for a bearish SMS candidate: there
the CHoCH flag is constant, and a CHoCH is passed on only where the lower sequence has a low break
and a latest low CHoCH. -/
theorem flags_backed_iff (d : SMCDetector) (htf ltf : CandleSequence) (cs : List SMCCandidate)
    (h : d.detectPatterns htf ltf = .ok cs) (c : SMCCandidate) (hc : c ∈ cs) :
    c.Backed ↔ (c.pattern = .smsBmsRtoBearish →
      d.bms ltf .low ≠ [] ∧ d.latestChoch ltf .low ≠ none) := by
  obtain ⟨built, hblt, rfl⟩ := detectPatterns_eq_ok h
  obtain ⟨⟨c, origin⟩, hp, rfl⟩ := mem_map.mp hc
  obtain ⟨setup, hm, hbld, -⟩ := mem_detectTraced hblt hp
  cases setup with
  | block b =>
    obtain ⟨-, hprs, rfl⟩ := construct_eq_some hbld
    have hformed := formed_of_mem_setups hm
    have hflag : ((b.family = .smsBmsRto && b.side = .low || b.reportedChoch.isSome) =
        b.reportedChoch.isSome) ↔ (b.family.pattern b.side = .smsBmsRtoBearish →
          d.bms ltf .low ≠ [] ∧ d.latestChoch ltf .low ≠ none) := by
      rw [pattern_eq_smsBearish_iff, Bool.or_eq_right_iff_imp, Bool.and_eq_true,
        decide_eq_true_iff, decide_eq_true_iff]
      refine imp_congr_right fun hsms => ?_
      rw [hformed.smsChoch hsms.1, hsms.2]
    have hcon : ∀ confirmed : Bool, confirmed =
        (if confirmed then some (lastCandle ltf).timestamp else none).isSome := by
      intro confirmed
      cases confirmed <;> rfl
    simp only [SMCCandidate.Backed, BlockSetup.candidate, isSome_map, isSome_some,
      hformed.backed, hflag, true_and]
    exact and_iff_left (hcon _)
  | turtle b =>
    obtain ⟨-, hprs, rfl⟩ := construct_eq_some hbld
    refine iff_of_true ⟨rfl, rfl, rfl, rfl, rfl⟩ ?_
    intro hpat
    obtain ⟨hfam, -⟩ := pattern_eq_smsBearish_iff.mp hpat
    cases hfam

theorem flags_backed_iff_climb :
    ∃ htf ltf cs c, climb? = some htf ∧ quietDay? = some ltf ∧
      ({} : SMCDetector).detectPatterns htf ltf = .ok cs ∧ c ∈ cs ∧
      (c.Backed ↔ (c.pattern = .smsBmsRtoBearish →
        SMCDetector.bms {} ltf .low ≠ [] ∧ SMCDetector.latestChoch {} ltf .low ≠ none)) := by
  obtain ⟨htf, ltf, cs, c, hhtf, hltf, -, -, hcs, hc⟩ := climb_candidate
  exact ⟨htf, ltf, cs, c, hhtf, hltf, hcs, hc, flags_backed_iff {} htf ltf cs hcs c hc⟩

end Flags

def failure? : Option CandleSequence :=
  CandleSequence.ofPrices? "US30" .mn1 32400000000
    [(5000, 5100, 4900, 5000), (5000, 5300, 4950, 5250), (5250, 6000, 5200, 5900),
      (5900, 5950, 5400, 5500), (5500, 5800, 5450, 5700), (5700, 7000, 5650, 6900),
      (6900, 6950, 6200, 6300), (6300, 6400, 6000, 6350), (6350, 6380, 5500, 5800),
      (5800, 6500, 5700, 6450), (6450, 6800, 6400, 6750), (6750, 6780, 4100, 4200),
      (4200, 4300, 3900, 4000)]

theorem failure_flags :
    failure?.bind (fun htf => quietDay?.map (fun ltf =>
      (({} : SMCDetector).detectPatterns htf ltf).toOption.map (fun cs => cs.map (fun c =>
        (c.pattern, c.chochDetected, c.chochTimestamp.isSome))))) =
      some (some [(.shBmsRtoBullish, false, false), (.shBmsRtoBearish, false, false),
        (.smsBmsRtoBearish, true, false), (.chochBmsRtoBullish, true, true)]) := by
  simp only [detectPatterns, detectTraced, setups,
    bothSides, continuationSetups, bmsSetups, reversalSetups, chochSetups,
    amdSetups, latestBms, latestChoch, latestSms,
    bms_eq, choch_eq, sms_eq]
  decide +kernel

end ETradie.Ta
