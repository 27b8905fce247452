import ETradie.Ta.Snapshots

namespace ETradie.Ta

open List TAOrchestrator

variable (snapshots : List TechnicalSnapshot)

section LivePoi

variable {b : BlockSetup} {config : SMCConfig} {tf : Timeframe} {d : SMCDetector}
variable {built : List (SMCCandidate × Option (OrderBlock × CandleSequence))}

def deadObTimestamps : List (Timeframe × Int) :=
  snapshots.flatMap (fun snap =>
    (snap.orderBlocks.filter OrderBlock.mitigated).map (fun ob => (snap.timeframe, ob.timestamp)))

def deadFvgTimestamps : List (Timeframe × Int) :=
  snapshots.flatMap (fun snap =>
    (snap.fvgs.filter FairValueGap.filled).map (fun fvg => (snap.timeframe, fvg.timestamp)))

def smcIsLive (c : SMCCandidate) : Bool :=
  if c.orderBlockTimestamp.any
      (fun t => (deadObTimestamps snapshots).contains (c.ltfTimeframe, t)) then false
  else if c.fvgTimestamp.any
      (fun t => (deadFvgTimestamps snapshots).contains (c.ltfTimeframe, t)) then false
  else true

def TAOrchestrator.Marked (o : TAOrchestrator) (sequences : List CandleSequence) (tf : Timeframe)
    (t : Int) : Prop :=
  ∃ s ∈ sequences, s.timeframe = tf ∧ ∃ bms ∈ o.allBms s, ∃ ob, o.blockOf s bms = some ob ∧
    validateZoneFreshness ob s = false ∧ ob.timestamp = t

variable {o : TAOrchestrator} {s htf ltf : CandleSequence}
  {snap snapHtf snapLtf : TechnicalSnapshot}

theorem blockOf_mitigated {bms : BreakInMarketStructure} {ob : OrderBlock}
    (h : o.blockOf s bms = some ob) : ob.mitigated = false := by
  unfold blockOf at h
  split at h
  · obtain ⟨⟨c, hfm⟩, -⟩ := detectOb_eq_some h
    exact hfm.unmarked
  · obtain ⟨⟨c, hfm⟩, -⟩ := detectOb_eq_some h
    exact hfm.unmarked

theorem exists_mitigated_iff {t : Int} :
    (∃ ob ∈ o.orderBlocks s, ob.mitigated ∧ ob.timestamp = t) ↔
      ∃ bms ∈ o.allBms s, ∃ ob, o.blockOf s bms = some ob ∧
        validateZoneFreshness ob s = false ∧ ob.timestamp = t := by
  constructor
  · rintro ⟨ob, hob, hmit, ht⟩
    obtain ⟨found, hfnd, rfl⟩ := mem_map.mp hob
    obtain ⟨bms, hbms, hblo⟩ := mem_filterMap.mp hfnd
    refine ⟨bms, hbms, found, hblo, ?_⟩
    split at hmit
    · rw [blockOf_mitigated hblo] at hmit
      cases hmit
    · next hfr =>
      rw [if_neg hfr] at ht
      exact ⟨eq_false_of_ne_true hfr, ht⟩
  · rintro ⟨bms, hbms, ob, hblo, hfr, ht⟩
    refine ⟨_, mem_map_of_mem (mem_filterMap.mpr ⟨bms, hbms, hblo⟩), ?_⟩
    rw [if_neg (by rw [hfr]; decide)]
    exact ⟨rfl, ht⟩

theorem mem_detectFvgs_filled {fvg : FairValueGap} (h : fvg ∈ detectFvgs config s) :
    fvg.filled = false := by
  obtain ⟨i, -, h⟩ := mem_filterMap.mp h
  revert h
  fun_cases fvgAt config s i
  all_goals rintro ⟨⟩
  rfl

theorem snapshot_reads (h : o.buildEnrichedSnapshot s = some snap) :
    snap.timeframe = s.timeframe ∧ snap.orderBlocks = o.orderBlocks s ∧
      snap.fvgs = detectFvgs o.smc.config s := by
  obtain ⟨-, -, -, -, -, -, rfl⟩ := buildEnrichedSnapshot_eq_some h
  exact ⟨rfl, rfl, rfl⟩

theorem mem_dead_of_snapshot (h : o.buildEnrichedSnapshot s = some snap) {t : Int} :
    (tf, t) ∈ (snap.orderBlocks.filter OrderBlock.mitigated).map
        (fun ob => (snap.timeframe, ob.timestamp)) ↔
      s.timeframe = tf ∧ ∃ bms ∈ o.allBms s, ∃ ob, o.blockOf s bms = some ob ∧
        validateZoneFreshness ob s = false ∧ ob.timestamp = t := by
  obtain ⟨htf, hblo, -⟩ := snapshot_reads h
  rw [htf, hblo, ← exists_mitigated_iff]
  constructor
  · intro hm
    obtain ⟨ob, hob, hpa⟩ := mem_map.mp hm
    obtain ⟨hm, hmit⟩ := mem_filter.mp hob
    exact ⟨congrArg Prod.fst hpa, ob, hm, hmit, congrArg Prod.snd hpa⟩
  · rintro ⟨rfl, ob, hm, hmit, rfl⟩
    exact mem_map.mpr ⟨ob, mem_filter.mpr ⟨hm, hmit⟩, rfl⟩

theorem mem_deadObTimestamps (hhtf : o.buildEnrichedSnapshot htf = some snapHtf)
    (hltf : o.buildEnrichedSnapshot ltf = some snapLtf) {t : Int} :
    (tf, t) ∈ deadObTimestamps [snapHtf, snapLtf] ↔ o.Marked [htf, ltf] tf t := by
  unfold deadObTimestamps Marked
  rw [flatMap_cons, flatMap_cons, flatMap_nil, append_nil, mem_append,
    mem_dead_of_snapshot hhtf, mem_dead_of_snapshot hltf]
  simp

theorem deadFvgTimestamps_eq_nil (hhtf : o.buildEnrichedSnapshot htf = some snapHtf)
    (hltf : o.buildEnrichedSnapshot ltf = some snapLtf) :
    deadFvgTimestamps [snapHtf, snapLtf] = [] := by
  have hno : ∀ s, (detectFvgs o.smc.config s).filter FairValueGap.filled = [] := by
    intro s
    rw [filter_eq_nil_iff]
    intro _ hfvg
    rw [mem_detectFvgs_filled hfvg]
    decide
  unfold deadFvgTimestamps
  rw [flatMap_cons, flatMap_cons, (snapshot_reads hhtf).2.2, (snapshot_reads hltf).2.2, hno, hno]
  rfl

theorem smcIsLive_iff (hhtf : o.buildEnrichedSnapshot htf = some snapHtf)
    (hltf : o.buildEnrichedSnapshot ltf = some snapLtf) {c : SMCCandidate} (hc : b.Yields ltf c) :
    smcIsLive [snapHtf, snapLtf] c ↔ ¬ o.Marked [htf, ltf] ltf.timeframe b.ob.timestamp := by
  rw [← mem_deadObTimestamps hhtf hltf]
  unfold smcIsLive
  rw [hc.timestamp, hc.ltfTimeframe, deadFvgTimestamps_eq_nil hhtf hltf]
  simp

theorem fresh_of_accepted (h : b.accepted config ltf) :
    validateZoneFreshness b.ob ltf := by
  unfold BlockSetup.accepted at h
  rw [validateAllObRules_eq, Bool.and_eq_true] at h
  exact h.2

theorem enabled_of_mem (hblt : d.detectTraced htf ltf = .ok built)
    {p : SMCCandidate × Option (OrderBlock × CandleSequence)} (hp : p ∈ built) :
    d.config.enabled := by
  unfold SMCDetector.detectTraced at hblt
  split at hblt
  · next hen => exact hen
  · cases hblt
    cases hp

theorem mem_of_accepted (hblt : d.detectTraced htf ltf = .ok built)
    (hen : d.config.enabled) (hb : Setup.block b ∈ d.setups htf ltf)
    (hacp : b.accepted d.config ltf) :
    ∃ c, (c, some (b.ob, b.foundIn)) ∈ built ∧ b.Yields ltf c := by
  have hrm := detectTraced_ok_iff.mp ⟨built, hblt⟩ hen _ hb hacp
  unfold SMCDetector.detectTraced at hblt
  rw [if_pos hen] at hblt
  rcases b.build_cases d.config ltf with
    ⟨hrej, -⟩ | ⟨-, hnor, -⟩ | ⟨-, -, c, hbld⟩
  · rw [hrej] at hacp
    cases hacp
  · exact absurd hrm hnor
  · refine ⟨c, (Kernel.mem_collect hblt _).mpr ⟨Setup.block b, hb, ?_⟩,
      (BlockSetup.build_eq_some hbld).2⟩
    exact traced_eq_some.mpr ⟨hbld, rfl⟩

theorem live_candidates_unmitigated_iff (o : TAOrchestrator) (htf ltf : CandleSequence)
    (snapHtf snapLtf : TechnicalSnapshot)
    (built : List (SMCCandidate × Option (OrderBlock × CandleSequence)))
    (hhtf : o.buildEnrichedSnapshot htf = some snapHtf)
    (hltf : o.buildEnrichedSnapshot ltf = some snapLtf)
    (hbuilt : o.smc.detectTraced htf ltf = .ok built) :
    (∀ c ob s, (c, some (ob, s)) ∈ built → smcIsLive [snapHtf, snapLtf] c = true →
        ∀ k ∈ s.candles.drop (ob.candleIndex + 1), ob.takenOutBy k = false) ↔
      (o.smc.config.enabled = true → ∀ b, Setup.block b ∈ o.smc.setups htf ltf →
        b.foundIn = htf → b.accepted o.smc.config ltf = true →
          validateZoneFreshness b.ob htf = true ∨
            o.Marked [htf, ltf] ltf.timeframe b.ob.timestamp) := by
  constructor
  · intro hlv hen b hb hfnd hacp
    by_cases hmkd : o.Marked [htf, ltf] ltf.timeframe b.ob.timestamp
    · exact .inr hmkd
    · left
      obtain ⟨c, hc, hyld⟩ := mem_of_accepted hbuilt hen hb hacp
      rw [hfnd] at hc
      exact validateZoneFreshness_iff.mpr
        (hlv c b.ob htf hc ((smcIsLive_iff hhtf hltf hyld).mpr hmkd))
  · intro hblo c ob s hc hlv
    obtain ⟨setup, hstp, hbld, horg⟩ := mem_detectTraced hbuilt hc
    cases setup with
    | turtle b => cases horg
    | block b =>
      cases horg
      obtain ⟨hacp, hyld⟩ := BlockSetup.build_eq_some hbld
      have hmkd := (smcIsLive_iff hhtf hltf hyld).mp hlv
      apply validateZoneFreshness_iff.mp
      -- a block of the lower sequence was asked about there
      rcases (formed_of_mem_setups hstp).placed.found with hfnd | hfnd
      · rw [hfnd]
        exact (hblo (enabled_of_mem hbuilt hc) b hstp hfnd hacp).resolve_right hmkd
      · rw [hfnd]
        exact fresh_of_accepted hacp

def liveBlocks (htf ltf : CandleSequence) : Option (List (ℚ × ℚ × Bool)) :=
  match ({} : TAOrchestrator).buildEnrichedSnapshot htf,
      ({} : TAOrchestrator).buildEnrichedSnapshot ltf,
      ({} : SMCDetector).detectTraced htf ltf with
  | some snapHtf, some snapLtf, .ok built =>
    some ((built.filter (fun p => smcIsLive [snapHtf, snapLtf] p.1)).filterMap (fun p =>
      p.2.map (fun origin => (origin.1.lowerBound, origin.1.upperBound,
        validateZoneFreshness origin.1 origin.2))))
  | _, _, _ => none

theorem live_candidates_unmitigated_iff_climb :
    ∃ htf ltf, ∃ snapHtf snapLtf : TechnicalSnapshot,
      ∃ built : List (SMCCandidate × Option (OrderBlock × CandleSequence)),
      climb? = some htf ∧ quietDay? = some ltf ∧
      ((∀ c ob s, (c, some (ob, s)) ∈ built → smcIsLive [snapHtf, snapLtf] c = true →
          ∀ k ∈ s.candles.drop (ob.candleIndex + 1), ob.takenOutBy k = false) ↔
        (({} : TAOrchestrator).smc.config.enabled = true → ∀ b,
          Setup.block b ∈ ({} : TAOrchestrator).smc.setups htf ltf → b.foundIn = htf →
            b.accepted ({} : TAOrchestrator).smc.config ltf = true →
              validateZoneFreshness b.ob htf = true ∨
                ({} : TAOrchestrator).Marked [htf, ltf] ltf.timeframe b.ob.timestamp)) := by
  have hso : (climb?.bind (fun htf => quietDay?.bind (liveBlocks htf))).isSome = true := by
    decide +kernel
  obtain ⟨blocks, hb⟩ := Option.isSome_iff_exists.mp hso
  obtain ⟨htf, hhtf, hb⟩ := Option.bind_eq_some_iff.mp hb
  obtain ⟨ltf, hltf, hblo⟩ := Option.bind_eq_some_iff.mp hb
  unfold liveBlocks at hblo
  split at hblo
  · next snapHtf snapLtf built hsnp hsna hblt =>
    exact ⟨htf, ltf, snapHtf, snapLtf, built, hhtf, hltf,
      live_candidates_unmitigated_iff {} htf ltf snapHtf snapLtf built hsnp hsna hblt⟩
  · cases hblo

def climbAndFall? : Option CandleSequence :=
  CandleSequence.ofPrices? "US30" .mn1 32400000000
    [(1000, 1100, 900, 1000), (1000, 2100, 1000, 2000), (2000, 3000, 2000, 2900),
      (2900, 2950, 2400, 2500), (2500, 4600, 2390, 4500), (4500, 4700, 4400, 4600),
      (4600, 4900, 4500, 4800), (4800, 5000, 2000, 2100)]

def lowDay? : Option CandleSequence :=
  CandleSequence.ofPrices? "US30" .d1 20736000000000 [(2100, 2200, 2000, 2150)]

theorem mitigated_candidate_survives :
    climbAndFall?.bind (fun htf => lowDay?.bind (liveBlocks htf)) =
      some [(2400, 2950, false), (2400, 2950, false)] := by
  decide +kernel

end LivePoi

end ETradie.Ta
