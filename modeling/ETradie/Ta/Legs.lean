import ETradie.Ta.Evidence
import ETradie.Ta.Snapshots

namespace ETradie.Ta

open Option

variable {r : FibonacciRetracement}

def createFibonacciRetracement (swingHighs : List SwingHigh) (swingLows : List SwingLow) :
    Option FibonacciRetracement :=
  match latestBy Swing.timestamp swingHighs, latestBy Swing.timestamp swingLows with
  | some high, some low =>
    if high.price ≤ low.price then none
    else (createRetracement high low (high.timestamp < low.timestamp)).toOption
  | _, _ => none

inductive BuiltLeg (o : TAOrchestrator) (htf ltf : CandleSequence) : FibonacciRetracement → Prop
  | candidate {b : BlockSetup} {r : FibonacciRetracement} (henabled : o.smc.config.enabled = true)
      (hb : Setup.block b ∈ o.smc.setups htf ltf) (h : b.retracement = some r) : BuiltLeg o htf ltf r
  | supplyDemand {r : FibonacciRetracement}
      (h : createFibonacciRetracement (o.swings htf .high) (o.swings htf .low) = some r) :
      BuiltLeg o htf ltf r
  | snapshot {s : CandleSequence} {snap : TechnicalSnapshot} {r : FibonacciRetracement}
      (hs : s ∈ [htf, ltf]) (h : o.buildEnrichedSnapshot s = some snap)
      (hr : r ∈ snap.fibonacciRetracements) : BuiltLeg o htf ltf r

theorem not_forward_of_latest {high : SwingHigh} {low : SwingLow}
    (h : createRetracement high low (high.timestamp < low.timestamp) = .ok r) : ¬ r.Forward := by
  unfold createRetracement at h
  split_ifs at h
  cases h
  unfold FibonacciRetracement.Forward
  split
  · next hlat => exact (of_decide_eq_true hlat).not_gt
  · next hear => exact of_decide_eq_false hear

theorem not_forward_of_supplyDemand {swingHighs : List SwingHigh} {swingLows : List SwingLow}
    (h : createFibonacciRetracement swingHighs swingLows = some r) : ¬ r.Forward := by
  unfold createFibonacciRetracement at h
  split at h
  · split_ifs at h
    unfold Except.toOption at h
    split at h
    · next hleg =>
      cases h
      exact not_forward_of_latest hleg
    · cases h
  · cases h

theorem not_forward_of_snapshot {o : TAOrchestrator} {s : CandleSequence} {snap : TechnicalSnapshot}
    (h : o.buildEnrichedSnapshot s = some snap) (hr : r ∈ snap.fibonacciRetracements) :
    ¬ r.Forward := by
  obtain ⟨supplyZones, demandZones, fibs, -, -, hfibs, rfl⟩ :=
    TAOrchestrator.buildEnrichedSnapshot_eq_some h
  unfold TAOrchestrator.retracements latestRetracements at hfibs
  split at hfibs
  · obtain ⟨fib, hleg, rfl⟩ := Kernel.map_eq_ok.mp hfibs
    rw [List.mem_singleton.mp hr]
    exact not_forward_of_latest hleg
  · cases hfibs
    cases hr

theorem legs_forward_iff (o : TAOrchestrator) (htf ltf : CandleSequence) :
    (∀ r, BuiltLeg o htf ltf r → r.Forward) ↔
      (o.smc.config.enabled = true → ∀ b, Setup.block b ∈ o.smc.setups htf ltf →
        b.retracement.isSome = true → b.StartsFirst ltf) ∧
      createFibonacciRetracement (o.swings htf .high) (o.swings htf .low) = none ∧
      ∀ s ∈ [htf, ltf], ∀ snap, o.buildEnrichedSnapshot s = some snap →
        snap.fibonacciRetracements = [] := by
  constructor
  · intro hfor
    refine ⟨?_, ?_, ?_⟩
    · intro hen b hb hso
      obtain ⟨r, hr⟩ := isSome_iff_exists.mp hso
      exact ((formed_of_mem_setups hb).leg r hr).mp (hfor r (.candidate hen hb hr))
    · refine eq_none_iff_forall_not_mem.mpr fun r hr => ?_
      exact not_forward_of_supplyDemand hr (hfor r (.supplyDemand hr))
    · intro s hs snap hsp
      refine List.eq_nil_iff_forall_not_mem.mpr fun r hr => ?_
      exact not_forward_of_snapshot hsp hr (hfor r (.snapshot hs hsp hr))
  · rintro ⟨hcan, hzon, hsna⟩ r hleg
    cases hleg with
    | candidate hen hb hr =>
      exact ((formed_of_mem_setups hb).leg r hr).mpr (hcan hen _ hb (isSome_iff_exists.mpr ⟨r, hr⟩))
    | supplyDemand hr =>
      rw [hzon] at hr
      cases hr
    | snapshot hs hsp hr =>
      rw [hsna _ hs _ hsp] at hr
      cases hr

def laterDays? : Option CandleSequence :=
  CandleSequence.ofPrices? "US30" .d1 15584400000000
    [(4490, 4495, 4400, 4450), (4450, 4460, 4390, 4440)]

theorem climb_leg_backward :
    ∃ htf ltf b r, climb? = some htf ∧ laterDays? = some ltf ∧
      b ∈ ({} : SMCDetector).continuationSetups htf ltf .high ∧
      (∃ c, b.build .standard ltf = .ok (some c)) ∧ b.retracement = some r ∧ ¬ r.Forward := by
  have hso : (climb?.bind (fun htf => laterDays?.bind (fun ltf => builtSetup {} htf ltf (fun b =>
      b.retracement.any (fun r => r.isBullish &&
        r.swingHighTimestamp ≤ r.swingLowTimestamp))))).isSome = true := by
    decide +kernel
  obtain ⟨b, hb⟩ := isSome_iff_exists.mp hso
  obtain ⟨htf, hhtf, hb⟩ := bind_eq_some_iff.mp hb
  obtain ⟨ltf, hltf, hblt⟩ := bind_eq_some_iff.mp hb
  obtain ⟨hm, hte, hbld⟩ := builtSetup_eq_some hblt
  simp only [any_eq_true, Bool.and_eq_true, decide_eq_true_eq] at hte
  obtain ⟨r, hr, hbul, hla⟩ := hte
  refine ⟨htf, ltf, b, r, hhtf, hltf, hm, hbld, hr, ?_⟩
  unfold FibonacciRetracement.Forward
  rw [hbul]
  exact hla.not_gt

end ETradie.Ta
