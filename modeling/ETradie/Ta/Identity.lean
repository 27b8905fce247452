import Mathlib.Data.Rat.Encodable
import ETradie.Kernel.Table
import ETradie.Ta.Evidence
import ETradie.Ta.Repainting

/-! # Candidate ids across re-analyses

An id is a readable label and eight digits of a digest of the timestamps of the events behind the
candidate. Between two analyses of a growing sequence only the latest CHoCH can change. -/

namespace ETradie.Ta

open Option BlockSetup SMCDetector List

def CandidatePattern.text : CandidatePattern → String
  | .turtleSoupLong => "TURTLE_SOUP_LONG"
  | .turtleSoupShort => "TURTLE_SOUP_SHORT"
  | .shBmsRtoBullish => "SH_BMS_RTO_BULLISH"
  | .shBmsRtoBearish => "SH_BMS_RTO_BEARISH"
  | .smsBmsRtoBullish => "SMS_BMS_RTO_BULLISH"
  | .smsBmsRtoBearish => "SMS_BMS_RTO_BEARISH"
  | .chochBmsRtoBullish => "CHOCH_BMS_RTO_BULLISH"
  | .chochBmsRtoBearish => "CHOCH_BMS_RTO_BEARISH"
  | .amdBullish => "AMD_BULLISH"
  | .amdBearish => "AMD_BEARISH"

def Direction.text : Direction → String
  | .bullish => "BULLISH"
  | .bearish => "BEARISH"
  | .neutral => "NEUTRAL"

/-- The texts an id is made of: each keeps its values apart, and a digest has 64 digits. -/
structure IdText where
  isoformat : Int → String
  number : ℚ → String
  hexdigest : String → String
  isoformat_injective : Function.Injective isoformat
  isoformat_ne_dash : ∀ t, isoformat t ≠ "-"
  number_injective : Function.Injective number
  hexdigest_length : ∀ s, (hexdigest s).toList.length = 64

def unary {α : Type} [Encodable α] (x : α) : String :=
  String.ofList (List.replicate (Encodable.encode x) '1')

theorem unary_injective {α : Type} [Encodable α] : Function.Injective (unary (α := α)) := by
  intro x y h
  have hlength := congrArg List.length (String.ofList_injective h)
  rw [List.length_replicate, List.length_replicate] at hlength
  exact Encodable.encode_injective hlength

theorem unary_ne_dash (t : Int) : unary t ≠ "-" := by
  intro h
  have hmem : '-' ∈ (unary t).toList := by
    rw [h]
    decide
  rw [unary, String.toList_ofList] at hmem
  exact absurd (List.eq_of_mem_replicate hmem) (by decide)

/-- A plain choice of texts, with a digest that forgets everything. -/
def IdText.plain : IdText where
  isoformat := unary
  number := unary
  hexdigest _ := String.ofList (List.replicate 64 '0')
  isoformat_injective := unary_injective
  isoformat_ne_dash := unary_ne_dash
  number_injective := unary_injective
  hexdigest_length _ := by simp

namespace SMCCandidate

variable (text : IdText) (c : SMCCandidate)

def sourceSignature : String :=
  "|".intercalate
    ([c.bmsTimestamp, c.sweepTimestamp, c.chochTimestamp, c.smsTimestamp,
      c.orderBlockTimestamp].map (fun value => (value.map text.isoformat).getD "-"))

def fingerprint : String := String.ofList ((text.hexdigest (c.sourceSignature text)).toList.take 8)

def label : String :=
  c.symbol ++ "_" ++ c.pattern.text ++ "_" ++ c.direction.text ++ "_" ++
    text.number (round4 c.entryPrice) ++ "_"

def candidateId : String := c.label text ++ c.fingerprint text

end SMCCandidate

/-- The candidate is built from a break of the sequence `b.foundIn` and that break's block. -/
structure SMCDetector.Returns (d : SMCDetector) (htf ltf : CandleSequence) (b : BlockSetup)
    (c : SMCCandidate) : Prop where
  found : b.foundIn = htf ∨ b.foundIn = ltf
  setup : ∃ latest, d.latestBms htf b.side = some latest ∧
    b ∈ d.bmsSetups htf ltf b.side latest b.foundIn
  built : b.build d.config ltf = .ok (some c)

structure SMCCandidate.SameSetup (c c' : SMCCandidate) : Prop where
  pattern : c.pattern = c'.pattern
  bms : c.bmsTimestamp = c'.bmsTimestamp
  block : c.orderBlockTimestamp = c'.orderBlockTimestamp
  sweep : c.sweepTimestamp = c'.sweepTimestamp

variable {d : SMCDetector} {htf ltf ltf' : CandleSequence} {rest : List Candle}
variable {b b' : BlockSetup} {c c' : SMCCandidate}

theorem Extends.mem (h : Extends ltf ltf' rest) {x : Candle} (hx : x ∈ ltf.candles) :
    x ∈ ltf'.candles := by
  rw [h.candles]
  exact mem_append_left _ hx

theorem pattern_side_inj {family : PatternFamily} {side side' : Side}
    (h : family.pattern side = family.pattern side') : side = side' := by
  cases family <;> cases side <;> cases side' <;> first | rfl | cases h

/-- What a continuation of a break and its own block takes over. -/
structure SMCDetector.FromBms (d : SMCDetector) (ltf : CandleSequence) (side : Side)
    (b : BlockSetup) : Prop where
  family : b.family = .shBmsRto
  sms : b.sms = none
  choch : b.reportedChoch = d.latestChoch ltf side
  candle : ∃ x, b.ob.From b.foundIn x

theorem fromBms_of_mem {side : Side} {latest : BreakInMarketStructure} {s : CandleSequence}
    (h : b ∈ d.bmsSetups htf ltf side latest s) : d.FromBms ltf side b := by
  obtain ⟨bms, -, ob, hob, h⟩ := mem_bmsSetups h
  obtain ⟨hcandle, -⟩ := detectOb_eq_some hob
  unfold continuationSetup at h
  split_ifs at h
  cases h
  exact ⟨rfl, rfl, rfl, hcandle⟩

theorem SMCDetector.Returns.fromBms (h : d.Returns htf ltf b c) : d.FromBms ltf b.side b := by
  obtain ⟨latest, -, hmem⟩ := h.setup
  exact fromBms_of_mem hmem

theorem SMCDetector.Returns.chochTimestamp (h : d.Returns htf ltf b c) :
    c.chochTimestamp = (d.latestChoch ltf b.side).map ChangeOfCharacter.timestamp := by
  rw [← h.fromBms.choch]
  obtain ⟨-, hprices, rfl⟩ := construct_eq_some h.built
  rfl

theorem SMCDetector.Returns.smsTimestamp_eq (h : d.Returns htf ltf b c)
    (h' : d.Returns htf ltf' b' c') : c.smsTimestamp = c'.smsTimestamp := by
  have hsms := h.fromBms.sms
  have hsms' := h'.fromBms.sms
  obtain ⟨-, hprices, rfl⟩ := construct_eq_some h.built
  obtain ⟨-, hprices', rfl⟩ := construct_eq_some h'.built
  simp [candidate, hsms, hsms']

section Texts

variable (text : IdText)

theorem isoformat_eq_iff {x y : Option Int} :
    (x.map text.isoformat).getD "-" = (y.map text.isoformat).getD "-" ↔ x = y := by
  constructor
  · intro h
    cases x with
    | none =>
      cases y with
      | none => rfl
      | some y => exact absurd h.symm (text.isoformat_ne_dash y)
    | some x =>
      cases y with
      | none => exact absurd h (text.isoformat_ne_dash x)
      | some y => exact congrArg some (text.isoformat_injective h)
  · rintro rfl
    rfl

theorem sourceSignature_eq_iff (hsame : c.SameSetup c') (hsms : c.smsTimestamp = c'.smsTimestamp) :
    c.sourceSignature text = c'.sourceSignature text ↔ c.chochTimestamp = c'.chochTimestamp := by
  rw [← isoformat_eq_iff text, SMCCandidate.sourceSignature, SMCCandidate.sourceSignature,
    hsame.bms, hsame.sweep, hsms, hsame.block]
  simp [← String.toList_inj]

theorem candidateId_eq_iff : c.candidateId text = c'.candidateId text ↔
    c.label text = c'.label text ∧ c.fingerprint text = c'.fingerprint text := by
  have hlength : ∀ c : SMCCandidate, (c.fingerprint text).toList.length = 8 := by
    intro c
    simp [SMCCandidate.fingerprint, text.hexdigest_length]
  constructor
  · intro h
    have hlists := congrArg String.toList h
    rw [SMCCandidate.candidateId, SMCCandidate.candidateId, String.toList_append,
      String.toList_append] at hlists
    obtain ⟨hlabel, hdigits⟩ := append_inj' hlists ((hlength c).trans (hlength c').symm)
    exact ⟨String.toList_injective hlabel, String.toList_injective hdigits⟩
  · rintro ⟨hlabel, hdigits⟩
    rw [SMCCandidate.candidateId, SMCCandidate.candidateId, hlabel, hdigits]

theorem label_eq_iff (hsymbol : c.symbol = c'.symbol) (hpattern : c.pattern = c'.pattern)
    (hdirection : c.direction = c'.direction) :
    c.label text = c'.label text ↔ round4 c.entryPrice = round4 c'.entryPrice := by
  rw [SMCCandidate.label, SMCCandidate.label, hsymbol, hpattern, hdirection,
    String.append_left_inj, String.append_right_inj, text.number_injective.eq_iff]

end Texts

/-- The middle, to four places, of the candle of the given time. -/
def CandleSequence.midpointAt (s : CandleSequence) (t : Int) : Option ℚ :=
  (s.candles.find? (·.timestamp = t)).map (fun x => round4 ((x.high + x.low) / 2))

theorem find?_timestamp {s : CandleSequence} {x : Candle} (hx : x ∈ s.candles) :
    s.candles.find? (·.timestamp = x.timestamp) = some x :=
  Kernel.find?_key_of_mem (pairwise_map.mpr (s.sorted.imp LT.lt.ne)) hx rfl

theorem midpointAt_block {x : Candle} (hx : b.ob.From b.foundIn x) :
    b.foundIn.midpointAt b.ob.timestamp = some (round4 b.entryPrice) := by
  rw [CandleSequence.midpointAt, hx.timestamp, find?_timestamp (mem_of_getElem? hx.candle),
    entryPrice, OrderBlock.midpoint, hx.upper, hx.lower]
  rfl

theorem midpointAt_extends (h : Extends ltf ltf' rest) {x : Candle} (hx : x ∈ ltf.candles) :
    ltf'.midpointAt x.timestamp = ltf.midpointAt x.timestamp := by
  unfold CandleSequence.midpointAt
  rw [find?_timestamp hx, find?_timestamp (h.mem hx)]

theorem midpointAt_of_sameSequence (hext : Extends ltf ltf' rest) (hc : d.Returns htf ltf b c)
    (hfound : b.foundIn = htf ∧ b'.foundIn = htf ∨ b.foundIn = ltf ∧ b'.foundIn = ltf') :
    b.foundIn.midpointAt b.ob.timestamp = b'.foundIn.midpointAt b.ob.timestamp := by
  rcases hfound with ⟨hhtf, hhtf'⟩ | ⟨hltf, hltf'⟩
  · rw [hhtf, hhtf']
  · obtain ⟨x, hx⟩ := hc.fromBms.candle
    have hmem := mem_of_getElem? hx.candle
    rw [hltf] at hmem
    rw [hltf, hltf', hx.timestamp, midpointAt_extends hext hmem]

theorem candidateId_iff_of_returns (text : IdText) (hext : Extends ltf ltf' rest)
    (hc : d.Returns htf ltf b c) (hc' : d.Returns htf ltf' b' c') (hsame : c.SameSetup c')
    (hdigest : c.fingerprint text = c'.fingerprint text →
      c.sourceSignature text = c'.sourceSignature text) :
    c.candidateId text = c'.candidateId text ↔
      (d.latestChoch ltf b.side).map (·.timestamp) = (d.latestChoch ltf' b.side).map (·.timestamp) ∧
      b.foundIn.midpointAt b.ob.timestamp = b'.foundIn.midpointAt b.ob.timestamp := by
  have hb := hc.fromBms
  have hb' := hc'.fromBms
  obtain ⟨x, hx⟩ := hb.candle
  obtain ⟨y, hy⟩ := hb'.candle
  have hchoch := hc.chochTimestamp
  have hchoch' := hc'.chochTimestamp
  have hsignature := sourceSignature_eq_iff text hsame (hc.smsTimestamp_eq hc')
  have hfingerprint : c.fingerprint text = c'.fingerprint text ↔
      c.sourceSignature text = c'.sourceSignature text :=
    ⟨hdigest, fun h => by rw [SMCCandidate.fingerprint, SMCCandidate.fingerprint, h]⟩
  obtain ⟨-, hprices, rfl⟩ := construct_eq_some hc.built
  obtain ⟨-, hprices', rfl⟩ := construct_eq_some hc'.built
  have hside : b.side = b'.side := by
    have hpattern : b.family.pattern b.side = b'.family.pattern b'.side := hsame.pattern
    rw [hb.family, hb'.family] at hpattern
    exact pattern_side_inj hpattern
  have hblock : b.ob.timestamp = b'.ob.timestamp := Option.some.inj hsame.block
  rw [candidateId_eq_iff, label_eq_iff text hext.symbol.symm hsame.pattern
    (congrArg Side.breakDirection hside), hfingerprint, hsignature, hchoch, hchoch', ← hside,
    and_comm, midpointAt_block hx, hblock, midpointAt_block hy, Option.some.injEq]
  rfl

/-- An id is stable exactly when the latest CHoCH of the lower sequence is and the block's candle
has the same middle in both runs, as it has when both find the block in one sequence. -/
theorem candidate_id_stable (d : SMCDetector) (text : IdText) (htf ltf ltf' : CandleSequence)
    (rest : List Candle) (hext : Extends ltf ltf' rest) (b b' : BlockSetup) (c c' : SMCCandidate)
    (hc : d.Returns htf ltf b c) (hc' : d.Returns htf ltf' b' c') (hsame : c.SameSetup c')
    (hdigest : c.fingerprint text = c'.fingerprint text →
      c.sourceSignature text = c'.sourceSignature text) :
    (c.candidateId text = c'.candidateId text ↔
      (d.latestChoch ltf b.side).map (·.timestamp) = (d.latestChoch ltf' b.side).map (·.timestamp) ∧
      b.foundIn.midpointAt b.ob.timestamp = b'.foundIn.midpointAt b.ob.timestamp) ∧
    (b.foundIn = htf ∧ b'.foundIn = htf ∨ b.foundIn = ltf ∧ b'.foundIn = ltf' →
      b.foundIn.midpointAt b.ob.timestamp = b'.foundIn.midpointAt b.ob.timestamp) :=
  ⟨candidateId_iff_of_returns text hext hc hc' hsame hdigest, midpointAt_of_sameSequence hext hc⟩

section Example

def builtOnHtf (htf ltf : CandleSequence) : Option BlockSetup :=
  (SMCDetector.latestBms {} htf .high).bind (fun latest =>
    (SMCDetector.bms {} htf .high).findSome? (fun bms => (detectOb .standard .high htf bms).bind
      (fun ob => (SMCDetector.continuationSetup {} htf ltf .high latest
        (SMCDetector.sweepFor {} ltf .high bms) (SMCDetector.latestChoch {} ltf .high) bms ob
          htf).filter (fun b =>
        match b.build .standard ltf with
        | .ok (some _) => true
        | _ => false))))

theorem builtOnHtf_eq_some (h : builtOnHtf htf ltf = some b) :
    b.foundIn = htf ∧ ∃ c, Returns {} htf ltf b c := by
  obtain ⟨latest, hlatest, h⟩ := bind_eq_some_iff.mp h
  obtain ⟨bms, hbms, h⟩ := exists_of_findSome?_eq_some h
  obtain ⟨ob, hob, h⟩ := bind_eq_some_iff.mp h
  obtain ⟨hsetup, hbuilt⟩ := filter_eq_some_iff.mp h
  have hmem : b ∈ bmsSetups {} htf ltf .high latest htf :=
    mem_filterMap.mpr ⟨bms, hbms, bind_eq_some_iff.mpr ⟨ob, hob, hsetup⟩⟩
  unfold continuationSetup at hsetup
  split_ifs at hsetup
  cases hsetup
  split at hbuilt
  · next c hc => exact ⟨rfl, c, .inl rfl, ⟨latest, hlatest, hmem⟩, hc⟩
  · cases hbuilt

def risingDays? : Option CandleSequence :=
  CandleSequence.ofPrices? "US30" .d1 15584400000000
    [(4800, 4850, 4700, 4750), (4750, 4900, 4710, 4880), (4880, 4950, 4720, 4940),
      (4940, 5100, 4730, 5000), (5000, 5050, 4740, 4990), (4990, 5040, 4750, 4980),
      (4980, 5030, 4760, 4970), (4970, 5300, 4770, 5200), (5200, 5400, 4780, 5300),
      (5300, 5500, 4790, 5400)]

structure SameRun (changed : Bool) (b b' : BlockSetup) : Prop where
  side : b.side = b'.side
  bms : b.bms.timestamp = b'.bms.timestamp
  block : b.ob.timestamp = b'.ob.timestamp
  sweep : b.sweep.isNone = true ∧ b'.sweep.isNone = true
  choch : b.reportedChoch.isNone = true ∧ b'.reportedChoch.isSome = changed

instance (changed : Bool) : Decidable (SameRun changed b b') :=
  decidable_of_iff (b.side = b'.side ∧ b.bms.timestamp = b'.bms.timestamp ∧
    b.ob.timestamp = b'.ob.timestamp ∧ (b.sweep.isNone = true ∧ b'.sweep.isNone = true) ∧
      b.reportedChoch.isNone = true ∧ b'.reportedChoch.isSome = changed)
    ⟨fun h => ⟨h.1, h.2.1, h.2.2.1, h.2.2.2.1, h.2.2.2.2⟩,
      fun h => ⟨h.side, h.bms, h.block, h.sweep, h.choch⟩⟩

theorem SameRun.sameSetup {changed : Bool} (h : SameRun changed b b') (hc : d.Returns htf ltf b c)
    (hc' : d.Returns htf ltf' b' c') :
    c.SameSetup c' ∧ d.latestChoch ltf b.side = none ∧
      (d.latestChoch ltf' b.side).isSome = changed := by
  have hb := hc.fromBms
  have hb' := hc'.fromBms
  obtain ⟨-, hprs, rfl⟩ := construct_eq_some hc.built
  obtain ⟨-, hprs', rfl⟩ := construct_eq_some hc'.built
  have hswp := isNone_iff_eq_none.mp h.sweep.1
  have hswp' := isNone_iff_eq_none.mp h.sweep.2
  refine ⟨⟨?_, congrArg some h.bms, congrArg some h.block, ?_⟩, ?_, ?_⟩
  · simp [candidate, hb.family, hb'.family, h.side]
  · simp [candidate, hswp, hswp']
  · rw [← hb.choch]
    exact isNone_iff_eq_none.mp h.choch.1
  · rw [h.side, ← hb'.choch]
    exact h.choch.2

theorem exists_runs (n : Nat) (hn : 0 < n) (changed : Bool)
    (h : (climb?.bind (fun htf => risingDays?.bind (fun days =>
      (builtOnHtf htf ((days.take n hn).take 1 Nat.one_pos)).bind (fun b =>
        (builtOnHtf htf (days.take n hn)).filter (fun b' => SameRun changed b b'))))).isSome) :
    ∃ htf ltf ltf' rest b b' c c', climb? = some htf ∧ Extends ltf ltf' rest ∧
      (b.foundIn = htf ∧ b'.foundIn = htf) ∧ Returns {} htf ltf b c ∧
      Returns {} htf ltf' b' c' ∧ SameRun changed b b' := by
  obtain ⟨b', h⟩ := isSome_iff_exists.mp h
  obtain ⟨htf, hhtf, h⟩ := bind_eq_some_iff.mp h
  obtain ⟨days, -, h⟩ := bind_eq_some_iff.mp h
  obtain ⟨b, hb, h⟩ := bind_eq_some_iff.mp h
  obtain ⟨hb', hrun⟩ := filter_eq_some_iff.mp h
  obtain ⟨hfnd, c, hc⟩ := builtOnHtf_eq_some hb
  obtain ⟨hfnd', c', hc'⟩ := builtOnHtf_eq_some hb'
  exact ⟨htf, _, _, _, b, b', c, c', hhtf, extends_take (days.take n hn) 1 Nat.one_pos,
    ⟨hfnd, hfnd'⟩, hc, hc', of_decide_eq_true hrun⟩

theorem candidate_id_stable_risingDays :
    ∃ htf ltf ltf' rest b b' c c', climb? = some htf ∧ Extends ltf ltf' rest ∧
      SMCDetector.Returns {} htf ltf b c ∧ SMCDetector.Returns {} htf ltf' b' c' ∧
      c.SameSetup c' ∧ c.candidateId .plain = c'.candidateId .plain := by
  obtain ⟨htf, ltf, ltf', rest, b, b', c, c', hhtf, hext, hfound, hc, hc', hrun⟩ :=
    exists_runs 2 two_pos false (by decide +kernel)
  obtain ⟨hsame, hchoch, hchoch'⟩ := hrun.sameSetup hc hc'
  rw [Option.isSome_eq_false_iff, isNone_iff_eq_none] at hchoch'
  have hsignature := (sourceSignature_eq_iff .plain hsame (hc.smsTimestamp_eq hc')).mpr (by
    rw [hc.chochTimestamp, hc'.chochTimestamp, ← hrun.side, hchoch, hchoch'])
  obtain ⟨hiff, hmiddle⟩ := candidate_id_stable {} .plain htf ltf ltf' rest hext b b' c c' hc hc'
    hsame (fun _ => hsignature)
  refine ⟨htf, ltf, ltf', rest, b, b', c, c', hhtf, hext, hc, hc', hsame, hiff.mpr ⟨?_, ?_⟩⟩
  · rw [hchoch, hchoch']
  · exact hmiddle (.inl hfound)

theorem risingDays_identity :
    ∃ htf ltf ltf' rest b b' c c', climb? = some htf ∧ Extends ltf ltf' rest ∧
      SMCDetector.Returns {} htf ltf b c ∧ SMCDetector.Returns {} htf ltf' b' c' ∧
      c.SameSetup c' ∧ c.chochTimestamp = none ∧ c'.chochTimestamp.isSome = true ∧
      ∀ text, (c.fingerprint text = c'.fingerprint text →
        c.sourceSignature text = c'.sourceSignature text) →
        c.candidateId text ≠ c'.candidateId text := by
  obtain ⟨htf, ltf, ltf', rest, b, b', c, c', hhtf, hext, -, hc, hc', hrun⟩ :=
    exists_runs 10 (by decide) true (by decide +kernel)
  obtain ⟨hsame, hchoch, hchoch'⟩ := hrun.sameSetup hc hc'
  refine ⟨htf, ltf, ltf', rest, b, b', c, c', hhtf, hext, hc, hc', hsame, ?_, ?_, ?_⟩
  · rw [hc.chochTimestamp, hchoch]
    rfl
  · rw [hc'.chochTimestamp, isSome_map, ← hrun.side, hchoch']
  · intro text hdigest hid
    have hstable := ((candidateId_iff_of_returns text hext hc hc' hsame hdigest).mp hid).1
    rw [hchoch, map_none, eq_comm, map_eq_none_iff] at hstable
    rw [hstable] at hchoch'
    cases hchoch'

end Example

end ETradie.Ta
