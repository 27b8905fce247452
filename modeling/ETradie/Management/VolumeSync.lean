import ETradie.Kernel.Runs
import ETradie.Management.TakeProfit

namespace ETradie.Management

open Kernel List

inductive ClosePhase where
  | idle
  | requested (level : TpLevel) (closeVol : ℚ)
  | executed (level : TpLevel) (closeVol : ℚ) (counted : Bool)
deriving DecidableEq

namespace ClosePhase

def landed : ClosePhase → Bool
  | .executed _ _ _ => true
  | _ => false

def outstanding : ClosePhase → ℚ
  | .executed level closeVol _ => if level = .tp3 then 0 else closeVol
  | _ => 0

def owed : ClosePhase → ℚ
  | .executed level closeVol false => if level = .tp3 then 0 else closeVol
  | _ => 0

def adopted (shows : Bool) : ClosePhase → ClosePhase
  | .executed level closeVol counted => .executed level closeVol (counted || shows)
  | phase => phase

end ClosePhase

structure VolumeSnapshot where
  volume : ℚ
  closes : Nat
deriving DecidableEq

structure VolumeRun where
  trade : Trade
  volume : ℚ
  phase : ClosePhase := .idle
  queue : List VolumeSnapshot := []
  (closes seen : Nat := 0)
  managed : Bool := true

inductive VolumeAction where
  | request (price : ℚ)
  | refuse
  | execute
  | update (pnl : ℚ)
  | take
  | drop
  | deliver (pos : PositionInfo) (reads : SnapshotReads) (answer : HistoryAnswer)

def brokerLeft (level : TpLevel) (closeVol volume : ℚ) : Option ℚ :=
  if level = .tp3 then
    if dustLot < volume then some 0 else none
  else if dustLot < closeVol ∧ dustLot < volume - closeVol then some (volume - closeVol)
  else none

variable (s : VolumeRun)

namespace VolumeRun

def receive (snap : VolumeSnapshot) (rest : List VolumeSnapshot)
    (pos : PositionInfo) (reads : SnapshotReads) (answer : HistoryAnswer) : VolumeRun :=
  if snap.volume ≤ 0 then
    { s with
      trade := (externalClosure answer s.trade).record s.trade, queue := rest, seen := snap.closes
      managed := false }
  else
    let shown := { pos with volume := snap.volume }
    { s with
      trade := adoptBracket reads shown (adoptVolume shown s.trade)
      phase := s.phase.adopted (snap.closes = s.closes && volumeDrifted shown s.trade)
      queue := rest, seen := snap.closes }

def step (a : VolumeAction) : Option VolumeRun :=
  if s.managed = false then none
  else
    match a with
    | .request price =>
      match s.phase, dueLevel price s.trade with
      | .idle, some level => some { s with phase := .requested level (level.closeVol s.trade) }
      | _, _ => none
    | .refuse =>
      match s.phase with
      | .requested _ _ => some { s with phase := .idle }
      | _ => none
    | .execute =>
      match s.phase with
      | .requested level closeVol =>
        match brokerLeft level closeVol s.volume with
        | some left =>
          some
            { s with
              volume := left, phase := .executed level closeVol false, closes := s.closes + 1 }
        | none => none
      | _ => none
    | .update pnl =>
      match s.phase with
      | .executed level closeVol _ =>
        let updated := (Leg.mk level closeVol pnl).record s.trade
        some { s with trade := updated, phase := .idle, managed := updated.status ≠ .closed }
      | _ => none
    | .take => some { s with queue := s.queue ++ [⟨s.volume, s.closes⟩] }
    | .drop => some { s with queue := s.queue.tail }
    | .deliver pos reads answer =>
      match s.queue with
      | [] => none
      | snap :: rest => some (s.receive snap rest pos reads answer)

structure InStep (s : VolumeRun) : Prop where
  notBelow : s.volume ≤ s.trade.remainingLotSize
  agrees : s.managed = true → s.phase.landed = false → s.seen = s.closes →
    s.trade.remainingLotSize = s.volume

def CountsOnce : VolumeAction → Prop
  | .update _ =>
    ∀ level closeVol counted, s.phase = .executed level closeVol counted → level ≠ .tp3 →
      counted = false
  | _ => True

end VolumeRun

structure SyncedTrade where
  trade : Trade
  tradable : dustLot < trade.remainingLotSize

def VolumeRun.start (o : SyncedTrade) : VolumeRun where
  trade := o.trade
  volume := o.trade.remainingLotSize

section Volumes

variable {base x v : ℚ}

def Spread (base x : ℚ) : Prop := x = base ∨ base + lotEpsilon < x

theorem lotEpsilon_pos : 0 < lotEpsilon := by norm_num [lotEpsilon]

theorem lotEpsilon_lt_dustLot : lotEpsilon < dustLot := by norm_num [lotEpsilon, dustLot]

theorem Spread.le (h : Spread base x) : base ≤ x := by
  have := lotEpsilon_pos
  rcases h with rfl | h
  · rfl
  · linarith

theorem Spread.sub (h : Spread (base + v) x) : Spread base (x - v) := by
  rcases h with rfl | h
  · exact .inl (add_sub_cancel_right base v)
  · exact .inr (by linarith)

theorem Spread.of_add (h : Spread (base + v) x) (hv : dustLot < v) : Spread base x := by
  have := lotEpsilon_lt_dustLot
  have := lotEpsilon_pos
  rcases h with rfl | h
  · exact .inr (by linarith)
  · exact .inr (by linarith)

theorem Spread.of_tradable (h : Spread base x) (hbase : dustLot < base) : Spread 0 x := by
  have := lotEpsilon_lt_dustLot
  have := h.le
  exact .inr (by linarith)

theorem adoptBracket_remaining (reads : SnapshotReads) (pos : PositionInfo) (t : Trade) :
    (adoptBracket reads pos t).remainingLotSize = t.remainingLotSize := by
  unfold adoptBracket
  split <;> rfl

theorem adoptVolume_spread {pos : PositionInfo} {t : Trade} (ho : Spread base t.remainingLotSize)
    (hsn : Spread base pos.volume) : Spread base (adoptVolume pos t).remainingLotSize := by
  unfold adoptVolume
  split
  next => exact hsn
  next => exact ho

theorem adoptVolume_current (pos : PositionInfo) {t : Trade} {owed : ℚ} (hpos : 0 < pos.volume)
    (how : owed = 0 ∨ dustLot < owed) (hspr : Spread (pos.volume + owed) t.remainingLotSize) :
    (adoptVolume pos t).remainingLotSize = pos.volume ∧
      (volumeDrifted pos t = false → owed = 0) := by
  have hpst := lotEpsilon_pos
  have heps := lotEpsilon_lt_dustLot
  unfold adoptVolume
  cases hdri : volumeDrifted pos t with
  | true => exact ⟨rfl, fun h => by cases h⟩
  | false =>
    have hsml : |t.remainingLotSize - pos.volume| ≤ lotEpsilon := by
      simpa [volumeDrifted, hpos] using hdri
    have hup := (abs_le.mp hsml).2
    rcases hspr with heq | hfar
    · rcases how with hz | hbig
      · rw [hz, add_zero] at heq
        exact ⟨heq, fun _ => hz⟩
      · linarith
    · rcases how with hz | hbig
      · linarith
      · linarith

end Volumes

structure SyncInv (s : VolumeRun) : Prop where
  spread : Spread (s.volume + s.phase.owed) s.trade.remainingLotSize
  volume : s.volume = 0 ∨ dustLot < s.volume
  seen_le : s.seen ≤ s.closes
  vanished : s.volume = 0 → s.seen < s.closes
  full : ∀ closeVol counted, s.phase = .executed .tp3 closeVol counted → s.volume = 0
  waiting : ∀ level closeVol counted, s.phase = .executed level closeVol counted →
    level ≠ .tp3 → dustLot < closeVol ∧ dustLot < s.volume ∧
      (counted = false → s.seen < s.closes) ∧
      (counted = true → s.seen = s.closes ∧ s.trade.remainingLotSize = s.volume)
  queued : ∀ snap ∈ s.queue, s.seen ≤ snap.closes ∧ snap.closes ≤ s.closes ∧
    (snap.closes = s.closes → snap.volume = s.volume) ∧
    (snap.closes < s.closes → Spread (s.volume + s.phase.outstanding) snap.volume)
  ordered : s.queue.Pairwise (fun x y => x.closes ≤ y.closes)

variable {t : VolumeRun} {s}

theorem SyncInv.volume_nonneg (h : SyncInv s) : 0 ≤ s.volume := by
  have := dustLot_pos
  rcases h.volume with hz | hbig
  · exact hz.ge
  · linarith

theorem SyncInv.owed_cases (h : SyncInv s) : s.phase.owed = 0 ∨ dustLot < s.phase.owed := by
  cases hph : s.phase with
  | idle | requested => exact .inl rfl
  | executed level closeVol counted =>
    cases counted with
    | true => exact .inl rfl
    | false =>
      by_cases hfu : level = .tp3
      · exact .inl (by simp [ClosePhase.owed, hfu])
      · have hbig := (h.waiting level closeVol false hph hfu).1
        exact .inr (by simpa [ClosePhase.owed, hfu] using hbig)

theorem SyncInv.notBelow (h : SyncInv s) : s.volume ≤ s.trade.remainingLotSize := by
  have hle := h.spread.le
  have hdust := dustLot_pos
  rcases h.owed_cases with hz | hbig
  · rw [hz, add_zero] at hle
    exact hle
  · linarith

theorem owed_of_not_landed {phase : ClosePhase} (h : phase.landed = false) :
    phase.owed = 0 ∧ phase.outstanding = 0 := by
  cases phase with
  | executed _ _ _ => cases h
  | _ => exact ⟨rfl, rfl⟩

theorem phase_change (hinv : SyncInv s) (hsnd : s.InStep) (phase : ClosePhase)
    (hbef : s.phase.landed = false) (haft : phase.landed = false) :
    SyncInv { s with phase := phase } ∧ VolumeRun.InStep { s with phase := phase } := by
  obtain ⟨how, hout⟩ := owed_of_not_landed hbef
  obtain ⟨how', hout'⟩ := owed_of_not_landed haft
  have hnot : ∀ level closeVol counted, phase ≠ .executed level closeVol counted := by
    rintro _ _ _ rfl
    cases haft
  refine ⟨⟨?_, hinv.volume, hinv.seen_le, hinv.vanished, fun _ _ h => absurd h (hnot _ _ _),
    fun _ _ _ h => absurd h (hnot _ _ _), ?_, hinv.ordered⟩, hsnd.notBelow,
    fun hmgd _ => hsnd.agrees hmgd hbef⟩
  · simpa only [how, how'] using hinv.spread
  · simpa only [hout, hout'] using hinv.queued

variable {level : TpLevel} {closeVol : ℚ}

theorem execute_inStep (hinv : SyncInv s) (hsnd : s.InStep) {left : ℚ}
    (hph : s.phase = .requested level closeVol)
    (hlf : brokerLeft level closeVol s.volume = some left) :
    let after := { s with
      volume := left
      phase := .executed level closeVol false
      closes := s.closes + 1 }
    SyncInv after ∧ after.InStep := by
  have hdust := dustLot_pos
  have hsn : s.seen < s.closes + 1 := Nat.lt_succ_of_le hinv.seen_le
  have hspr : Spread s.volume s.trade.remainingLotSize := by
    simpa [hph, ClosePhase.owed] using hinv.spread
  -- every snapshot in the queue now predates the last close
  have hqu : ∀ snap ∈ s.queue, s.seen ≤ snap.closes ∧ snap.closes < s.closes + 1 ∧
      Spread s.volume snap.volume := by
    intro snap hsp
    obtain ⟨hfm, hto, hcur, hstl⟩ := hinv.queued snap hsp
    refine ⟨hfm, Nat.lt_succ_of_le hto, ?_⟩
    rcases hto.lt_or_eq with hlt | heq
    · simpa [hph, ClosePhase.outstanding] using hstl hlt
    · exact .inl (hcur heq)
  unfold brokerLeft at hlf
  by_cases hfu : level = .tp3
  · rw [if_pos hfu] at hlf
    split at hlf
    next hbig =>
      cases hlf
      subst hfu
      refine ⟨⟨?_, .inl rfl, hsn.le, fun _ => hsn, fun _ _ _ => rfl, ?_, ?_, hinv.ordered⟩, ?_, ?_⟩
      · simpa [ClosePhase.owed] using hspr.of_tradable hbig
      · intro level' closeVol' counted' hph' herl
        cases hph'
        exact absurd rfl herl
      · intro snap hsp
        obtain ⟨hfm, hlt, hvol⟩ := hqu snap hsp
        refine ⟨hfm, hlt.le, fun heq => absurd heq hlt.ne, fun _ => ?_⟩
        simpa [ClosePhase.outstanding] using hvol.of_tradable hbig
      · exact hinv.volume_nonneg.trans hsnd.notBelow
      · intro _ hlan
        cases hlan
    next => cases hlf
  · rw [if_neg hfu] at hlf
    split at hlf
    next hvlm =>
      cases hlf
      obtain ⟨hcl, hrs⟩ := hvlm
      refine ⟨⟨?_, .inr hrs, hsn.le, fun _ => hsn, ?_, ?_, ?_, hinv.ordered⟩, ?_, ?_⟩
      · simpa [ClosePhase.owed, hfu] using hspr
      · intro closeVol' counted' hph'
        cases hph'
        exact absurd rfl hfu
      · intro level' closeVol' counted' hph' _
        cases hph'
        exact ⟨hcl, hrs, fun _ => hsn, fun h => by cases h⟩
      · intro snap hsp
        obtain ⟨hfm, hlt, hvol⟩ := hqu snap hsp
        refine ⟨hfm, hlt.le, fun heq => absurd heq hlt.ne, fun _ => ?_⟩
        simpa [ClosePhase.outstanding, hfu] using hvol
      · have := hsnd.notBelow
        simp only
        linarith
      · intro _ hlan
        cases hlan
    next => cases hlf

variable {counted : Bool}

theorem update_full (hinv : SyncInv s) (pnl : ℚ)
    (hph : s.phase = .executed .tp3 closeVol counted) :
    let updated := (Leg.mk .tp3 closeVol pnl).record s.trade
    let after := { s with
      trade := updated
      phase := .idle
      managed := updated.status ≠ .closed }
    SyncInv after ∧ after.InStep := by
  have heps := lotEpsilon_lt_dustLot
  have hz := hinv.full closeVol counted hph
  have hvan := hinv.vanished hz
  have hspr : Spread 0 ((Leg.mk .tp3 closeVol pnl).record s.trade).remainingLotSize := by
    rw [Leg.record_remaining]
    split
    next => exact .inl rfl
    next hlf =>
      refine .inr ?_
      linarith
  refine ⟨⟨?_, hinv.volume, hinv.seen_le, hinv.vanished, fun _ _ h => (by cases h),
    fun _ _ _ h => (by cases h), ?_, hinv.ordered⟩, ?_, ?_⟩
  · simpa [ClosePhase.owed, hz] using hspr
  · simpa [hph, ClosePhase.outstanding] using hinv.queued
  · simp only [hz]
    exact hspr.le
  · intro _ _ hsn
    exact absurd hsn hvan.ne

theorem update_partial (hinv : SyncInv s) (pnl : ℚ) (hph : s.phase = .executed level closeVol counted) (herl : level ≠ .tp3) :
    let updated := (Leg.mk level closeVol pnl).record s.trade
    let after := { s with
      trade := updated
      phase := .idle
      managed := updated.status ≠ .closed }
    (after.InStep ↔ counted = false) ∧ (after.InStep → SyncInv after) := by
  have hdust := dustLot_pos
  obtain ⟨hcl, hvol, huns, hctd⟩ := hinv.waiting level closeVol counted hph herl
  have hrem := Leg.record_remaining (Leg.mk level closeVol pnl) s.trade
  -- an uncounted close is still in the remaining volume, and leaves the broker's volume or more
  have haft : counted = false →
      Spread s.volume (s.trade.remainingLotSize - closeVol) ∧
        ((Leg.mk level closeVol pnl).record s.trade).remainingLotSize =
          s.trade.remainingLotSize - closeVol := by
    intro hfal
    have hlf : Spread s.volume (s.trade.remainingLotSize - closeVol) := by
      apply Spread.sub
      simpa [hph, hfal, ClosePhase.owed, herl] using hinv.spread
    refine ⟨hlf, ?_⟩
    rw [hrem, if_neg]
    exact not_le.mpr (hvol.trans_le hlf.le)
  have hiff : VolumeRun.InStep { s with
      trade := (Leg.mk level closeVol pnl).record s.trade
      phase := .idle
      managed := ((Leg.mk level closeVol pnl).record s.trade).status ≠ .closed } ↔
      counted = false := by
    constructor
    · intro hsnd
      have hbel := hsnd.notBelow
      cases counted with
      | true =>
        -- the remaining volume is the broker's already, and goes below it
        have hsm := (hctd rfl).2
        rw [hrem] at hbel
        split at hbel
        next => linarith
        next => linarith
      | false => rfl
    · intro hfal
      obtain ⟨hlf, hn⟩ := haft hfal
      refine ⟨?_, ?_⟩
      · simp only [hn]
        exact hlf.le
      · intro _ _ hsn
        exact absurd hsn (huns hfal).ne
  refine ⟨hiff, ?_⟩
  intro hsnd
  obtain ⟨hlf, hn⟩ := haft (hiff.mp hsnd)
  refine ⟨?_, hinv.volume, hinv.seen_le, hinv.vanished, fun _ _ h => (by cases h),
    fun _ _ _ h => (by cases h), ?_, hinv.ordered⟩
  · simp only [hn, ClosePhase.owed, add_zero]
    exact hlf
  · intro snap hsp
    obtain ⟨hfm, hto, hcur, hstl⟩ := hinv.queued snap hsp
    refine ⟨hfm, hto, hcur, fun hlt => ?_⟩
    have h := hstl hlt
    rw [hph] at h
    simp only [ClosePhase.outstanding, herl, if_false] at h
    simpa [ClosePhase.outstanding] using h.of_add hcl

variable (phase : ClosePhase)

section Snapshots

variable {snap : VolumeSnapshot} {rest : List VolumeSnapshot}

theorem take_inStep (hinv : SyncInv s) (hsnd : s.InStep) :
    let after := { s with queue := s.queue ++ [⟨s.volume, s.closes⟩] }
    SyncInv after ∧ after.InStep := by
  refine ⟨⟨hinv.spread, hinv.volume, hinv.seen_le, hinv.vanished, hinv.full, ?_, ?_, ?_⟩,
    hsnd.notBelow, hsnd.agrees⟩
  · exact hinv.waiting
  · intro snap hsp
    rcases mem_append.mp hsp with ho | hn
    · exact hinv.queued snap ho
    · rw [mem_singleton.mp hn]
      exact ⟨hinv.seen_le, le_refl _, fun _ => rfl, fun hlt => absurd hlt (lt_irrefl _)⟩
  · rw [pairwise_append]
    refine ⟨hinv.ordered, pairwise_singleton _ _, ?_⟩
    intro snap hsp last hl
    rw [mem_singleton.mp hl]
    exact (hinv.queued snap hsp).2.1

theorem drop_inStep (hinv : SyncInv s) (hsnd : s.InStep) :
    let after := { s with queue := s.queue.tail }
    SyncInv after ∧ after.InStep := by
  refine ⟨⟨hinv.spread, hinv.volume, hinv.seen_le, hinv.vanished, hinv.full, hinv.waiting, ?_,
    hinv.ordered.sublist (tail_sublist _)⟩, hsnd.notBelow, hsnd.agrees⟩
  intro snap hsp
  exact hinv.queued snap (mem_of_mem_tail hsp)

@[simp] theorem adopted_outstanding (shows : Bool) :
    (phase.adopted shows).outstanding = phase.outstanding := by
  cases phase <;> rfl

@[simp] theorem adopted_false : phase.adopted false = phase := by
  cases phase with
  | executed _ _ _ => simp [ClosePhase.adopted]
  | _ => rfl

theorem owed_adopted_true : (phase.adopted true).owed = 0 := by
  cases phase with
  | executed _ _ _ => simp [ClosePhase.adopted, ClosePhase.owed]
  | _ => rfl

theorem adopted_eq_executed {phase : ClosePhase} {shows : Bool}
    (h : phase.adopted shows = .executed level closeVol counted) :
    ∃ before, phase = .executed level closeVol before ∧ counted = (before || shows) := by
  cases phase with
  | executed =>
    cases h
    exact ⟨_, rfl, rfl⟩
  | _ => cases h

theorem queued_rest (hinv : SyncInv s) (hqu : s.queue = snap :: rest) :
    (∀ other ∈ rest, snap.closes ≤ other.closes ∧ other.closes ≤ s.closes ∧
      (other.closes = s.closes → other.volume = s.volume) ∧
      (other.closes < s.closes → Spread (s.volume + s.phase.outstanding) other.volume)) ∧
      rest.Pairwise (fun x y => x.closes ≤ y.closes) := by
  have hord := hinv.ordered
  rw [hqu, pairwise_cons] at hord
  refine ⟨?_, hord.2⟩
  intro other hoth
  have hm : other ∈ s.queue := hqu ▸ mem_cons_of_mem snap hoth
  obtain ⟨-, hto, hcur, hstl⟩ := hinv.queued other hm
  exact ⟨hord.1 other hoth, hto, hcur, hstl⟩

theorem receive_current (hinv : SyncInv s) (hqu : s.queue = snap :: rest)
    (hlst : 0 < snap.volume) (hcur : snap.closes = s.closes) (pos : PositionInfo)
    (reads : SnapshotReads) (answer : HistoryAnswer) :
    SyncInv (s.receive snap rest pos reads answer) ∧
      (s.receive snap rest pos reads answer).InStep := by
  have hm : snap ∈ s.queue := hqu ▸ mem_cons_self
  have hvol : snap.volume = s.volume := (hinv.queued snap hm).2.2.1 hcur
  obtain ⟨hrs, hord⟩ := queued_rest hinv hqu
  have hspr : Spread ({ pos with volume := snap.volume }.volume + s.phase.owed)
      s.trade.remainingLotSize := by
    simp only [hvol]
    exact hinv.spread
  obtain ⟨hado, hnod⟩ := adoptVolume_current { pos with volume := snap.volume }
    hlst hinv.owed_cases hspr
  have hrem : (adoptBracket reads { pos with volume := snap.volume }
      (adoptVolume { pos with volume := snap.volume } s.trade)).remainingLotSize = s.volume := by
    rw [adoptBracket_remaining, hado, hvol]
  have hne : s.volume ≠ 0 := by
    rw [← hvol]
    exact hlst.ne.symm
  unfold VolumeRun.receive
  rw [if_neg (not_le.mpr hlst)]
  simp only [hcur, decide_true, Bool.true_and]
  refine ⟨⟨?_, hinv.volume, le_refl _, fun h => absurd h hne, ?_, ?_, ?_, hord⟩, ?_, ?_⟩
  · simp only [hrem]
    cases hdri : volumeDrifted { pos with volume := snap.volume } s.trade with
    | true =>
      rw [owed_adopted_true, add_zero]
      exact .inl rfl
    | false =>
      rw [adopted_false, hnod hdri, add_zero]
      exact .inl rfl
  · intro closeVol counted hph
    obtain ⟨before, hbef, -⟩ := adopted_eq_executed hph
    exact hinv.full closeVol before hbef
  · intro level closeVol counted hph herl
    obtain ⟨before, hbef, rfl⟩ := adopted_eq_executed hph
    obtain ⟨hcl, hbig, -, -⟩ := hinv.waiting level closeVol before hbef herl
    refine ⟨hcl, hbig, ?_, fun _ => ⟨rfl, hrem⟩⟩
    intro hunc
    rw [Bool.or_eq_false_iff] at hunc
    -- a close that is still owed shows as drift
    have how := hnod hunc.2
    rw [hbef, hunc.1] at how
    simp only [ClosePhase.owed, herl, if_false] at how
    have := dustLot_pos
    linarith
  · rw [← hcur]
    simp only [adopted_outstanding]
    exact hcur ▸ hrs
  · simp only [hrem]
    rfl
  · intro _ _ _
    exact hrem

theorem receive_stale (hinv : SyncInv s) (hqu : s.queue = snap :: rest)
    (hlst : 0 < snap.volume) (hstl : snap.closes < s.closes) (pos : PositionInfo)
    (reads : SnapshotReads) (answer : HistoryAnswer) :
    SyncInv (s.receive snap rest pos reads answer) ∧
      (s.receive snap rest pos reads answer).InStep := by
  have hm : snap ∈ s.queue := hqu ▸ mem_cons_self
  obtain ⟨hfm, -, -, hspr⟩ := hinv.queued snap hm
  obtain ⟨hrs, hord⟩ := queued_rest hinv hqu
  -- a counted close has been seen, and so it is in every later snapshot
  have how : s.phase.outstanding = s.phase.owed := by
    cases hph : s.phase with
    | idle | requested => rfl
    | executed level closeVol counted =>
      cases counted with
      | false => rfl
      | true =>
        by_cases hfu : level = .tp3
        · simp [ClosePhase.outstanding, ClosePhase.owed, hfu]
        · have hsn := ((hinv.waiting level closeVol true hph hfu).2.2.2 rfl).1
          omega
  have hsp : Spread (s.volume + s.phase.owed) snap.volume := by
    rw [← how]
    exact hspr hstl
  have haft : Spread (s.volume + s.phase.owed) (adoptBracket reads
      { pos with volume := snap.volume }
      (adoptVolume { pos with volume := snap.volume } s.trade)).remainingLotSize := by
    rw [adoptBracket_remaining]
    exact adoptVolume_spread hinv.spread hsp
  unfold VolumeRun.receive
  rw [if_neg (not_le.mpr hlst)]
  simp only [hstl.ne, decide_false, Bool.false_and, adopted_false]
  have hn : SyncInv { s with
      trade := adoptBracket reads { pos with volume := snap.volume }
        (adoptVolume { pos with volume := snap.volume } s.trade)
      queue := rest
      seen := snap.closes } := by
    refine ⟨haft, hinv.volume, hstl.le, fun _ => hstl, hinv.full, ?_, hrs, hord⟩
    intro level closeVol counted hph herl
    obtain ⟨hcl, hbig, -, hctd⟩ := hinv.waiting level closeVol counted hph herl
    refine ⟨hcl, hbig, fun _ => hstl, ?_⟩
    intro htrue
    have hsn := (hctd htrue).1
    omega
  exact ⟨hn, hn.notBelow, fun _ _ hsn => absurd hsn hstl.ne⟩

theorem deliver_inStep (hinv : SyncInv s) (hsnd : s.InStep) (hqu : s.queue = snap :: rest)
    (pos : PositionInfo) (reads : SnapshotReads) (answer : HistoryAnswer) :
    ((s.receive snap rest pos reads answer).managed →
        SyncInv (s.receive snap rest pos reads answer)) ∧
      (s.receive snap rest pos reads answer).InStep := by
  by_cases hlst : 0 < snap.volume
  · have hm : snap ∈ s.queue := hqu ▸ mem_cons_self
    rcases (hinv.queued snap hm).2.1.lt_or_eq with hstl | hcur
    · obtain ⟨hn, hin⟩ := receive_stale hinv hqu hlst hstl pos reads answer
      exact ⟨fun _ => hn, hin⟩
    · obtain ⟨hn, hin⟩ := receive_current hinv hqu hlst hcur pos reads answer
      exact ⟨fun _ => hn, hin⟩
  · unfold VolumeRun.receive
    rw [if_pos (not_lt.mp hlst)]
    exact ⟨fun h => (by cases h), hsnd.notBelow, fun h => (by cases h)⟩

end Snapshots

section Runs

variable {a : VolumeAction}

theorem volume_step (hinv : s.managed → SyncInv s) (hsnd : s.InStep)
    (hst : s.step a = some t) :
    (t.InStep ↔ s.CountsOnce a) ∧ (t.InStep → t.managed → SyncInv t) := by
  -- whatever keeps the trade in step asks for nothing
  have hkp : ∀ {t}, s.CountsOnce a → SyncInv t ∧ t.InStep →
      (t.InStep ↔ s.CountsOnce a) ∧ (t.InStep → t.managed → SyncInv t) :=
    fun hcd ⟨hn, hin⟩ => ⟨iff_of_true hin hcd, fun _ _ => hn⟩
  revert hst
  fun_cases VolumeRun.step s a
  all_goals rintro ⟨⟩
  all_goals have hinv := hinv (by simpa using ‹¬ s.managed = false›)
  · next hph => exact hkp trivial (phase_change hinv hsnd _ (by rw [hph]; rfl) rfl)
  · next hph => exact hkp trivial (phase_change hinv hsnd .idle (by rw [hph]; rfl) rfl)
  · next hph _ hlf => exact hkp trivial (execute_inStep hinv hsnd hph hlf)
  · next pnl level closeVol counted hph _ =>
    by_cases hfu : level = .tp3
    · subst hfu
      exact hkp (by simp [VolumeRun.CountsOnce, hph]) (update_full hinv pnl hph)
    · obtain ⟨hiff, hn⟩ := update_partial hinv pnl hph hfu
      refine ⟨hiff.trans ?_, fun hin _ => hn hin⟩
      simp [VolumeRun.CountsOnce, hph, hfu]
  · exact hkp trivial (take_inStep hinv hsnd)
  · exact hkp trivial (drop_inStep hinv hsnd)
  · next pos reads answer _ _ hqu =>
    obtain ⟨hn, hin⟩ := deliver_inStep hinv hsnd hqu pos reads answer
    exact ⟨iff_of_true hin trivial, fun _ => hn⟩

theorem start_syncInv (o : SyncedTrade) : SyncInv (VolumeRun.start o) where
  spread := .inl (add_zero _).symm
  volume := .inr o.tradable
  seen_le := le_refl _
  vanished := by
    intro hz
    have hbig := o.tradable
    have hdust := dustLot_pos
    simp only [VolumeRun.start] at hz
    linarith
  full := fun _ _ h => by cases h
  waiting := fun _ _ _ h => by cases h
  queued := fun _ h => by cases h
  ordered := List.Pairwise.nil

end Runs

def slicedTrade : SyncedTrade where
  trade := { eurusdTrade 1.12 with tp1Pct := 40 }
  tradable := by decide +kernel

end ETradie.Management
