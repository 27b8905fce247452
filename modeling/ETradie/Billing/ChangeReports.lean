import ETradie.Billing.Delivery

/-!
# Reports of tier and status changes

The upsert compares the event with the row of its snapshot but replaces the row under the lock.
-/

namespace ETradie.Billing

open Kernel

def SubscriptionEvent.report (a : SubscriptionEvent) : Upserted where
  applied := true
  previousTier := a.previousTier.getD ""
  previousStatus := a.previousStatus
  previousPeriodEnd := none

def Tx.applied (tx : Tx) : Option (Subscription × SubscriptionEvent) :=
  match tx.stage with
  | .written ⟨some row, some audit⟩ => some (row, audit)
  | _ => none

def tierOf (row : Option Subscription) : Tier := (row.map Subscription.tier).getD ""

namespace Schedule

def ReportsChange (text : CaseMap) (usage : Bool) (s : Schedule) : Act → Prop
  | .commit i =>
    ∀ tx ∈ s.txs.get i, ∀ w ∈ tx.applied,
      let replaced := s.db.subscriptions.get tx.event.userId
      let outcome := tx.event.outcome w.2.report
      (tierOf replaced ≠ w.1.tier → outcome.tierChanged = true) ∧
        (replaced.map Subscription.status ≠ some w.1.status → outcome.statusChanged = true) ∧
        (tierOf replaced ≠ w.1.tier ∨ replaced.map Subscription.status ≠ some w.1.status →
          (tx.event.effects text usage w.2.report).revokeSessions = some tx.event.userId)
  | _ => True

instance (text : CaseMap) (usage : Bool) (s : Schedule) (a : Act) :
    Decidable (ReportsChange text usage s a) := by
  cases a <;> unfold ReportsChange <;> infer_instance

/-- The upsert that transaction `i` is about to make has read the event's tier (status) in its
snapshot only if the row under the lock has it too. -/
def Unmasked (s : Schedule) (i : Nat) : Prop :=
  ∀ ev prev, s.txs.get i = some ⟨i, ev, .waiting prev⟩ → ev.current s.db.subscriptions = true →
    let replaced := s.db.subscriptions.get ev.userId
    (tierOf prev = ev.tier → tierOf replaced = ev.tier) ∧
      (prev.map Subscription.status = some ev.status →
        replaced.map Subscription.status = some ev.status)

end Schedule

def Act.tx : Act → Nat
  | .mark i _ | .snapshot i | .write i | .commit i | .rollback i => i

/-- Every write of the run that is committed in it is unmasked. -/
def CommittedUnmasked (events : List NormalizedEvent) (start : Schedule) (acts : List Act) :
    Prop :=
  ∀ before i mid after s t, acts = before ++ .write i :: mid ++ .commit i :: after →
    (∀ a ∈ mid, a.tx ≠ i) → run (Schedule.step events) start before = some s →
    run (Schedule.step events) s (.write i :: mid ++ [.commit i]) = some t → s.Unmasked i

namespace Schedule

variable {events : List NormalizedEvent} {start : Db} {s t : Schedule} {tx : Tx} {i : Nat}

theorem get_step {a : Act} (hst : step events s a = some t) (hother : a.tx ≠ i) :
    t.txs.get i = s.txs.get i := by
  revert hst
  fun_cases step events s a
  all_goals intro hst; cases hst
  · exact Keyed.get_put_ne _ hother
  · rfl
  · exact Keyed.get_put_ne _ hother
  · exact Keyed.get_put_ne _ hother
  · exact Keyed.get_delete_ne _ hother.symm
  · exact Keyed.get_delete_ne _ hother.symm

/-- While a transaction holds the lock, no other one commits. -/
theorem Inv.db_step (h : Inv events start s) (htx : s.txs.get i = some tx) (hwrote : tx.wrote)
    {a : Act} (hst : step events s a = some t) (hother : a.tx ≠ i) : t.db = s.db := by
  revert hst
  fun_cases step events s a
  all_goals intro hst; cases hst
  case case9.refl hget =>
    have hsame := h.writer _ (Keyed.mem_of_get hget) tx (Keyed.mem_of_get htx) rfl hwrote
    have hid := Keyed.key_of_get hget
    rw [hsame] at hid
    exact absurd (hid.symm.trans (Keyed.key_of_get htx)) hother
  all_goals rfl

theorem Inv.kept_run {u : String} (huser : ∀ e ∈ events, e.userId = u) {mid : List Act}
    (h : Inv events start s) (htx : s.txs.get i = some tx) (hwrote : tx.wrote)
    (hother : ∀ a ∈ mid, a.tx ≠ i) (hrun : run (step events) s mid = some t) :
    t.txs.get i = some tx ∧ t.db = s.db := by
  induction mid generalizing s with
  | nil =>
    cases hrun
    exact ⟨htx, rfl⟩
  | cons a mid ih =>
    obtain ⟨q, hq, hrest⟩ := (run_cons_eq_some (step events)).mp hrun
    obtain ⟨ha, hmid⟩ := List.forall_mem_cons.mp hother
    obtain ⟨hget, hdb⟩ := ih (inv_step huser h hq) ((get_step hq ha).trans htx) hmid hrest
    exact ⟨hget, hdb.trans (h.db_step htx hwrote hq ha)⟩

theorem write_spec (hst : step events s (.write i) = some t) :
    ∃ ev prev, s.txs.get i = some ⟨i, ev, .waiting prev⟩ ∧ t.db = s.db ∧
      t.txs.get i = some ⟨i, ev, .written (ev.writes prev s.db.subscriptions)⟩ := by
  simp only [step] at hst
  split at hst
  next id ev prev hget =>
    split_ifs at hst
    cases hst
    cases Keyed.key_of_get hget
    exact ⟨ev, prev, hget, rfl, Keyed.get_put_self _ _⟩
  next => cases hst

theorem eq_write_of_wrote {a : Act} (hst : step events s a = some t)
    (htx : t.txs.get a.tx = some tx) (hwrote : tx.wrote) : a = .write a.tx := by
  revert hst
  fun_cases step events s a
  all_goals intro hst; cases hst
  case case1.refl ev _ _ =>
    cases (Keyed.get_put_self s.txs ⟨_, ev, .marked⟩).symm.trans htx
    cases hwrote
  case case2.refl hgo _ =>
    rw [Act.tx] at htx
    simp [htx] at hgo
  case case4.refl ev _ =>
    cases (Keyed.get_put_self s.txs ⟨_, ev, .waiting _⟩).symm.trans htx
    cases hwrote
  case case6.refl => rfl
  case case9.refl | case11.refl => cases (Keyed.get_delete_self s.txs _).symm.trans htx

theorem exists_write {acts : List Act} {start : Schedule} (hstart : start.txs.get i = none)
    (hrun : run (step events) start acts = some t) (htx : t.txs.get i = some tx)
    (hwrote : tx.wrote) :
    ∃ before mid s, acts = before ++ .write i :: mid ∧ (∀ a ∈ mid, a.tx ≠ i) ∧
      run (step events) start before = some s ∧ run (step events) s (.write i :: mid) = some t := by
  induction acts using List.reverseRecOn generalizing t with
  | nil =>
    cases hrun
    cases hstart.symm.trans htx
  | append_singleton acts a ih =>
    obtain ⟨r, hr, hlast⟩ := (run_append_eq_some (step events)).mp hrun
    have hst : step events r a = some t := by simpa [run] using hlast
    by_cases hown : a.tx = i
    · subst hown
      have ha := eq_write_of_wrote hst htx hwrote
      exact ⟨acts, [], r, by rw [← ha], by simp, hr, by rwa [← ha]⟩
    · obtain ⟨before, mid, s, rfl, hmid, hs, hrest⟩ := ih hr ((get_step hst hown).symm.trans htx)
      refine ⟨before, mid ++ [a], s, by simp, ?_, hs, ?_⟩
      · simpa [or_imp, forall_and] using ⟨hmid, hown⟩
      · rw [← List.cons_append, run_append_eq_some]
        exact ⟨r, hrest, hlast⟩

theorem reportsChange_commit_iff (text : CaseMap) (usage : Bool) {ev : NormalizedEvent}
    {prev : Option Subscription}
    (hget : t.txs.get i = some ⟨i, ev, .written (ev.writes prev t.db.subscriptions)⟩) :
    ReportsChange text usage t (.commit i) ↔ (ev.current t.db.subscriptions = true →
      let replaced := t.db.subscriptions.get ev.userId
      (tierOf prev = ev.tier → tierOf replaced = ev.tier) ∧
        (prev.map Subscription.status = some ev.status →
          replaced.map Subscription.status = some ev.status)) := by
  simp only [ReportsChange, hget, Option.mem_def, Option.some.injEq, forall_eq']
  by_cases hcurrent : ev.current t.db.subscriptions
  · have happlied : Tx.applied ⟨i, ev, .written (ev.writes prev t.db.subscriptions)⟩ =
        some (ev.written t.db.subscriptions, ev.auditRow (reported prev)) := by
      simp [Tx.applied, NormalizedEvent.writes, hcurrent]
    have htier : tierOf prev = (ev.auditRow (reported prev)).previousTier.getD "" := by
      by_cases hnone : tierOf prev = "" <;>
        simp_all [NormalizedEvent.auditRow, stringPtr, reported, tierOf]
    have hstatus : prev.map Subscription.status = (ev.auditRow (reported prev)).previousStatus :=
      rfl
    simp only [happlied, Option.some.injEq, forall_eq', hcurrent, true_implies,
      NormalizedEvent.outcome, NormalizedEvent.effects, SubscriptionEvent.report,
      Bool.true_and, Bool.or_eq_true, decide_eq_true_iff, ← htier, ← hstatus]
    change (_ ≠ ev.tier → _) ∧ (_ ≠ some ev.status → _) ∧ (_ ≠ ev.tier ∨ _ ≠ some ev.status → _) ↔ _
    constructor
    · rintro ⟨hrep, hsto, -⟩
      exact ⟨fun hsm => by_contra fun hne => hrep hne hsm,
        fun hsm => by_contra fun hne => hsto hne hsm⟩
    · rintro ⟨hmas, hhid⟩
      refine ⟨fun hne hsm => hne (hmas hsm), fun hne hsm => hne (hhid hsm), ?_⟩
      rintro (hne | hne)
      · exact if_pos (.inl fun hsm => hne (hmas hsm))
      · exact if_pos (.inr fun hsm => hne (hhid hsm))
  · have hskipped : Tx.applied ⟨i, ev, .written (ev.writes prev t.db.subscriptions)⟩ = none := by
      simp [Tx.applied, NormalizedEvent.writes, hcurrent]
    simp [hskipped, hcurrent]

/-- What the commit reports is decided at the write. -/
theorem Inv.reportsChange_iff {u : String} (huser : ∀ e ∈ events, e.userId = u)
    (text : CaseMap) (usage : Bool) {mid : List Act} (h : Inv events start s)
    (hmid : ∀ a ∈ mid, a.tx ≠ i) (hrun : run (step events) s (.write i :: mid) = some t) :
    ReportsChange text usage t (.commit i) ↔ s.Unmasked i := by
  obtain ⟨q, hq, hrest⟩ := (run_cons_eq_some (step events)).mp hrun
  obtain ⟨ev, prev, hwaiting, hdb, hwritten⟩ := write_spec hq
  obtain ⟨hget, hkept⟩ := (inv_step huser h hq).kept_run huser hwritten rfl hmid hrest
  rw [← hdb, ← hkept] at hget
  rw [reportsChange_commit_iff text usage hget, hkept, hdb, Unmasked]
  constructor
  · rintro hone ev' prev' hget'
    cases hwaiting.symm.trans hget'
    exact hone
  · intro hall
    exact hall ev prev hwaiting

end Schedule

/-- Every commit of a run that changes the tier or the status reports it iff every write that it
commits is unmasked. -/
theorem changes_reported_iff_unmasked (text : CaseMap) (usage : Bool)
    {events : List NormalizedEvent} {u : String} (huser : ∀ e ∈ events, e.userId = u) (start : Db)
    (acts : List Act) :
    Along (Schedule.step events) (Schedule.ReportsChange text usage) { db := start } acts ↔
      CommittedUnmasked events { db := start } acts := by
  have hinv : ∀ {before : List Act} {s : Schedule},
      run (Schedule.step events) { db := start } before = some s →
        Schedule.Inv events start s := fun hs =>
    (throughout_invariant (Schedule.step events)
      (fun _ _ _ h hst => Schedule.inv_step huser h hst)
      (Schedule.inv_start events start) _).final _ hs
  rw [along_iff_forall_split]
  constructor
  · intro h before i mid after s t hacts hmid hs hrun
    obtain ⟨r, hr, hcommit⟩ := (run_append_eq_some _).mp hrun
    rw [← (hinv hs).reportsChange_iff huser text usage hmid hr]
    refine h (before ++ .write i :: mid) (.commit i) after r t hacts ?_ ?_
    · rw [run_append_eq_some]
      exact ⟨s, hs, hr⟩
    · simpa [run] using hcommit
  · intro h before a after r t hacts hr hst
    cases a with
    | commit i =>
      have hwritten : ∃ tx, r.txs.get i = some tx ∧ tx.wrote = true := by
        simp only [Schedule.step] at hst
        split at hst
        next hget => exact ⟨_, hget, rfl⟩
        next => cases hst
      obtain ⟨tx, htx, hwrote⟩ := hwritten
      obtain ⟨before, mid, s, rfl, hmid, hs, hrest⟩ := Schedule.exists_write rfl hr htx hwrote
      rw [(hinv hs).reportsChange_iff huser text usage hmid hrest]
      refine h before i mid after s t hacts hmid hs ?_
      rw [run_append_eq_some]
      exact ⟨r, hrest, by simpa [run] using hst⟩
    | mark i ev | snapshot i => trivial
    | write i | rollback i => trivial

def backAndForth : List Act :=
  oneByOne [sampleEvent "ntf_1" tierProManaged 1000000] ++
    [.mark 1 (sampleEvent "ntf_2" tierProBYOK 2000000),
      .mark 2 (sampleEvent "ntf_3" tierProManaged 3000000), .snapshot 1, .write 1, .snapshot 2,
      .commit 1, .write 2]

def backAndForthEvents : List NormalizedEvent :=
  [sampleEvent "ntf_1" tierProManaged 1000000, sampleEvent "ntf_2" tierProBYOK 2000000,
    sampleEvent "ntf_3" tierProManaged 3000000]

theorem upgrade_back_unreported :
    (run (Schedule.step backAndForthEvents) { db := Db.empty } backAndForth).map (fun s =>
        (tierOf (s.db.subscriptions.get "u1"), (s.txs.get 2).bind (fun tx =>
          tx.applied.map (fun w => (w.1.tier, (tx.event.outcome w.2.report).tierChanged,
            (tx.event.effects asciiCaseMap true w.2.report).revokeSessions))))) =
      some (tierProBYOK, some (tierProManaged, false, none)) := by
  decide +kernel

theorem changes_reported_one_by_one :
    Along (Schedule.step backAndForthEvents) (Schedule.ReportsChange asciiCaseMap true)
        { db := Db.empty } (oneByOne backAndForthEvents) ∧
      CommittedUnmasked backAndForthEvents { db := Db.empty } (oneByOne backAndForthEvents) :=
  have hreported : Along (Schedule.step backAndForthEvents)
      (Schedule.ReportsChange asciiCaseMap true) { db := Db.empty } (oneByOne backAndForthEvents) :=
    by decide +kernel
  ⟨hreported, (changes_reported_iff_unmasked asciiCaseMap true (u := "u1") (by decide +kernel)
    Db.empty _).mp hreported⟩

end ETradie.Billing
