import ETradie.Kernel.Runs
import ETradie.Billing.Subscriptions

namespace ETradie.Billing

open Kernel NormalizedEvent

structure Stretch where
  db : Db
  carried : List Int := []
  misjudged : List NormalizedEvent := []

variable (s : Stretch) (ev : NormalizedEvent)

namespace Stretch

variable (text : CaseMap) (u : String)

def judgedRight (h : Handled) : Bool :=
  match ev.currentPeriodEnd with
  | none => true
  | some p => h.effects.monthlyReset.isSome == s.carried.all (· < p)

def observe (h : Handled) : Stretch where
  db := h.db
  carried := if h.applied then s.carried ++ ev.currentPeriodEnd.toList else s.carried
  misjudged := if h.applied && !s.judgedRight ev h then s.misjudged ++ [ev] else s.misjudged

def step (s : Stretch) (ev : NormalizedEvent) : Option Stretch :=
  match resolveUserID noFaults s.db.subscriptions ev with
  | .error _ => none
  | .ok ev' =>
    if ev'.userId = u ∧ isManagedTier text ev'.tier = true ∧ ev'.status = .active then
      some (s.observe ev' (handleEvent text true noFaults ev s.db))
    else none

def advancing (s : Stretch) (ev : NormalizedEvent) : Bool :=
  !ev.fresh s.db ||
    match ev.currentPeriodEnd with
    | none => false
    | some p =>
      stored p = p &&
        ((s.db.subscriptions.get u).filter
          (·.eventTimestamp ≤ stored ev.eventTimestamp)).all (·.currentPeriodEnd.all (· ≤ p))

def Tracked (s : Stretch) : Prop :=
  (s.carried = [] ∧ ∀ r, s.db.subscriptions.get u = some r → isManagedTier text r.tier = false) ∨
    ∃ r m, s.db.subscriptions.get u = some r ∧ isManagedTier text r.tier = true ∧
      r.currentPeriodEnd = some m ∧ m ∈ s.carried ∧ ∀ q ∈ s.carried, q ≤ m

variable {text u} {t : Stretch} {s} {ev' : NormalizedEvent} {ev}

theorem advancing_spec (h : advancing u s ev) (hfr : ev.fresh s.db) :
    ∃ p, ev.currentPeriodEnd = some p ∧ stored p = p ∧
      ∀ r q, s.db.subscriptions.get u = some r → r.currentPeriodEnd = some q →
        r.eventTimestamp ≤ stored ev.eventTimestamp → q ≤ p := by
  unfold advancing at h
  rw [hfr, Bool.not_true] at h
  split at h
  · cases h
  · next p hp =>
    obtain ⟨hwh, hbeh⟩ := Bool.and_eq_true_iff.mp h
    refine ⟨p, hp, of_decide_eq_true hwh, ?_⟩
    intro r q hg hq hle
    simpa [hg, hle, hq] using hbeh

theorem isManagedTier_empty (text : CaseMap) : isManagedTier text "" = false := by
  have hlo : text.lower (trimSpace "") = "" := text.lower_ascii "" rfl
  simp [isManagedTier, hlo]

theorem step_spec (h : step text u s ev = some t) :
    ∃ ev', resolveUserID noFaults s.db.subscriptions ev = .ok ev' ∧ ev'.userId = u ∧
      isManagedTier text ev'.tier ∧ ev'.status = .active ∧
      t = s.observe ev' (handleEvent text true noFaults ev s.db) := by
  revert h
  fun_cases step text u s ev
  all_goals rintro ⟨⟩
  next ev' hres hgo => exact ⟨ev', hres, hgo.1, hgo.2.1, hgo.2.2, rfl⟩

theorem resolve_keeps {tab : SubscriptionTable} (h : resolveUserID noFaults tab ev = .ok ev') :
    ev'.mark = ev.mark ∧ ev'.eventTimestamp = ev.eventTimestamp ∧
      ev'.currentPeriodEnd = ev.currentPeriodEnd := by
  revert h
  fun_cases resolveUserID noFaults tab ev
  all_goals rintro ⟨⟩
  all_goals exact ⟨rfl, rfl, rfl⟩

theorem shouldReset_iff (prevTier : Tier) (prevEnd : Option Int)
    (hmgd : isManagedTier text ev.tier) (hact : ev.status = .active) :
    shouldResetMonthlyLLM text prevTier prevEnd ev ↔
      isManagedTier text prevTier = false ∨
        ∃ q p, prevEnd = some q ∧ ev.currentPeriodEnd = some p ∧ q < p := by
  unfold shouldResetMonthlyLLM
  cases isManagedTier text prevTier with
  | false => simp [hmgd, hact]
  | true =>
    cases prevEnd with
    | none => simp [hact]
    | some q => cases ev.currentPeriodEnd <;> simp [hmgd, hact]

theorem reset_iff (db : Db) (hmgd : isManagedTier text ev'.tier)
    (hact : ev'.status = .active)
    (happ : (ev'.fresh db && ev'.current db.subscriptions)) :
    (handleResolved text true noFaults ev' db).effects.monthlyReset.isSome ↔
      isManagedTier text (((db.subscriptions.get ev'.userId).map Subscription.tier).getD "") =
          false ∨
        ∃ q p, (db.subscriptions.get ev'.userId).bind Subscription.currentPeriodEnd = some q ∧
          ev'.currentPeriodEnd = some p ∧ q < p := by
  obtain ⟨hfr, hcur⟩ := Bool.and_eq_true_iff.mp happ
  rw [← shouldReset_iff _ _ hmgd hact, handleResolved_effects text true ev' db hfr]
  simp [NormalizedEvent.effects, upsert_report, hcur]

theorem observe_idle (text : CaseMap)
    (h : (ev'.fresh s.db && ev'.current s.db.subscriptions) = false) :
    (s.observe ev' (handleResolved text true noFaults ev' s.db)).carried = s.carried ∧
      (s.observe ev' (handleResolved text true noFaults ev' s.db)).misjudged = s.misjudged := by
  simp [observe, handleResolved_applied, h]

theorem judgedRight_of_tracked {p : Int} (hs : Tracked text ev'.userId s)
    (hmgd : isManagedTier text ev'.tier) (hact : ev'.status = .active)
    (happ : (ev'.fresh s.db && ev'.current s.db.subscriptions))
    (hp : ev'.currentPeriodEnd = some p) :
    s.judgedRight ev' (handleResolved text true noFaults ev' s.db) := by
  simp only [judgedRight, hp, beq_iff_eq]
  rw [Bool.eq_iff_iff, reset_iff s.db hmgd hact happ, hp, List.all_eq_true]
  rcases hs with ⟨hno, hfe⟩ | ⟨r, m, hg, ho, hend, hm, hmax⟩
  · -- the first applied event of the stretch enters the managed tier
    have hent : isManagedTier text
        (((s.db.subscriptions.get ev'.userId).map Subscription.tier).getD "") = false := by
      cases hg : s.db.subscriptions.get ev'.userId with
      | none => exact isManagedTier_empty text
      | some r => exact hfe r hg
    simp [hent, hno]
  · simp only [hg, Option.map_some, Option.getD_some, ho, Option.bind_some, hend]
    constructor
    · rintro (hfal | ⟨q, p', hq, hp', hlt⟩) x hx
      · cases hfal
      · cases hq
        cases hp'
        exact decide_eq_true (lt_of_le_of_lt (hmax x hx) hlt)
    · intro hall
      exact .inr ⟨m, p, rfl, rfl, of_decide_eq_true (hall m hm)⟩

theorem tracked_observe {p : Int} (hs : Tracked text ev'.userId s)
    (hmgd : isManagedTier text ev'.tier)
    (happ : (ev'.fresh s.db && ev'.current s.db.subscriptions))
    (hp : ev'.currentPeriodEnd = some p) (hwh : stored p = p)
    (hbeh : ∀ r q, s.db.subscriptions.get ev'.userId = some r →
      r.currentPeriodEnd = some q → q ≤ p) :
    Tracked text ev'.userId (s.observe ev' (handleResolved text true noFaults ev' s.db)) := by
  obtain ⟨hfr, hcur⟩ := Bool.and_eq_true_iff.mp happ
  refine .inr ⟨ev'.written s.db.subscriptions, p, ?_, hmgd, ?_, ?_, ?_⟩
  · simp only [observe, handleResolved_db, hfr, if_true]
    rw [committed_get, if_pos ⟨hcur, rfl⟩]
  · simp [written, Subscription.column, row, hp, hwh]
  · simp [observe, handleResolved_applied, happ, hp]
  · intro q hq
    simp only [observe, handleResolved_applied, happ, if_true, hp, Option.toList_some,
      List.mem_append, List.mem_singleton] at hq
    rcases hq with hq | rfl
    · rcases hs with ⟨hno, -⟩ | ⟨r, m, hg, -, hend, -, hmax⟩
      · rw [hno] at hq
        cases hq
      · exact (hmax q hq).trans (hbeh r m hg hend)
    · rfl

theorem tracked_step (hs : Tracked text u s ∧ s.misjudged = []) (hcd : advancing u s ev)
    (h : step text u s ev = some t) : Tracked text u t ∧ t.misjudged = [] := by
  obtain ⟨ev', hres, rfl, hmgd, hact, rfl⟩ := step_spec h
  obtain ⟨hmark, hins, hper⟩ := resolve_keeps hres
  have hfre : ev'.fresh s.db = ev.fresh s.db := by simp only [fresh, hmark]
  by_cases hblk : ev'.userId = ""
  · -- such an event is refused
    have href : handleEvent text true noFaults ev s.db =
        { result := .error errCannotResolveUser, db := s.db } := by
      unfold handleEvent
      rw [hres]
      simp [hblk]
    rw [href]
    exact ⟨hs.1, hs.2⟩
  · rw [handleEvent_resolved text true ev s.db hres hblk]
    cases happ : ev'.fresh s.db && ev'.current s.db.subscriptions with
    | false =>
      obtain ⟨hcar, hmis⟩ := observe_idle text happ
      refine ⟨?_, hmis.trans hs.2⟩
      unfold Tracked
      rw [hcar]
      simp only [observe, handleResolved_idle text true ev' s.db happ]
      exact hs.1
    | true =>
      obtain ⟨hfr, hcur⟩ := Bool.and_eq_true_iff.mp happ
      obtain ⟨p, hp, hwh, hbeh⟩ := advancing_spec hcd (hfre ▸ hfr)
      have hp' : ev'.currentPeriodEnd = some p := hper.trans hp
      refine ⟨tracked_observe hs.1 hmgd happ hp' hwh ?_, ?_⟩
      · intro r q hg hq
        refine hbeh r q hg hq ?_
        rw [← hins]
        simpa [current, hg] using hcur
      · have hrig := judgedRight_of_tracked hs.1 hmgd hact happ hp'
        simp [observe, hrig, hs.2]

theorem renewals_reset_exactly_once (text : CaseMap) (u : String) (db : Db)
    (hentering : ∀ r, db.subscriptions.get u = some r → isManagedTier text r.tier = false)
    (evs : List NormalizedEvent)
    (hcond : Along (step text u) (fun s ev => advancing u s ev = true) { db := db } evs) :
    Throughout (step text u) (fun s => s.misjudged = []) { db := db } evs := by
  have htra : Throughout (step text u)
      (fun s => Tracked text u s ∧ s.misjudged = []) { db := db } evs := by
    refine throughout_of_along _ ?_ ⟨.inl ⟨rfl, hentering⟩, rfl⟩ hcond
    intro s ev t hs hc ht
    exact tracked_step hs hc ht
  exact htra.mono _ (fun _ h => h.2)

def managedPeriod (id eventType : String) (occurredAt periodEnd : Int) : Delivery :=
  .paddle id
    (.ok
      { eventType := eventType, occurredAt := occurredAt
        subscription := .ok
          { id := "sub_1", status := "active", currentPeriodEndsAt := some periodEnd
            customData := [("user_id", .text "u1")], items := ["pri_managed"] } })

def managedPayment (id : String) (occurredAt : Int) : Delivery :=
  .paddle id
    (.ok
      { eventType := "transaction.completed", occurredAt := occurredAt
        transaction := .ok
          { subscriptionId := "sub_1", customData := [("user_id", .text "u1")]
            items := ["pri_managed"] } })

def creation : Delivery := managedPeriod "ntf_1" "subscription.created" 1000000 10000000

def renewal : Delivery := managedPeriod "ntf_3" "subscription.updated" 3000000 20000000

theorem renewal_after_payment_misjudged :
    (run (step asciiCaseMap "u1") { db := Db.empty }
      (parsedEvents [creation, managedPayment "ntf_2" 2000000, renewal])).map
        (fun s => (s.carried, s.misjudged.map eventId)) =
      some ([10000000, 20000000], ["ntf_3"]) := by
  decide +kernel

theorem renewals_reset_exactly_once_at_renewal :
    (run (step asciiCaseMap "u1") { db := Db.empty } (parsedEvents [creation, renewal])).map
        Stretch.carried = some [10000000, 20000000] ∧
      Throughout (step asciiCaseMap "u1") (fun s => s.misjudged = []) { db := Db.empty }
        (parsedEvents [creation, renewal]) := by
  refine ⟨by decide +kernel, renewals_reset_exactly_once asciiCaseMap "u1" Db.empty ?_ _ ?_⟩
  · intro r hr
    cases hr
  · decide +kernel

end Stretch

end ETradie.Billing
