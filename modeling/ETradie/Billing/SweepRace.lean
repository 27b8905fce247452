import ETradie.Kernel.Runs
import ETradie.Billing.Sweep

namespace ETradie.Billing

open Kernel

structure Listed where
  entry : Subscription
  now : Int
deriving DecidableEq

structure Race where
  db : Db
  listed : List Listed := []
  eventAt : String → Option Int
  demotedAt : String → Option Int := fun _ => none
  wronged : List String := []
  dropped : List NormalizedEvent := []

inductive RaceAct where
  | deliver (ev : NormalizedEvent)
  | list (order : PeriodOrder) (now : Int)
  | demote (fault : Bool) (entry : Listed)

def Race.start (db : Db) : Race where
  db := db
  eventAt := fun u => (db.subscriptions.get u).map Subscription.eventTimestamp

variable (s : Race) (fault : Bool) (ev : NormalizedEvent)

namespace Race

variable (text : CaseMap) (usage : Bool)

def renews : Bool := isPaidTier ev.tier && ev.status = .active

def later : Bool := (s.eventAt ev.userId).all (fun held => held < stored ev.eventTimestamp)

def deliver (s : Race) (ev ev' : NormalizedEvent) : Race :=
  let h := handleEvent text usage noFaults ev s.db
  { s with
    db := h.db
    eventAt :=
      if h.applied then Function.update s.eventAt ev'.userId (some (stored ev'.eventTimestamp))
      else s.eventAt
    dropped :=
      if ev'.fresh s.db && renews ev' && s.later ev' && !h.applied then s.dropped ++ [ev']
      else s.dropped }

def demote (l : Listed) : Race :=
  let d := demoteOne fault l.now l.entry s.db
  { s with
    db := d.db, listed := s.listed.erase l
    demotedAt :=
      if d.demoted then Function.update s.demotedAt l.entry.userId (some (stored l.now))
      else s.demotedAt
    wronged :=
      if d.demoted && !(s.db.subscriptions.get l.entry.userId).all (Subscription.elapsed l.now) then
        s.wronged ++ [l.entry.userId]
      else s.wronged }

def step (s : Race) : RaceAct → Option Race
  | .deliver ev =>
    match resolveUserID noFaults s.db.subscriptions ev with
    | .error _ => some s
    | .ok ev' => if ev'.userId = "" then some s else some (s.deliver text usage ev ev')
  | .list order now =>
    some
      { s with
        listed := s.listed ++
          (listExpiredForDemotion order now demotionChunkSize s.db.subscriptions).map
            (fun e => ⟨e, now⟩) }
  | .demote fault l => if l ∈ s.listed then some (s.demote fault l) else none

def spaced : RaceAct → Bool
  | .deliver ev =>
    match resolveUserID noFaults s.db.subscriptions ev with
    | .error _ => true
    | .ok ev' =>
      (!(ev'.fresh s.db && ev'.current s.db.subscriptions) ||
        s.listed.all (fun l =>
          l.entry.userId ≠ ev'.userId || (ev'.written s.db.subscriptions).elapsed l.now ||
            stored l.now < stored ev'.eventTimestamp)) &&
      (!renews ev' || (s.demotedAt ev'.userId).all (fun d => d ≤ stored ev'.eventTimestamp))
  | _ => true

structure Fair (s : Race) : Prop where
  wronged : s.wronged = []
  dropped : s.dropped = []
  listed : ∀ l ∈ s.listed, ∀ r, s.db.subscriptions.get l.entry.userId = some r →
    r.elapsed l.now = true ∨ stored l.now < r.eventTimestamp
  stamped : ∀ u r, s.db.subscriptions.get u = some r →
    s.eventAt u = some r.eventTimestamp ∨ s.demotedAt u = some r.eventTimestamp

variable {text usage} {t : Race} {s} {ev' : NormalizedEvent} {ev} {l : Listed}

theorem fair_start (db : Db) : (Race.start db).Fair where
  wronged := rfl
  dropped := rfl
  listed := fun l hl => by cases hl
  stamped := by
    intro u r hr
    have hrow : db.subscriptions.get u = some r := hr
    simp [Race.start, hrow]

theorem spaced_spec (hres : resolveUserID noFaults s.db.subscriptions ev = .ok ev')
    (h : s.spaced (.deliver ev)) :
    ((ev'.fresh s.db && ev'.current s.db.subscriptions) →
        ∀ l ∈ s.listed, l.entry.userId = ev'.userId →
          (ev'.written s.db.subscriptions).elapsed l.now ∨
            stored l.now < stored ev'.eventTimestamp) ∧
      (renews ev' → ∀ d, s.demotedAt ev'.userId = some d → d ≤ stored ev'.eventTimestamp) := by
  simp only [spaced, hres, Bool.and_eq_true] at h
  obtain ⟨hlst, hsta⟩ := h
  constructor
  · intro happ l hl hu
    rw [happ, Bool.not_true] at hlst
    have hone := List.all_eq_true.mp hlst l hl
    simpa [hu] using hone
  · intro hren d hd
    simpa [hren, hd] using hsta

theorem current_of_later (hs : s.Fair) (hlat : s.later ev')
    (hdmt : ∀ d, s.demotedAt ev'.userId = some d → d ≤ stored ev'.eventTimestamp) :
    ev'.current s.db.subscriptions := by
  unfold NormalizedEvent.current
  cases hg : s.db.subscriptions.get ev'.userId with
  | none => rfl
  | some r =>
    have hle : r.eventTimestamp ≤ stored ev'.eventTimestamp := by
      rcases hs.stamped _ r hg with hevt | hdem
      · simp only [later, hevt, Option.all_some, decide_eq_true_eq] at hlat
        exact le_of_lt hlat
      · exact hdmt _ hdem
    simpa using hle

theorem fair_deliver (hs : s.Fair) (hres : resolveUserID noFaults s.db.subscriptions ev = .ok ev')
    (hu : ev'.userId ≠ "") (hcd : s.spaced (.deliver ev)) :
    (s.deliver text usage ev ev').Fair := by
  obtain ⟨hlst, hsta⟩ := spaced_spec hres hcd
  unfold deliver
  simp only [handleEvent_resolved text usage ev s.db hres hu, handleResolved_applied]
  cases happ : ev'.fresh s.db && ev'.current s.db.subscriptions with
  | false =>
    have hsm := handleResolved_idle text usage ev' s.db happ
    refine ⟨hs.wronged, ?_, ?_, ?_⟩
    · -- a fresh renewal that is later would have been applied
      dsimp only
      rw [if_neg, hs.dropped]
      intro hdr
      simp only [Bool.and_eq_true] at hdr
      obtain ⟨⟨⟨hfr, hren⟩, hlat⟩, -⟩ := hdr
      rw [hfr, current_of_later hs hlat (hsta hren)] at happ
      cases happ
    · intro l hl r hr
      rw [hsm] at hr
      exact hs.listed l hl r hr
    · intro u r hr
      rw [hsm] at hr
      simpa using hs.stamped u r hr
  | true =>
    obtain ⟨hfr, hcur⟩ := Bool.and_eq_true_iff.mp happ
    have hg : ∀ u, (handleResolved text usage noFaults ev' s.db).db.subscriptions.get u =
        if ev'.userId = u then some (ev'.written s.db.subscriptions)
        else s.db.subscriptions.get u := by
      intro u
      rw [handleResolved_db, hfr, if_pos rfl, committed_get]
      simp [hcur]
    refine ⟨hs.wronged, ?_, ?_, ?_⟩
    · simp [hs.dropped]
    · intro l hl r hr
      rw [hg] at hr
      split at hr
      · next hsm =>
        cases hr
        exact hlst happ l hl hsm.symm
      · exact hs.listed l hl r hr
    · intro u r hr
      rw [hg] at hr
      dsimp only
      rw [if_pos rfl]
      split at hr
      · next hsm =>
        cases hr
        subst hsm
        exact .inl (by rw [Function.update_self]; rfl)
      · next hoth =>
        rw [Function.update_of_ne (fun h => hoth h.symm)]
        exact hs.stamped u r hr

theorem demoteOne_spec (now : Int) (e : Subscription) (db : Db) :
    ((demoteOne fault now e db).demoted = false ∧ (demoteOne fault now e db).db = db) ∨
      ∃ r, db.subscriptions.get e.userId = some r ∧ r.eventTimestamp ≤ stored now ∧
        (demoteOne fault now e db).demoted ∧
        (demoteOne fault now e db).db.subscriptions = db.subscriptions.put (r.demoted now) := by
  unfold demoteOne demoteToFreeTx
  cases fault with
  | true => exact .inl ⟨rfl, rfl⟩
  | false =>
    cases db.subscriptions.get e.userId with
    | none => exact .inl ⟨rfl, rfl⟩
    | some r =>
      by_cases hle : r.eventTimestamp ≤ stored now
      · exact .inr ⟨r, rfl, hle, by simp [hle], by simp [hle]⟩
      · exact .inl ⟨by simp [hle], by simp [hle]⟩

theorem fair_demote (hs : s.Fair) (hl : l ∈ s.listed) : (s.demote fault l).Fair := by
  unfold demote
  rcases demoteOne_spec fault l.now l.entry s.db with
    ⟨hil, hdb⟩ | ⟨r, hg, hle, hdo, hdb⟩
  · simp only [hil, hdb]
    refine ⟨hs.wronged, hs.dropped, ?_, hs.stamped⟩
    intro l' hl'
    exact hs.listed l' (List.mem_of_mem_erase hl')
  · -- the row carries no timestamp after the query, so it has lapsed
    have hela : r.elapsed l.now := by
      rcases hs.listed l hl r hg with hyes | hlt
      · exact hyes
      · exact absurd hle (not_le_of_gt hlt)
    have hk : r.userId = l.entry.userId := Keyed.key_of_get hg
    have hu : (r.demoted l.now).userId = l.entry.userId := hk
    refine ⟨?_, hs.dropped, ?_, ?_⟩
    · simp [hg, hela, hs.wronged]
    · intro l' hl' r' hr'
      have ho := hs.listed l' (List.mem_of_mem_erase hl')
      simp only [hdb, Keyed.get_put, hu] at hr'
      split at hr'
      · next hsm =>
        cases hr'
        rcases ho r (hsm ▸ hg) with hyes | hlt
        · -- the period end stays, and the new status counts as a loss as well
          refine .inl ?_
          exact Bool.and_eq_true_iff.mpr ⟨rfl, (Bool.and_eq_true_iff.mp hyes).2⟩
        · exact .inr (lt_of_lt_of_le hlt hle)
      · exact ho r' hr'
    · intro u r' hr'
      simp only [hdb, Keyed.get_put, hu] at hr'
      simp only [hdo, if_true]
      split at hr'
      · next hsm =>
        cases hr'
        subst hsm
        exact .inr (by rw [Function.update_self]; rfl)
      · next hoth =>
        rw [Function.update_of_ne (fun h => hoth h.symm)]
        exact hs.stamped u r' hr'

theorem fair_list (order : PeriodOrder) (now : Int) (hs : s.Fair) :
    Fair
      { s with
        listed := s.listed ++
          (listExpiredForDemotion order now demotionChunkSize s.db.subscriptions).map
            (fun e => ⟨e, now⟩) } := by
  refine ⟨hs.wronged, hs.dropped, ?_, hs.stamped⟩
  intro l hl r hr
  rcases List.mem_append.mp hl with ho | hn
  · exact hs.listed l ho r hr
  · obtain ⟨e, he, rfl⟩ := List.mem_map.mp hn
    obtain ⟨hm, hlap⟩ := mem_of_mem_chunk he
    rw [Keyed.get_key hm] at hr
    cases hr
    exact .inl (Bool.and_eq_true_iff.mp hlap).1

theorem fair_step {a : RaceAct} (hs : s.Fair) (hcd : s.spaced a)
    (h : step text usage s a = some t) : t.Fair := by
  revert h
  fun_cases step text usage s a
  all_goals rintro ⟨⟩
  · exact hs
  · exact hs
  · next hres hu => exact fair_deliver hs hres hu hcd
  · exact fair_list _ _ hs
  · next hl => exact fair_demote _ hs hl

theorem sweep_takes_no_paid_tier (text : CaseMap) (usage : Bool) (db : Db) (acts : List RaceAct)
    (hcond : Along (step text usage) (fun s a => s.spaced a = true) (Race.start db) acts) :
    Throughout (step text usage) (fun s => s.wronged = [] ∧ s.dropped = []) (Race.start db)
      acts := by
  have hfair : Throughout (step text usage) Fair (Race.start db) acts :=
    throughout_of_along _ (fun s a t hs hc ht => fair_step hs hc ht) (fair_start db) hcond
  exact hfair.mono _ (fun s hs => ⟨hs.wronged, hs.dropped⟩)

def lapsedRow : Subscription where
  userId := "u1"
  tier := tierProManaged
  status := .pastDue
  paymentProvider := some Paddle.provider
  providerSubscriptionId := some "sub_1"
  currentPeriodEnd := some 5000000
  eventTimestamp := 1000000

def renewalAt (eventTimestamp : Int) : NormalizedEvent where
  provider := Paddle.provider
  eventId := "ntf_9"
  eventName := "subscription_updated"
  eventTimestamp := eventTimestamp
  userId := "u1"
  providerCustomerId := "ctm_1"
  providerSubscriptionId := "sub_1"
  currentPeriodEnd := some 20000000
  tier := tierProManaged
  status := .active

def queryAct : RaceAct := .list tableOrder 10000000

def demoteAct : RaceAct := .demote false ⟨lapsedRow, 10000000⟩

def raceReport (acts : List RaceAct) : Option (List String × List String × Option (Tier × Status)) :=
  (run (step asciiCaseMap true) (Race.start (oneRow lapsedRow)) acts).map (fun s =>
    (s.wronged, s.dropped.map NormalizedEvent.eventId,
      (s.db.subscriptions.get "u1").map (fun r => (r.tier, r.status))))

theorem renewal_lost_to_sweep :
    raceReport [queryAct, .deliver (renewalAt 9000000), demoteAct] =
        some (["u1"], [], some (tierFree, .canceled)) ∧
      raceReport [queryAct, demoteAct, .deliver (renewalAt 9000000)] =
        some ([], ["ntf_9"], some (tierFree, .canceled)) := by
  decide +kernel

theorem sweep_spares_newer_renewal :
    raceReport [queryAct, .deliver (renewalAt 11000000), demoteAct] =
        some ([], [], some (tierProManaged, .active)) ∧
      Throughout (step asciiCaseMap true) (fun s => s.wronged = [] ∧ s.dropped = [])
        (Race.start (oneRow lapsedRow)) [queryAct, .deliver (renewalAt 11000000), demoteAct] := by
  refine ⟨by decide +kernel, sweep_takes_no_paid_tier asciiCaseMap true (oneRow lapsedRow) _ ?_⟩
  decide +kernel

end Race

end ETradie.Billing
