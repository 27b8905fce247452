import ETradie.Kernel.Keyed
import ETradie.Billing.Webhooks

namespace ETradie.Billing

open Kernel NormalizedEvent

structure Card where
  (brand last4 : String)
  (expMonth expYear : Int)
deriving DecidableEq

structure Subscription where
  userId : String
  tier : Tier
  status : Status
  (paymentProvider providerCustomerId providerSubscriptionId : Option String := none)
  currentPeriodEnd : Option Int := none
  eventTimestamp : Int
  card : Option Card := none
deriving DecidableEq

abbrev SubscriptionTable := Keyed Subscription.userId

structure ProcessedEvent where
  (provider eventId eventName : String)
deriving DecidableEq

def ProcessedEvent.pair (p : ProcessedEvent) : String × String := (p.provider, p.eventId)

structure SubscriptionEvent where
  (userId provider eventName eventId : String)
  previousTier : Option Tier
  newTier : Tier
  previousStatus : Option Status
  newStatus : Status
  eventTimestamp : Int
  amountCents : Option Int64 := none
  (currency invoiceURL cardBrand cardLast4 : Option String := none)
  (cardExpMonth cardExpYear : Option Int := none)
deriving DecidableEq

structure Db where
  subscriptions : SubscriptionTable
  processed : Keyed ProcessedEvent.pair
  audit : List SubscriptionEvent

def Db.empty : Db where
  subscriptions := Keyed.empty
  processed := Keyed.empty
  audit := []

def getByProviderSubscriptionID (provider subscriptionId : String) (t : SubscriptionTable) :
    Option Subscription :=
  t.rows.find? (fun r =>
    r.paymentProvider = some provider ∧ r.providerSubscriptionId = some subscriptionId)

def markProcessedTx (p : ProcessedEvent) (t : Keyed ProcessedEvent.pair) :
    Bool × Keyed ProcessedEvent.pair :=
  match t.get p.pair with
  | some _ => (false, t)
  | none => (true, t.put p)

structure Upserted where
  applied : Bool
  previousTier : Tier
  previousStatus : Option Status
  previousPeriodEnd : Option Int
deriving DecidableEq

def Subscription.column (sub : Subscription) (card : Option Card) : Subscription :=
  { sub with
    currentPeriodEnd := sub.currentPeriodEnd.map stored, eventTimestamp := stored sub.eventTimestamp
    card := card }

def upsertSubscriptionTx (sub : Subscription) (t : SubscriptionTable) :
    Upserted × SubscriptionTable :=
  match t.get sub.userId with
  | none => (⟨true, "", none, none⟩, t.put (sub.column none))
  | some prev =>
    if prev.eventTimestamp ≤ stored sub.eventTimestamp then
      (⟨true, prev.tier, some prev.status, prev.currentPeriodEnd⟩, t.put (sub.column prev.card))
    else (⟨false, prev.tier, some prev.status, prev.currentPeriodEnd⟩, t)

def updateCardSnapshotTx (userId : String) (card : Card) (eventTimestamp : Int)
    (t : SubscriptionTable) : SubscriptionTable :=
  match t.get userId with
  | none => t
  | some row =>
    if row.eventTimestamp ≤ stored eventTimestamp then t.put { row with card := some card }
    else t

def errCannotResolveUser : String := "billing: cannot resolve user for event"

inductive Stage where
  | lookup | beginTx | markProcessed | upsert | audit | card | commit
deriving DecidableEq

def Stage.context : Stage → String
  | .lookup => ""
  | .beginTx => "billing: begin tx: "
  | .markProcessed => "billing: mark processed: "
  | .upsert => "billing: upsert subscription: "
  | .audit => "billing: append audit: "
  | .card => "billing: update card snapshot: "
  | .commit => "billing: commit: "

abbrev Faults := Stage → Option String

def noFaults : Faults := fun _ => none

structure Outcome where
  (alreadyProcessed applied outOfOrder tierChanged statusChanged : Bool := false)
  userId : String := ""
deriving DecidableEq

structure SubscriptionChange where
  (userId provider eventId : String)
  (previousTier newTier : Tier)
  previousStatus : Option Status
  newStatus : Status
  (tierChanged statusChanged : Bool)
deriving DecidableEq

structure Effects where
  revokeSessions : Option String := none
  publish : Option SubscriptionChange := none
  monthlyReset : Option (String × Int) := none
deriving DecidableEq

def resolveUserID (faults : Faults) (t : SubscriptionTable) (ev : NormalizedEvent) :
    Except String NormalizedEvent :=
  if ev.userId ≠ "" then .ok ev
  else if ev.providerSubscriptionId = "" then .error errCannotResolveUser
  else
    match faults .lookup with
    | some e => .error e
    | none =>
      match getByProviderSubscriptionID ev.provider ev.providerSubscriptionId t with
      | none => .error errCannotResolveUser
      | some existing =>
        .ok
          { ev with
            userId := existing.userId
            tier := if ev.tier = "" then existing.tier else ev.tier }

def isManagedTier (text : CaseMap) (tier : Tier) : Bool :=
  match text.lower (trimSpace tier) with
  | "pro_managed" => true
  | "admin" => true
  | _ => false

def shouldResetMonthlyLLM (text : CaseMap) (prevTier : Tier) (prevPeriodEnd : Option Int)
    (ev : NormalizedEvent) : Bool :=
  if !isManagedTier text ev.tier then false
  else if ev.status ≠ .active then false
  else if !isManagedTier text prevTier then true
  else
    match prevPeriodEnd, ev.currentPeriodEnd with
    | some prev, some next => prev < next
    | _, _ => false

def NormalizedEvent.row (ev : NormalizedEvent) : Subscription where
  userId := ev.userId
  tier := ev.tier
  status := ev.status
  paymentProvider := some ev.provider
  providerCustomerId := stringPtr ev.providerCustomerId
  providerSubscriptionId := stringPtr ev.providerSubscriptionId
  currentPeriodEnd := ev.currentPeriodEnd
  eventTimestamp := ev.eventTimestamp

def NormalizedEvent.mark (ev : NormalizedEvent) : ProcessedEvent where
  provider := ev.provider
  eventId := ev.eventId
  eventName := ev.eventName

def NormalizedEvent.card (ev : NormalizedEvent) : Option Card :=
  match ev.cardBrand, ev.cardLast4, ev.cardExpMonth, ev.cardExpYear with
  | some brand, some last4, some expMonth, some expYear => some ⟨brand, last4, expMonth, expYear⟩
  | _, _, _, _ => none

def NormalizedEvent.auditRow (ev : NormalizedEvent) (up : Upserted) : SubscriptionEvent :=
  { ev with
    previousTier := stringPtr up.previousTier, newTier := ev.tier
    previousStatus := up.previousStatus, newStatus := ev.status
    eventTimestamp := stored ev.eventTimestamp }

def NormalizedEvent.outcome (ev : NormalizedEvent) (up : Upserted) : Outcome where
  applied := up.applied
  outOfOrder := !up.applied
  tierChanged := up.applied && (up.previousTier ≠ ev.tier : Bool)
  statusChanged := up.applied && (up.previousStatus ≠ some ev.status : Bool)
  userId := ev.userId

def NormalizedEvent.effects (text : CaseMap) (usage : Bool) (ev : NormalizedEvent)
    (up : Upserted) : Effects :=
  let outcome := ev.outcome up
  let changed := up.applied && (outcome.tierChanged || outcome.statusChanged)
  { revokeSessions := if changed then some ev.userId else none
    publish :=
      if changed then
        some
          { userId := ev.userId, provider := ev.provider, eventId := ev.eventId
            previousTier := up.previousTier, newTier := ev.tier, previousStatus := up.previousStatus
            newStatus := ev.status, tierChanged := outcome.tierChanged
            statusChanged := outcome.statusChanged }
      else none
    monthlyReset :=
      if up.applied && usage && shouldResetMonthlyLLM text up.previousTier up.previousPeriodEnd ev
      then some (ev.userId, ev.eventTimestamp)
      else none }

def applyTx (faults : Faults) (ev : NormalizedEvent) (db : Db) : Except String (Upserted × Db) :=
  let marked := { db with processed := (markProcessedTx ev.mark db.processed).2 }
  match faults .upsert with
  | some e => .error (Stage.upsert.context ++ e)
  | none =>
    let up := upsertSubscriptionTx ev.row db.subscriptions
    if !up.1.applied then .ok (up.1, { marked with subscriptions := up.2 })
    else
      match faults .audit with
      | some e => .error (Stage.audit.context ++ e)
      | none =>
        let audited :=
          { marked with subscriptions := up.2, audit := db.audit ++ [ev.auditRow up.1] }
        match ev.card with
        | none => .ok (up.1, audited)
        | some card =>
          match faults .card with
          | some e => .error (Stage.card.context ++ e)
          | none =>
            .ok (up.1,
              { audited with
                subscriptions := updateCardSnapshotTx ev.userId card ev.eventTimestamp up.2 })

structure Handled where
  result : Except String Outcome
  effects : Effects := {}
  db : Db

def Handled.applied (h : Handled) : Bool :=
  match h.result with
  | .ok outcome => outcome.applied
  | .error _ => false

def handleResolved (text : CaseMap) (usage : Bool) (faults : Faults) (ev : NormalizedEvent)
    (db : Db) : Handled :=
  match faults .beginTx with
  | some e => { result := .error (Stage.beginTx.context ++ e), db := db }
  | none =>
    match faults .markProcessed with
    | some e => { result := .error (Stage.markProcessed.context ++ e), db := db }
    | none =>
      if !(markProcessedTx ev.mark db.processed).1 then
        { result := .ok { alreadyProcessed := true, userId := ev.userId }, db := db }
      else
        match applyTx faults ev db with
        | .error e => { result := .error e, db := db }
        | .ok done =>
          match faults .commit with
          | some e => { result := .error (Stage.commit.context ++ e), db := db }
          | none =>
            { result := .ok (ev.outcome done.1), effects := ev.effects text usage done.1
              db := done.2 }

def handleEvent (text : CaseMap) (usage : Bool) (faults : Faults) (ev : NormalizedEvent)
    (db : Db) : Handled :=
  match resolveUserID faults db.subscriptions ev with
  | .error e => { result := .error e, db := db }
  | .ok ev =>
    if ev.userId = "" then { result := .error errCannotResolveUser, db := db }
    else handleResolved text usage faults ev db

variable {t : SubscriptionTable}

section Transaction

variable (text : CaseMap) (usage : Bool) (ev : NormalizedEvent) (db : Db)

def NormalizedEvent.fresh (ev : NormalizedEvent) (db : Db) : Bool :=
  (db.processed.get ev.mark.pair).isNone

def NormalizedEvent.current (ev : NormalizedEvent) (t : SubscriptionTable) : Bool :=
  (t.get ev.userId).all (·.eventTimestamp ≤ stored ev.eventTimestamp)

def NormalizedEvent.written (ev : NormalizedEvent) (t : SubscriptionTable) : Subscription :=
  ev.row.column (ev.card.or ((t.get ev.userId).bind Subscription.card))

def NormalizedEvent.committed (ev : NormalizedEvent) (db : Db) : Db where
  subscriptions :=
    if ev.current db.subscriptions then db.subscriptions.put (ev.written db.subscriptions)
    else db.subscriptions
  processed := db.processed.put ev.mark
  audit :=
    if ev.current db.subscriptions then
      db.audit ++ [ev.auditRow (upsertSubscriptionTx ev.row db.subscriptions).1]
    else db.audit

@[simp] theorem written_userId (t : SubscriptionTable) : (ev.written t).userId = ev.userId := rfl

theorem markProcessedTx_fresh : (markProcessedTx ev.mark db.processed).1 = ev.fresh db := by
  unfold markProcessedTx fresh
  cases db.processed.get ev.mark.pair <;> rfl

theorem markProcessedTx_put (h : ev.fresh db) :
    (markProcessedTx ev.mark db.processed).2 = db.processed.put ev.mark := by
  unfold markProcessedTx
  rw [fresh, Option.isNone_iff_eq_none] at h
  rw [h]

theorem upsert_report (t : SubscriptionTable) :
    (upsertSubscriptionTx ev.row t).1 =
      ⟨ev.current t, ((t.get ev.userId).map Subscription.tier).getD "",
        (t.get ev.userId).map Subscription.status,
        (t.get ev.userId).bind Subscription.currentPeriodEnd⟩ := by
  unfold upsertSubscriptionTx current
  cases hg : t.get ev.userId with
  | none => simp [NormalizedEvent.row, hg]
  | some prev =>
    by_cases hle : prev.eventTimestamp ≤ stored ev.eventTimestamp
    · simp [NormalizedEvent.row, hg, hle]
    · simp [NormalizedEvent.row, hg, hle]

theorem upsert_applied (t : SubscriptionTable) :
    (upsertSubscriptionTx ev.row t).1.applied = ev.current t := by
  rw [upsert_report]

theorem upsert_table (h : ev.current t) :
    (upsertSubscriptionTx ev.row t).2 =
      t.put (ev.row.column ((t.get ev.userId).bind Subscription.card)) := by
  unfold upsertSubscriptionTx
  cases hg : t.get ev.userId with
  | none => simp [NormalizedEvent.row, hg]
  | some prev =>
    have hle : prev.eventTimestamp ≤ stored ev.eventTimestamp := by simpa [current, hg] using h
    simp [NormalizedEvent.row, hg, hle]

theorem upsert_table_late (h : ev.current t = false) : (upsertSubscriptionTx ev.row t).2 = t := by
  unfold upsertSubscriptionTx
  cases hg : t.get ev.userId with
  | none => simp [current, hg] at h
  | some prev =>
    have hlt : ¬ prev.eventTimestamp ≤ stored ev.eventTimestamp := by simpa [current, hg] using h
    simp [NormalizedEvent.row, hg, hlt]

theorem updateCard_put (t : SubscriptionTable) (card : Card) (old : Option Card) :
    updateCardSnapshotTx ev.userId card ev.eventTimestamp (t.put (ev.row.column old)) =
      t.put (ev.row.column (some card)) := by
  have hg : (t.put (ev.row.column old)).get ev.userId = some (ev.row.column old) :=
    t.get_put_self (ev.row.column old)
  unfold updateCardSnapshotTx
  rw [hg]
  simp only [Subscription.column, NormalizedEvent.row, le_refl]
  exact Keyed.put_put t rfl

theorem applyTx_noFaults (h : ev.fresh db) :
    applyTx noFaults ev db =
      .ok ((upsertSubscriptionTx ev.row db.subscriptions).1, ev.committed db) := by
  unfold applyTx committed written
  simp only [noFaults, upsert_applied, markProcessedTx_put ev db h]
  cases hcur : ev.current db.subscriptions with
  | false => simp [upsert_table_late ev hcur]
  | true =>
    cases ev.card with
    | none => simp [upsert_table ev hcur]
    | some card => simp [upsert_table ev hcur, updateCard_put]

theorem handleResolved_db :
    (handleResolved text usage noFaults ev db).db =
      if ev.fresh db then ev.committed db else db := by
  unfold handleResolved
  cases hfr : ev.fresh db with
  | false => simp [noFaults, markProcessedTx_fresh, hfr]
  | true =>
    rw [applyTx_noFaults ev db hfr]
    simp [noFaults, markProcessedTx_fresh, hfr]

theorem handleResolved_effects (h : ev.fresh db) :
    (handleResolved text usage noFaults ev db).effects =
      ev.effects text usage (upsertSubscriptionTx ev.row db.subscriptions).1 := by
  unfold handleResolved
  rw [applyTx_noFaults ev db h]
  simp [noFaults, markProcessedTx_fresh, h]

theorem handleResolved_applied :
    (handleResolved text usage noFaults ev db).applied =
      (ev.fresh db && ev.current db.subscriptions) := by
  unfold handleResolved
  cases hfr : ev.fresh db with
  | false => simp [noFaults, markProcessedTx_fresh, hfr, Handled.applied]
  | true =>
    rw [applyTx_noFaults ev db hfr]
    simp [noFaults, markProcessedTx_fresh, hfr, Handled.applied, NormalizedEvent.outcome,
      upsert_applied]

theorem committed_get (u : String) :
    (ev.committed db).subscriptions.get u =
      if ev.current db.subscriptions ∧ ev.userId = u then
        some (ev.written db.subscriptions)
      else db.subscriptions.get u := by
  unfold committed
  cases ev.current db.subscriptions with
  | false => simp
  | true =>
    simp only [if_true, true_and]
    rw [Keyed.get_put, written_userId]

theorem handleEvent_resolved {ev' : NormalizedEvent}
    (hres : resolveUserID noFaults db.subscriptions ev = .ok ev') (hu : ev'.userId ≠ "") :
    handleEvent text usage noFaults ev db = handleResolved text usage noFaults ev' db := by
  unfold handleEvent
  rw [hres]
  simp [hu]

theorem handleResolved_idle (h : (ev.fresh db && ev.current db.subscriptions) = false) :
    (handleResolved text usage noFaults ev db).db.subscriptions = db.subscriptions := by
  rw [handleResolved_db]
  cases hfr : ev.fresh db with
  | false => rfl
  | true =>
    rw [hfr, Bool.true_and] at h
    simp [committed, h]

theorem handleEvent_db :
    (handleEvent text usage noFaults ev db).db =
      match resolveUserID noFaults db.subscriptions ev with
      | .error _ => db
      | .ok ev' => if ev'.userId ≠ "" ∧ ev'.fresh db = true then ev'.committed db else db := by
  unfold handleEvent
  cases resolveUserID noFaults db.subscriptions ev with
  | error e => rfl
  | ok ev' =>
    by_cases hu : ev'.userId = ""
    · simp [hu]
    · simp [hu, handleResolved_db]

end Transaction

def oneRow (row : Subscription) : Db := { Db.empty with subscriptions := Keyed.empty.put row }

def sampleMaps : TierMaps where
  prices := [("pri_byok", tierProBYOK), ("pri_managed", tierProManaged)]
  variants := [("11", tierProBYOK), ("22", tierProManaged)]

def parsedEvents (ds : List Delivery) : List NormalizedEvent :=
  ds.filterMap (fun d => (d.parse asciiCaseMap sampleMaps 0).toOption)

end ETradie.Billing
