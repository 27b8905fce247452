import ETradie.Billing.Subscriptions

namespace ETradie.Billing

open Kernel Option Paddle LemonSqueezy NormalizedEvent

inductive Resource where
  | transaction (txn : Paddle.RawTransaction)
  | subscription (kind : Paddle.EventType) (sub : Paddle.RawSubscription)
  | lemonSqueezy (name : LemonSqueezy.EventName) (env : LemonSqueezy.RawWebhook)
deriving DecidableEq

namespace Resource

def period : Resource → Option Int
  | .transaction _ => none
  | .subscription _ sub => sub.currentPeriodEndsAt.filter (· ≠ zeroTime)
  | .lemonSqueezy _ env => env.attributes.periodEnd

def known (maps : TierMaps) : Resource → Option Tier
  | .transaction txn => Paddle.knownPrice maps.prices txn.items
  | .subscription _ sub => Paddle.knownPrice maps.prices sub.items
  | .lemonSqueezy _ env => LemonSqueezy.knownVariant maps.variants env.attributes

def moneyOnly : Resource → Bool
  | .transaction _ => true
  | .subscription kind _ => kind = .paused || kind = .pastDue
  | .lemonSqueezy name _ => LemonSqueezy.isInvoiceEvent name || name = .paused

def fallback : Resource → Tier
  | .transaction _ => tierFree
  | _ => ""

end Resource

def Delivery.resource (text : CaseMap) : Delivery → Option Resource
  | .paddle _ (.ok env) =>
    match Paddle.isHandledEvent (text.lower (trimSpace env.eventType)) with
    | some .transactionCompleted => env.transaction.toOption.map .transaction
    | some kind => env.subscription.toOption.map (.subscription kind)
    | none => none
  | .lemonSqueezy header (.ok env) =>
    (LemonSqueezy.isHandledEvent (text.lower (trimSpace header))).map
      (fun name => .lemonSqueezy name env)
  | _ => none

section Parsed

variable (text : CaseMap) {maps : TierMaps} {now : Int} {ev : NormalizedEvent}
variable {eventId : String} {occurredAt : Int} {kind : Paddle.EventType}
variable {sub : Paddle.RawSubscription} {mapped : Tier × Status}

theorem parseTransaction_fields {txn : RawTransaction}
    (h : parseTransactionCompleted text maps.prices eventId occurredAt (.ok txn) = .ok ev) :
    ev.currentPeriodEnd = (Resource.transaction txn).period ∧
      ev.tier = ((Resource.transaction txn).known maps).getD tierFree := by
  simp only [parseTransactionCompleted] at h
  split_ifs at h
  cases h
  exact ⟨rfl, rfl⟩

theorem mapEvent_moneyOnly (hm : (Resource.subscription kind sub).moneyOnly)
    (h : Paddle.mapEvent text kind maps.prices sub = .ok mapped) :
    mapped.1 = (Paddle.knownPrice maps.prices sub.items).getD "" := by
  cases kind with
  | paused | pastDue =>
    unfold Paddle.mapEvent Paddle.tierFromSub at h
    cases hpr : Paddle.knownPrice maps.prices sub.items <;> simp only [hpr] at h <;> cases h <;> rfl
  | created | activated | updated | canceled | resumed | transactionCompleted => cases hm

theorem parseSubscription_fields
    (h : parseSubscription text maps.prices kind eventId occurredAt (.ok sub) = .ok ev) :
    ev.currentPeriodEnd = (Resource.subscription kind sub).period ∧
      ((Resource.subscription kind sub).moneyOnly →
        ev.tier = ((Resource.subscription kind sub).known maps).getD "") := by
  simp only [parseSubscription] at h
  split at h
  · cases h
  · split at h
    · cases h
    · next _ hmap =>
      cases h
      exact ⟨rfl, fun hm => mapEvent_moneyOnly text hm hmap⟩

theorem lemonMapEvent_moneyOnly {name : LemonSqueezy.EventName} {env : LemonSqueezy.RawWebhook}
    (hm : (Resource.lemonSqueezy name env).moneyOnly)
    (h : LemonSqueezy.mapEvent text name maps.variants env.attributes = .ok mapped) :
    mapped.1 = (LemonSqueezy.knownVariant maps.variants env.attributes).getD "" := by
  cases name with
  | paymentSuccess | paymentFailed | paymentRefunded | paused =>
    unfold LemonSqueezy.mapEvent LemonSqueezy.tierFromVariant at h
    cases hvar : LemonSqueezy.knownVariant maps.variants env.attributes <;>
      simp only [hvar] at h <;> cases h <;> rfl
  | created | updated | cancelled | resumed | expired | unpaused => cases hm

theorem applyPaymentMetadata_fields (name : EventName) (a : RawAttributes)
    (ne : NormalizedEvent) :
    (applyPaymentMetadata text name a ne).currentPeriodEnd = ne.currentPeriodEnd ∧
      (applyPaymentMetadata text name a ne).tier = ne.tier := by
  unfold applyPaymentMetadata
  split
  · exact ⟨rfl, rfl⟩
  · exact ⟨rfl, rfl⟩

theorem parse_fields {d : Delivery} {res : Resource} (hres : d.resource text = some res)
    (h : d.parse text maps now = .ok ev) :
    ev.currentPeriodEnd = res.period ∧
      (res.moneyOnly → ev.tier = (res.known maps).getD res.fallback) := by
  cases d with
  | paddle header body =>
    cases body with
    | error e => cases hres
    | ok env =>
      simp only [Delivery.parse, Paddle.parse] at h
      simp only [Delivery.resource] at hres
      split at h
      · cases h
      · cases hkind : Paddle.isHandledEvent (text.lower (trimSpace env.eventType)) with
        | none => rw [hkind] at hres; cases hres
        | some kind =>
          rw [hkind] at hres h
          cases kind with
          | transactionCompleted =>
            obtain ⟨txn, htxn, rfl⟩ := map_eq_some_iff.mp hres
            cases htra : env.transaction with
            | error e => rw [htra] at htxn; cases htxn
            | ok _ =>
              rw [htra] at htxn h
              cases htxn
              exact ⟨(parseTransaction_fields text h).1,
                fun _ => (parseTransaction_fields text h).2⟩
          | created | activated | updated | canceled | paused | resumed | pastDue =>
            obtain ⟨sub, hsub, rfl⟩ := map_eq_some_iff.mp hres
            cases hdata : env.subscription with
            | error e => rw [hdata] at hsub; cases hsub
            | ok _ =>
              rw [hdata] at hsub h
              cases hsub
              exact parseSubscription_fields text h
  | lemonSqueezy header body =>
    cases body with
    | error e => cases hres
    | ok env =>
      obtain ⟨name, hna, rfl⟩ := map_eq_some_iff.mp hres
      simp only [Delivery.parse, LemonSqueezy.parse, hna] at h
      split_ifs at h
      split at h
      · cases h
      · next _ hmap =>
        cases h
        have hfie := applyPaymentMetadata_fields text name env.attributes
        refine ⟨(hfie _).1, ?_⟩
        intro hm
        rw [(hfie _).2]
        exact lemonMapEvent_moneyOnly text hm hmap

end Parsed

section Target

variable {ev ev' : NormalizedEvent} {db : Db} {r : Subscription}

def NormalizedEvent.target (ev : NormalizedEvent) (db : Db) : Option Subscription :=
  match resolveUserID noFaults db.subscriptions ev with
  | .error _ => none
  | .ok ev' =>
    if ev'.userId ≠ "" ∧ ev'.fresh db = true then
      (db.subscriptions.get ev'.userId).filter (·.eventTimestamp ≤ stored ev'.eventTimestamp)
    else none

theorem resolve_spec {t : SubscriptionTable} (h : resolveUserID noFaults t ev = .ok ev')
    (hg : t.get ev'.userId = some r) :
    ev'.currentPeriodEnd = ev.currentPeriodEnd ∧
      ev'.tier = if ev.userId = "" ∧ ev.tier = "" then r.tier else ev.tier := by
  revert h
  fun_cases resolveUserID noFaults t ev
  all_goals rintro ⟨⟩
  · next hnam => exact ⟨rfl, (if_neg (fun hblk => hnam hblk.1)).symm⟩
  · next hblk _ _ existing hfnd =>
    -- the row found is the row of its user
    have hm : existing ∈ t.rows := List.mem_of_find?_eq_some hfnd
    rw [t.get_key hm] at hg
    cases hg
    simp [not_not.mp hblk]

theorem target_get (h : ev.target db = some r) : db.subscriptions.get r.userId = some r := by
  revert h
  fun_cases target ev db
  any_goals rintro ⟨⟩
  intro h
  obtain ⟨hg, -⟩ := filter_eq_some_iff.mp h
  rw [Keyed.key_of_get hg]
  exact hg

theorem handleEvent_target (text : CaseMap) (usage : Bool) (h : ev.target db = some r) :
    ∃ r', (handleEvent text usage noFaults ev db).db.subscriptions.get r.userId = some r' ∧
      r'.currentPeriodEnd = ev.currentPeriodEnd.map stored ∧
      r'.tier = if ev.userId = "" ∧ ev.tier = "" then r.tier else ev.tier := by
  revert h
  fun_cases target ev db
  any_goals rintro ⟨⟩
  next ev' hres hgo =>
    intro h
    obtain ⟨hg, hle⟩ := filter_eq_some_iff.mp h
    have hu : r.userId = ev'.userId := Keyed.key_of_get hg
    have hcur : ev'.current db.subscriptions := by
      rw [current, hg]
      exact hle
    obtain ⟨hper, hti⟩ := resolve_spec hres hg
    refine ⟨ev'.written db.subscriptions, ?_, ?_, hti⟩
    · rw [handleEvent_db, hres]
      simp only [hgo, and_self, if_true, ne_eq, not_false_eq_true]
      rw [committed_get, if_pos ⟨hcur, hu.symm⟩]
    · rw [← hper]
      rfl

theorem handleEvent_others (text : CaseMap) (usage : Bool) {u : String}
    (hg : db.subscriptions.get u = some r) (h : ev.target db ≠ some r) :
    (handleEvent text usage noFaults ev db).db.subscriptions.get u = some r := by
  unfold target at h
  rw [handleEvent_db]
  split
  · exact hg
  · next _ hres =>
    rw [hres] at h
    split
    · next hgo =>
      rw [committed_get, if_neg, hg]
      rintro ⟨hcur, rfl⟩
      refine h ?_
      simp only [hgo, and_self, if_true, ne_eq, not_false_eq_true, hg]
      rw [current, hg] at hcur
      exact filter_eq_some_iff.mpr ⟨rfl, hcur⟩
    · exact hg

end Target

section Keeping

variable (text : CaseMap) (usage : Bool) {maps : TierMaps} {now : Int}

def KeepsEntitlement (maps : TierMaps) (res : Resource) (before after : SubscriptionTable) : Prop :=
  ∀ u r, before.get u = some r → ∃ r', after.get u = some r' ∧
    (res.period = none → r'.currentPeriodEnd = r.currentPeriodEnd) ∧
    (res.known maps = none → r'.tier = r.tier)

def Spared (maps : TierMaps) (res : Resource) (ev : NormalizedEvent) (r : Subscription) : Prop :=
  (res.period = none → r.currentPeriodEnd = none) ∧
    (res.known maps = none → r.tier = res.fallback ∨ (ev.userId = "" ∧ res.fallback = ""))

theorem money_only_keeps_entitlement_iff {d : Delivery} {res : Resource} {ev : NormalizedEvent}
    (db : Db) (hres : d.resource text = some res) (hmoney : res.moneyOnly = true)
    (hparse : d.parse text maps now = .ok ev) :
    KeepsEntitlement maps res db.subscriptions
        (handleEvent text usage noFaults ev db).db.subscriptions ↔
      ∀ r, ev.target db = some r → Spared maps res ev r := by
  obtain ⟨hper, hti⟩ := parse_fields text hres hparse
  specialize hti hmoney
  constructor
  · intro hkp r htgt
    obtain ⟨r', hg', hend', hti'⟩ := handleEvent_target text usage htgt
    have hg : db.subscriptions.get r.userId = some r := target_get htgt
    obtain ⟨r'', hg'', hsm, htsa⟩ := hkp r.userId r hg
    rw [hg'] at hg''
    cases hg''
    refine ⟨?_, ?_⟩
    · intro hno
      rw [← hsm hno, hend', hper, hno, map_none]
    · intro hunk
      have hkept := htsa hunk
      rw [hti', hti, hunk] at hkept
      split at hkept
      · next hloo => exact .inr hloo
      · exact .inl hkept.symm
  · intro hspa u r hg
    by_cases htgt : ev.target db = some r
    · obtain ⟨r', hg', hend', hti'⟩ := handleEvent_target text usage htgt
      have hu : r.userId = u := Keyed.key_of_get hg
      obtain ⟨hnoe, hntr⟩ := hspa r htgt
      refine ⟨r', hu ▸ hg', ?_, ?_⟩
      · intro hno
        rw [hend', hper, hno, map_none, hnoe hno]
      · intro hunk
        rw [hti', hti, hunk]
        split
        · rfl
        · next hnot =>
          rcases hntr hunk with hsm | hloo
          · exact hsm.symm
          · exact absurd hloo hnot
    · exact ⟨r, handleEvent_others text usage hg htgt, fun _ => rfl, fun _ => rfl⟩

def managedRow : Subscription where
  userId := "u1"
  tier := tierProManaged
  status := .active
  paymentProvider := some Paddle.provider
  providerSubscriptionId := some "sub_1"
  currentPeriodEnd := some 9000000
  eventTimestamp := 1000000

def completedPayment (customData : CustomData) : Delivery :=
  .paddle "ntf_1"
    (.ok
      { eventType := "transaction.completed", occurredAt := 2000000
        transaction := .ok
          { subscriptionId := "sub_1", customData := customData, items := ["pri_addon"] } })

def afterDelivery (d : Delivery) (row : Subscription) : Option Subscription :=
  match d.parse asciiCaseMap sampleMaps 0 with
  | .error _ => none
  | .ok ev =>
    (handleEvent asciiCaseMap true noFaults ev (oneRow row)).db.subscriptions.get row.userId

theorem completed_payment_erases_entitlement :
    (managedRow.tier, managedRow.currentPeriodEnd) = ("pro_managed", some 9000000) ∧
      (afterDelivery (completedPayment [("user_id", .text "u1")]) managedRow).map
        (fun r => (r.tier, r.currentPeriodEnd)) = some ("free", none) ∧
      (afterDelivery (completedPayment []) managedRow).map
        (fun r => (r.tier, r.currentPeriodEnd)) = some ("free", none) := by
  decide +kernel

def failedInvoice : LemonSqueezy.RawWebhook where
  eventId := "evt_7"
  dataId := "900"
  attributes := { subscriptionId := "4711", updatedAt := 2000000 }

def failedInvoiceEvent : NormalizedEvent where
  provider := LemonSqueezy.provider
  eventId := "evt_7"
  eventName := "subscription_payment_failed"
  eventTimestamp := 2000000
  userId := ""
  providerCustomerId := ""
  providerSubscriptionId := "4711"
  tier := ""
  status := .pastDue

def openEndedRow : Subscription where
  userId := "u2"
  tier := tierProBYOK
  status := .active
  paymentProvider := some LemonSqueezy.provider
  providerSubscriptionId := some "4711"
  eventTimestamp := 1000000

theorem failed_invoice_keeps_entitlement :
    failedInvoiceEvent.target (oneRow openEndedRow) = some openEndedRow ∧
      KeepsEntitlement sampleMaps (.lemonSqueezy .paymentFailed failedInvoice)
        (oneRow openEndedRow).subscriptions
        (handleEvent asciiCaseMap true noFaults failedInvoiceEvent
          (oneRow openEndedRow)).db.subscriptions := by
  have htgt : failedInvoiceEvent.target (oneRow openEndedRow) = some openEndedRow := by
    decide +kernel
  have hres : (Delivery.lemonSqueezy "subscription_payment_failed" (.ok failedInvoice)).resource
      asciiCaseMap = some (.lemonSqueezy .paymentFailed failedInvoice) := by
    decide +kernel
  have hpar : (Delivery.lemonSqueezy "subscription_payment_failed" (.ok failedInvoice)).parse
      asciiCaseMap sampleMaps 0 = .ok failedInvoiceEvent := by
    decide +kernel
  refine ⟨htgt, ?_⟩
  refine (money_only_keeps_entitlement_iff asciiCaseMap true _ hres rfl hpar).mpr ?_
  intro r hr
  cases hr
  exact ⟨fun _ => rfl, fun _ => .inr ⟨rfl, rfl⟩⟩

end Keeping

end ETradie.Billing
