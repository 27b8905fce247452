import ETradie.Billing.Usage

namespace ETradie.Billing

open Kernel

abbrev Tier := String

def tierFree : Tier := "free"

def tierProBYOK : Tier := "pro_byok"

def tierProManaged : Tier := "pro_managed"

def isValidTier (t : Tier) : Bool := t == tierFree || t == tierProBYOK || t == tierProManaged

inductive Status where
  | active | pastDue | paused | canceled | refunded | unpaid | expired
deriving DecidableEq

def Status.label : Status → String
  | .active => "active"
  | .pastDue => "past_due"
  | .paused => "paused"
  | .canceled => "canceled"
  | .refunded => "refunded"
  | .unpaid => "unpaid"
  | .expired => "expired"

structure NormalizedEvent where
  (provider eventId eventName : String)
  eventTimestamp : Int
  (userId providerCustomerId providerSubscriptionId : String)
  currentPeriodEnd : Option Int := none
  tier : Tier
  status : Status
  amountCents : Option Int64 := none
  (currency invoiceURL cardBrand cardLast4 : Option String := none)
  (cardExpMonth cardExpYear : Option Int := none)
deriving DecidableEq

def stringPtr (s : String) : Option String := if s = "" then none else some s

def parseInt64 (s : String) : Option Int64 :=
  let signed := fun (sign : Int) (digits : List Char) =>
    if digits.isEmpty || !digits.all Char.isDigit then none
    else word? (sign * (digits.foldl (fun n c => 10 * n + (c.toNat - 48)) 0 : Nat))
  match s.toList with
  | '-' :: digits => signed (-1) digits
  | '+' :: digits => signed 1 digits
  | digits => signed 1 digits

example : parseInt64 "-0999" = some (-999) := by decide +kernel

inductive CustomValue where
  | text (s : String)
  | number (literal : String)
  | other
deriving DecidableEq

abbrev CustomData := List (String × CustomValue)

abbrev TierMap := List (String × Tier)

def TierMap.known (m : TierMap) (id : String) : Option Tier :=
  match m.lookup id with
  | some tier => if isValidTier tier then some tier else none
  | none => none

variable (text : CaseMap)

namespace Paddle

def provider : String := "paddle"

def errUnsupportedEvent : String := "paddle: unsupported event type"

def errMissingEventID : String := "paddle: missing notification id"

def errMissingUserID : String := "paddle: missing custom_data.user_id"

def errUnknownPrice : String := "paddle: unknown price id"

def errInvalidPayload : String := "paddle: invalid payload"

inductive EventType where
  | created | activated | updated | canceled | paused | resumed | pastDue
  | transactionCompleted
deriving DecidableEq

def EventType.label : EventType → String
  | .created => "subscription.created"
  | .activated => "subscription.activated"
  | .updated => "subscription.updated"
  | .canceled => "subscription.canceled"
  | .paused => "subscription.paused"
  | .resumed => "subscription.resumed"
  | .pastDue => "subscription.past_due"
  | .transactionCompleted => "transaction.completed"

def handledEvents : List EventType :=
  [.created, .activated, .updated, .canceled, .paused, .resumed, .pastDue, .transactionCompleted]

def isHandledEvent (t : String) : Option EventType := handledEvents.find? (·.label = t)

def normalizeEventName (t : String) : String :=
  String.ofList (t.toList.map (fun c => if c = '.' then '_' else c))

structure RawSubscription where
  (id status customerId : String := "")
  currentPeriodEndsAt : Option Int := none
  customData : CustomData := []
  items : List String := []
deriving DecidableEq

structure RawCard where
  (type last4 : String := "")
  (expiryMonth expiryYear : Int := 0)
deriving DecidableEq

structure MethodDetails where
  type : String := ""
  card : Option RawCard := none
deriving DecidableEq

structure RawTransaction where
  (subscriptionId customerId currencyCode : String := "")
  customData : CustomData := []
  total : Option String := none
  items : List String := []
  payments : List (Option MethodDetails) := []
deriving DecidableEq

structure RawNotification where
  (eventId notifId eventType : String := "")
  occurredAt : Int := zeroTime
  subscription : Except String RawSubscription := .ok {}
  transaction : Except String RawTransaction := .ok {}

def extractUserID (cd : CustomData) : String :=
  match cd.lookup "user_id" with
  | some (.text s) => trimSpace s
  | _ =>
    match cd.lookup "userId" with
    | some (.text s) => trimSpace s
    | _ => ""

def knownPrice (prices : TierMap) (items : List String) : Option Tier :=
  items.findSome? (fun id => if id = "" then none else prices.known id)

def tierFromSub (prices : TierMap) (sub : RawSubscription) : Except String Tier :=
  match knownPrice prices sub.items with
  | some tier => .ok tier
  | none => .error errUnknownPrice

def statusFromProvider (s : String) : Status :=
  match text.lower (trimSpace s) with
  | "active" => .active
  | "trialing" => .active
  | "past_due" => .pastDue
  | "paused" => .paused
  | "canceled" => .canceled
  | _ => .active

def mapEvent (eventType : EventType) (prices : TierMap) (sub : RawSubscription) :
    Except String (Tier × Status) :=
  match eventType with
  | .canceled => .ok (tierFree, .canceled)
  | .paused =>
    match tierFromSub prices sub with
    | .error _ => .ok ("", .paused)
    | .ok tier => .ok (tier, .paused)
  | .pastDue =>
    match tierFromSub prices sub with
    | .error _ => .ok ("", .pastDue)
    | .ok tier => .ok (tier, .pastDue)
  | .resumed | .activated | .created =>
    match tierFromSub prices sub with
    | .error e => .error e
    | .ok tier => .ok (tier, .active)
  | .updated =>
    match tierFromSub prices sub with
    | .error e => .error e
    | .ok tier => .ok (tier, statusFromProvider text sub.status)
  | .transactionCompleted => .error (errUnsupportedEvent ++ ": " ++ eventType.label)

def firstCard (payments : List (Option MethodDetails)) : Option RawCard :=
  payments.findSome? (fun p =>
    match p with
    | none => none
    | some m => if text.lower (trimSpace m.type) ≠ "card" then none else m.card)

def parseTransactionCompleted (prices : TierMap) (eventId : String) (occurredAt : Int)
    (data : Except String RawTransaction) : Except String NormalizedEvent :=
  match data with
  | .error e => .error (errInvalidPayload ++ ": " ++ e)
  | .ok txn =>
    let userId := extractUserID txn.customData
    if userId = "" ∧ txn.subscriptionId = "" then .error errMissingUserID
    else
      let amount := txn.total.bind (fun t => parseInt64 (trimSpace t))
      let card := firstCard text txn.payments
      .ok
        { provider := provider, eventId := eventId
          eventName := normalizeEventName EventType.transactionCompleted.label
          eventTimestamp := occurredAt, userId := userId, providerCustomerId := txn.customerId
          providerSubscriptionId := txn.subscriptionId
          tier := (knownPrice prices txn.items).getD tierFree, status := .active
          amountCents := amount
          currency := amount.bind (fun _ => stringPtr (text.upper (trimSpace txn.currencyCode)))
          cardBrand := card.bind (fun c => stringPtr (text.lower (trimSpace c.type)))
          cardLast4 := card.bind (fun c => stringPtr (trimSpace c.last4))
          cardExpMonth := card.bind (fun c =>
            if 0 < c.expiryMonth then some c.expiryMonth else none)
          cardExpYear := card.bind (fun c => if 0 < c.expiryYear then some c.expiryYear else none) }

def EventType.recoverable : EventType → Bool
  | .updated | .canceled | .paused | .resumed | .pastDue => true
  | _ => false

def parseSubscription (prices : TierMap) (eventType : EventType) (eventId : String)
    (occurredAt : Int) (data : Except String RawSubscription) : Except String NormalizedEvent :=
  match data with
  | .error e => .error (errInvalidPayload ++ ": " ++ e)
  | .ok sub =>
    let userId := extractUserID sub.customData
    if userId = "" ∧ !eventType.recoverable then .error errMissingUserID
    else
      match mapEvent text eventType prices sub with
      | .error e => .error e
      | .ok mapped =>
        .ok
          { provider := provider, eventId := eventId
            eventName := normalizeEventName eventType.label, eventTimestamp := occurredAt
            userId := userId, providerCustomerId := sub.customerId, providerSubscriptionId := sub.id
            currentPeriodEnd := sub.currentPeriodEndsAt.filter (· ≠ zeroTime), tier := mapped.1
            status := mapped.2 }

def notificationId (header : String) (env : RawNotification) : String :=
  if header ≠ "" then header else if env.notifId ≠ "" then env.notifId else env.eventId

def RawNotification.instant (env : RawNotification) (now : Int) : Int :=
  if env.occurredAt = zeroTime then now else env.occurredAt

def parse (prices : TierMap) (now : Int) (header : String)
    (body : Except String RawNotification) : Except String NormalizedEvent :=
  match body with
  | .error e => .error (errInvalidPayload ++ ": " ++ e)
  | .ok env =>
    let eventId := notificationId header env
    if eventId = "" then .error errMissingEventID
    else
      let occurredAt := env.instant now
      let label := text.lower (trimSpace env.eventType)
      match isHandledEvent label with
      | none => .error (errUnsupportedEvent ++ ": " ++ label)
      | some .transactionCompleted =>
        parseTransactionCompleted text prices eventId occurredAt env.transaction
      | some eventType =>
        parseSubscription text prices eventType eventId occurredAt env.subscription

end Paddle

namespace LemonSqueezy

def provider : String := "lemonsqueezy"

def errUnsupportedEvent : String := "lemonsqueezy: unsupported event type"

def errMissingEventID : String := "lemonsqueezy: missing event id"

def errMissingUserID : String := "lemonsqueezy: missing custom_data.user_id"

def errUnknownVariant : String := "lemonsqueezy: unknown variant id"

def errInvalidPayload : String := "lemonsqueezy: invalid payload"

inductive EventName where
  | created | updated | cancelled | resumed | expired | paused | unpaused
  | paymentSuccess | paymentFailed | paymentRefunded
deriving DecidableEq

def EventName.label : EventName → String
  | .created => "subscription_created"
  | .updated => "subscription_updated"
  | .cancelled => "subscription_cancelled"
  | .resumed => "subscription_resumed"
  | .expired => "subscription_expired"
  | .paused => "subscription_paused"
  | .unpaused => "subscription_unpaused"
  | .paymentSuccess => "subscription_payment_success"
  | .paymentFailed => "subscription_payment_failed"
  | .paymentRefunded => "subscription_payment_refunded"

def handledEvents : List EventName :=
  [.created, .updated, .cancelled, .resumed, .expired, .paused, .unpaused,
    .paymentSuccess, .paymentFailed, .paymentRefunded]

def isHandledEvent (name : String) : Option EventName := handledEvents.find? (·.label = name)

def isInvoiceEvent : EventName → Bool
  | .paymentSuccess | .paymentFailed | .paymentRefunded => true
  | _ => false

def canRecoverByProviderID : EventName → Bool
  | .created => false
  | _ => true

structure RawAttributes where
  (customerId variantId status : String := "")
  (renewsAt endsAt : Option Int := none)
  (createdAt updatedAt : Int := zeroTime)
  customData : CustomData := []
  (cardBrand cardLastFour subscriptionId currency total : String := "")
  refunded : Bool := false
  refundedAmount : String := ""
  invoiceURL : Option String := none
deriving DecidableEq

structure RawWebhook where
  eventId : String := ""
  customData : CustomData := []
  dataId : String := ""
  attributes : RawAttributes := {}
deriving DecidableEq

def extractUserID (cd : CustomData) : String :=
  match cd.lookup "user_id" with
  | some (.text s) => trimSpace s
  | some (.number n) => trimSpace n
  | _ =>
    match cd.lookup "userId" with
    | some (.text s) => trimSpace s
    | some (.number n) => trimSpace n
    | _ => ""

def knownVariant (variants : TierMap) (attrs : RawAttributes) : Option Tier :=
  let vid := trimSpace attrs.variantId
  if vid = "" then none else variants.known vid

def tierFromVariant (variants : TierMap) (attrs : RawAttributes) : Except String Tier :=
  match knownVariant variants attrs with
  | some tier => .ok tier
  | none => .error errUnknownVariant

def statusFromProvider (s : String) : Status :=
  match text.lower (trimSpace s) with
  | "active" => .active
  | "on_trial" => .active
  | "past_due" => .pastDue
  | "paused" => .paused
  | "cancelled" => .canceled
  | "canceled" => .canceled
  | "expired" => .expired
  | "unpaid" => .unpaid
  | _ => .active

def mapEvent (name : EventName) (variants : TierMap) (attrs : RawAttributes) :
    Except String (Tier × Status) :=
  match name with
  | .cancelled | .expired => .ok (tierFree, .canceled)
  | .paymentRefunded =>
    match tierFromVariant variants attrs with
    | .error _ => .ok ("", .refunded)
    | .ok tier => .ok (tier, .refunded)
  | .paused =>
    match tierFromVariant variants attrs with
    | .error _ => .ok ("", .paused)
    | .ok tier => .ok (tier, .paused)
  | .paymentFailed =>
    match tierFromVariant variants attrs with
    | .error _ => .ok ("", .pastDue)
    | .ok tier => .ok (tier, .pastDue)
  | .created | .resumed | .unpaused | .paymentSuccess =>
    match tierFromVariant variants attrs with
    | .error e => .error e
    | .ok tier => .ok (tier, .active)
  | .updated =>
    match tierFromVariant variants attrs with
    | .error e => .error e
    | .ok tier => .ok (tier, statusFromProvider text attrs.status)

def invoiceAmount (name : EventName) (a : RawAttributes) : Option Int64 :=
  let back := trimSpace a.refundedAmount
  let amount :=
    if name = .paymentRefunded ∧ a.refunded ∧ back ≠ "" ∧ back ≠ "0" then back
    else trimSpace a.total
  if amount = "" then none else parseInt64 amount

def applyPaymentMetadata (name : EventName) (a : RawAttributes) (ne : NormalizedEvent) :
    NormalizedEvent :=
  let carded :=
    { ne with
      cardBrand := stringPtr (text.lower (trimSpace a.cardBrand))
      cardLast4 := stringPtr (trimSpace a.cardLastFour) }
  if !isInvoiceEvent name then carded
  else
    let sid := trimSpace a.subscriptionId
    let amount := invoiceAmount name a
    { carded with
      providerSubscriptionId := if sid = "" then ne.providerSubscriptionId else sid
      amountCents := amount
      currency := amount.bind (fun _ => stringPtr (text.upper (trimSpace a.currency)))
      invoiceURL := a.invoiceURL.bind (fun u => stringPtr (trimSpace u)) }

def RawAttributes.periodEnd (a : RawAttributes) : Option Int :=
  match a.renewsAt.filter (· ≠ zeroTime) with
  | some t => some t
  | none => a.endsAt.filter (· ≠ zeroTime)

def RawAttributes.instant (a : RawAttributes) (now : Int) : Int :=
  if a.updatedAt ≠ zeroTime then a.updatedAt
  else if a.createdAt ≠ zeroTime then a.createdAt
  else now

def RawWebhook.userId (env : RawWebhook) : String :=
  let fromMeta := extractUserID env.customData
  if fromMeta = "" then extractUserID env.attributes.customData else fromMeta

def parse (variants : TierMap) (now : Int) (header : String)
    (body : Except String RawWebhook) : Except String NormalizedEvent :=
  let label := text.lower (trimSpace header)
  if label = "" then .error errUnsupportedEvent
  else
    match isHandledEvent label with
    | none => .error (errUnsupportedEvent ++ ": " ++ label)
    | some name =>
      match body with
      | .error e => .error (errInvalidPayload ++ ": " ++ e)
      | .ok env =>
        let eventId := trimSpace env.eventId
        if eventId = "" then .error errMissingEventID
        else if env.userId = "" ∧ !canRecoverByProviderID name then .error errMissingUserID
        else
          match mapEvent text name variants env.attributes with
          | .error e => .error e
          | .ok mapped =>
            .ok (applyPaymentMetadata text name env.attributes
              { provider := provider, eventId := eventId, eventName := label
                eventTimestamp := env.attributes.instant now, userId := env.userId
                providerCustomerId := env.attributes.customerId
                providerSubscriptionId := env.dataId, currentPeriodEnd := env.attributes.periodEnd
                tier := mapped.1, status := mapped.2 })

end LemonSqueezy

structure TierMaps where
  (prices variants : TierMap := [])
deriving DecidableEq

inductive Delivery where
  | paddle (header : String) (body : Except String Paddle.RawNotification)
  | lemonSqueezy (header : String) (body : Except String LemonSqueezy.RawWebhook)

def Delivery.parse (maps : TierMaps) (now : Int) : Delivery → Except String NormalizedEvent
  | .paddle header body => Paddle.parse text maps.prices now header body
  | .lemonSqueezy header body => LemonSqueezy.parse text maps.variants now header body

end ETradie.Billing
