import ETradie.Execution.WatcherStore
import ETradie.Kernel.Runs

namespace ETradie.Execution

open Kernel

structure TickPrice where
  (bid ask : ℚ)
deriving DecidableEq

variable (order : Order)

def safeMargin : ℚ :=
  |order.entryPrice - order.stopLoss| * (1 / 10)

def withinTolerance (price : ℚ) : Bool :=
  order.entryPrice - order.overshootTolerance ≤ price &&
    price ≤ order.entryPrice + order.overshootTolerance

def isPriceInZone (tick : TickPrice) : Bool :=
  if order.direction = directionLong then
    withinTolerance order tick.ask &&
      !(decide (0 < order.stopLoss) && tick.ask ≤ order.stopLoss + safeMargin order)
  else if order.direction = directionShort then
    withinTolerance order tick.bid &&
      !(decide (0 < order.stopLoss) && order.stopLoss - safeMargin order ≤ tick.bid)
  else false

def marketPlacement : OrderPlacement where
  symbol := order.symbol
  direction := brokerDirection order.direction
  orderType := "MARKET"
  price := 0
  stopLoss := order.stopLoss
  takeProfit := order.brokerTakeProfit
  lotSize := order.lotSize
  comment := order.analysisId

def realizedRisk (fillPrice : ℚ) : ℚ :=
  let sizedDist := |order.entryPrice - order.stopLoss|
  let realizedDist := |fillPrice - order.stopLoss|
  if 0 < fillPrice ∧ 0 < order.stopLoss ∧ 0 < sizedDist ∧ 0 < realizedDist ∧
      0 < order.riskAmount then
    order.riskAmount * (realizedDist / sizedDist)
  else order.riskAmount

inductive FireOutcome where
  /-- The call failed; the claim under this key is cleared. -/
  | failed (idemKey : String)
  | rejected (reason : String)
  | filled (order : Order) (fillPrice : ℚ)
deriving DecidableEq

def fireOutcome (reply : Except String OrderResult) : FireOutcome :=
  match reply with
  | .error _ => .failed (idempotencyKeyFor order)
  | .ok result =>
    if result.status = "REJECTED" then .rejected result.errorMessage
    else
      .filled { order with
        brokerOrderId := result.brokerOrderId
        riskAmount := realizedRisk order result.fillPrice } result.fillPrice

inductive InstantPhase where
  | polling
  | confirming
  | firing
  | stopped
deriving DecidableEq

structure SentOrder where
  placement : OrderPlacement
  tick : Option TickPrice
deriving DecidableEq

structure InstantWatcher where
  phase : InstantPhase
  (slot since : Option TickPrice := none)
  sent : List SentOrder := []
  outcome : Option FireOutcome := none
deriving DecidableEq

def InstantWatcher.init : InstantWatcher where
  phase := if order.ltfConfirmed then .firing else .polling

inductive InstantAction where
  /-- The poller of the pair caches a tick. -/
  | tick (t : TickPrice)
  /-- The watcher's ticker fires. -/
  | poll
  /-- `ConfirmSetupWithParams` returns. -/
  | confirm (answer : Except String Bool)
  /-- `fireMarketOrder`, with the kill switch as read and the broker's reply. -/
  | fire (halted : Bool) (reply : Except String OrderResult)
  /-- Deadline, external disarm or shutdown. -/
  | stop

variable (w : InstantWatcher)

def instantStep : InstantAction → Option InstantWatcher
  | .tick t => some { w with slot := some t, since := some t }
  | .poll =>
    if w.phase = .polling then
      match w.slot with
      | none => some w
      | some t =>
        if isPriceInZone order t then some { w with phase := .confirming, since := none }
        else some w
    else none
  | .confirm answer =>
    if w.phase = .confirming then
      match answer with
      | .ok true => some { w with phase := .firing }
      | _ => some w
    else none
  | .fire halted reply =>
    if w.phase = .firing then
      if halted then some { w with phase := .stopped }
      else
        some { w with
          phase := .stopped
          sent := w.sent ++ [⟨marketPlacement order, w.slot⟩]
          outcome := some (fireOutcome order reply) }
    else none
  | .stop =>
    if w.phase = .polling ∨ w.phase = .confirming then some { w with phase := .stopped }
    else none

def SentInZone : Prop := ∀ o ∈ w.sent, ∃ t, o.tick = some t ∧ isPriceInZone order t = true

def StillInZone : InstantAction → Prop
  | .fire false _ => w.since.all (isPriceInZone order) = true
  | _ => True

instance (order : Order) : ∀ w a, Decidable (StillInZone order w a)
  | w, .fire false _ => inferInstanceAs (Decidable (w.since.all (isPriceInZone order) = true))
  | _, .fire true _ => isTrue trivial
  | _, .tick _ => isTrue trivial
  | _, .poll => isTrue trivial
  | _, .confirm _ => isTrue trivial
  | _, .stop => isTrue trivial

variable {order}
variable {w' : InstantWatcher} {w}

theorem instantStep_poll (h : instantStep order w .poll = some w') :
    w.phase = .polling ∧ (w' = w ∨ ∃ t, w.slot = some t ∧ isPriceInZone order t ∧
      w' = { w with phase := .confirming, since := none }) := by
  simp only [instantStep] at h
  by_cases hph : w.phase = .polling
  · rw [if_pos hph] at h
    refine ⟨hph, ?_⟩
    cases hslot : w.slot with
    | none =>
      rw [hslot] at h
      exact .inl (Option.some.inj h).symm
    | some t =>
      rw [hslot] at h
      by_cases hzn : isPriceInZone order t = true
      · simp only [hzn] at h
        exact .inr ⟨t, rfl, hzn, (Option.some.inj h).symm⟩
      · simp only [hzn] at h
        exact .inl (Option.some.inj h).symm
  · rw [if_neg hph] at h
    cases h

theorem instantStep_confirm {answer : Except String Bool}
    (h : instantStep order w (.confirm answer) = some w') :
    w.phase = .confirming ∧ (w' = w ∨ w' = { w with phase := .firing }) := by
  simp only [instantStep] at h
  by_cases hph : w.phase = .confirming
  · rw [if_pos hph] at h
    refine ⟨hph, ?_⟩
    match answer, h with
    | .ok true, h => exact .inr (Option.some.inj h).symm
    | .ok false, h => exact .inl (Option.some.inj h).symm
    | .error e, h => exact .inl (Option.some.inj h).symm
  · rw [if_neg hph] at h
    cases h

theorem instantStep_fire {halted : Bool} {reply : Except String OrderResult}
    (h : instantStep order w (.fire halted reply) = some w') :
    w.phase = .firing ∧ w'.phase = .stopped ∧
      w'.sent = if halted then w.sent else w.sent ++ [⟨marketPlacement order, w.slot⟩] := by
  simp only [instantStep] at h
  by_cases hph : w.phase = .firing
  · rw [if_pos hph] at h
    cases halted with
    | true | false =>
      have hw := Option.some.inj h
      subst hw
      exact ⟨hph, rfl, rfl⟩
  · rw [if_neg hph] at h
    cases h

theorem instantStep_stop (h : instantStep order w .stop = some w') :
    w' = { w with phase := .stopped } := by
  simp only [instantStep] at h
  split at h
  · exact (Option.some.inj h).symm
  · cases h

def Tested (order : Order) (w : InstantWatcher) : Prop :=
  w.phase = .confirming ∨ w.phase = .firing →
    ∃ t, w.slot = some t ∧ (w.since = some t ∨ (w.since = none ∧ isPriceInZone order t = true))

theorem tested_init (hpre : order.ltfConfirmed = false) :
    Tested order (InstantWatcher.init order) := by
  intro h
  simp [InstantWatcher.init, hpre] at h

theorem tested_step (hw : Tested order w) (a : InstantAction)
    (h : instantStep order w a = some w') : Tested order w' := by
  cases a with
  | tick t =>
    have hw' := Option.some.inj h
    subst hw'
    intro _
    exact ⟨t, rfl, .inl rfl⟩
  | poll =>
    obtain ⟨_, hsm | ⟨t, hslot, hzn, hnx⟩⟩ := instantStep_poll h
    · rw [hsm]
      exact hw
    · subst hnx
      intro _
      exact ⟨t, hslot, .inr ⟨rfl, hzn⟩⟩
  | confirm _ =>
    obtain ⟨hph, hsm | hnx⟩ := instantStep_confirm h
    · rw [hsm]
      exact hw
    · subst hnx
      intro _
      exact hw (.inl hph)
  | fire _ _ =>
    obtain ⟨_, hsto, _⟩ := instantStep_fire h
    intro hph
    rw [hsto] at hph
    rcases hph with h | h <;> cases h
  | stop =>
    rw [instantStep_stop h]
    intro hph
    rcases hph with h | h <;> cases h

theorem sentInZone_step_iff (hw : Tested order w) (hsn : SentInZone order w) (a : InstantAction)
    (h : instantStep order w a = some w') : SentInZone order w' ↔ StillInZone order w a := by
  cases a with
  | tick t =>
    have hw' := Option.some.inj h
    subst hw'
    exact iff_of_true hsn trivial
  | poll =>
    obtain ⟨_, hsm | ⟨t, _, _, hnx⟩⟩ := instantStep_poll h
    · rw [hsm]
      exact iff_of_true hsn trivial
    · subst hnx
      exact iff_of_true hsn trivial
  | confirm _ =>
    obtain ⟨_, hsm | hnx⟩ := instantStep_confirm h
    · rw [hsm]
      exact iff_of_true hsn trivial
    · subst hnx
      exact iff_of_true hsn trivial
  | fire halted _ =>
    obtain ⟨hph, _, hadd⟩ := instantStep_fire h
    obtain ⟨t, hslot, hsou⟩ := hw (.inr hph)
    cases halted with
    | true =>
      unfold SentInZone
      rw [hadd]
      exact iff_of_true hsn trivial
    | false =>
      have hn : SentInZone order w' ↔ isPriceInZone order t := by
        unfold SentInZone
        rw [hadd, hslot]
        constructor
        · intro hall
          obtain ⟨t', ht', hzn⟩ := hall ⟨marketPlacement order, some t⟩ (by simp)
          rw [Option.some.inj ht']
          exact hzn
        · intro hzn o ho
          rcases List.mem_append.mp ho with hold | hl
          · exact hsn o hold
          · rw [List.mem_singleton.mp hl]
            exact ⟨t, rfl, hzn⟩
      rw [hn]
      -- the tick of the moment is the one since the test, or the tested one itself
      rcases hsou with hsin | ⟨hno, hzn⟩
      · simp [StillInZone, hsin]
      · simp [StillInZone, hno, hzn]
  | stop =>
    rw [instantStep_stop h]
    exact iff_of_true hsn trivial

theorem sentInZone_throughout_iff (order : Order) (hpre : order.ltfConfirmed = false)
    (actions : List InstantAction) :
    Throughout (instantStep order) (SentInZone order) (InstantWatcher.init order) actions ↔
      Along (instantStep order) (StillInZone order) (InstantWatcher.init order) actions := by
  have hin : SentInZone order (InstantWatcher.init order) := by
    intro o ho
    cases ho
  exact throughout_iff_along (instantStep order)
    (fun _ a _ hw h => tested_step hw a h)
    (fun _ a _ hw hsn h => sentInZone_step_iff hw hsn a h)
    actions (tested_init hpre) hin

def zoneOrder : Order where
  orderId := "ORD_EURUSD_1"
  symbol := "EURUSD"
  direction := directionLong
  executionMode := .instant
  entryPrice := 11 / 10
  stopLoss := 109 / 100
  overshootTolerance := 1 / 1000
  lotSize := 1

def marketFill : Except String OrderResult :=
  .ok { brokerOrderId := "71", fillPrice := 11 / 10, status := "FILLED" }

def confirmedLate (between : List InstantAction) : List InstantAction :=
  [.tick ⟨1.0999, 1.1⟩, .poll, .confirm (.ok false)] ++ between ++
    [.confirm (.ok true), .fire false marketFill]

theorem sentInZone_quiet_market :
    Throughout (instantStep zoneOrder) (SentInZone zoneOrder) (InstantWatcher.init zoneOrder)
      (confirmedLate []) := by
  exact (sentInZone_throughout_iff zoneOrder rfl (confirmedLate [])).mpr (by decide +kernel)

theorem sent_below_stop :
    ((run (instantStep zoneOrder) (InstantWatcher.init zoneOrder)
        (confirmedLate [.tick ⟨1.0849, 1.085⟩])).map InstantWatcher.sent =
      some [⟨marketPlacement zoneOrder, some ⟨1.0849, 1.085⟩⟩]) ∧
      isPriceInZone zoneOrder ⟨1.0849, 1.085⟩ = false ∧ (1.085 : ℚ) < zoneOrder.stopLoss := by
  decide +kernel

end ETradie.Execution
