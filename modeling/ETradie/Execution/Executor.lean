import ETradie.Execution.Models
import Mathlib.Logic.Function.Basic

namespace ETradie.Execution

open Kernel List

structure IdempotencyRecord where
  (userId idempotencyKey orderId symbol direction executionMode : String)
  (entryPrice stopLoss lotSize : ℚ)
  brokerOrderId : String := ""
  status : String := "CLAIMED"
  (fillPrice volumeFilled volumeRemaining : ℚ := 0)
deriving DecidableEq

abbrev IdempotencyTable := String → String → Option IdempotencyRecord

inductive StatementFate where
  | answered
  | lost
  | unreached
deriving DecidableEq

inductive InsertAnswer where
  | inserted
  | conflict
  | failed
deriving DecidableEq

def IdempotencyTable.insert (table : IdempotencyTable) (rec : IdempotencyRecord) :
    IdempotencyTable :=
  fun u k => if u = rec.userId ∧ k = rec.idempotencyKey then some rec else table u k

variable (fate : StatementFate)

def claimInsert (rec : IdempotencyRecord) (table : IdempotencyTable) :
    InsertAnswer × IdempotencyTable :=
  match fate with
  | .unreached => (.failed, table)
  | .lost =>
    match table rec.userId rec.idempotencyKey with
    | some _ => (.failed, table)
    | none => (.failed, table.insert rec)
  | .answered =>
    match table rec.userId rec.idempotencyKey with
    | some _ => (.conflict, table)
    | none => (.inserted, table.insert rec)

def fetch (fate : StatementFate) (userId key : String) (table : IdempotencyTable) :
    Except String IdempotencyRecord :=
  match fate with
  | .answered =>
    match table userId key with
    | some rec => .ok rec
    | none => .error "idempotency: fetch existing: no rows in result set"
  | _ => .error "idempotency: fetch existing: query failed"

structure IdempotencyClaim where
  firstClaim : Bool
  existing : Option IdempotencyRecord
deriving DecidableEq

def tryClaim (insertFate selectFate : StatementFate) (rec : IdempotencyRecord)
    (table : IdempotencyTable) : Except String IdempotencyClaim × IdempotencyTable :=
  if rec.userId = "" ∨ rec.idempotencyKey = "" then
    (.error "idempotency: user_id and idempotency_key are required", table)
  else
    match claimInsert insertFate rec table with
    | (.inserted, table') => (.ok ⟨true, none⟩, table')
    | (.failed, table') => (.error "idempotency: claim insert: query failed", table')
    | (.conflict, table') =>
      match fetch selectFate rec.userId rec.idempotencyKey table' with
      | .error e => (.error e, table')
      | .ok existing => (.ok ⟨false, some existing⟩, table')

def recordResult (userId key brokerOrderId : String) (status : OrderStatus)
    (fillPrice volumeFilled volumeRemaining : ℚ) (table : IdempotencyTable) : IdempotencyTable :=
  if userId = "" ∨ key = "" ∨ fate = .unreached then table
  else fun u k =>
    if u = userId ∧ k = key then
      (table u k).map (fun rec =>
        { rec with
          brokerOrderId := brokerOrderId, status := status.text, fillPrice := fillPrice
          volumeFilled := volumeFilled, volumeRemaining := volumeRemaining })
    else table u k

def priorPlacement (claim : Except String IdempotencyClaim) : Option IdempotencyRecord :=
  match claim with
  | .error _ => none
  | .ok c => if c.firstClaim then none else c.existing

def idempotencyKeyFor (order : Order) : String :=
  if order.idempotencyKey ≠ "" then order.idempotencyKey else order.orderId

def claimRecord (order : Order) : IdempotencyRecord :=
  { order with
    idempotencyKey := idempotencyKeyFor order, executionMode := order.executionMode.text
    brokerOrderId := "" }

structure Executor where
  hasStore : Bool := true
  maxOrderLatencyMs : Int := 5000
deriving DecidableEq

structure ExecutorState where
  table : IdempotencyTable
  (standing watchers : List Order)

def ExecutorState.init : ExecutorState where
  table := fun _ _ => none
  standing := []
  watchers := []

def arm (order : Order) (watchers : List Order) : List Order :=
  if watchers.any (·.watcherId = order.watcherId) then watchers else watchers ++ [order]

variable (e : Executor) (insertFate selectFate : StatementFate)

def claim (order : Order)
    (table : IdempotencyTable) : Option IdempotencyRecord × IdempotencyTable :=
  if e.hasStore then
    let (answer, table') := tryClaim insertFate selectFate (claimRecord order) table
    (priorPlacement answer, table')
  else (none, table)

structure LimitDraw where
  (insertFate selectFate recordFate : StatementFate := .answered)
  broker : OrderPlacement → Except String OrderResult
  (elapsedMs checkedMs : ℚ := 0)
  cancelOk : Bool := true

variable (draw : LimitDraw) (order : Order)

def isLate : Bool := e.maxOrderLatencyMs > 0 && draw.checkedMs > e.maxOrderLatencyMs

def limitPlacement : OrderPlacement where
  symbol := order.symbol
  direction := brokerDirection order.direction
  orderType := "LIMIT"
  price := order.entryPrice
  stopLoss := order.stopLoss
  takeProfit := order.brokerTakeProfit
  lotSize := order.lotSize
  comment := order.analysisId

def leavesOrder : Bool :=
  match draw.broker (limitPlacement order) with
  | .error _ => false
  | .ok result =>
    result.status ≠ "REJECTED" && !(isLate e draw && result.brokerOrderId ≠ "" && draw.cancelOk)

variable (s : ExecutorState)

def placeAtBroker :
    Except String ExecutionResult × ExecutorState :=
  let standing := if leavesOrder e draw order then s.standing ++ [order] else s.standing
  match draw.broker (limitPlacement order) with
  | .error err =>
    (.error ("executor: place limit order for " ++ order.symbol ++ ": " ++ err),
      { s with standing := standing })
  | .ok result =>
    if isLate e draw then
      (.ok {
        accepted := false
        status := .rejected
        rejectionReason := "latency_budget_exceeded: " ++ fixed 0 draw.elapsedMs ++ "ms > " ++
          toString e.maxOrderLatencyMs ++ "ms"
        order := order }, { s with standing := standing })
    else if result.status = "REJECTED" then
      (.ok {
        accepted := false
        status := .rejected
        rejectionReason := "broker rejected: " ++ result.errorMessage
        order := order }, { s with standing := standing })
    else
      let status : OrderStatus :=
        if result.status = "PARTIALLY_FILLED" then .partiallyFilled else .pending
      let placed := { order with brokerOrderId := result.brokerOrderId }
      let table :=
        if e.hasStore then
          recordResult draw.recordFate order.userId (idempotencyKeyFor order)
            result.brokerOrderId status result.fillPrice result.volumeFilled
            result.volumeRemaining s.table
        else s.table
      (.ok {
        accepted := true
        status := status
        orderId := order.orderId
        order := placed },
        { table := table, standing := standing, watchers := arm placed s.watchers })

def placeLimit :
    Except String ExecutionResult × ExecutorState :=
  let (prior, table) := claim e draw.insertFate draw.selectFate order s.table
  match prior with
  | some existing =>
    (.ok {
      accepted := true
      status := .duplicate
      rejectionReason := "duplicate idempotency key; returning prior placement"
      orderId := order.orderId
      order := { order with brokerOrderId := existing.brokerOrderId } },
      { s with table := table })
  | none => placeAtBroker e draw order { s with table := table }

def handleInstant (recordFate : StatementFate)
    (order : Order) (s : ExecutorState) : ExecutionResult × ExecutorState :=
  let (prior, table) := claim e insertFate selectFate order s.table
  match prior with
  | some existing =>
    ({
      accepted := true
      status := .duplicate
      rejectionReason := "duplicate idempotency key; watcher already armed for prior submission"
      orderId := existing.orderId
      order := order }, { s with table := table })
  | none =>
    let recorded :=
      if e.hasStore then
        recordResult recordFate order.userId (idempotencyKeyFor order) order.brokerOrderId
          .watching 0 0 0 table
      else table
    ({
      accepted := true
      status := .watching
      orderId := order.watcherId
      order := order },
      { s with table := recorded, watchers := arm order s.watchers })

structure Submission where
  order : Order
  draw : LimitDraw

def Submission.StoreAnswers (sub : Submission) : Prop :=
  sub.draw.insertFate = .answered ∧ sub.draw.selectFate = .answered ∧
    sub.draw.recordFate = .answered

def ClaimedAs (userId key : String) (order : Order) : Prop :=
  order.userId = userId ∧ idempotencyKeyFor order = key

def Truthful (order : Order) (answer : Except String ExecutionResult) : Prop :=
  ∀ r, answer = .ok r → r.accepted = true → r.status = .duplicate →
    ∃ o ∈ s.standing, ClaimedAs order.userId (idempotencyKeyFor order) o

def TruthfulRun (e : Executor) : List Submission → ExecutorState → Prop
  | [], _ => True
  | sub :: rest, s =>
    Truthful s sub.order (placeLimit e sub.draw sub.order s).1 ∧
      TruthfulRun e rest (placeLimit e sub.draw sub.order s).2

variable {table : IdempotencyTable}
variable {rec : IdempotencyRecord}

theorem claimInsert_fresh (hrow : table rec.userId rec.idempotencyKey = none) :
    claimInsert .answered rec table = (.inserted, table.insert rec) := by
  simp [claimInsert, hrow]

variable {existing : IdempotencyRecord}

theorem claimInsert_taken (hrow : table rec.userId rec.idempotencyKey = some existing) :
    claimInsert .answered rec table = (.conflict, table) := by
  simp [claimInsert, hrow]

variable {userId key : String}

theorem fetch_row (hrow : table userId key = some existing) :
    fetch .answered userId key table = .ok existing := by
  simp [fetch, hrow]

theorem insert_self (table : IdempotencyTable) (rec : IdempotencyRecord) :
    table.insert rec rec.userId rec.idempotencyKey = some rec := by
  simp [IdempotencyTable.insert]

theorem isSome_recordResult (userId key brokerOrderId : String)
    (status : OrderStatus) (fillPrice volumeFilled volumeRemaining : ℚ) (table : IdempotencyTable)
    (u k : String) :
    (recordResult fate userId key brokerOrderId status fillPrice volumeFilled volumeRemaining
      table u k).isSome = (table u k).isSome := by
  unfold recordResult
  split_ifs
  · rfl
  · dsimp only
    split_ifs
    · simp
    · rfl

variable {e} {order}

section Claims

theorem claim_unprotected
    (hoff : e.hasStore = false ∨ order.userId = "" ∨ idempotencyKeyFor order = "")
    (insertFate selectFate : StatementFate) :
    claim e insertFate selectFate order table = (none, table) := by
  unfold claim
  split_ifs with hstore
  · have hemp : (claimRecord order).userId = "" ∨ (claimRecord order).idempotencyKey = "" := by
      rcases hoff with hoff | hemp
      · rw [hstore] at hoff
        cases hoff
      · exact hemp
    rw [tryClaim, if_pos hemp]
    rfl
  · rfl

variable (hstore : e.hasStore = true)
variable (hnonempty : ¬ ((claimRecord order).userId = "" ∨ (claimRecord order).idempotencyKey = ""))
include hstore hnonempty

theorem claim_fresh (hrow : table order.userId (idempotencyKeyFor order) = none)
    (selectFate : StatementFate) :
    claim e .answered selectFate order table = (none, table.insert (claimRecord order)) := by
  have hins : claimInsert .answered (claimRecord order) table =
      (.inserted, table.insert (claimRecord order)) := claimInsert_fresh hrow
  rw [claim, if_pos hstore, tryClaim, if_neg hnonempty, hins]
  rfl

theorem claim_taken (hrow : table order.userId (idempotencyKeyFor order) = some existing) :
    claim e .answered .answered order table = (some existing, table) := by
  have hins : claimInsert .answered (claimRecord order) table = (.conflict, table) :=
    claimInsert_taken hrow
  have hfet : fetch .answered (claimRecord order).userId
      (claimRecord order).idempotencyKey table = .ok existing := fetch_row hrow
  rw [claim, if_pos hstore, tryClaim, if_neg hnonempty, hins]
  dsimp only
  rw [hfet]
  rfl

end Claims

variable {s} {draw}

theorem placeLimit_of_prior
    (h : claim e draw.insertFate draw.selectFate order s.table = (some existing, table)) :
    (∃ r, (placeLimit e draw order s).1 = .ok r ∧ r.accepted ∧ r.status = .duplicate) ∧
      (placeLimit e draw order s).2 = { s with table := table } := by
  rw [placeLimit, h]
  exact ⟨⟨_, rfl, rfl, rfl⟩, rfl⟩

theorem placeLimit_of_none
    (h : claim e draw.insertFate draw.selectFate order s.table = (none, table)) :
    placeLimit e draw order s = placeAtBroker e draw order { s with table := table } := by
  rw [placeLimit, h]

theorem placeAtBroker_spec (e : Executor) (draw : LimitDraw) (order : Order) (s : ExecutorState) :
    (∀ r, (placeAtBroker e draw order s).1 = .ok r → r.status ≠ .duplicate) ∧
      (placeAtBroker e draw order s).2.standing =
        (if leavesOrder e draw order then s.standing ++ [order] else s.standing) ∧
      ∀ u k, ((placeAtBroker e draw order s).2.table u k).isSome = (s.table u k).isSome := by
  unfold placeAtBroker
  cases hbrk : draw.broker (limitPlacement order) with
  | error _ => exact ⟨by simp, rfl, fun _ _ => rfl⟩
  | ok result =>
    dsimp only
    by_cases hla : isLate e draw = true
    · rw [if_pos hla]
      refine ⟨?_, rfl, fun _ _ => rfl⟩
      simp
    · rw [if_neg hla]
      by_cases hrej : result.status = "REJECTED"
      · rw [if_pos hrej]
        refine ⟨?_, rfl, fun _ _ => rfl⟩
        simp
      · rw [if_neg hrej]
        refine ⟨?_, rfl, ?_⟩
        · dsimp only
          split_ifs
          all_goals simp
        · intro u k
          split_ifs
          all_goals first
            | exact isSome_recordResult _ _ _ _ _ _ _ _ _ _ _
            | rfl

theorem truthful_placeAtBroker (e : Executor) (draw : LimitDraw) (order : Order)
    (s s' : ExecutorState) : Truthful s order (placeAtBroker e draw order s').1 := by
  intro r hr _ hsts
  exact absurd hsts ((placeAtBroker_spec e draw order s').1 r hr)

theorem truthfulRun_of_row (hstore : e.hasStore) (hnonempty : ¬ (userId = "" ∨ key = ""))
    (subs : List Submission) (s : ExecutorState)
    (hsm : ∀ sub ∈ subs, ClaimedAs userId key sub.order)
    (hans : ∀ sub ∈ subs, sub.StoreAnswers) (hrow : (s.table userId key).isSome) :
    TruthfulRun e subs s ↔ subs = [] ∨ ∃ o ∈ s.standing, ClaimedAs userId key o := by
  induction subs generalizing s with
  | nil => simp [TruthfulRun]
  | cons sub _ ih =>
    obtain ⟨existing, hexisting⟩ := Option.isSome_iff_exists.mp hrow
    obtain ⟨rfl, rfl⟩ := hsm sub mem_cons_self
    obtain ⟨hins, hsel, -⟩ := hans sub mem_cons_self
    have hclm : claim e sub.draw.insertFate sub.draw.selectFate sub.order s.table =
        (some existing, s.table) := by
      rw [hins, hsel]
      exact claim_taken hstore hnonempty hexisting
    obtain ⟨⟨r, hr, hacp, hsts⟩, hst⟩ := placeLimit_of_prior hclm
    have hrs := ih s (fun other h => hsm other (mem_cons_of_mem _ h))
      (fun other h => hans other (mem_cons_of_mem _ h)) hrow
    have hstep : (placeLimit e sub.draw sub.order s).2 = s := hst
    rw [TruthfulRun, hstep, hrs]
    constructor
    · rintro ⟨htru, -⟩
      exact .inr (htru r hr hacp hsts)
    · rintro (hnil | hstd)
      · cases hnil
      · exact ⟨fun _ _ _ _ => hstd, .inr hstd⟩

theorem truthfulRun_unprotected (hoff : e.hasStore = false ∨ userId = "" ∨ key = "")
    (subs : List Submission) (s : ExecutorState)
    (hsm : ∀ sub ∈ subs, ClaimedAs userId key sub.order) : TruthfulRun e subs s := by
  induction subs generalizing s with
  | nil => trivial
  | cons sub _ ih =>
    obtain ⟨rfl, rfl⟩ := hsm sub mem_cons_self
    have hclm : claim e sub.draw.insertFate sub.draw.selectFate sub.order s.table =
        (none, s.table) := claim_unprotected hoff _ _
    refine ⟨?_, ih _ (fun other h => hsm other (mem_cons_of_mem _ h))⟩
    rw [placeLimit_of_none hclm]
    exact truthful_placeAtBroker _ _ _ _ _

theorem placeLimit_first {sub : Submission} (hstore : e.hasStore)
    (hnonempty : ¬ (sub.order.userId = "" ∨ idempotencyKeyFor sub.order = ""))
    (hans : sub.StoreAnswers)
    (hrow : s.table sub.order.userId (idempotencyKeyFor sub.order) = none)
    (hstd : ∀ o ∈ s.standing, ¬ ClaimedAs sub.order.userId (idempotencyKeyFor sub.order) o) :
    Truthful s sub.order (placeLimit e sub.draw sub.order s).1 ∧
      ((placeLimit e sub.draw sub.order s).2.table sub.order.userId
        (idempotencyKeyFor sub.order)).isSome ∧
      ((∃ o ∈ (placeLimit e sub.draw sub.order s).2.standing,
          ClaimedAs sub.order.userId (idempotencyKeyFor sub.order) o) ↔
        leavesOrder e sub.draw sub.order) := by
  have hclm : claim e sub.draw.insertFate sub.draw.selectFate sub.order s.table =
      (none, s.table.insert (claimRecord sub.order)) := by
    rw [hans.1]
    exact claim_fresh hstore hnonempty hrow _
  obtain ⟨-, hlf, hrw⟩ := placeAtBroker_spec e sub.draw sub.order
    { s with table := s.table.insert (claimRecord sub.order) }
  rw [placeLimit_of_none hclm]
  refine ⟨truthful_placeAtBroker _ _ _ _ _, ?_, ?_⟩
  · rw [hrw]
    exact Option.isSome_iff_exists.mpr ⟨_, insert_self s.table (claimRecord sub.order)⟩
  · rw [hlf]
    constructor
    · rintro ⟨o, ho, hcla⟩
      by_contra hno
      rw [if_neg hno] at ho
      exact hstd o ho hcla
    · intro hlea
      rw [if_pos hlea]
      exact ⟨sub.order, mem_append_right _ mem_cons_self, rfl, rfl⟩

theorem truthfulRun_iff (e : Executor) (userId key : String) (subs : List Submission)
    (s : ExecutorState) (hsame : ∀ sub ∈ subs, ClaimedAs userId key sub.order)
    (hanswers : ∀ sub ∈ subs, sub.StoreAnswers) (hrow : s.table userId key = none)
    (hstanding : ∀ o ∈ s.standing, ¬ ClaimedAs userId key o) :
    TruthfulRun e subs s ↔
      (e.hasStore = false ∨ userId = "" ∨ key = "") ∨ subs.length ≤ 1 ∨
        ∃ first ∈ subs.head?, leavesOrder e first.draw first.order = true := by
  by_cases hoff : e.hasStore = false ∨ userId = "" ∨ key = ""
  · simp [hoff, truthfulRun_unprotected hoff subs s hsame]
  · have hstore : e.hasStore = true := by
      by_contra hno
      exact hoff (.inl (by simpa using hno))
    have hnonempty : ¬ (userId = "" ∨ key = "") := fun hemp => hoff (.inr hemp)
    cases subs with
    | nil => simp [TruthfulRun]
    | cons sub rest =>
      obtain ⟨rfl, rfl⟩ := hsame sub mem_cons_self
      obtain ⟨htru, hrow', hlf⟩ := placeLimit_first hstore hnonempty
        (hanswers sub mem_cons_self) hrow hstanding
      have hrs := truthfulRun_of_row hstore hnonempty rest _
        (fun other h => hsame other (mem_cons_of_mem _ h))
        (fun other h => hanswers other (mem_cons_of_mem _ h)) hrow'
      rw [TruthfulRun, hrs, hlf]
      simp [hoff, htru]

def retried (broker : Except String OrderResult) : Submission where
  order :=
    { orderId := "ORD_1", symbol := "EURUSD", direction := directionLong, executionMode := .limit
      idempotencyKey := "k1", entryPrice := 1.1, stopLoss := 1.09, lotSize := 0.33
      watcherId := "LMT_1", userId := "u1" }
  draw := { broker := fun _ => broker }

def accepted : Except String OrderResult := .ok { brokerOrderId := "77", status := "PLACED" }

theorem truthfulRun_accepted_then_retried :
    TruthfulRun {} [retried accepted, retried accepted] ExecutorState.init := by
  refine (truthfulRun_iff {} "u1" "k1" [retried accepted, retried accepted] ExecutorState.init
    ?_ ?_ rfl ?_).mpr (.inr (.inr ⟨retried accepted, rfl, by decide +kernel⟩))
  · intro sub hsub
    obtain rfl : sub = retried accepted := by simpa using hsub
    exact ⟨rfl, rfl⟩
  · intro sub hsub
    obtain rfl : sub = retried accepted := by simpa using hsub
    exact ⟨rfl, rfl, rfl⟩
  · intro o ho
    cases ho

def afterTimeout : ExecutorState :=
  (placeLimit {} (retried (.error "timeout")).draw (retried (.error "timeout")).order
    ExecutorState.init).2

theorem retry_after_timeout_untruthful :
    (placeLimit {} (retried accepted).draw (retried accepted).order afterTimeout).1.toOption.map
        (fun r => (r.accepted, r.status)) = some (true, .duplicate) ∧
      afterTimeout.standing = [] ∧
      ¬ TruthfulRun {} [retried (.error "timeout"), retried accepted] ExecutorState.init := by
  have hans : (placeLimit {} (retried accepted).draw (retried accepted).order
      afterTimeout).1.toOption.map (fun r => (r.accepted, r.status)) = some (true, .duplicate) := by
    decide +kernel
  have hemp : afterTimeout.standing = [] := by decide +kernel
  refine ⟨hans, hemp, ?_⟩
  rintro ⟨-, htru, -⟩
  cases hres : (placeLimit {} (retried accepted).draw (retried accepted).order afterTimeout).1 with
  | error _ =>
    rw [hres] at hans
    cases hans
  | ok r =>
    rw [hres] at hans
    have hr : r.accepted = true ∧ r.status = .duplicate := by simpa [Except.toOption] using hans
    obtain ⟨o, ho, -⟩ := htru r hres hr.1 hr.2
    have hno : o ∈ afterTimeout.standing := ho
    cases hno

end ETradie.Execution
