import ETradie.Execution.Executor
import ETradie.Kernel.Runs
import ETradie.Kernel.Tally

/-!
# Concurrent submissions of one key

A call inserts its claim, selects the existing row after a conflict, and answers as a duplicate or
goes on.  The row is not deleted while the calls run.  Whether all claim statements of a call were
answered is ghost state that no step reads.
-/

namespace ETradie.Execution

open Kernel

inductive ClaimPhase where
  | idle
  | conflicted
  | cleared
  | dispatched
  | duplicate (existing : IdempotencyRecord)
deriving DecidableEq

structure ClaimCall where
  phase : ClaimPhase := .idle
  /-- No claim statement of the call was left without an answer. -/
  answered : Bool := true
deriving DecidableEq

structure ClaimState (C : Type) where
  table : IdempotencyTable
  calls : C → ClaimCall

inductive ClaimAction (C : Type) where
  | insert (c : C) (fate : StatementFate)
  | select (c : C) (fate : StatementFate)
  | dispatch (c : C)
  | record (c : C) (fate : StatementFate) (brokerOrderId : String) (status : OrderStatus)
      (fillPrice volumeFilled volumeRemaining : ℚ)

variable (call : ClaimCall)

section Machine

variable {C : Type} [DecidableEq C]

def ClaimState.init (table : IdempotencyTable) : ClaimState C where
  table := table
  calls := fun _ => {}

/-- The call `c` goes on to phase `p`; `fate` is that of the claim statement it sent. -/
def ClaimState.moveTo (s : ClaimState C) (table : IdempotencyTable) (c : C) (p : ClaimPhase)
    (fate : StatementFate) : ClaimState C where
  table := table
  calls := Function.update s.calls c ⟨p, (s.calls c).answered && fate = .answered⟩

def isDispatchable (order : Order) : Bool :=
  order.executionMode = .limit || order.executionMode = .instant

def phaseAfterInsert : InsertAnswer → ClaimPhase
  | .inserted => .cleared
  | .conflict => .conflicted
  | .failed => .cleared

def phaseAfterSelect : Except String IdempotencyRecord → ClaimPhase
  | .ok existing => .duplicate existing
  | .error _ => .cleared

def claimStep (order : C → Order) (s : ClaimState C) :
    ClaimAction C → Option (ClaimState C)
  | .insert c fate =>
    if (s.calls c).phase = .idle ∧ isDispatchable (order c) = true then
      -- without a user or a key no statement is sent
      if (claimRecord (order c)).userId = "" ∨ (claimRecord (order c)).idempotencyKey = "" then
        some (s.moveTo s.table c .cleared .answered)
      else
        let (answer, table) := claimInsert fate (claimRecord (order c)) s.table
        some (s.moveTo table c (phaseAfterInsert answer) fate)
    else none
  | .select c fate =>
    if (s.calls c).phase = .conflicted then
      some (s.moveTo s.table c
        (phaseAfterSelect (fetch fate (order c).userId (idempotencyKeyFor (order c)) s.table)) fate)
    else none
  | .dispatch c =>
    if (s.calls c).phase = .cleared then some (s.moveTo s.table c .dispatched .answered) else none
  | .record c fate brokerOrderId status fillPrice volumeFilled volumeRemaining =>
    if (s.calls c).phase = .dispatched then
      some (s.moveTo (recordResult fate (order c).userId (idempotencyKeyFor (order c))
        brokerOrderId status fillPrice volumeFilled volumeRemaining s.table) c
        .dispatched .answered)
    else none

def ClaimCall.owns : Bool := call.answered && (call.phase = .cleared || call.phase = .dispatched)

def ClaimCall.isDispatched : Bool := call.phase = .dispatched

/-- The call placed its order or armed its watcher, and its `INSERT` and, after a conflict, its
`SELECT` were answered. -/
def ClaimCall.isAnsweredDispatch : Bool := call.answered && call.isDispatched

variable [Fintype C]

def owners (s : ClaimState C) : Nat := tally (fun c => (s.calls c).owns)

structure SingleOwner (userId key : String) (s : ClaimState C) : Prop where
  le_one : owners s ≤ 1
  row : owners s = 0 ∨ (s.table userId key).isSome = true
  taken : ∀ c, (s.calls c).phase = .conflicted → (s.table userId key).isSome = true

variable {userId key : String} {s t : ClaimState C} {table : IdempotencyTable} {c : C}
variable {p : ClaimPhase} {fate : StatementFate}

theorem owners_moveTo (s : ClaimState C) (table : IdempotencyTable) (c : C) (p : ClaimPhase)
    (fate : StatementFate) :
    owners (s.moveTo table c p fate) + (s.calls c).owns.toNat =
      owners s + (ClaimCall.owns ⟨p, (s.calls c).answered && fate = .answered⟩).toNat :=
  tally_update (fun _ => ClaimCall.owns) s.calls c _

omit [Fintype C] in
theorem taken_moveTo (h : ∀ i, (s.calls i).phase = .conflicted → (table userId key).isSome)
    (hp : p = .conflicted → (table userId key).isSome) (i : C)
    (hi : ((s.moveTo table c p fate).calls i).phase = .conflicted) :
    (table userId key).isSome := by
  by_cases hic : i = c
  · subst hic
    exact hp (by simpa [ClaimState.moveTo] using hi)
  · exact h i (by simpa [ClaimState.moveTo, hic] using hi)

theorem SingleOwner.moveTo (h : SingleOwner userId key s)
    (hrow : (s.table userId key).isSome → (table userId key).isSome)
    (howns : ClaimCall.owns ⟨p, (s.calls c).answered && fate = .answered⟩ = (s.calls c).owns)
    (hp : p = .conflicted → (table userId key).isSome) :
    SingleOwner userId key (s.moveTo table c p fate) := by
  have hcount : owners (s.moveTo table c p fate) = owners s := by
    have hmove := owners_moveTo s table c p fate
    rw [howns] at hmove
    omega
  refine ⟨?_, ?_, taken_moveTo (fun i hi => hrow (h.taken i hi)) hp⟩
  · rw [hcount]
    exact h.le_one
  · rw [hcount]
    exact h.row.imp_right hrow

theorem isSome_claimInsert (fate : StatementFate) (rec : IdempotencyRecord)
    (table : IdempotencyTable) (u k : String) (h : (table u k).isSome) :
    ((claimInsert fate rec table).2 u k).isSome := by
  unfold claimInsert
  cases fate with
  | unreached => exact h
  | lost | answered =>
    dsimp only
    split
    · exact h
    · simp only [IdempotencyTable.insert]
      split_ifs
      · rfl
      · exact h

omit [DecidableEq C] in
theorem singleOwner_init (userId key : String) (table : IdempotencyTable) :
    SingleOwner userId key (ClaimState.init table : ClaimState C) := by
  have hzero : owners (ClaimState.init table : ClaimState C) = 0 :=
    (tally_eq_zero_iff _).mpr (fun _ => rfl)
  refine ⟨by omega, .inl hzero, ?_⟩
  intro c hc
  cases hc

/-- The claim of a call on its key: the first answered `INSERT` owns it, a later one conflicts, and
one without an answer leaves the call unanswered. -/
theorem singleOwner_insert (h : SingleOwner userId key s) {rec : IdempotencyRecord}
    (hu : rec.userId = userId) (hk : rec.idempotencyKey = key)
    (hidle : (s.calls c).phase = .idle) :
    SingleOwner userId key (s.moveTo (claimInsert fate rec s.table).2 c
      (phaseAfterInsert (claimInsert fate rec s.table).1) fate) := by
  have hnot : (s.calls c).owns = false := by simp [ClaimCall.owns, hidle]
  have hrow := isSome_claimInsert fate rec s.table userId key
  by_cases hfate : fate = .answered
  · subst hfate
    cases hold : s.table rec.userId rec.idempotencyKey with
    | some existing =>
      rw [claimInsert_taken hold] at hrow ⊢
      exact h.moveTo hrow (by simp [ClaimCall.owns, phaseAfterInsert, hidle])
        (fun _ => by simp [← hu, ← hk, hold])
    | none =>
      have hsome : ((claimInsert .answered rec s.table).2 userId key).isSome := by
        simp [claimInsert_fresh hold, ← hu, ← hk, insert_self]
      have hzero : owners s = 0 := by
        refine h.row.resolve_right ?_
        rw [← hu, ← hk, hold]
        exact Bool.noConfusion
      have hmove := owners_moveTo s (claimInsert .answered rec s.table).2 c
        (phaseAfterInsert (claimInsert .answered rec s.table).1) .answered
      rw [hnot, hzero] at hmove
      have hle := Bool.toNat_le (ClaimCall.owns
        ⟨phaseAfterInsert (claimInsert .answered rec s.table).1,
          (s.calls c).answered && decide (StatementFate.answered = .answered)⟩)
      rw [Bool.toNat_false] at hmove
      refine ⟨by omega, .inr hsome, ?_⟩
      exact taken_moveTo (fun i hi => hrow (h.taken i hi)) (fun _ => hsome)
  · have hfailed : (claimInsert fate rec s.table).1 = .failed := by
      cases fate with
      | answered => exact absurd rfl hfate
      | unreached => rfl
      | lost => cases hold : s.table rec.userId rec.idempotencyKey <;> simp [claimInsert, hold]
    refine h.moveTo hrow ?_ ?_
    · rw [hnot]
      simp [ClaimCall.owns, hfate]
    · rw [hfailed]
      exact ClaimPhase.noConfusion

/-- After a conflict an answered `SELECT` finds the row, so it never lets the call go on. -/
theorem singleOwner_select (h : SingleOwner userId key s)
    (hphase : (s.calls c).phase = .conflicted) :
    SingleOwner userId key
      (s.moveTo s.table c (phaseAfterSelect (fetch fate userId key s.table)) fate) := by
  have hnot : (s.calls c).owns = false := by simp [ClaimCall.owns, hphase]
  obtain ⟨existing, hrow⟩ := Option.isSome_iff_exists.mp (h.taken c hphase)
  refine h.moveTo id ?_ (fun _ => h.taken c hphase)
  rw [hnot]
  by_cases hfate : fate = .answered
  · subst hfate
    rw [fetch_row hrow]
    simp [ClaimCall.owns, phaseAfterSelect]
  · simp [ClaimCall.owns, hfate]

theorem singleOwner_step {order : C → Order} (hsame : ∀ c, ClaimedAs userId key (order c))
    (hset : userId ≠ "" ∧ key ≠ "") (s : ClaimState C) (a : ClaimAction C) (t : ClaimState C)
    (hs : SingleOwner userId key s) (hstep : claimStep order s a = some t) :
    SingleOwner userId key t := by
  cases a with
  | insert c fate =>
    obtain ⟨hu, hk⟩ := hsame c
    have hgiven : ¬ ((claimRecord (order c)).userId = "" ∨
        (claimRecord (order c)).idempotencyKey = "") := by
      rw [not_or]
      exact ⟨fun h => hset.1 (hu.symm.trans h), fun h => hset.2 (hk.symm.trans h)⟩
    simp only [claimStep, if_neg hgiven] at hstep
    split_ifs at hstep with hidle
    cases hstep
    exact singleOwner_insert hs hu hk hidle.1
  | select c fate =>
    obtain ⟨hu, hk⟩ := hsame c
    simp only [claimStep, hu, hk] at hstep
    split_ifs at hstep with hphase
    cases hstep
    exact singleOwner_select hs hphase
  | dispatch c =>
    simp only [claimStep] at hstep
    split_ifs at hstep with hphase
    cases hstep
    exact hs.moveTo id (by simp [ClaimCall.owns, hphase]) ClaimPhase.noConfusion
  | record c fate _ _ _ _ _ =>
    simp only [claimStep] at hstep
    split_ifs at hstep with hphase
    cases hstep
    refine hs.moveTo ?_ (by simp [ClaimCall.owns, hphase]) ClaimPhase.noConfusion
    rw [isSome_recordResult]
    exact id

end Machine

def limitAndInstant (c : Fin 2) : Order where
  orderId := "ORD_" ++ toString c
  symbol := "EURUSD"
  direction := directionLong
  executionMode := if c = 0 then .limit else .instant
  idempotencyKey := "k1"
  entryPrice := 1.1
  stopLoss := 1.09
  lotSize := 0.33
  userId := "u1"

def conflictSchedule (selectFate : StatementFate) : List (ClaimAction (Fin 2)) :=
  [.insert 0 .answered, .dispatch 0, .insert 1 .answered, .select 1 selectFate, .dispatch 1]

/-- Of the calls with one key whose own claim statements were all answered, at most one places its
order or arms its watcher, in every interleaving. -/
theorem answeredDispatches_le_one {C : Type} [DecidableEq C] [Fintype C] (userId key : String)
    (hset : userId ≠ "" ∧ key ≠ "") (order : C → Order)
    (hsame : ∀ c, ClaimedAs userId key (order c)) (table : IdempotencyTable)
    (actions : List (ClaimAction C)) :
    Throughout (claimStep order)
      (fun s => tally (fun c => (s.calls c).isAnsweredDispatch) ≤ 1)
      (ClaimState.init table) actions := by
  have hinv := throughout_invariant (claimStep order) (singleOwner_step hsame hset)
    (singleOwner_init userId key table) actions
  refine hinv.mono (claimStep order) ?_
  intro s hs
  have hsub : tally (fun c => (s.calls c).isAnsweredDispatch) ≤ owners s := by
    apply tally_mono
    intro c hc
    simp only [ClaimCall.isAnsweredDispatch, ClaimCall.isDispatched, Bool.and_eq_true] at hc
    simp [ClaimCall.owns, hc.1, of_decide_eq_true hc.2]
  exact hsub.trans hs.le_one

theorem answeredDispatches_limitAndInstant :
    Throughout (claimStep limitAndInstant)
      (fun s => tally (fun c => (s.calls c).isAnsweredDispatch) ≤ 1)
      (ClaimState.init (fun _ _ => none)) (conflictSchedule .answered) :=
  answeredDispatches_le_one "u1" "k1" (by decide) limitAndInstant (fun _ => ⟨rfl, rfl⟩) _ _

/-- Both `INSERT`s reach the table, the second call's `SELECT` fails, and both calls dispatch. -/
theorem failedSelect_dispatches_twice :
    (run (claimStep limitAndInstant) (ClaimState.init (fun _ _ => none))
        (conflictSchedule .unreached)).map (fun s => tally (fun c => (s.calls c).isDispatched)) =
      some 2 := by
  decide +kernel

end ETradie.Execution
