import ETradie.Kernel.Runs

namespace ETradie.Execution

open Kernel

inductive HaltScope where
  | global
  | user (userID : String)
deriving DecidableEq

def haltCacheTTL : ℚ := 1

structure HaltEntry where
  val : Bool
  storedAt : ℚ
deriving DecidableEq

abbrev HaltCache := HaltScope → Option HaltEntry

def freshVerdict (cache : HaltCache) (scope : HaltScope) (now : ℚ) : Option Bool :=
  match cache scope with
  | none => none
  | some e => if now - e.storedAt < haltCacheTTL then some e.val else none

def priorVerdict (cache : HaltCache) (scope : HaltScope) : Bool :=
  match cache scope with
  | none => false
  | some e => e.val

inductive HaltPhase where
  /-- About to look at the cached verdict. -/
  | looking (scope : HaltScope)
  /-- The store is being read. -/
  | reading (scope : HaltScope)
  /-- The store has answered; the verdict is not cached yet. -/
  | answered (scope : HaltScope) (value : Bool)
  /-- Halted in this scope, or not halted. -/
  | returned (verdict : Option HaltScope)
deriving DecidableEq

structure HaltCall where
  userID : String
  startedAt : ℚ
  phase : HaltPhase
deriving DecidableEq

def afterVerdict (userID : String) (scope : HaltScope) (value : Bool) : HaltPhase :=
  if value then .returned (some scope)
  else
    match scope with
    | .global => if userID = "" then .returned none else .looking (.user userID)
    | .user _ => .returned none

structure HaltSystem where
  clock : ℚ
  cache : HaltCache
  calls : Nat → Option HaltCall

def HaltSystem.init (clock : ℚ) : HaltSystem where
  clock := clock
  cache := fun _ => none
  calls := fun _ => none

inductive HaltMove where
  | start (userID : String)
  | look
  | read
  | fail
  | store
deriving DecidableEq

structure HaltAction where
  id : Nat
  now : ℚ
  move : HaltMove
deriving DecidableEq

variable (scope : HaltScope) (engaged : ℚ) (s : HaltSystem) (a : HaltAction)

def HaltSystem.put (userID : String) (startedAt : ℚ)
    (phase : HaltPhase) : HaltSystem :=
  { s with clock := a.now, calls := Function.update s.calls a.id (some ⟨userID, startedAt, phase⟩) }

variable (flag : HaltScope → ℚ → Bool)

def haltStep (s : HaltSystem) (a : HaltAction) : Option HaltSystem :=
  if a.now < s.clock then none
  else
    match a.move, s.calls a.id with
    | .start userID, none => some (s.put a userID a.now (.looking .global))
    | .look, some ⟨userID, startedAt, .looking scope⟩ =>
      match freshVerdict s.cache scope a.now with
      | some v => some (s.put a userID startedAt (afterVerdict userID scope v))
      | none => some (s.put a userID startedAt (.reading scope))
    | .read, some ⟨userID, startedAt, .reading scope⟩ =>
      some (s.put a userID startedAt (.answered scope (flag scope a.now)))
    | .fail, some ⟨userID, startedAt, .reading scope⟩ =>
      some (s.put a userID startedAt (afterVerdict userID scope (priorVerdict s.cache scope)))
    | .store, some ⟨userID, startedAt, .answered scope v⟩ =>
      some { s.put a userID startedAt (afterVerdict userID scope v) with
        cache := Function.update s.cache scope (some ⟨v, a.now⟩) }
    | _, _ => none

def HaltCall.concerns (call : HaltCall) (scope : HaltScope) : Prop :=
  scope = .global ∨ scope = .user call.userID

def LateCallsHalted : Prop :=
  ∀ id call, s.calls id = some call → call.concerns scope →
    engaged + haltCacheTTL < call.startedAt → call.phase ≠ .returned none

def ForgetsInTime : Prop :=
  ∀ now, engaged + haltCacheTTL < now → freshVerdict s.cache scope now ≠ some false

def StoresInTime : Prop :=
  a.move = .store → (s.calls a.id).map HaltCall.phase = some (.answered scope false) →
    a.now ≤ engaged

instance (scope : HaltScope) (engaged : ℚ) (s : HaltSystem) (a : HaltAction) :
    Decidable (StoresInTime scope engaged s a) :=
  inferInstanceAs (Decidable (a.move = .store →
    (s.calls a.id).map HaltCall.phase = some (.answered scope false) → a.now ≤ engaged))

variable {t : HaltSystem} {s} {a}

section Steps

inductive HaltMoves (s : HaltSystem) (a : HaltAction) : HaltSystem → Prop
  | start {userID : String} (hmove : a.move = .start userID) (hnone : s.calls a.id = none) :
      HaltMoves s a (s.put a userID a.now (.looking .global))
  | cached {userID : String} {startedAt : ℚ} {scope : HaltScope} {v : Bool}
      (hmove : a.move = .look)
      (hcall : s.calls a.id = some ⟨userID, startedAt, .looking scope⟩)
      (hfresh : freshVerdict s.cache scope a.now = some v) :
      HaltMoves s a (s.put a userID startedAt (afterVerdict userID scope v))
  | stale {userID : String} {startedAt : ℚ} {scope : HaltScope}
      (hmove : a.move = .look)
      (hcall : s.calls a.id = some ⟨userID, startedAt, .looking scope⟩) :
      HaltMoves s a (s.put a userID startedAt (.reading scope))
  | read {userID : String} {startedAt : ℚ} {scope : HaltScope}
      (hmove : a.move = .read)
      (hcall : s.calls a.id = some ⟨userID, startedAt, .reading scope⟩) :
      HaltMoves s a (s.put a userID startedAt (.answered scope (flag scope a.now)))
  | fail {userID : String} {startedAt : ℚ} {scope : HaltScope}
      (hmove : a.move = .fail)
      (hcall : s.calls a.id = some ⟨userID, startedAt, .reading scope⟩) :
      HaltMoves s a (s.put a userID startedAt
        (afterVerdict userID scope (priorVerdict s.cache scope)))
  | store {userID : String} {startedAt : ℚ} {scope : HaltScope} {v : Bool}
      (hmove : a.move = .store)
      (hcall : s.calls a.id = some ⟨userID, startedAt, .answered scope v⟩) :
      HaltMoves s a { s.put a userID startedAt (afterVerdict userID scope v) with
        cache := Function.update s.cache scope (some ⟨v, a.now⟩) }

variable {flag}
theorem haltStep_moves (h : haltStep flag s a = some t) :
    s.clock ≤ a.now ∧ HaltMoves flag s a t := by
  revert h
  fun_cases haltStep flag s a
  all_goals rintro ⟨⟩
  all_goals refine ⟨not_lt.mp ‹_›, ?_⟩
  · exact .start ‹_› ‹_›
  · exact .cached ‹_› ‹_› ‹_›
  · exact .stale ‹_› ‹_›
  · exact .read ‹_› ‹_›
  · exact .fail ‹_› ‹_›
  · exact .store ‹_› ‹_›

end Steps

variable {scope} {engaged}

section Cache

variable {flag}
theorem forgetsInTime_iff :
    ForgetsInTime scope engaged s ↔
      ∀ e, s.cache scope = some e → e.val = false → e.storedAt ≤ engaged := by
  constructor
  · intro hfor e he hval
    by_contra hla
    -- a moment after the bound at which the entry is still accepted
    have haft : engaged + haltCacheTTL < (engaged + e.storedAt) / 2 + haltCacheTTL := by linarith
    have hyou : (engaged + e.storedAt) / 2 + haltCacheTTL - e.storedAt < haltCacheTTL := by linarith
    refine hfor _ haft ?_
    simp only [freshVerdict, he, if_pos hyou, hval]
  · intro hsto now _ hfr
    unfold freshVerdict at hfr
    cases he : s.cache scope with
    | none =>
      rw [he] at hfr
      cases hfr
    | some e =>
      simp only [he] at hfr
      by_cases hyou : now - e.storedAt < haltCacheTTL
      · rw [if_pos hyou] at hfr
        have hle := hsto e he (Option.some.inj hfr)
        linarith
      · rw [if_neg hyou] at hfr
        cases hfr

theorem forgetsInTime_congr (hcac : t.cache = s.cache) (hs : ForgetsInTime scope engaged s) :
    ForgetsInTime scope engaged t := by
  intro now hnow
  rw [hcac]
  exact hs now hnow

theorem forgetsInTime_step_iff (hs : ForgetsInTime scope engaged s)
    (h : haltStep flag s a = some t) :
    ForgetsInTime scope engaged t ↔ StoresInTime scope engaged s a := by
  obtain ⟨_, hmov⟩ := haltStep_moves h
  have hoth : a.move ≠ .store → StoresInTime scope engaged s a := by
    intro hne hstr
    exact absurd hstr hne
  cases hmov with
  | start hmv hno | cached hmv hca hfr | stale hmv hca | read hmv hca
  | fail hmv hca => exact iff_of_true (forgetsInTime_congr rfl hs) (hoth (by simp [hmv]))
  | @store userID startedAt scope' v hmv hca =>
    rw [forgetsInTime_iff] at hs ⊢
    simp only [StoresInTime, hmv, hca, Option.map_some, Option.some.injEq,
      HaltPhase.answered.injEq, true_implies]
    by_cases hscp : scope' = scope
    · subst hscp
      simp only [Function.update_self, Option.some.injEq, forall_eq', true_and]
    · have hsm : Function.update s.cache scope' (some ⟨v, a.now⟩) scope = s.cache scope :=
        Function.update_of_ne (Ne.symm hscp) _ _
      simp only [hsm, hscp, false_and, false_implies, iff_true]
      exact hs

end Cache

variable {userID : String}

section Calls

variable {flag}
def HaltPhase.heeds (scope : HaltScope) : HaltPhase → Prop
  | .looking sc => sc = .global ∨ sc = scope
  | .reading sc => sc = .global ∨ sc = scope
  | .answered sc v => (sc = .global ∨ sc = scope) ∧ (sc = scope → v = true)
  | .returned verdict => verdict ≠ none

theorem heeds_afterVerdict {sc : HaltScope} {v : Bool} (hscp : scope ≠ .user "")
    (hcon : scope = .global ∨ scope = .user userID) (hsc : sc = .global ∨ sc = scope)
    (hv : sc = scope → v) : (afterVerdict userID sc v).heeds scope := by
  cases v with
  | true => exact Option.some_ne_none sc
  | false =>
    have hne : sc ≠ scope := by
      intro heq
      cases hv heq
    have hglb : sc = .global := hsc.resolve_right hne
    subst hglb
    have hu : scope = .user userID := hcon.resolve_left (Ne.symm hne)
    have hnam : userID ≠ "" := by
      rintro rfl
      exact hscp hu
    simp only [afterVerdict, Bool.false_eq_true, if_false, if_neg hnam]
    exact .inr hu.symm

def LateCallsHeed (scope : HaltScope) (engaged : ℚ) (s : HaltSystem) : Prop :=
  ∀ id call, s.calls id = some call → call.startedAt ≤ s.clock ∧
    (call.concerns scope → engaged + haltCacheTTL < call.startedAt → call.phase.heeds scope)

theorem lateCallsHeed_put {startedAt : ℚ} {phase : HaltPhase}
    (hs : LateCallsHeed scope engaged s) (hclk : s.clock ≤ a.now) (hsta : startedAt ≤ a.now)
    (hph : scope = .global ∨ scope = .user userID → engaged + haltCacheTTL < startedAt →
      phase.heeds scope) : LateCallsHeed scope engaged (s.put a userID startedAt phase) := by
  intro id call hca
  by_cases hid : id = a.id
  · subst hid
    simp only [HaltSystem.put, Function.update_self] at hca
    rw [← Option.some.inj hca]
    exact ⟨hsta, hph⟩
  · simp only [HaltSystem.put, Function.update_of_ne hid] at hca
    obtain ⟨hle, hhee⟩ := hs id call hca
    exact ⟨hle.trans hclk, hhee⟩

theorem lateCallsHeed_step (hscp : scope ≠ .user "")
    (heng : ∀ time, engaged ≤ time → flag scope time)
    (hs : LateCallsHeed scope engaged s) (hfor : ForgetsInTime scope engaged s)
    (hrd : a.move ≠ .fail) (h : haltStep flag s a = some t) : LateCallsHeed scope engaged t := by
  obtain ⟨hclk, hmov⟩ := haltStep_moves h
  cases hmov with
  | start hmv _ =>
    refine lateCallsHeed_put hs hclk le_rfl ?_
    intro _ _
    exact .inl rfl
  | @cached userID startedAt sc v hmv hca hfr =>
    obtain ⟨hsta, hhee⟩ := hs a.id _ hca
    refine lateCallsHeed_put hs hclk (hsta.trans hclk) ?_
    intro hcon hla
    refine heeds_afterVerdict hscp hcon (hhee hcon hla) ?_
    rintro rfl
    have hnow : engaged + haltCacheTTL < a.now := hla.trans_le (hsta.trans hclk)
    cases v with
    | true => rfl
    | false => exact absurd hfr (hfor a.now hnow)
  | stale hmv hca =>
    obtain ⟨hsta, hhee⟩ := hs a.id _ hca
    exact lateCallsHeed_put hs hclk (hsta.trans hclk) hhee
  | read hmv hca =>
    obtain ⟨hsta, hhee⟩ := hs a.id _ hca
    refine lateCallsHeed_put hs hclk (hsta.trans hclk) ?_
    intro hcon hla
    refine ⟨hhee hcon hla, ?_⟩
    rintro rfl
    refine heng a.now ?_
    have hpos : (0 : ℚ) < haltCacheTTL := by decide +kernel
    linarith
  | fail hmv hca => exact absurd hmv hrd
  | store hmv hca =>
    obtain ⟨hsta, hhee⟩ := hs a.id _ hca
    refine lateCallsHeed_put hs hclk (hsta.trans hclk) ?_
    intro hcon hla
    obtain ⟨hsc, hv⟩ := hhee hcon hla
    exact heeds_afterVerdict hscp hcon hsc hv

theorem lateCallsHalted_of_heed (hs : LateCallsHeed scope engaged s) :
    LateCallsHalted scope engaged s := by
  intro id call hca hcon hla hret
  have hhee := (hs id call hca).2 hcon hla
  rw [hret] at hhee
  exact hhee rfl

end Calls

theorem killSwitch_fresh (flag : HaltScope → ℚ → Bool) (scope : HaltScope)
    (hscope : scope ≠ .user "") (engaged : ℚ)
    (hengaged : ∀ time, engaged ≤ time → flag scope time = true) (clock : ℚ)
    (schedule : List HaltAction) (hreads : ∀ a ∈ schedule, a.move ≠ .fail) :
    (Throughout (haltStep flag) (ForgetsInTime scope engaged) (HaltSystem.init clock) schedule ↔
      Along (haltStep flag) (StoresInTime scope engaged) (HaltSystem.init clock) schedule) ∧
    (Along (haltStep flag) (StoresInTime scope engaged) (HaltSystem.init clock) schedule →
      Throughout (haltStep flag) (LateCallsHalted scope engaged) (HaltSystem.init clock)
        schedule) := by
  have hin : ForgetsInTime scope engaged (HaltSystem.init clock) := by
    intro now _ hfr
    cases hfr
  refine ⟨?_, ?_⟩
  · exact throughout_iff_along (haltStep flag)
      (I := fun _ => True)
      (fun _ _ _ _ _ => trivial)
      (fun _ _ _ _ hs h => forgetsInTime_step_iff hs h)
      schedule trivial hin
  · intro halo
    have hcal : LateCallsHeed scope engaged (HaltSystem.init clock) := by
      intro id call hca
      cases hca
    have hbo : Throughout (haltStep flag)
        (fun s => ForgetsInTime scope engaged s ∧ LateCallsHeed scope engaged s)
        (HaltSystem.init clock) schedule := by
      refine throughout_of_along (haltStep flag) ?_ ⟨hin, hcal⟩
        (Along.and_mem (haltStep flag) halo hreads)
      rintro s a t ⟨hfor, hheed⟩ ⟨hsto, hrd⟩ h
      exact ⟨(forgetsInTime_step_iff hfor h).mpr hsto,
        lateCallsHeed_step hscope hengaged hheed hfor hrd h⟩
    exact Throughout.mono (haltStep flag) (fun s hs => lateCallsHalted_of_heed hs.2) hbo

def engagedAtTen (scope : HaltScope) (time : ℚ) : Bool := scope = .global && 10 ≤ time

def slowRead (stored : ℚ) : List HaltAction :=
  [⟨0, 98 / 10, .start "trader"⟩,
   ⟨0, 98 / 10, .look⟩,
   ⟨0, 99 / 10, .read⟩,
   ⟨0, stored, .store⟩,
   ⟨1, 112 / 10, .start ""⟩,
   ⟨1, 112 / 10, .look⟩]

theorem killSwitch_fresh_prompt :
    Throughout (haltStep engagedAtTen) (LateCallsHalted .global 10) (HaltSystem.init 0)
      (slowRead (99 / 10)) := by
  have heng : ∀ time, (10 : ℚ) ≤ time → engagedAtTen .global time = true := by
    intro time htm
    simp [engagedAtTen, htm]
  exact (killSwitch_fresh engagedAtTen .global (by decide) 10 heng 0 (slowRead (99 / 10))
    (by decide +kernel)).2 (by decide +kernel)

theorem slow_reader_hides_switch :
    (run (haltStep engagedAtTen) (HaltSystem.init 0) (slowRead (105 / 10))).map
      (fun s => ((s.calls 1).map HaltCall.startedAt, (s.calls 1).map HaltCall.phase,
        decide (10 + haltCacheTTL < 112 / 10))) =
      some (some (112 / 10), some (.returned none), true) := by
  decide +kernel

end ETradie.Execution
