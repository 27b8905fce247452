import ETradie.Kernel.Runs
import ETradie.Kernel.Keyed

namespace ETradie.Billing

open Kernel

inductive BreakerState where
  | closed | opened | halfOpen
deriving DecidableEq

structure BreakerConfig where
  (failureThreshold openCooldown halfOpenProbeTimeout : Int := 0)

def BreakerConfig.applyDefaults (c : BreakerConfig) : BreakerConfig where
  failureThreshold := if c.failureThreshold ≤ 0 then 5 else c.failureThreshold
  openCooldown := if c.openCooldown ≤ 0 then 30000000000 else c.openCooldown
  halfOpenProbeTimeout := if c.halfOpenProbeTimeout ≤ 0 then 30000000000 else c.halfOpenProbeTimeout

structure Breaker where
  state : BreakerState := .closed
  (consecutiveFailures openedAt halfOpenProbedAt : Int := 0)
  halfOpenInFlight : Bool := false
deriving DecidableEq

namespace Breaker

variable (cfg : BreakerConfig) (now : Int) (b : Breaker)

def allow : Bool × Breaker :=
  match b.state with
  | .closed => (true, b)
  | .opened =>
    if now - b.openedAt < cfg.openCooldown then (false, b)
    else
      (true, { b with state := .halfOpen, halfOpenInFlight := true, halfOpenProbedAt := now })
  | .halfOpen =>
    if b.halfOpenInFlight then
      if now - b.halfOpenProbedAt ≥ cfg.halfOpenProbeTimeout then
        (false,
          { b with
            state := .opened, consecutiveFailures := cfg.failureThreshold, openedAt := now
            halfOpenInFlight := false })
      else (false, b)
    else (true, { b with halfOpenInFlight := true, halfOpenProbedAt := now })

def success : Breaker :=
  match b.state with
  | .halfOpen => { b with state := .closed, halfOpenInFlight := false, consecutiveFailures := 0 }
  | .closed => { b with consecutiveFailures := 0 }
  | .opened => b

def failure : Breaker :=
  match b.state with
  | .halfOpen =>
    { b with
      state := .opened, halfOpenInFlight := false, consecutiveFailures := cfg.failureThreshold
      openedAt := now }
  | .closed =>
    if b.consecutiveFailures + 1 ≥ cfg.failureThreshold then
      { b with state := .opened, consecutiveFailures := b.consecutiveFailures + 1, openedAt := now }
    else { b with consecutiveFailures := b.consecutiveFailures + 1 }
  | .opened => b

end Breaker

def retryBackoffs : Nat := 2

inductive ProviderAnswer where
  | http (status : Nat)
  | transport
deriving DecidableEq

def ProviderAnswer.isSuccess : ProviderAnswer → Bool
  | .http status => 200 ≤ status && status < 300
  | .transport => false

def ProviderAnswer.isFailure : ProviderAnswer → Bool
  | .http status => 500 ≤ status
  | .transport => true

structure ProviderCall where
  (id attempt : Nat)
  sent : Bool
deriving DecidableEq

structure Provider where
  breaker : Breaker := {}
  calls : Keyed ProviderCall.id := Keyed.empty
  probe : Option Nat := none

inductive ProviderAct where
  | start (i : Nat)
  | allow (i : Nat) (now : Int)
  | leave (i : Nat)
  | answer (i : Nat) (answer : ProviderAnswer) (now : Int)
deriving DecidableEq

namespace Provider

def step (cfg : BreakerConfig) (s : Provider) : ProviderAct → Option Provider
  | .start i =>
    if (s.calls.get i).isNone then some { s with calls := s.calls.put ⟨i, 0, false⟩ } else none
  | .allow i now =>
    match s.calls.get i with
    | some ⟨_, attempt, false⟩ =>
      match s.breaker.allow cfg.applyDefaults now with
      | (true, b) =>
        some
          { breaker := b, calls := s.calls.put ⟨i, attempt, true⟩
            probe := if b.state = .halfOpen then some i else none }
      | (false, b) => some { s with breaker := b, calls := s.calls.delete i }
    | _ => none
  | .leave i => if (s.calls.get i).isSome then some { s with calls := s.calls.delete i } else none
  | .answer i answer now =>
    match s.calls.get i with
    | some ⟨_, attempt, true⟩ =>
      if answer.isSuccess then
        some { s with breaker := s.breaker.success, calls := s.calls.delete i }
      else if answer.isFailure then
        some
          { s with
            breaker := s.breaker.failure cfg.applyDefaults now
            calls :=
              if attempt < retryBackoffs then s.calls.put ⟨i, attempt + 1, false⟩
              else s.calls.delete i }
      else some { s with calls := s.calls.delete i }
    | _ => none

def Disciplined (cfg : BreakerConfig) (s : Provider) (a : ProviderAct) : Prop :=
  ∀ t ∈ s.step cfg a, s.breaker.state = .halfOpen →
    match a with
    | .answer i answer _ =>
      (t.breaker.state = .closed → s.probe = some i ∧ answer.isSuccess = true) ∧
        (s.probe = some i → answer ≠ .transport → t.breaker.state ≠ .halfOpen)
    | _ => t.breaker.state ≠ .closed

def Attributed (s : Provider) : ProviderAct → Prop
  | .answer i answer _ =>
    s.breaker.state = .halfOpen →
      (answer.isSuccess = true → s.probe = some i) ∧
      (s.probe = some i → answer.isSuccess = true ∨ answer.isFailure = true)
  | _ => True

section Steps

variable {cfg : BreakerConfig} {s t : Provider} {a : ProviderAct} {now : Int} {b : Breaker}

theorem allow_of_halfOpen (h : b.state = .halfOpen) : (b.allow cfg now).2.state ≠ .closed := by
  unfold Breaker.allow
  split_ifs <;> simp [h]

theorem success_of_halfOpen (h : b.state = .halfOpen) : b.success.state = .closed := by
  unfold Breaker.success
  rw [h]

theorem failure_of_halfOpen (h : b.state = .halfOpen) : (b.failure cfg now).state = .opened := by
  unfold Breaker.failure
  rw [h]

theorem disciplined_answer_iff {i : Nat} {answer : ProviderAnswer}
    (hst : s.step cfg (.answer i answer now) = some t) (hhf : s.breaker.state = .halfOpen) :
    (t.breaker.state = .closed → s.probe = some i ∧ answer.isSuccess) ∧
        (s.probe = some i → answer ≠ .transport → t.breaker.state ≠ .halfOpen) ↔
      (answer.isSuccess → s.probe = some i) ∧
        (s.probe = some i → answer.isSuccess ∨ answer.isFailure) := by
  simp only [step] at hst
  split at hst
  · split at hst
    · next hok =>
      cases hst
      simp [success_of_halfOpen hhf, hok]
    · next hok =>
      split at hst
      · next hfail =>
        cases hst
        simp [failure_of_halfOpen hhf, hok, hfail]
      · next hfail =>
        -- the breaker stays as it was
        cases hst
        have hans : answer ≠ .transport := by
          rintro rfl
          exact hfail rfl
        simp [hhf, hok, hfail, hans]
  · cases hst

theorem disciplined_iff_attributed (hst : s.step cfg a = some t) :
    s.Disciplined cfg a ↔ s.Attributed a := by
  unfold Disciplined
  simp only [hst, Option.mem_some_iff, forall_eq']
  cases a with
  | answer i answer now => exact forall_congr' fun hhf => disciplined_answer_iff hst hhf
  | allow i now =>
    refine iff_of_true (fun hhf => ?_) trivial
    have hall : (s.breaker.allow cfg.applyDefaults now).2.state ≠ .closed := allow_of_halfOpen hhf
    simp only [step] at hst
    split at hst
    · split at hst
      all_goals
        next hans =>
          cases hst
          rw [hans] at hall
          exact hall
    · cases hst
  | start i | leave i =>
    refine iff_of_true (fun hhf => ?_) trivial
    simp only [step] at hst
    split_ifs at hst
    cases hst
    simp [hhf]

end Steps

end Provider

theorem probe_discipline_iff_attributed (cfg : BreakerConfig) (acts : List ProviderAct) :
    Along (Provider.step cfg) (Provider.Disciplined cfg) {} acts ↔
      Along (Provider.step cfg) Provider.Attributed {} acts :=
  along_congr (Provider.step cfg) (I := fun _ => True) (fun _ _ _ _ _ => trivial)
    (fun _ _ _ _ hst => Provider.disciplined_iff_attributed hst) acts trivial

def halfOpening : List ProviderAct :=
  (List.range 6).flatMap (fun i => [.start i, .allow i 0]) ++
    (List.range 5).map (fun i => .answer i (.http 503) 1000000000) ++
    [.start 6, .allow 6 40000000000]

theorem stale_success_and_silent_probe :
    (run (Provider.step {}) {} (halfOpening ++ [.answer 5 (.http 200) 41000000000])).map
        (fun s => (s.breaker.state, s.probe, (s.calls.get 6).map ProviderCall.sent)) =
      some (.closed, some 6, some true) ∧
    (run (Provider.step {}) {} (halfOpening ++ [.answer 6 (.http 404) 41000000000])).map
        (fun s => (s.breaker.state, s.breaker.halfOpenInFlight, s.probe,
          (s.breaker.allow (BreakerConfig.applyDefaults {}) 42000000000).1)) =
      some (.halfOpen, true, some 6, false) := by
  decide +kernel

end ETradie.Billing
