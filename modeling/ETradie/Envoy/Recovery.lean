import ETradie.Envoy.Orchestrator

namespace ETradie.Envoy

open Kernel CircuitBreaker FilterOrchestrator

structure Attempted where
  (asked ended : Nat)
  failed : Bool
deriving DecidableEq

def CircuitBreaker.outcome (b : CircuitBreaker) (r : Attempted) : CircuitBreaker :=
  if r.failed then b.recordFailure r.ended else b.recordSuccess

structure Recovering where
  breaker : CircuitBreaker
  clock : Nat
  /-- the last success, or the start -/
  success : Nat
  /-- the failures since then -/
  failures : Nat
  /-- the last failure of a half-open breaker -/
  probed : Option Nat
  /-- a request was let through within the timeout after such a failure -/
  leaked : Bool
deriving DecidableEq

variable (failureThreshold : Nat) (s : Recovering) (resetTimeoutSecs now : Nat)

namespace Recovering

def init : Recovering where
  breaker := .new failureThreshold resetTimeoutSecs
  clock := now
  success := now
  failures := 0
  probed := none
  leaked := false

def early : Bool := s.probed.any (fun u => now < u + s.breaker.resetTimeoutMs)

def forward (b : CircuitBreaker) (r : Attempted) : Recovering where
  breaker := b.outcome r
  clock := r.ended
  success := if r.failed then s.success else r.ended
  failures := if r.failed then s.failures + 1 else 0
  probed := if r.failed && b.state = .halfOpen then some r.ended else s.probed
  leaked := s.leaked || s.early r.asked

def step (r : Attempted) : Option Recovering :=
  if r.asked < s.clock ∨ r.ended < r.asked then none
  else
    let checked := s.breaker.checkAndUpdateState r.asked
    if checked.2 then some (s.forward checked.1 r)
    else some { s with breaker := checked.1, clock := r.asked }

def Bounded : Prop :=
  s.leaked = false ∧
    s.failures * s.breaker.resetTimeoutMs ≤
      (s.breaker.failureThreshold + 1) * s.breaker.resetTimeoutMs + (s.clock - s.success)

def Spaced (r : Attempted) : Prop :=
  s.breaker.state = .halfOpen → s.breaker.lastFailureTimeMs + s.breaker.resetTimeoutMs ≤ r.asked

end Recovering

section Requests

variable {b : CircuitBreaker} {now}

theorem recordFailure_of_not_closed (h : b.state ≠ .closed) :
    b.recordFailure now =
      { b with failureCount := b.failureCount + 1, lastFailureTimeMs := now } := by
  simp only [recordFailure, h, and_false, if_false]

theorem recordSuccess_of_halfOpen (h : b.state = .halfOpen) :
    b.recordSuccess = { b with state := .closed, failureCount := 0 } := by
  simp only [recordSuccess, h]

theorem checkAndUpdateState_of_closed (h : b.state = .closed) :
    b.checkAndUpdateState now = (b, true) := by
  simp only [checkAndUpdateState, h]

theorem checkAndUpdateState_of_halfOpen (h : b.state = .halfOpen) :
    b.checkAndUpdateState now = (b, true) := by
  simp only [checkAndUpdateState, h]

theorem checkAndUpdateState_of_opened (h : b.state = .opened) :
    b.checkAndUpdateState now =
      if b.resetTimeoutMs ≤ now - b.lastFailureTimeMs then
        ({ b with state := .halfOpen, failureCount := 0 }, true)
      else (b, false) := by
  simp only [checkAndUpdateState, h]

end Requests

namespace Recovering

structure Sound (s : Recovering) : Prop where
  ordered : s.success ≤ s.clock
  closed : s.breaker.state = .closed →
    s.failures ≤ s.breaker.failureCount ∧ s.breaker.failureCount < max s.breaker.failureThreshold 1
  tripped : s.breaker.state ≠ .closed →
    s.success ≤ s.breaker.lastFailureTimeMs ∧ s.breaker.lastFailureTimeMs ≤ s.clock ∧
      s.failures * s.breaker.resetTimeoutMs ≤
        max s.breaker.failureThreshold 1 * s.breaker.resetTimeoutMs +
          (s.breaker.lastFailureTimeMs - s.success)
  probing : s.breaker.state = .halfOpen → s.probed = some s.breaker.lastFailureTimeMs
  rested : s.breaker.state ≠ .halfOpen →
    ∀ u, s.probed = some u → u + s.breaker.resetTimeoutMs ≤ s.clock

section Steps

variable {t : Recovering} {s} {r : Attempted} {b : CircuitBreaker}

theorem sound_init :
    Sound (init failureThreshold resetTimeoutSecs now) where
  ordered := le_refl now
  closed := fun _ => ⟨le_refl 0, by simp [init, CircuitBreaker.new]⟩
  tripped := fun h => absurd rfl h
  probing := by simp [init, CircuitBreaker.new]
  rested := by simp [init]

theorem Sound.bounded (h : Sound s) (hlea : s.leaked = false) : Bounded s := by
  refine ⟨hlea, ?_⟩
  have hmax : max s.breaker.failureThreshold 1 * s.breaker.resetTimeoutMs ≤
      (s.breaker.failureThreshold + 1) * s.breaker.resetTimeoutMs :=
    Nat.mul_le_mul_right _ (by omega)
  by_cases hcls : s.breaker.state = .closed
  · obtain ⟨hle, hlt⟩ := h.closed hcls
    have hmul : s.failures * s.breaker.resetTimeoutMs ≤
        max s.breaker.failureThreshold 1 * s.breaker.resetTimeoutMs :=
      Nat.mul_le_mul_right _ (by omega)
    omega
  · obtain ⟨-, hl, hle⟩ := h.tripped hcls
    omega

theorem Sound.not_early (h : Sound s) (hspa : Spaced s r) (hask : s.clock ≤ r.asked) :
    s.early r.asked = false := by
  unfold early
  cases hpro : s.probed with
  | none => rfl
  | some u =>
    simp only [Option.any_some, decide_eq_false_iff_not, not_lt]
    by_cases hhf : s.breaker.state = .halfOpen
    · have hl := h.probing hhf
      rw [hpro] at hl
      obtain rfl := Option.some.inj hl
      exact hspa hhf
    · exact (h.rested hhf u hpro).trans hask

theorem Sound.probe_failed (h : Sound s) (hst : s.breaker.state ≠ .closed)
    (hwai : s.breaker.lastFailureTimeMs + s.breaker.resetTimeoutMs ≤ r.asked)
    (hend : r.asked ≤ r.ended) (hb : b.state = .halfOpen)
    (hthr : b.failureThreshold = s.breaker.failureThreshold)
    (hrst : b.resetTimeoutMs = s.breaker.resetTimeoutMs) (hfld : r.failed) :
    Sound (s.forward b r) := by
  obtain ⟨hsuc, -, hle⟩ := h.tripped hst
  have hop : b.state ≠ .closed := by
    rw [hb]
    decide
  have hout : b.outcome r =
      { b with failureCount := b.failureCount + 1, lastFailureTimeMs := r.ended } := by
    rw [outcome, if_pos hfld, recordFailure_of_not_closed hop]
  constructor
  · simp only [forward, hfld, if_true]
    omega
  · intro hcls
    rw [forward, hout] at hcls
    exact absurd hcls hop
  · simp only [forward, hout, hfld, if_true, hthr, hrst, Nat.add_mul]
    omega
  · simp [forward, hout, hfld, hb]
  · intro hhf
    rw [forward, hout] at hhf
    exact absurd hb hhf

theorem Sound.probe_succeeded
    (hres : ∀ u, s.probed = some u → u + s.breaker.resetTimeoutMs ≤ r.asked)
    (hend : r.asked ≤ r.ended) (hb : b.state = .halfOpen)
    (hrst : b.resetTimeoutMs = s.breaker.resetTimeoutMs) (hfld : r.failed = false) :
    Sound (s.forward b r) := by
  have hout : b.outcome r = { b with state := .closed, failureCount := 0 } := by
    rw [outcome, if_neg (by simp [hfld]), recordSuccess_of_halfOpen hb]
  constructor
  · simp [forward, hfld]
  · intro _
    simp only [forward, hout, hfld]
    exact ⟨le_refl 0, by simp⟩
  · intro hop
    rw [forward, hout] at hop
    exact absurd rfl hop
  · intro hhf
    simp [forward, hout] at hhf
  · intro _ u hu
    simp only [forward, hout, hfld] at hu ⊢
    rw [hrst]
    exact (hres u hu).trans hend

theorem Sound.closed_forward (h : Sound s) (hcls : s.breaker.state = .closed)
    (hask : s.clock ≤ r.asked) (hend : r.asked ≤ r.ended) : Sound (s.forward s.breaker r) := by
  obtain ⟨hle, hlt⟩ := h.closed hcls
  have hord := h.ordered
  have hres := h.rested (by rw [hcls]; decide)
  have hpro : (s.forward s.breaker r).probed = s.probed := by simp [forward, hcls]
  cases hfld : r.failed with
  | false =>
    have hout : s.breaker.outcome r =
        { s.breaker with failureCount := s.breaker.failureCount - 1 } := by
      rw [outcome, if_neg (by simp [hfld]), recordSuccess_of_closed hcls]
    constructor
    · simp [forward, hfld]
    · intro _
      simp only [forward, hout, hfld]
      exact ⟨Nat.zero_le _, by omega⟩
    · intro hop
      rw [forward, hout] at hop
      exact absurd hcls hop
    · intro hhf
      simp [forward, hout, hcls] at hhf
    · intro _ u hu
      rw [hpro] at hu
      simp only [forward, hout]
      exact (hres u hu).trans (hask.trans hend)
  | true =>
    have hout : s.breaker.outcome r = s.breaker.recordFailure r.ended := by
      rw [outcome, if_pos hfld]
    rw [recordFailure_of_closed hcls] at hout
    constructor
    · simp only [forward, hfld, if_true]
      omega
    · intro hsty
      simp only [forward, hout, hfld, if_true] at hsty ⊢
      split at hsty
      · cases hsty
      · exact ⟨by omega, by omega⟩
    · simp only [forward, hout, hfld, if_true]
      have hmul : (s.failures + 1) * s.breaker.resetTimeoutMs ≤
          max s.breaker.failureThreshold 1 * s.breaker.resetTimeoutMs :=
        Nat.mul_le_mul_right _ (by omega)
      omega
    · intro hhf
      simp only [forward, hout] at hhf
      split at hhf <;> cases hhf
    · intro _ u hu
      rw [hpro] at hu
      simp only [forward, hout]
      exact (hres u hu).trans (hask.trans hend)

theorem order_of_step (h : step s r = some t) : s.clock ≤ r.asked ∧ r.asked ≤ r.ended := by
  unfold step at h
  split at h
  · cases h
  · omega

theorem step_eq (hask : s.clock ≤ r.asked) (hend : r.asked ≤ r.ended) :
    step s r =
      if (s.breaker.checkAndUpdateState r.asked).2 then
        some (s.forward (s.breaker.checkAndUpdateState r.asked).1 r)
      else some { s with
        breaker := (s.breaker.checkAndUpdateState r.asked).1, clock := r.asked } := by
  rw [step, if_neg (by omega)]

theorem Sound.step (h : Sound s) (hspa : Spaced s r) (hstep : step s r = some t) :
    Sound t ∧ t.leaked = s.leaked := by
  obtain ⟨hask, hend⟩ := order_of_step hstep
  have hlea : ∀ b, (s.forward b r).leaked = s.leaked := by
    intro b
    simp [forward, h.not_early hspa hask]
  rw [step_eq hask hend] at hstep
  cases hst : s.breaker.state with
  | closed =>
    rw [checkAndUpdateState_of_closed hst, if_pos rfl] at hstep
    obtain rfl := Option.some.inj hstep
    exact ⟨h.closed_forward hst hask hend, hlea _⟩
  | opened =>
    have htri := h.tripped (by rw [hst]; decide)
    have hres := h.rested (by rw [hst]; decide)
    rw [checkAndUpdateState_of_opened hst] at hstep
    split at hstep
    · next hwai =>
      obtain rfl := Option.some.inj hstep
      refine ⟨?_, hlea _⟩
      cases hfld : r.failed with
      | false => exact Sound.probe_succeeded (fun u hu => (hres u hu).trans hask) hend rfl rfl hfld
      | true => exact h.probe_failed (by rw [hst]; decide) (by omega) hend rfl rfl rfl hfld
    · obtain rfl := Option.some.inj hstep
      refine ⟨⟨h.ordered.trans hask, h.closed, ?_, h.probing, ?_⟩, rfl⟩
      · intro hop
        obtain ⟨hsuc, hl, hle⟩ := h.tripped hop
        exact ⟨hsuc, hl.trans hask, hle⟩
      · intro hhf u hu
        exact (h.rested hhf u hu).trans hask
  | halfOpen =>
    rw [checkAndUpdateState_of_halfOpen hst, if_pos rfl] at hstep
    obtain rfl := Option.some.inj hstep
    refine ⟨?_, hlea _⟩
    cases hfld : r.failed with
    | false =>
      refine Sound.probe_succeeded ?_ hend hst rfl hfld
      intro u hu
      rw [h.probing hst] at hu
      obtain rfl := Option.some.inj hu
      exact hspa hst
    | true => exact h.probe_failed (by rw [hst]; decide) (hspa hst) hend hst rfl rfl hfld

theorem Sound.leak (h : Sound s) (hspa : ¬ Spaced s r) (hstep : Recovering.step s r = some t) :
    t.leaked := by
  obtain ⟨hask, hend⟩ := order_of_step hstep
  unfold Spaced at hspa
  simp only [Classical.not_imp, not_le] at hspa
  obtain ⟨hst, hsn⟩ := hspa
  rw [step_eq hask hend, checkAndUpdateState_of_halfOpen hst] at hstep
  obtain rfl := Option.some.inj hstep
  simp [forward, early, h.probing hst, hsn]

theorem bounded_step_iff (h : Sound s) (hs : Bounded s) (hstep : Recovering.step s r = some t) :
    Bounded t ↔ Spaced s r := by
  constructor
  · intro ht
    by_contra hspa
    have hleak := h.leak hspa hstep
    rw [ht.1] at hleak
    cases hleak
  · intro hspa
    obtain ⟨hsnd, hlea⟩ := h.step hspa hstep
    exact hsnd.bounded (hlea.trans hs.1)

end Steps

theorem recovery_bounded_iff_spaced (failureThreshold resetTimeoutSecs now : Nat)
    (requests : List Attempted) :
    Throughout step Bounded (init failureThreshold resetTimeoutSecs now) requests ↔
      Along step Spaced (init failureThreshold resetTimeoutSecs now) requests := by
  have hsnd := sound_init failureThreshold resetTimeoutSecs now
  refine throughout_iff_along_while step ?_ ?_ requests hsnd (hsnd.bounded rfl)
  · intro s r t hs hbdd hbdd' hstep
    exact (hs.step ((bounded_step_iff hs hbdd hstep).mp hbdd') hstep).1
  · intro s r t hs hbdd hstep
    exact bounded_step_iff hs hbdd hstep

theorem failed_probe_leaves_gate_open :
    (run step (init 5 30 0)
        (List.replicate 5 ⟨0, 0, true⟩ ++ List.replicate 10 ⟨30000, 30000, true⟩)).map
      (fun s => (s.failures, s.clock - s.success, s.breaker.state, s.leaked)) =
        some (15, 30000, .halfOpen, true) := by
  decide +kernel

end Recovering

end ETradie.Envoy
