import ETradie.Processor.Idempotency

namespace ETradie.Processor

open Kernel Keyed

inductive TryOutcome where
  | answered
  /-- A timeout or a connection error; the command did not run. -/
  | lost
  /-- A timeout or a connection error after the command has run. -/
  | unacknowledged
  /-- Any other error of the client, which is not retried. -/
  | refused (err : String)
deriving DecidableEq

inductive RetryResult where
  | returned (reply : Bool)
  /-- `CacheTimeoutError`, `CacheConnectionError` or `CacheError`. -/
  | exhausted
  | raised (err : String)
deriving DecidableEq

def tryAcquireLock : RetryResult → Except String Bool
  | .returned reply => .ok reply
  | .exhausted => .ok false
  | .raised err => .error err

def acquireHandle (token : String) : Except String Bool → Option String
  | .error _ => some token
  | .ok true => some token
  | .ok false => none

inductive OpenPhase (Out : Type) where
  | started
  | missed
  | locking (token : String) (left : Nat)
  | running (token : String)
  | executed (token : String) (out : Out)
  | failed (token : String) (err : String)
  | stored (token : String) (out : Out)
  | awaiting (deadline wake : Int)
  | back (result : Except GuardError Out)
  | crashed
deriving DecidableEq

variable {Out : Type}

namespace OpenPhase

def token : OpenPhase Out → Option String
  | .running token => some token
  | .executed token _ => some token
  | .failed token _ => some token
  | .stored token _ => some token
  | _ => none

def early : OpenPhase Out → Bool
  | .started => true
  | .missed => true
  | .locking _ _ => true
  | _ => false

def waits : OpenPhase Out → Bool
  | .awaiting _ _ => true
  | .back (.error .duplicateSuppressed) => true
  | _ => false

def suppressed : OpenPhase Out → Bool
  | .back (.error .duplicateSuppressed) => true
  | _ => false

end OpenPhase

structure OpenCall (Out : Type) where
  id : Nat
  phase : OpenPhase Out
  (met asked ran : Bool := false)
deriving DecidableEq

structure Outage (Out : Type) where
  maxRetries : Nat
  now : Int
  lock : Option LockKey := none
  result : Option (ResultKey Out) := none
  calls : Keyed (OpenCall.id : OpenCall Out → Nat) := Keyed.empty
  issued : List String := []

inductive Turn (Out : Type) where
  | checkCached (answered : Bool)
  | acquire (token : String)
  | attempt (outcome : TryOutcome)
  | executeReturns (out : Out)
  | executeRaises (err : String)
  | storeResult (applied : Bool)
  | release (applied : Bool)
  | poll (answered : Bool)
  | crash
deriving DecidableEq

inductive OutageAct (Out : Type) where
  | tick (ms : Nat)
  | call (i : Nat)
  | turn (i : Nat) (a : Turn Out)
deriving DecidableEq

variable (s : Outage Out) (c : OpenCall Out)

namespace Outage

def liveLock : Option LockKey := s.lock.filter (fun l => s.now < l.expiresAt)

def checkCached (answered : Bool) : Option Out :=
  if answered then (s.result.filter (fun r => s.now < r.expiresAt)).map ResultKey.output else none

def held : Bool :=
  s.liveLock.any (fun l => s.calls.rows.any (fun d => d.id ≠ c.id && d.phase.token = some l.token))

def put (s : Outage Out) (c : OpenCall Out) : Outage Out := { s with calls := s.calls.put c }

def setNx (token : String) : Outage Out :=
  match s.liveLock with
  | some _ => s
  | none => { s with lock := some ⟨token, s.now + lockTtl⟩ }

def deleteLock (token : String) : Outage Out :=
  match s.liveLock with
  | some l => if l.token = token then { s with lock := none } else s
  | none => s

def settle (token : String) (r : RetryResult) : Outage Out :=
  match acquireHandle token (tryAcquireLock r) with
  | some token => s.put { c with phase := .running token, asked := true, ran := true }
  | none => s.put { c with phase := .awaiting (s.now + awaitTimeout) s.now, asked := true }

def again (token : String) : (left : Nat) → Outage Out
  | 0 => s.settle c token .exhausted
  | left + 1 => s.put { c with phase := .locking token left }

def attempt (token : String) (left : Nat) :
    TryOutcome → Outage Out
  | .answered => (s.setNx token).settle c token (.returned s.liveLock.isNone)
  | .lost => s.again c token left
  | .unacknowledged => (s.setNx token).again c token left
  | .refused err => s.settle c token (.raised err)

def poll (deadline : Int) (answered : Bool) : Outage Out :=
  if s.now < deadline then
    match s.checkCached answered with
    | some out => s.put { c with phase := .back (.ok out) }
    | none => s.put { c with phase := .awaiting deadline (s.now + awaitPollInterval) }
  else s.put { c with phase := .back (.error .duplicateSuppressed) }

def looking : OpenCall Out := { c with met := c.met || s.held c }

def acquire (token : String) : Outage Out :=
  match s.maxRetries with
  | 0 => { s.settle (s.looking c) token .exhausted with issued := token :: s.issued }
  | left + 1 => { s.put { c with phase := .locking token left } with issued := token :: s.issued }

def advance (a : Turn Out) : Option (Outage Out) :=
  match c.phase, a with
  | .started, .checkCached answered =>
    match s.checkCached answered with
    | some out => some (s.put { c with phase := .back (.ok out) })
    | none => some (s.put { c with phase := .missed })
  | .missed, .acquire token =>
    -- a new uuid for every attempt
    if token ∈ s.issued then none else some (s.acquire c token)
  | .locking token left, .attempt outcome => some (s.attempt (s.looking c) token left outcome)
  | .running token, .executeReturns out => some (s.put { c with phase := .executed token out })
  | .running token, .executeRaises err => some (s.put { c with phase := .failed token err })
  | .executed token out, .storeResult applied =>
    let s := if applied then { s with result := some ⟨out, s.now + resultTtl⟩ } else s
    some (s.put { c with phase := .stored token out })
  | .stored token out, .release applied =>
    let s := if applied then s.deleteLock token else s
    some (s.put { c with phase := .back (.ok out) })
  | .failed token err, .release applied =>
    let s := if applied then s.deleteLock token else s
    some (s.put { c with phase := .back (.error (.execution err)) })
  | .awaiting deadline wake, .poll answered =>
    if wake ≤ s.now then some (s.poll c deadline answered) else none
  | .back _, .crash => none
  | _, .crash => some (s.put { c with phase := .crashed })
  | _, _ => none

def step : OutageAct Out → Option (Outage Out)
  | .tick ms => some { s with now := s.now + ms }
  | .call i => if s.calls.get i = none then some (s.put { id := i, phase := .started }) else none
  | .turn i a =>
    match s.calls.get i with
    | some c => s.advance c a
    | none => none

end Outage

structure OpenCall.FailsOpen {Out : Type} (c : OpenCall Out) : Prop where
  suppressed : c.phase.suppressed = true → c.met = true
  runs : c.asked = true → c.met = false → c.ran = true

namespace Outage

def FailsOpen (s : Outage Out) : Prop := ∀ c ∈ s.calls.rows, c.FailsOpen

def heard (left : Nat) : TryOutcome → Prop
  | .answered => s.liveLock = none
  | .lost => left ≠ 0
  | .unacknowledged => left ≠ 0
  | .refused _ => True

def HeardBy : Turn Out → Prop
  | .acquire _ => c.phase = .missed → c.met = false → s.held c = false → s.maxRetries ≠ 0
  | .attempt outcome => ∀ token left, c.phase = .locking token left → c.met = false →
      s.held c = false → s.heard left outcome
  | _ => True

def Heard : OutageAct Out → Prop
  | .turn i a => ∀ c, s.calls.get i = some c → s.HeardBy c a
  | _ => True

end Outage

section Steps

variable {t : Outage Out} {s} {d : OpenCall Out} {c} {token : String} {r : RetryResult}

structure OpenCall.Sound (c : OpenCall Out) : Prop where
  early : c.phase.early = true → c.asked = false ∧ c.ran = false
  waits : c.phase.waits = true → c.asked = true ∧ c.ran = false

theorem OpenCall.Sound.failsOpen_iff (h : c.Sound) :
    c.FailsOpen ↔ (c.asked → c.met = false → c.ran) := by
  refine ⟨fun hop => hop.runs, fun hruns => ⟨?_, hruns⟩⟩
  intro hsup
  have hwai : c.phase.waits := by
    unfold OpenPhase.suppressed at hsup
    split at hsup
    · next hph => rw [hph]; rfl
    · cases hsup
  obtain ⟨hask, hran⟩ := h.waits hwai
  by_contra hmet
  rw [hruns hask (Bool.eq_false_iff.mpr hmet)] at hran
  cases hran

theorem OpenCall.Sound.failsOpen_of_same (h : d.Sound) (hop : c.FailsOpen) (hmet : d.met = c.met)
    (hask : d.asked = c.asked) (hran : d.ran = c.ran) : d.FailsOpen := by
  rw [h.failsOpen_iff, hmet, hask, hran]
  exact hop.runs

structure Outage.Replaces (s : Outage Out) (c d : OpenCall Out) (t : Outage Out) : Prop where
  id : d.id = c.id
  calls : t.calls = s.calls.put d

@[simp] theorem Outage.calls_setNx : (s.setNx token).calls = s.calls := by
  unfold Outage.setNx
  split <;> rfl

@[simp] theorem Outage.calls_deleteLock : (s.deleteLock token).calls = s.calls := by
  unfold Outage.deleteLock
  split
  · split <;> rfl
  · rfl

theorem Outage.calls_put_deleteLock (applied : Bool) (d : OpenCall Out) :
    ((if applied then s.deleteLock token else s).put d).calls = s.calls.put d := by
  cases applied <;> simp [Outage.put]

theorem Outage.settle_spec (s : Outage Out) (token : String) (r : RetryResult)
    (hran : c.ran = false) :
    ∃ d, s.Replaces c d (s.settle c token r) ∧ d.Sound ∧
      (d.FailsOpen ↔ (acquireHandle token (tryAcquireLock r) = none → c.met)) := by
  unfold Outage.settle
  split
  · next handle hhan =>
    refine ⟨{ c with phase := .running handle, asked := true, ran := true }, ⟨rfl, rfl⟩,
      ⟨by simp [OpenPhase.early], by simp [OpenPhase.waits]⟩, ?_⟩
    refine iff_of_true ⟨by simp [OpenPhase.suppressed], fun _ _ => rfl⟩ ?_
    rw [hhan]
    intro hno
    cases hno
  · next hno =>
    have hsnd : ({ c with
        phase := .awaiting (s.now + awaitTimeout) s.now, asked := true } : OpenCall Out).Sound :=
      ⟨by simp [OpenPhase.early], fun _ => ⟨rfl, hran⟩⟩
    refine ⟨{ c with phase := .awaiting (s.now + awaitTimeout) s.now, asked := true },
      ⟨rfl, rfl⟩, hsnd, ?_⟩
    rw [hsnd.failsOpen_iff]
    simp [hno, hran]

theorem Outage.again_spec (s : Outage Out) (token : String) (left : Nat) (hask : c.asked = false)
    (hran : c.ran = false) :
    ∃ d, s.Replaces c d (s.again c token left) ∧ d.Sound ∧
      (d.FailsOpen ↔ (c.met = false → left ≠ 0)) := by
  cases left with
  | zero =>
    obtain ⟨d, hrep, hsnd, hop⟩ := s.settle_spec token .exhausted hran
    refine ⟨d, hrep, hsnd, ?_⟩
    rw [hop]
    simp [tryAcquireLock, acquireHandle]
  | succ left =>
    have hsnd : ({ c with phase := .locking token left } : OpenCall Out).Sound :=
      ⟨fun _ => ⟨hask, hran⟩, by simp [OpenPhase.waits]⟩
    refine ⟨{ c with phase := .locking token left }, ⟨rfl, rfl⟩, hsnd, ?_⟩
    rw [hsnd.failsOpen_iff]
    simp [hask]

theorem Outage.met_looking : (s.looking c).met = false ↔ c.met = false ∧ s.held c = false := by
  simp [Outage.looking]

theorem Outage.heardBy_attempt_iff {left : Nat} {outcome : TryOutcome}
    (hph : c.phase = .locking token left) :
    s.HeardBy c (.attempt outcome) ↔ ((s.looking c).met = false → s.heard left outcome) := by
  rw [Outage.met_looking]
  constructor
  · rintro h ⟨hmet, hhd⟩
    exact h token left hph hmet hhd
  · intro h token' left' hph' hmet hhd
    rw [hph] at hph'
    cases hph'
    exact h ⟨hmet, hhd⟩

theorem Outage.attempt_spec (s : Outage Out) (left : Nat) (outcome : TryOutcome)
    (hask : c.asked = false) (hran : c.ran = false) :
    ∃ d, s.Replaces c d (s.attempt c token left outcome) ∧ d.Sound ∧
      (d.FailsOpen ↔ (c.met = false → s.heard left outcome)) := by
  cases outcome with
  | answered =>
    obtain ⟨d, hrep, hsnd, hop⟩ := (s.setNx token).settle_spec token
      (.returned s.liveLock.isNone) hran
    refine ⟨d, ⟨hrep.id, ?_⟩, hsnd, ?_⟩
    · rw [Outage.attempt, hrep.calls, Outage.calls_setNx]
    · rw [hop, Outage.heard]
      cases s.liveLock with
      | none | some l => simp [tryAcquireLock, acquireHandle]
  | lost => exact s.again_spec token left hask hran
  | unacknowledged =>
    obtain ⟨d, hrep, hsnd, hop⟩ := (s.setNx token).again_spec token left hask hran
    refine ⟨d, ⟨hrep.id, ?_⟩, hsnd, hop⟩
    rw [Outage.attempt, hrep.calls, Outage.calls_setNx]
  | refused err =>
    obtain ⟨d, hrep, hsnd, hop⟩ := s.settle_spec token (.raised err) hran
    refine ⟨d, hrep, hsnd, ?_⟩
    rw [hop]
    simp [tryAcquireLock, acquireHandle, Outage.heard]

theorem Outage.moved_spec {phase : OpenPhase Out} {a : Turn Out} (h : c.Sound) (hop : c.FailsOpen)
    (hcal : t.calls = s.calls.put { c with phase := phase })
    (herl : phase.early → c.phase.early)
    (hwai : phase.waits → c.phase.waits) (hhea : s.HeardBy c a) :
    ∃ d, s.Replaces c d t ∧ d.Sound ∧ (d.FailsOpen ↔ s.HeardBy c a) := by
  have hsnd : ({ c with phase := phase } : OpenCall Out).Sound :=
    ⟨fun he => h.early (herl he), fun hw => h.waits (hwai hw)⟩
  exact ⟨{ c with phase := phase }, ⟨rfl, hcal⟩, hsnd,
    iff_of_true (hsnd.failsOpen_of_same hop rfl rfl rfl) hhea⟩

theorem Outage.advance_spec {a : Turn Out} (h : c.Sound) (hop : c.FailsOpen)
    (hadv : s.advance c a = some t) :
    ∃ d, s.Replaces c d t ∧ d.Sound ∧ (d.FailsOpen ↔ s.HeardBy c a) := by
  revert hadv
  fun_cases Outage.advance s c a
  all_goals rintro ⟨⟩
  · exact moved_spec h hop rfl nofun nofun trivial
  · next hph _ => exact moved_spec h hop rfl (fun _ => hph ▸ rfl) nofun trivial
  · next token hph _ =>
    obtain ⟨-, hran⟩ := h.early (by rw [hph]; rfl)
    unfold Outage.acquire
    split
    · next hz =>
      obtain ⟨d, hrep, hsnd, hiff⟩ := s.settle_spec token .exhausted (c := s.looking c) hran
      refine ⟨d, ⟨hrep.id, hrep.calls⟩, hsnd, ?_⟩
      rw [hiff, Outage.HeardBy]
      cases hmet : c.met with
      | true => simp [Outage.looking, hmet]
      | false => simp [tryAcquireLock, acquireHandle, hph, hz, Outage.looking, hmet]
    · next left hlf =>
      refine moved_spec h hop rfl (fun _ => hph ▸ rfl) nofun ?_
      intro _ _ _
      rw [hlf]
      exact Nat.succ_ne_zero left
  · next token left outcome hph =>
    obtain ⟨hask, hran⟩ := h.early (by rw [hph]; rfl)
    obtain ⟨d, hrep, hsnd, hiff⟩ := s.attempt_spec left outcome (c := s.looking c) hask hran
    exact ⟨d, ⟨hrep.id, hrep.calls⟩, hsnd, hiff.trans (heardBy_attempt_iff hph).symm⟩
  · exact moved_spec h hop rfl nofun nofun trivial
  · exact moved_spec h hop rfl nofun nofun trivial
  · next token out applied _ s' =>
    have hcal : (s'.put { c with phase := .stored token out }).calls =
        s.calls.put { c with phase := .stored token out } := by
      cases applied <;> rfl
    exact moved_spec h hop hcal nofun nofun trivial
  · exact moved_spec h hop (calls_put_deleteLock _ _) nofun nofun trivial
  · exact moved_spec h hop (calls_put_deleteLock _ _) nofun nofun trivial
  · next hph _ =>
    have hwai : c.phase.waits := by rw [hph]; rfl
    fun_cases Outage.poll s c _ _
    all_goals exact moved_spec h hop rfl nofun (fun _ => hwai) trivial
  · exact moved_spec h hop rfl nofun nofun trivial

def Outage.Sound (s : Outage Out) : Prop := ∀ c ∈ s.calls.rows, c.Sound

theorem Outage.sound_step {a : OutageAct Out} (h : s.Sound) (hop : s.FailsOpen)
    (hst : s.step a = some t) : t.Sound ∧ (t.FailsOpen ↔ s.Heard a) := by
  revert hst
  fun_cases Outage.step s a
  · rintro ⟨⟩
    exact ⟨h, iff_of_true hop trivial⟩
  · rintro ⟨⟩
    exact ⟨forall_mem_put ⟨fun _ => ⟨rfl, rfl⟩, nofun⟩ h,
      iff_of_true (forall_mem_put ⟨nofun, nofun⟩ hop) trivial⟩
  · nofun
  · next i a c hg =>
    intro hadv
    have hm := mem_of_get hg
    obtain ⟨d, hrep, hsnd, hiff⟩ := advance_spec (h c hm) (hop c hm) hadv
    have hhea : s.Heard (.turn i a) ↔ s.HeardBy c a := by simp [Outage.Heard, hg]
    rw [hhea, ← hiff, Outage.Sound, Outage.FailsOpen, hrep.calls]
    refine ⟨forall_mem_put hsnd h, ?_, fun hd => forall_mem_put hd hop⟩
    intro hall
    exact hall d (mem_put.mpr (.inl rfl))
  · nofun

end Steps

theorem fails_open_iff_heard (maxRetries : Nat) (now : Int) (lock : Option LockKey)
    (result : Option (ResultKey Out)) (as : List (OutageAct Out)) :
    Throughout Outage.step Outage.FailsOpen
        { maxRetries := maxRetries, now := now, lock := lock, result := result } as ↔
      Along Outage.step Outage.Heard
        { maxRetries := maxRetries, now := now, lock := lock, result := result } as := by
  refine throughout_iff_along_while Outage.step (I := Outage.Sound) ?_ ?_ as ?_ ?_
  · intro s a t hs hop _ hst
    exact (Outage.sound_step hs hop hst).1
  · intro s a t hs hop hst
    exact (Outage.sound_step hs hop hst).2
  · nofun
  · nofun

def unreachable : List (OutageAct Nat) :=
  [.call 0, .turn 0 (.checkCached false), .turn 0 (.acquire "t0"), .turn 0 (.attempt .lost),
    .turn 0 (.attempt .lost), .turn 0 (.attempt .lost), .turn 0 (.poll false), .tick 5000,
    .turn 0 (.poll false)]

theorem lone_call_suppressed :
    ∃ s, run Outage.step ({ maxRetries := 3, now := 0 } : Outage Nat) unreachable = some s ∧
      s.calls.rows = [{ id := 0, phase := .back (.error .duplicateSuppressed), asked := true }] ∧
      ¬ s.FailsOpen := by
  have hrun : (run Outage.step ({ maxRetries := 3, now := 0 } : Outage Nat) unreachable).map
      (fun s => s.calls.rows) =
        some [{ id := 0, phase := .back (.error .duplicateSuppressed), asked := true }] := by
    decide +kernel
  obtain ⟨s, hs, hrw⟩ := Option.map_eq_some_iff.mp hrun
  refine ⟨s, hs, hrw, ?_⟩
  intro hop
  have hmet := (hop _ (by rw [hrw]; exact List.mem_singleton.mpr rfl)).suppressed rfl
  cases hmet

end ETradie.Processor
