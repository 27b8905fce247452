import Mathlib.Tactic

namespace ETradie.Auth

def minute : Int := 60 * 1000000000

def lockoutThreshold : Nat := 5

def lockoutBaseDuration : Int := minute

def lockoutMaxDuration : Int := 15 * minute

def lockoutCounterWindow : Int := 15 * minute

def milliseconds (d : Int) : Int := d / 1000000

def doubled : (turns : Nat) → Int → Int
  | 0, d => if lockoutMaxDuration < d then lockoutMaxDuration else d
  | turns + 1, d => if lockoutMaxDuration ≤ d * 2 then lockoutMaxDuration else doubled turns (d * 2)

def lockoutDurationFor (failures : Nat) : Int :=
  if failures < lockoutThreshold then 0
  else doubled (failures - lockoutThreshold) lockoutBaseDuration

variable (scope : String)

def rateLimit : Nat :=
  if scope = "login" then 10
  else if scope = "register" then 5
  else if scope = "refresh" then 20
  else 10

def rateWindow : Int := minute

structure FailEntry where
  count : Nat
  lockUntil : Option Int
  updatedAt : Int
deriving DecidableEq

variable (e : Option FailEntry) (now : Int)

namespace FailEntry

def isLocked : Bool × Int :=
  match e.bind FailEntry.lockUntil with
  | some lockUntil => if now < lockUntil then (true, lockUntil - now) else (false, 0)
  | none => (false, 0)

def current : FailEntry :=
  match e with
  | some e => if lockoutCounterWindow < now - e.updatedAt then ⟨0, none, now⟩ else e
  | none => ⟨0, none, now⟩

def registerFailure : FailEntry × Bool × Int :=
  let e := { current e now with count := (current e now).count + 1, updatedAt := now }
  let d := lockoutDurationFor e.count
  if 0 < d then ({ e with lockUntil := some (now + d) }, true, d) else (e, false, 0)

end FailEntry

structure RedisCounter where
  count : Nat
  expiresAt : Int
deriving DecidableEq

def RedisCounter.live (k : Option RedisCounter) (now : Int) : Option RedisCounter :=
  k.filter (fun k => now < k.expiresAt)

def RedisCounter.incr (k : Option RedisCounter) (now : Int) : Nat :=
  match RedisCounter.live k now with
  | some k => k.count + 1
  | none => 1

structure RedisFailures where
  fail : Option RedisCounter := none
  lockedUntil : Option Int := none
deriving DecidableEq

namespace RedisFailures

def isLocked (s : RedisFailures) (now : Int) : Bool × Int :=
  match s.lockedUntil with
  | some lockedUntil => if 0 < lockedUntil - now then (true, lockedUntil - now) else (false, 0)
  | none => (false, 0)

def registerFailure (s : RedisFailures) (now setAt : Int) : RedisFailures × Bool × Int :=
  let count := RedisCounter.incr s.fail now
  let s := { s with fail := some ⟨count, now + milliseconds lockoutCounterWindow⟩ }
  let lockDur := lockoutDurationFor count
  if lockDur ≤ 0 then (s, false, 0)
  else ({ s with lockedUntil := some (setAt + milliseconds lockDur) }, true, lockDur)

end RedisFailures

def rateScript (k : Option RedisCounter) (now : Int) : RedisCounter :=
  match RedisCounter.live k now with
  | some k => { k with count := k.count + 1 }
  | none => ⟨1, now + milliseconds rateWindow⟩

def allowRequest (k : Option RedisCounter) (now : Int) :
    RedisCounter × Bool × Int :=
  let k := rateScript k now
  if rateLimit scope < k.count then (k, false, rateWindow) else (k, true, 0)

variable {d : Int}
variable (turns : Nat)

theorem doubled_pos (h : 0 < d) : 0 < doubled turns d := by
  induction turns generalizing d with
  | zero =>
    unfold doubled
    split
    · decide
    · exact h
  | succ turns ih =>
    unfold doubled
    split
    · decide
    · exact ih (by omega)

theorem doubled_le_max (d : Int) : doubled turns d ≤ lockoutMaxDuration := by
  induction turns generalizing d with
  | zero =>
    unfold doubled
    split
    · rfl
    · omega
  | succ turns ih =>
    unfold doubled
    split
    · rfl
    · exact ih (d * 2)

theorem doubled_le_succ (h : 0 < d) : doubled turns d ≤ doubled (turns + 1) d := by
  induction turns generalizing d with
  | zero =>
    by_cases hmax : lockoutMaxDuration ≤ d * 2
    · have hone : doubled (0 + 1) d = lockoutMaxDuration := if_pos hmax
      rw [hone]
      exact doubled_le_max 0 d
    · simp only [doubled]
      split
      · omega
      · split
        · omega
        · omega
  | succ turns ih =>
    rw [doubled, doubled]
    split
    · rfl
    · exact ih (by omega)

variable {failures : Nat}

theorem lockoutDurationFor_eq_zero (h : failures < lockoutThreshold) :
    lockoutDurationFor failures = 0 :=
  if_pos h

theorem lockoutDurationFor_pos (h : lockoutThreshold ≤ failures) :
    0 < lockoutDurationFor failures := by
  rw [lockoutDurationFor, if_neg (Nat.not_lt.mpr h)]
  exact doubled_pos _ (by decide)

theorem lockoutDurationFor_le_succ (failures : Nat) :
    lockoutDurationFor failures ≤ lockoutDurationFor (failures + 1) := by
  by_cases h : failures < lockoutThreshold
  · rw [lockoutDurationFor_eq_zero h]
    by_cases h' : failures + 1 < lockoutThreshold
    · rw [lockoutDurationFor_eq_zero h']
    · exact (lockoutDurationFor_pos (Nat.not_lt.mp h')).le
  · have hsucc : failures + 1 - lockoutThreshold = failures - lockoutThreshold + 1 := by
      omega
    rw [lockoutDurationFor, lockoutDurationFor, if_neg h, if_neg (by omega), hsucc]
    exact doubled_le_succ _ (by decide)

section Counters

variable {k : RedisCounter} {now}

theorem RedisCounter.live_of_lt (h : now < k.expiresAt) :
    RedisCounter.live (some k) now = some k := by
  simp [RedisCounter.live, h]

theorem RedisCounter.live_of_le (h : k.expiresAt ≤ now) :
    RedisCounter.live (some k) now = none := by
  simp [RedisCounter.live, h]

theorem RedisCounter.incr_of_lt (h : now < k.expiresAt) :
    RedisCounter.incr (some k) now = k.count + 1 := by
  rw [RedisCounter.incr, RedisCounter.live_of_lt h]

theorem RedisCounter.incr_of_le (h : k.expiresAt ≤ now) : RedisCounter.incr (some k) now = 1 := by
  rw [RedisCounter.incr, RedisCounter.live_of_le h]

theorem rateLimit_pos : 0 < rateLimit scope := by
  unfold rateLimit
  split_ifs <;> decide

end Counters

end ETradie.Auth
