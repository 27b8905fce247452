import ETradie.Auth.AttemptLimiter

namespace ETradie.Auth

open RedisCounter

variable {S : Type}

section Sequences

variable {T : Type} (guess : S → T → S × Option Int)

def stateAt (init : S) (t : ℕ → T) : ℕ → S
  | 0 => init
  | n + 1 => (guess (stateAt init t n) (t n)).1

def lockAt (init : S) (t : ℕ → T) (n : ℕ) : Option Int := (guess (stateAt guess init t n) (t n)).2

def Escalates (locks : ℕ → Option Int) : Prop :=
  ∀ n d, locks n = some d → ∃ d', locks (n + 1) = some d' ∧ d ≤ d'

end Sequences

structure Attempt where
  (asked counted locked : Int)

variable (e : Option FailEntry)

def FailEntry.guess (a : Attempt) : Option FailEntry × Option Int :=
  if (isLocked e a.asked).1 then (e, none)
  else
    let r := registerFailure e a.counted
    (some r.1, if r.2.1 then some r.2.2 else none)

def RedisFailures.guess (s : RedisFailures) (a : Attempt) : RedisFailures × Option Int :=
  if (s.isLocked a.asked).1 then (s, none)
  else
    let r := s.registerFailure a.counted a.locked
    (r.1, if r.2.1 then some r.2.2 else none)

structure Sustained (locks : ℕ → Option Int) (expiry : Attempt → Int → Int) (pause : Int)
    (a : ℕ → Attempt) : Prop where
  clock : ∀ n, (a n).asked ≤ (a n).counted ∧ (a n).counted ≤ (a n).locked ∧
    (a n).locked ≤ (a (n + 1)).asked
  prompt : ∀ n d, locks n = some d →
    expiry (a n) d ≤ (a (n + 1)).asked ∧ (a (n + 1)).asked ≤ expiry (a n) d + pause

abbrev FailEntry.Guesses (a : ℕ → Attempt) : Prop :=
  Sustained (lockAt guess none a) (fun a d => a.counted + d) minute a

abbrev RedisFailures.Guesses (a : ℕ → Attempt) : Prop :=
  Sustained (lockAt guess {} a) (fun a d => a.locked + milliseconds d) (milliseconds minute) a

def lockFor (count : ℕ) : Option Int :=
  if lockoutThreshold ≤ count then some (lockoutDurationFor count) else none

variable {count : ℕ}

theorem lockFor_of_le (h : lockoutThreshold ≤ count) :
    lockFor count = some (lockoutDurationFor count) :=
  if_pos h

variable {d : Int}

theorem lockFor_eq_some_iff :
    lockFor count = some d ↔ lockoutThreshold ≤ count ∧ d = lockoutDurationFor count := by
  unfold lockFor
  split
  · next h => simp [h, eq_comm]
  · next h => simp [h]

theorem escalates_iff_of_counter {count : ℕ → ℕ} {kept : ℕ → Prop}
    (hnx : ∀ n, (kept n ∧ count (n + 1) = count n + 1) ∨ (¬ kept n ∧ count (n + 1) = 1)) :
    Escalates (fun n => lockFor (count n)) ↔ ∀ n, lockoutThreshold ≤ count n → kept n := by
  constructor
  · intro h n hn
    obtain ⟨d', hd', -⟩ := h n _ (lockFor_of_le hn)
    rcases hnx n with ⟨hkp, -⟩ | ⟨-, hone⟩
    · exact hkp
    · -- a counter that starts again does not lock
      have hlk : lockFor (count (n + 1)) = some d' := hd'
      rw [hone] at hlk
      cases hlk
  · intro h n d hd
    obtain ⟨hn, rfl⟩ := lockFor_eq_some_iff.mp hd
    rcases hnx n with ⟨-, hsucc⟩ | ⟨hlost, -⟩
    · refine ⟨lockoutDurationFor (count n + 1), ?_, lockoutDurationFor_le_succ _⟩
      show lockFor (count (n + 1)) = _
      rw [hsucc]
      exact lockFor_of_le (Nat.le_succ_of_le hn)
    · exact absurd (h n hn) hlost

variable {a : ℕ → Attempt} {at_ : Attempt} {now : Int}

namespace FailEntry

variable {then_ : Int}

def counted (count : ℕ) (now : Int) : FailEntry where
  count := count
  lockUntil := (lockFor count).map (fun d => now + d)
  updatedAt := now

def nextCount (now : Int) : ℕ := (current e now).count + 1

theorem registerFailure_eq
    (hlk : (current e now).count < lockoutThreshold → (current e now).lockUntil = none) :
    registerFailure e now =
      (counted (nextCount e now) now, (lockFor (nextCount e now)).isSome,
        lockoutDurationFor (nextCount e now)) := by
  unfold registerFailure nextCount
  by_cases h : lockoutThreshold ≤ (current e now).count + 1
  · have hpos := lockoutDurationFor_pos h
    simp [counted, lockFor_of_le h, hpos]
  · have hz := lockoutDurationFor_eq_zero (Nat.not_le.mp h)
    have hno : lockFor ((current e now).count + 1) = none := if_neg h
    have hunl := hlk (by omega)
    simp [counted, hno, hz, hunl]

theorem guess_eq (hop : (isLocked e at_.asked).1 = false)
    (hlk : (current e at_.counted).count < lockoutThreshold →
      (current e at_.counted).lockUntil = none) :
    guess e at_ =
      (some (counted (nextCount e at_.counted) at_.counted),
        lockFor (nextCount e at_.counted)) := by
  rw [guess, if_neg (by simp [hop]), registerFailure_eq e hlk]
  unfold lockFor
  split
  · rfl
  · rfl

theorem current_counted :
    current (some (counted count then_)) now =
      if lockoutCounterWindow < now - then_ then ⟨0, none, now⟩ else counted count then_ :=
  rfl

theorem lockUntil_current
    (h : (current (some (counted count then_)) now).count < lockoutThreshold) :
    (current (some (counted count then_)) now).lockUntil = none := by
  rw [current_counted] at h ⊢
  split
  · rfl
  · next hkp =>
    rw [if_neg hkp] at h
    have hno : lockFor count = none := if_neg (Nat.not_le.mpr h)
    simp [counted, hno]

theorem isLocked_counted (h : ∀ d, lockFor count = some d → then_ + d ≤ now) :
    (isLocked (some (counted count then_)) now).1 = false := by
  unfold isLocked
  cases hlk : lockFor count with
  | none => simp [counted, hlk]
  | some d =>
    have hov : ¬ now < then_ + d := not_lt.mpr (h d hlk)
    simp [counted, hlk, hov]

def countAt (a : ℕ → Attempt) (n : ℕ) : ℕ := nextCount (stateAt guess none a n) (a n).counted

theorem guess_stateAt (h : Guesses a) (n : ℕ) :
    guess (stateAt guess none a n) (a n) =
      (some (counted (countAt a n) (a n).counted), lockFor (countAt a n)) := by
  induction n with
  | zero => exact guess_eq none rfl (fun _ => rfl)
  | succ n ih =>
    have hst : stateAt guess none a (n + 1) = some (counted (countAt a n) (a n).counted) :=
      congrArg Prod.fst ih
    unfold countAt
    rw [hst]
    refine guess_eq _ ?_ lockUntil_current
    refine isLocked_counted ?_
    intro d hd
    exact (h.prompt n d ((congrArg Prod.snd ih).trans hd)).1

theorem stateAt_succ (h : Guesses a) (n : ℕ) :
    stateAt guess none a (n + 1) = some (counted (countAt a n) (a n).counted) :=
  congrArg Prod.fst (guess_stateAt h n)

theorem lockAt_eq (h : Guesses a) : lockAt guess none a = fun n => lockFor (countAt a n) := by
  funext n
  exact congrArg Prod.snd (guess_stateAt h n)

theorem countAt_succ (h : Guesses a) (n : ℕ) :
    ((a (n + 1)).counted - (a n).counted ≤ lockoutCounterWindow ∧
        countAt a (n + 1) = countAt a n + 1) ∨
      (¬ (a (n + 1)).counted - (a n).counted ≤ lockoutCounterWindow ∧ countAt a (n + 1) = 1) := by
  have hcnt : countAt a (n + 1) =
      nextCount (some (counted (countAt a n) (a n).counted)) (a (n + 1)).counted := by
    rw [countAt, stateAt_succ h n]
  rw [hcnt, nextCount, current_counted]
  split
  · exact .inr ⟨by omega, rfl⟩
  · exact .inl ⟨by omega, rfl⟩

def InTime (a : ℕ → Attempt) : Prop :=
  ∀ n e, stateAt guess none a n = some e → lockoutThreshold ≤ e.count →
    (a n).counted - e.updatedAt ≤ lockoutCounterWindow

theorem inTime_iff (h : Guesses a) :
    InTime a ↔
      ∀ n, lockoutThreshold ≤ countAt a n →
        (a (n + 1)).counted - (a n).counted ≤ lockoutCounterWindow := by
  constructor
  · intro hin n hn
    exact hin (n + 1) _ (stateAt_succ h n) hn
  · intro hkp n e he hcnt
    cases n with
    | zero => cases he
    | succ n =>
      rw [stateAt_succ h n] at he
      obtain rfl := Option.some.inj he
      exact hkp n hcnt

end FailEntry

namespace RedisFailures

variable {s : RedisFailures}

theorem guess_eq (hop : (s.isLocked at_.asked).1 = false) :
    s.guess at_ =
      (⟨some ⟨incr s.fail at_.counted,
            at_.counted + milliseconds lockoutCounterWindow⟩,
          ((lockFor (incr s.fail at_.counted)).map
            (fun d => at_.locked + milliseconds d)).or s.lockedUntil⟩,
        lockFor (incr s.fail at_.counted)) := by
  rw [guess, if_neg (by simp [hop]), registerFailure]
  by_cases h : lockoutThreshold ≤ incr s.fail at_.counted
  · have hpos := not_le.mpr (lockoutDurationFor_pos h)
    simp [lockFor_of_le h, hpos]
  · have hz := lockoutDurationFor_eq_zero (Nat.not_le.mp h)
    have hno : lockFor (incr s.fail at_.counted) = none := if_neg h
    simp [hno, hz]

theorem isLocked_eq_false_iff :
    (s.isLocked now).1 = false ↔ ∀ u, s.lockedUntil = some u → u ≤ now := by
  unfold isLocked
  cases s.lockedUntil with
  | none => simp
  | some u =>
    by_cases h : u ≤ now
    · have hov : ¬ now < u := not_lt.mpr h
      simp [h, hov]
    · have hloc : now < u := not_le.mp h
      simp [hloc]

def countAt (a : ℕ → Attempt) (n : ℕ) : ℕ :=
  RedisCounter.incr (stateAt guess {} a n).fail (a n).counted

theorem isLocked_stateAt (h : Guesses a) (n : ℕ) :
    ((stateAt guess {} a n).isLocked (a n).asked).1 = false := by
  induction n with
  | zero => rfl
  | succ n ih =>
    have hgue := guess_eq ih
    rw [isLocked_eq_false_iff] at ih ⊢
    intro u hu
    rw [stateAt, hgue] at hu
    cases hlk : lockFor (incr (stateAt guess {} a n).fail (a n).counted) with
    | none =>
      -- the lock of an earlier attempt is over
      rw [hlk] at hu
      have hear := ih u hu
      have hclk := h.clock n
      omega
    | some d =>
      rw [hlk] at hu
      obtain rfl := Option.some.inj hu
      exact (h.prompt n d ((congrArg Prod.snd hgue).trans hlk)).1

theorem fail_stateAt_succ (h : Guesses a) (n : ℕ) :
    (stateAt guess {} a (n + 1)).fail =
      some ⟨countAt a n, (a n).counted + milliseconds lockoutCounterWindow⟩ :=
  congrArg (·.1.fail) (guess_eq (isLocked_stateAt h n))

theorem lockAt_eq (h : Guesses a) : lockAt guess {} a = fun n => lockFor (countAt a n) := by
  funext n
  exact congrArg Prod.snd (guess_eq (isLocked_stateAt h n))

theorem countAt_succ (h : Guesses a) (n : ℕ) :
    ((a (n + 1)).counted < (a n).counted + milliseconds lockoutCounterWindow ∧
        countAt a (n + 1) = countAt a n + 1) ∨
      (¬ (a (n + 1)).counted < (a n).counted + milliseconds lockoutCounterWindow ∧
        countAt a (n + 1) = 1) := by
  have hcnt : countAt a (n + 1) = incr
      (some ⟨countAt a n, (a n).counted + milliseconds lockoutCounterWindow⟩)
      (a (n + 1)).counted := by
    rw [countAt, fail_stateAt_succ h n]
  rw [hcnt]
  by_cases hlv : (a (n + 1)).counted < (a n).counted + milliseconds lockoutCounterWindow
  · exact .inl ⟨hlv, incr_of_lt hlv⟩
  · exact .inr ⟨hlv, incr_of_le (not_lt.mp hlv)⟩

def InTime (a : ℕ → Attempt) : Prop :=
  ∀ n k, (stateAt guess {} a n).fail = some k → lockoutThreshold ≤ k.count →
    (a n).counted < k.expiresAt

theorem inTime_iff (h : Guesses a) :
    InTime a ↔
      ∀ n, lockoutThreshold ≤ countAt a n →
        (a (n + 1)).counted < (a n).counted + milliseconds lockoutCounterWindow := by
  constructor
  · intro hin n hn
    exact hin (n + 1) _ (fail_stateAt_succ h n) hn
  · intro hkp n k hk hcnt
    cases n with
    | zero => cases hk
    | succ n =>
      rw [fail_stateAt_succ h n] at hk
      obtain rfl := Option.some.inj hk
      exact hkp n hcnt

end RedisFailures

section Patience

variable (guess : S → Attempt → S × Option Int) (expiry : Attempt → Int → Int)
variable (delay : Int)

def Attempt.instant (t : Int) : Attempt := ⟨t, t, t⟩

def comeBack (a : Attempt) : Option Int → Attempt
  | none => a
  | some d => .instant (expiry a d + delay)

def patient (init : S) : ℕ → S × Attempt
  | 0 => (init, .instant 0)
  | n + 1 =>
    match patient init n with
    | (s, a) => ((guess s a).1, comeBack expiry delay a (guess s a).2)

def patience (init : S) (n : ℕ) : Attempt := (patient guess expiry delay init n).2

theorem stateAt_patience (init : S) (n : ℕ) :
    stateAt guess init (patience guess expiry delay init) n =
      (patient guess expiry delay init n).1 := by
  induction n with
  | zero => rfl
  | succ n ih =>
    rw [stateAt, ih]
    rfl

theorem patience_succ (init : S) (n : ℕ) :
    patience guess expiry delay init (n + 1) =
      comeBack expiry delay (patience guess expiry delay init n)
        (lockAt guess init (patience guess expiry delay init) n) := by
  rw [lockAt, stateAt_patience]
  rfl

theorem patience_instant (init : S) (n : ℕ) :
    ∃ t, patience guess expiry delay init n = .instant t := by
  induction n with
  | zero => exact ⟨0, rfl⟩
  | succ n ih =>
    rw [patience_succ]
    cases lockAt guess init (patience guess expiry delay init) n with
    | none => exact ih
    | some d => exact ⟨_, rfl⟩

theorem sustained_patience {guess : S → Attempt → S × Option Int} {expiry : Attempt → Int → Int}
    {delay pause : Int}
    (hlk : ∀ s t d, (guess s (.instant t)).2 = some d → t ≤ expiry (.instant t) d)
    (hdel : 0 ≤ delay) (hpau : delay ≤ pause) (init : S) :
    Sustained (lockAt guess init (patience guess expiry delay init)) expiry pause
      (patience guess expiry delay init) := by
  constructor
  · intro n
    obtain ⟨t, ht⟩ := patience_instant guess expiry delay init n
    rw [patience_succ]
    cases hd : lockAt guess init (patience guess expiry delay init) n with
    | none =>
      rw [ht]
      exact ⟨le_refl t, le_refl t, le_refl t⟩
    | some d =>
      rw [lockAt, ht] at hd
      rw [ht]
      refine ⟨le_refl t, le_refl t, ?_⟩
      exact le_add_of_le_of_nonneg (hlk _ t d hd) hdel
  · intro n d hd
    rw [patience_succ, hd]
    exact ⟨le_add_of_nonneg_right hdel, Int.add_le_add_left hpau _⟩

end Patience

theorem FailEntry.lock_pos (a : Attempt)
    (h : (guess e a).2 = some d) : 0 < d := by
  unfold guess registerFailure at h
  split at h
  · cases h
  · simp only at h
    split at h
    · next hpos =>
      obtain rfl := Option.some.inj h
      exact hpos
    · cases h

theorem RedisFailures.lock_pos (s : RedisFailures) (a : Attempt)
    (h : (guess s a).2 = some d) : 0 < d := by
  unfold guess registerFailure at h
  split at h
  · cases h
  · simp only at h
    split at h
    · cases h
    · next hpos =>
      obtain rfl := Option.some.inj h
      exact not_le.mp hpos

def FailEntry.patience (delay : Int) : ℕ → Attempt :=
  Auth.patience guess (fun a d => a.counted + d) delay none

def RedisFailures.patience (delay : Int) : ℕ → Attempt :=
  Auth.patience guess (fun a d => a.locked + milliseconds d) delay {}

variable {delay : Int}

theorem FailEntry.guesses_patience (hdel : 0 ≤ delay) (hpau : delay ≤ minute) :
    Guesses (patience delay) := by
  refine sustained_patience ?_ hdel hpau none
  intro e t d hd
  exact le_add_of_nonneg_right (lock_pos e _ hd).le

theorem RedisFailures.guesses_patience (hdel : 0 ≤ delay)
    (hpau : delay ≤ milliseconds minute) : Guesses (patience delay) := by
  refine sustained_patience ?_ hdel hpau ({} : RedisFailures)
  intro s t d hd
  exact le_add_of_nonneg_right (Int.ediv_nonneg (lock_pos s _ hd).le (by decide))

theorem escalates_iff_in_time {a b : ℕ → Attempt} (ha : FailEntry.Guesses a)
    (hb : RedisFailures.Guesses b) :
    (Escalates (lockAt FailEntry.guess none a) ↔ FailEntry.InTime a) ∧
      (Escalates (lockAt RedisFailures.guess {} b) ↔ RedisFailures.InTime b) := by
  constructor
  · rw [FailEntry.lockAt_eq ha, FailEntry.inTime_iff ha]
    exact escalates_iff_of_counter (FailEntry.countAt_succ ha)
  · rw [RedisFailures.lockAt_eq hb, RedisFailures.inTime_iff hb]
    exact escalates_iff_of_counter (RedisFailures.countAt_succ hb)

theorem escalates_iff_in_time_no_delay :
    FailEntry.Guesses (FailEntry.patience 0) ∧ RedisFailures.Guesses (RedisFailures.patience 0) ∧
      (Escalates (lockAt FailEntry.guess none (FailEntry.patience 0)) ↔
        FailEntry.InTime (FailEntry.patience 0)) ∧
      (Escalates (lockAt RedisFailures.guess {} (RedisFailures.patience 0)) ↔
        RedisFailures.InTime (RedisFailures.patience 0)) := by
  have ha : FailEntry.Guesses (FailEntry.patience 0) :=
    FailEntry.guesses_patience (by decide) (by decide)
  have hb : RedisFailures.Guesses (RedisFailures.patience 0) :=
    RedisFailures.guesses_patience (by decide) (by decide)
  exact ⟨ha, hb, escalates_iff_in_time ha hb⟩

theorem tenth_guess_not_locked :
    (FailEntry.Guesses (FailEntry.patience (minute / 2)) ∧
        lockAt FailEntry.guess none (FailEntry.patience (minute / 2)) 8 = some lockoutMaxDuration ∧
        lockAt FailEntry.guess none (FailEntry.patience (minute / 2)) 9 = none) ∧
      (RedisFailures.Guesses (RedisFailures.patience 30000) ∧
        lockAt RedisFailures.guess {} (RedisFailures.patience 30000) 8 = some lockoutMaxDuration ∧
        lockAt RedisFailures.guess {} (RedisFailures.patience 30000) 9 = none) := by
  refine ⟨⟨FailEntry.guesses_patience (by decide) (by decide), ?_, ?_⟩,
    ⟨RedisFailures.guesses_patience (by decide) (by decide), ?_, ?_⟩⟩
  · decide +kernel
  · decide +kernel
  · decide +kernel
  · decide +kernel

end ETradie.Auth
