import ETradie.Kernel.Runs
import ETradie.Kernel.Tally

namespace ETradie.Execution

open Kernel

universe u

structure QueueConfig where
  (maxConcurrent perUserCap : Int)
  /-- Nanoseconds. -/
  defaultDeadline : Int
deriving DecidableEq

structure BurstQueue where
  (maxConcurrent perUserCap : Nat)
  defaultDeadline : Int
  maxConcurrent_pos : 0 < maxConcurrent
  perUserCap_pos : 0 < perUserCap

def newBurstQueue (cfg : QueueConfig) : BurstQueue where
  maxConcurrent := if cfg.maxConcurrent ≤ 0 then 8 else cfg.maxConcurrent.toNat
  perUserCap := if cfg.perUserCap ≤ 0 then 4 else cfg.perUserCap.toNat
  defaultDeadline := if cfg.defaultDeadline ≤ 0 then 2000000000 else cfg.defaultDeadline
  maxConcurrent_pos := by split <;> omega
  perUserCap_pos := by split <;> omega

inductive DropReason where
  | perUserOverflow
  | deadline
  | shutdown
deriving DecidableEq

inductive QueuePhase where
  | idle
  /-- Passed the overflow test, blocked in the `select`. -/
  | waiting
  /-- Holds a semaphore slot, counter not bumped yet. -/
  | acquired
  /-- `Enter` has returned its release function. -/
  | entered
  /-- `release` has decremented the counter, slot not given back yet. -/
  | draining
  | released
  | dropped (reason : DropReason)
deriving DecidableEq

structure QueueState (C : Type u) where
  perUser : String → Option Int
  globalSem : Nat
  phase : C → QueuePhase

inductive QueueAction (C : Type u) where
  | overflowTest (c : C)
  | acquireSlot (c : C)
  | timerFires (c : C)
  | ctxDone (c : C)
  | bumpCounter (c : C)
  | releaseCounter (c : C)
  | releaseSlot (c : C)
deriving DecidableEq

namespace QueueState

variable {C : Type u}

def count (s : QueueState C) (userID : String) : Int := (s.perUser userID).getD 0

def increment (s : QueueState C) (userID : String) : QueueState C :=
  { s with perUser := Function.update s.perUser userID (some (s.count userID + 1)) }

def decrement (s : QueueState C) (userID : String) : QueueState C :=
  { s with
    perUser := Function.update s.perUser userID
      (if s.count userID - 1 ≤ 0 then none else some (s.count userID - 1)) }

def init : QueueState C where
  perUser := fun _ => none
  globalSem := 0
  phase := fun _ => .idle

theorem count_increment (s : QueueState C) (u userID : String) :
    (s.increment u).count userID = s.count userID + (if u = userID then 1 else 0) := by
  by_cases hu : u = userID
  · subst hu
    simp [count, increment]
  · have hne : userID ≠ u := fun h => hu h.symm
    simp [count, increment, Function.update_of_ne hne, hu]

theorem count_decrement (s : QueueState C) (u userID : String) (hpos : 0 < s.count u) :
    (s.decrement u).count userID + (if u = userID then 1 else 0) = s.count userID := by
  by_cases hu : u = userID
  · subst hu
    by_cases hl : s.count u - 1 ≤ 0
    · have hone : s.count u = 1 := by omega
      have hz : (s.decrement u).count u = 0 := by
        simp only [decrement, if_pos hl]
        simp [count]
      rw [hz, hone, if_pos rfl, zero_add]
    · simp only [decrement, if_neg hl]
      simp [count]
  · have hne : userID ≠ u := fun h => hu h.symm
    simp [count, decrement, Function.update_of_ne hne, hu]

def Tidy (s : QueueState C) : Prop := ∀ userID n, s.perUser userID = some n → 0 < n

theorem Tidy.count_nonneg {s : QueueState C} (h : s.Tidy) (userID : String) :
    0 ≤ s.count userID := by
  unfold count
  cases hn : s.perUser userID with
  | none => exact le_rfl
  | some n => exact (h userID n hn).le

theorem Tidy.write {s : QueueState C} (h : s.Tidy) {u : String} {v : Option Int}
    (hv : ∀ n, v = some n → 0 < n) :
    Tidy { s with perUser := Function.update s.perUser u v } := by
  intro userID n hn
  dsimp only at hn
  rcases eq_or_ne userID u with rfl | hne
  · rw [Function.update_self] at hn
    exact hv n hn
  · rw [Function.update_of_ne hne] at hn
    exact h userID n hn

end QueueState

section Steps

variable {C : Type u} [DecidableEq C]

def QueueState.moveTo (s : QueueState C) (c : C) (p : QueuePhase) : QueueState C :=
  { s with phase := Function.update s.phase c p }

def BurstQueue.step (q : BurstQueue) (user : C → String)
    (s : QueueState C) : QueueAction C → Option (QueueState C)
  | .overflowTest c =>
    if s.phase c = .idle then
      if (q.perUserCap : Int) ≤ s.count (user c) then
        some (s.moveTo c (.dropped .perUserOverflow))
      else
        some (s.moveTo c .waiting)
    else none
  | .acquireSlot c =>
    if s.phase c = .waiting ∧ s.globalSem < q.maxConcurrent then
      some { s.moveTo c .acquired with globalSem := s.globalSem + 1 }
    else none
  | .timerFires c =>
    if s.phase c = .waiting then
      some (s.moveTo c (.dropped .deadline))
    else none
  | .ctxDone c =>
    if s.phase c = .waiting then
      some (s.moveTo c (.dropped .shutdown))
    else none
  | .bumpCounter c =>
    if s.phase c = .acquired then
      some ((s.moveTo c .entered).increment (user c))
    else none
  | .releaseCounter c =>
    if s.phase c = .entered then
      some ((s.moveTo c .draining).decrement (user c))
    else none
  | .releaseSlot c =>
    if s.phase c = .draining then
      some { s.moveTo c .released with globalSem := s.globalSem - 1 }
    else none

theorem tidy_step {q : BurstQueue} {user : C → String} {s t : QueueState C} {a : QueueAction C}
    (hs : s.Tidy) (h : q.step user s a = some t) : t.Tidy := by
  revert h
  fun_cases BurstQueue.step q user s a
  all_goals rintro ⟨⟩
  case case10 c _ =>
    refine QueueState.Tidy.write hs fun n hn => ?_
    cases hn
    exact Int.lt_add_one_of_le (hs.count_nonneg (user c))
  case case12 =>
    refine QueueState.Tidy.write hs fun n hn => ?_
    split_ifs at hn with hl
    cases hn
    exact not_le.mp hl
  all_goals exact hs

end Steps

section Accounting

variable {C : Type u} [Fintype C]

def isInFlight (user : C → String) (userID : String) (c : C) (p : QueuePhase) : Bool :=
  decide (user c = userID) && decide (p = .entered)

def inFlight (user : C → String) (s : QueueState C) (userID : String) : Nat :=
  tally (fun c => isInFlight user userID c (s.phase c))

def Balanced (user : C → String) (s : QueueState C) : Prop :=
  ∀ userID, s.count userID = (inFlight user s userID : Int)

def WithinCap (q : BurstQueue) (user : C → String) (s : QueueState C) : Prop :=
  ∀ userID, inFlight user s userID ≤ q.perUserCap

def BumpBelowCap (q : BurstQueue) (user : C → String)
    (s : QueueState C) : QueueAction C → Prop
  | .bumpCounter c => s.count (user c) < q.perUserCap
  | _ => True

theorem balanced_init (user : C → String) : Balanced user (QueueState.init : QueueState C) := by
  intro userID
  have hz : inFlight user (QueueState.init : QueueState C) userID = 0 := by
    apply (tally_eq_zero_iff _).mpr
    simp [isInFlight, QueueState.init]
  rw [hz]
  rfl

theorem withinCap_init (q : BurstQueue) (user : C → String) :
    WithinCap q user (QueueState.init : QueueState C) := by
  intro userID
  have h := balanced_init user userID
  simp only [QueueState.count, QueueState.init, Option.getD_none] at h
  have : inFlight user (QueueState.init : QueueState C) userID = 0 := by
    simp only [QueueState.init]
    omega
  omega

theorem inFlight_pos (user : C → String) (s : QueueState C) (c : C) (hc : s.phase c = .entered) :
    0 < inFlight user s (user c) :=
  tally_pos c (by simp [isInFlight, hc])

def QueuePhase.holdsSlot : QueuePhase → Bool
  | .acquired | .entered | .draining => true
  | _ => false

def QueuePhase.isDone : QueuePhase → Bool
  | .idle | .released | .dropped _ => true
  | _ => false

structure Bookkept (q : BurstQueue) (user : C → String) (s : QueueState C) : Prop where
  counter : ∀ userID, s.count userID = inFlight user s userID
  key : ∀ userID, s.perUser userID = none ↔ inFlight user s userID = 0
  tokens : s.globalSem ≤ q.maxConcurrent
  drained : (∀ c, (s.phase c).isDone = true) → (∀ userID, s.perUser userID = none) ∧ s.globalSem = 0

structure Slots (q : BurstQueue) (s : QueueState C) : Prop where
  held : s.globalSem = tally (fun c => (s.phase c).holdsSlot)
  bound : s.globalSem ≤ q.maxConcurrent

variable {q : BurstQueue} {user : C → String} {s t : QueueState C} {a : QueueAction C}

structure Settled (q : BurstQueue) (user : C → String) (s : QueueState C) : Prop where
  balanced : Balanced user s
  tidy : s.Tidy
  slots : Slots q s

theorem QueuePhase.outside_of_isDone {p : QueuePhase} (h : p.isDone) :
    p.holdsSlot = false ∧ p ≠ .entered := by
  cases p with
  | idle | released | dropped => exact ⟨rfl, nofun⟩
  | waiting | acquired | entered | draining => cases h

theorem Slots.init (q : BurstQueue) : Slots q (QueueState.init : QueueState C) where
  held := ((tally_eq_zero_iff _).mpr fun _ => rfl).symm
  bound := Nat.zero_le _

theorem Settled.perUser_eq_none_iff (h : Settled q user s) (userID : String) :
    s.perUser userID = none ↔ inFlight user s userID = 0 := by
  have hcnt := h.balanced userID
  unfold QueueState.count at hcnt
  cases hn : s.perUser userID with
  | none =>
    rw [hn, Option.getD_none] at hcnt
    exact iff_of_true rfl (by omega)
  | some n =>
    rw [hn, Option.getD_some] at hcnt
    have hpos := h.tidy userID n hn
    exact iff_of_false nofun (by omega)

theorem Settled.bookkept (s : QueueState C) (h : Settled q user s) : Bookkept q user s where
  counter := h.balanced
  key := h.perUser_eq_none_iff
  tokens := h.slots.bound
  drained hdo := by
    constructor
    · intro userID
      refine (h.perUser_eq_none_iff userID).mpr ((tally_eq_zero_iff _).mpr fun c => ?_)
      simp [isInFlight, (QueuePhase.outside_of_isDone (hdo c)).2]
    · rw [h.slots.held]
      exact (tally_eq_zero_iff _).mpr fun c => (QueuePhase.outside_of_isDone (hdo c)).1

variable [DecidableEq C]

theorem inFlight_moveTo (user : C → String) (s : QueueState C) (c : C) (p : QueuePhase)
    (userID : String) :
    inFlight user (s.moveTo c p) userID + (isInFlight user userID c (s.phase c)).toNat =
      inFlight user s userID + (isInFlight user userID c p).toNat :=
  tally_update (isInFlight user userID) s.phase c p

theorem inFlight_moveTo_outside (user : C → String) (s : QueueState C) (c : C) (p : QueuePhase)
    (ho : s.phase c ≠ .entered) (hn : p ≠ .entered) (userID : String) :
    inFlight user (s.moveTo c p) userID = inFlight user s userID := by
  have h := inFlight_moveTo user s c p userID
  simpa [isInFlight, ho, hn] using h

theorem inFlight_moveTo_entered (user : C → String) (s : QueueState C) (c : C)
    (ho : s.phase c ≠ .entered) (userID : String) :
    inFlight user (s.moveTo c .entered) userID =
      inFlight user s userID + (if user c = userID then 1 else 0) := by
  have h := inFlight_moveTo user s c .entered userID
  by_cases hu : user c = userID
  · simpa [isInFlight, ho, hu] using h
  · simpa [isInFlight, hu] using h

theorem inFlight_moveTo_left (user : C → String) (s : QueueState C) (c : C) (p : QueuePhase)
    (ho : s.phase c = .entered) (hn : p ≠ .entered) (userID : String) :
    inFlight user (s.moveTo c p) userID + (if user c = userID then 1 else 0) =
      inFlight user s userID := by
  have h := inFlight_moveTo user s c p userID
  by_cases hu : user c = userID
  · simpa [isInFlight, ho, hn, hu] using h
  · simpa [isInFlight, hu] using h

theorem step_cases (q : BurstQueue) (user : C → String) (h : q.step user s a = some t) :
    ((∀ c, a ≠ .bumpCounter c) ∧
      (∀ userID, t.count userID = s.count userID) ∧
      (∀ userID, inFlight user t userID = inFlight user s userID)) ∨
    (∃ c, a = .bumpCounter c ∧
      (∀ userID, t.count userID = s.count userID + (if user c = userID then 1 else 0)) ∧
      (∀ userID, inFlight user t userID =
        inFlight user s userID + (if user c = userID then 1 else 0))) ∨
    (∃ c, a = .releaseCounter c ∧ s.phase c = .entered ∧
      (0 < s.count (user c) → ∀ userID,
        t.count userID + (if user c = userID then 1 else 0) = s.count userID) ∧
      (∀ userID, inFlight user t userID + (if user c = userID then 1 else 0) =
        inFlight user s userID)) := by
  have hout : ∀ {c phase}, (∀ c, a ≠ .bumpCounter c) → s.phase c ≠ .entered →
      phase ≠ .entered →
        (∀ c, a ≠ .bumpCounter c) ∧ (∀ userID, (s.moveTo c phase).count userID = s.count userID) ∧
          ∀ userID, inFlight user (s.moveTo c phase) userID = inFlight user s userID :=
    fun ha hbef haft => ⟨ha, fun _ => rfl, inFlight_moveTo_outside user s _ _ hbef haft⟩
  revert h
  fun_cases BurstQueue.step q user s a
  all_goals rintro ⟨⟩
  · next hph _ => exact .inl (hout nofun (by simp [hph]) nofun)
  · next hph _ => exact .inl (hout nofun (by simp [hph]) nofun)
  · next hph => exact .inl (hout nofun (by simp [hph.1]) nofun)
  · next hph => exact .inl (hout nofun (by simp [hph]) nofun)
  · next hph => exact .inl (hout nofun (by simp [hph]) nofun)
  · next c hph =>
    exact .inr (.inl ⟨c, rfl, (s.moveTo c .entered).count_increment (user c),
      inFlight_moveTo_entered user s c (by simp [hph])⟩)
  · next c hph =>
    exact .inr (.inr ⟨c, rfl, hph,
      fun hpos userID => (s.moveTo c .draining).count_decrement (user c) userID hpos,
      inFlight_moveTo_left user s c .draining hph (by simp)⟩)
  · next hph => exact .inl (hout nofun (by simp [hph]) nofun)

theorem balanced_step (q : BurstQueue) (user : C → String) (s : QueueState C) (a : QueueAction C)
    (t : QueueState C) (hs : Balanced user s) (h : q.step user s a = some t) : Balanced user t := by
  intro userID
  have hb := hs userID
  rcases step_cases q user h with
    ⟨_, hcnt, hin⟩ | ⟨c, _, hcnt, hin⟩ | ⟨c, _, hph, hcnt, hin⟩
  · rw [hcnt, hin, hb]
  · rw [hcnt, hin, hb]
    push_cast
    rfl
  · have hpos : 0 < s.count (user c) := by
      rw [hs (user c)]
      exact_mod_cast inFlight_pos user s c hph
    have h1 := hcnt hpos userID
    have h2 := hin userID
    split_ifs at h1 h2 with hu
    · omega
    · omega

theorem withinCap_step_iff (q : BurstQueue) (user : C → String) (s : QueueState C)
    (a : QueueAction C) (t : QueueState C) (hb : Balanced user s) (hs : WithinCap q user s)
    (h : q.step user s a = some t) : WithinCap q user t ↔ BumpBelowCap q user s a := by
  rcases step_cases q user h with
    ⟨hnot, _, hin⟩ | ⟨c, ha, _, hin⟩ | ⟨c, ha, _, _, hin⟩
  · have htrue : BumpBelowCap q user s a := by
      cases a with
      | bumpCounter c => exact absurd rfl (hnot c)
      | _ => trivial
    refine ⟨fun _ => htrue, fun _ userID => ?_⟩
    rw [hin]
    exact hs userID
  · subst ha
    have hown := hb (user c)
    constructor
    · intro ht
      have hc := ht (user c)
      rw [hin, if_pos rfl] at hc
      show s.count (user c) < q.perUserCap
      omega
    · intro hrm userID
      have hrm' : s.count (user c) < q.perUserCap := hrm
      rw [hin]
      by_cases hu : user c = userID
      · subst hu
        rw [if_pos rfl]
        omega
      · rw [if_neg hu]
        exact hs userID
  · subst ha
    refine ⟨fun _ => trivial, fun _ userID => ?_⟩
    have h1 := hin userID
    have h2 := hs userID
    omega

theorem Slots.moveTo (h : Slots q s) {c : C} {p : QueuePhase} {n : Nat}
    (hn : n + (s.phase c).holdsSlot.toNat = s.globalSem + p.holdsSlot.toNat)
    (hbd : n ≤ q.maxConcurrent) : Slots q { s.moveTo c p with globalSem := n } where
  held := by
    have htal := tally_update (fun _ => QueuePhase.holdsSlot) s.phase c p
    rw [h.held] at hn
    exact Nat.add_right_cancel (hn.trans htal.symm)
  bound := hbd

theorem slots_step (hs : Slots q s) (h : q.step user s a = some t) : Slots q t := by
  have hbd := hs.bound
  revert h
  fun_cases BurstQueue.step q user s a
  all_goals rintro ⟨⟩
  · next hph _ => exact hs.moveTo (by rw [hph]; rfl) hbd
  · next hph _ => exact hs.moveTo (by rw [hph]; rfl) hbd
  · next hph => exact hs.moveTo (by rw [hph.1]; rfl) hph.2
  · next hph => exact hs.moveTo (by rw [hph]; rfl) hbd
  · next hph => exact hs.moveTo (by rw [hph]; rfl) hbd
  · next c hph =>
    have hmvd : Slots q (s.moveTo c .entered) := hs.moveTo (by rw [hph]; rfl) hbd
    exact ⟨hmvd.held, hmvd.bound⟩
  · next c hph =>
    have hmvd : Slots q (s.moveTo c .draining) := hs.moveTo (by rw [hph]; rfl) hbd
    exact ⟨hmvd.held, hmvd.bound⟩
  · next c hph =>
    have hpos : 0 < s.globalSem := by
      rw [hs.held]
      exact tally_pos c (by rw [hph]; rfl)
    refine hs.moveTo ?_ (by omega)
    rw [hph]
    exact Nat.sub_add_cancel hpos

theorem Settled.step (s : QueueState C) (a : QueueAction C) (t : QueueState C)
    (hs : Settled q user s) (h : q.step user s a = some t) : Settled q user t where
  balanced := balanced_step q user s a t hs.balanced h
  tidy := tidy_step hs.tidy h
  slots := slots_step hs.slots h

theorem burst_queue_bookkeeping (q : BurstQueue) (user : C → String)
    (actions : List (QueueAction C)) :
    Throughout (q.step user) (Bookkept q user) QueueState.init actions := by
  have hin : Settled q user QueueState.init := ⟨balanced_init user, nofun, Slots.init q⟩
  exact (throughout_invariant _ Settled.step hin actions).mono _ Settled.bookkept

end Accounting

def racingEnters : List (QueueAction (Fin 2)) :=
  [.overflowTest 0, .overflowTest 1, .acquireSlot 0, .acquireSlot 1, .bumpCounter 0, .bumpCounter 1]

end ETradie.Execution
