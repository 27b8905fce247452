import ETradie.Kernel.Keyed
import ETradie.Kernel.Runs

namespace ETradie.Processor

open Kernel Keyed

def lockTtl : Int := 600 * 1000

def resultTtl : Int := 120 * 1000

def awaitTimeout : Int := 5000

def awaitPollInterval : Int := 250

inductive GuardError where
  | duplicateSuppressed
  | execution (err : String)
deriving DecidableEq

inductive GuardPhase (Out : Type) where
  | started
  | missed (stores : Nat)
  | running (token : String)
  | executed (token : String) (out : Out)
  | failed (token : String) (err : String)
  | stored (token : String) (out : Out)
  | awaiting (deadline wake : Int)
  | back (result : Except GuardError Out)
  | crashed
deriving DecidableEq

namespace GuardPhase

variable {Out : Type}

def runs : GuardPhase Out → Bool
  | .running _ => true
  | _ => false

def token : GuardPhase Out → Option String
  | .running token => some token
  | .executed token _ => some token
  | .failed token _ => some token
  | .stored token _ => some token
  | _ => none

end GuardPhase

structure GuardCall (Out : Type) where
  id : Nat
  phase : GuardPhase Out
deriving DecidableEq

structure LockKey where
  token : String
  expiresAt : Int
deriving DecidableEq

structure ResultKey (Out : Type) where
  output : Out
  expiresAt : Int
deriving DecidableEq

structure Guard (Out : Type) where
  now : Int
  lock : Option LockKey := none
  result : Option (ResultKey Out) := none
  calls : Keyed (GuardCall.id : GuardCall Out → Nat) := Keyed.empty
  stores : Nat := 0
  issued : List String := []
  repeated : List Nat := []

inductive GuardAct (Out : Type) where
  | tick (ms : Nat)
  | call (i : Nat)
  | checkCached (i : Nat)
  | acquire (i : Nat) (token : String)
  | executeReturns (i : Nat) (out : Out)
  | executeRaises (i : Nat) (err : String)
  | storeResult (i : Nat)
  /-- The cache refuses the value; the failure is logged and swallowed. -/
  | storeFails (i : Nat)
  | release (i : Nat)
  | poll (i : Nat)
  | crash (i : Nat)
deriving DecidableEq

def GuardAct.attempts {Out : Type} : GuardAct Out → Bool
  | .acquire _ _ => true
  | _ => false

namespace Guard

variable {Out : Type}

def cached (s : Guard Out) : Option Out :=
  (s.result.filter (fun r => s.now < r.expiresAt)).map ResultKey.output

def liveLock (s : Guard Out) : Option LockKey := s.lock.filter (fun l => s.now < l.expiresAt)

def move (s : Guard Out) (c : GuardCall Out) (phase : GuardPhase Out) : Guard Out :=
  { s with calls := s.calls.put { c with phase := phase } }

def acquire (s : Guard Out) (c : GuardCall Out) (token : String) : Guard Out :=
  match s.liveLock with
  | some _ => { s.move c (.awaiting (s.now + awaitTimeout) s.now) with issued := token :: s.issued }
  | none =>
    { s.move c (.running token) with
      lock := some ⟨token, s.now + lockTtl⟩, issued := token :: s.issued
      repeated := if s.cached.isSome then c.id :: s.repeated else s.repeated }

def deleteLock (s : Guard Out) (token : String) : Guard Out :=
  match s.liveLock with
  | some l => if l.token = token then { s with lock := none } else s
  | none => s

def poll (s : Guard Out) (c : GuardCall Out) (deadline : Int) : Guard Out :=
  if s.now < deadline then
    match s.cached with
    | some out => s.move c (.back (.ok out))
    | none => s.move c (.awaiting deadline (s.now + awaitPollInterval))
  else s.move c (.back (.error .duplicateSuppressed))

def step (s : Guard Out) : GuardAct Out → Option (Guard Out)
  | .tick ms =>
    -- every owner finishes within the TTL of the lock
    if s.calls.rows.any (·.phase.token.isSome) && s.lock.any
        (fun l => decide (l.expiresAt ≤ s.now + ms)) then none
    else some { s with now := s.now + ms }
  | .call i =>
    if s.calls.get i = none then some { s with calls := s.calls.put ⟨i, .started⟩ } else none
  | .checkCached i =>
    match s.calls.get i with
    | some c =>
      match c.phase with
      | .started =>
        match s.cached with
        | some out => some (s.move c (.back (.ok out)))
        | none => some (s.move c (.missed s.stores))
      | _ => none
    | none => none
  | .acquire i token =>
    match s.calls.get i with
    | some c =>
      match c.phase with
      -- a new uuid for every attempt
      | .missed _ => if token ∈ s.issued then none else some (s.acquire c token)
      | _ => none
    | none => none
  | .executeReturns i out =>
    match s.calls.get i with
    | some c =>
      match c.phase with
      | .running token => some (s.move c (.executed token out))
      | _ => none
    | none => none
  | .executeRaises i err =>
    match s.calls.get i with
    | some c =>
      match c.phase with
      | .running token => some (s.move c (.failed token err))
      | _ => none
    | none => none
  | .storeResult i =>
    match s.calls.get i with
    | some c =>
      match c.phase with
      | .executed token out =>
        some
          { s.move c (.stored token out) with
            result := some ⟨out, s.now + resultTtl⟩, stores := s.stores + 1 }
      | _ => none
    | none => none
  | .storeFails i =>
    match s.calls.get i with
    | some c =>
      match c.phase with
      | .executed token out => some (s.move c (.stored token out))
      | _ => none
    | none => none
  | .release i =>
    match s.calls.get i with
    | some c =>
      match c.phase with
      | .stored token out => some ((s.deleteLock token).move c (.back (.ok out)))
      | .failed token err => some ((s.deleteLock token).move c (.back (.error (.execution err))))
      | _ => none
    | none => none
  | .poll i =>
    match s.calls.get i with
    | some c =>
      match c.phase with
      | .awaiting deadline wake => if wake ≤ s.now then some (s.poll c deadline) else none
      | _ => none
    | none => none
  | .crash i =>
    match s.calls.get i with
    | some c =>
      match c.phase with
      | .back _ => none
      | _ => some (s.move c .crashed)
    | none => none

def NoOverlap (s : Guard Out) : Prop := s.calls.rows.countP (·.phase.runs) ≤ 1

def NoRepeat (s : Guard Out) : Prop := s.repeated = []

def UpToDate (s : Guard Out) : GuardAct Out → Prop
  | .acquire i _ => ∀ c stores, s.calls.get i = some c → c.phase = .missed stores →
      s.liveLock = none → s.cached.isSome = true → s.stores = stores
  | _ => True

section Invariant

variable {token : String} {phase : GuardPhase Out} {ms : Nat}

structure Sound (s : Guard Out) : Prop where
  owner : ∀ c ∈ s.calls.rows, ∀ token, c.phase.token = some token →
    ∃ l, s.lock = some l ∧ l.token = token ∧ s.now < l.expiresAt ∧ token ∈ s.issued
  unique : ∀ c ∈ s.calls.rows, ∀ c' ∈ s.calls.rows, ∀ token, c.phase.token = some token →
    c'.phase.token = some token → c = c'
  missed : ∀ c ∈ s.calls.rows, ∀ stores, c.phase = .missed stores →
    stores ≤ s.stores ∧ (stores = s.stores → s.cached = none)

variable {s : Guard Out} {c : GuardCall Out}

theorem sound_init (now : Int) (lock : Option LockKey) (result : Option (ResultKey Out)) :
    Sound { now := now, lock := lock, result := result } := by
  constructor <;> simp

theorem Sound.owner_unique {c' : GuardCall Out} {token' : String} (h : Sound s)
    (hc : c ∈ s.calls.rows) (hc' : c' ∈ s.calls.rows) (htkn : c.phase.token = some token)
    (htkn' : c'.phase.token = some token') : c = c' := by
  obtain ⟨l, hl, hlt, -⟩ := h.owner c hc token htkn
  obtain ⟨l', hl', hlt', -⟩ := h.owner c' hc' token' htkn'
  rw [hl] at hl'
  cases hl'
  rw [← hlt', hlt] at htkn'
  exact h.unique c hc c' hc' token htkn htkn'

theorem token_of_runs (h : phase.runs) : ∃ token, phase.token = some token := by
  cases phase with
  | running token => exact ⟨token, rfl⟩
  | _ => cases h

theorem Sound.noOverlap (h : Sound s) : NoOverlap s := by
  rw [NoOverlap, List.countP_eq_length_filter]
  refine length_filter_le_one ?_
  intro c hc _ hc' hruns hruns'
  obtain ⟨token, htkn⟩ := token_of_runs hruns
  obtain ⟨token', htkn'⟩ := token_of_runs hruns'
  exact h.owner_unique hc hc' htkn htkn'

theorem liveLock_eq_some {l : LockKey} (hl : s.lock = some l) (hlv : s.now < l.expiresAt) :
    s.liveLock = some l := by
  rw [liveLock, hl, Option.filter_some_pos (by simpa using hlv)]

theorem Sound.no_owner (h : Sound s) (hfe : s.liveLock = none) (hc : c ∈ s.calls.rows) :
    c.phase.token = none := by
  by_contra howr
  obtain ⟨token, htkn⟩ := Option.ne_none_iff_exists'.mp howr
  obtain ⟨l, hl, -, hlv, -⟩ := h.owner c hc token htkn
  rw [liveLock_eq_some hl hlv] at hfe
  cases hfe

theorem Sound.move (h : Sound s) (hc : c ∈ s.calls.rows)
    (htkn : phase.token = none ∨ phase.token = c.phase.token)
    (hmis : ∀ stores, phase = .missed stores →
      stores ≤ s.stores ∧ (stores = s.stores → s.cached = none)) : Sound (s.move c phase) := by
  have hown : ∀ token, phase.token = some token → c.phase.token = some token := by
    intro token hph
    rcases htkn with hno | hsm
    · rw [hno] at hph
      cases hph
    · exact hsm ▸ hph
  refine ⟨?_, ?_, forall_mem_put hmis h.missed⟩
  · exact forall_mem_put (fun token ht => h.owner c hc token (hown token ht)) h.owner
  · refine forall_pair_put (fun _ _ _ => rfl) ?_ ?_ h.unique
    · intro c' hm hne token ht ht'
      have hsm := h.unique c hc c' hm token (hown token ht) ht'
      exact absurd (congrArg GuardCall.id hsm).symm hne
    · intro c' hm hne token ht' ht
      have hsm := h.unique c' hm c hc token ht' (hown token ht)
      exact absurd (congrArg GuardCall.id hsm) hne

theorem cached_later (h : s.cached = none) :
    ({ s with now := s.now + ms } : Guard Out).cached = none := by
  simp only [cached, Option.map_eq_none_iff, Option.filter_eq_none_iff, decide_eq_true_eq] at h ⊢
  intro r hr _
  exact h r hr (by omega)

theorem Sound.tick (h : Sound s)
    (hine : (s.calls.rows.any (·.phase.token.isSome) && s.lock.any
      (fun l => decide (l.expiresAt ≤ s.now + ms))) = false) :
    Sound { s with now := s.now + ms } := by
  constructor
  · intro c hc token htkn
    obtain ⟨l, hl, hlt, -, hiss⟩ := h.owner c hc token htkn
    have howr : s.calls.rows.any (·.phase.token.isSome) :=
      List.any_eq_true.mpr ⟨c, hc, by simp [htkn]⟩
    rw [howr, hl] at hine
    have hlv : s.now + ms < l.expiresAt := by simpa using hine
    exact ⟨l, hl, hlt, hlv, hiss⟩
  · exact h.unique
  · intro c hc stores hph
    obtain ⟨hle, hno⟩ := h.missed c hc stores hph
    exact ⟨hle, fun heq => cached_later (hno heq)⟩

theorem Sound.call {i : Nat} (h : Sound s) :
    Sound { s with calls := s.calls.put ⟨i, .started⟩ } := by
  refine ⟨forall_mem_put nofun h.owner, ?_, forall_mem_put nofun h.missed⟩
  exact forall_pair_put nofun nofun nofun h.unique

theorem Sound.acquire (h : Sound s) (hc : c ∈ s.calls.rows) : Sound (s.acquire c token) := by
  unfold Guard.acquire
  split
  · -- the lock is held: the caller waits
    have hmvd : Sound (s.move c (.awaiting (s.now + awaitTimeout) s.now)) :=
      h.move hc (.inl rfl) (by simp)
    refine ⟨?_, hmvd.unique, hmvd.missed⟩
    intro c' hc' tok htok
    obtain ⟨l, hl, hlt, hlv, hiss⟩ := hmvd.owner c' hc' tok htok
    exact ⟨l, hl, hlt, hlv, List.mem_cons_of_mem token hiss⟩
  · next hfe =>
    have hnob : ∀ c' ∈ s.calls.rows, ∀ tok, c'.phase.token ≠ some tok := by
      intro c' hc' tok htok
      rw [h.no_owner hfe hc'] at htok
      cases htok
    refine ⟨forall_mem_put ?_ ?_, ?_, forall_mem_put nofun h.missed⟩
    · rintro tok ⟨⟩
      have hlv : s.now < s.now + lockTtl := by simp [lockTtl]
      exact ⟨_, rfl, rfl, hlv, List.mem_cons_self⟩
    · exact fun c' hc' tok htok => absurd htok (hnob c' hc' tok)
    · exact forall_pair_put (fun _ _ _ => rfl)
        (fun c' hc' _ tok _ htok => absurd htok (hnob c' hc' tok))
        (fun c' hc' _ tok htok _ => absurd htok (hnob c' hc' tok)) h.unique

theorem Sound.storeResult {out : Out} (h : Sound s) (hc : c ∈ s.calls.rows)
    (hph : c.phase = .executed token out) :
    Sound
      { s.move c (.stored token out) with
        result := some ⟨out, s.now + resultTtl⟩
        stores := s.stores + 1 } := by
  have hmvd : Sound (s.move c (.stored token out)) := h.move hc (.inr (by rw [hph]; rfl)) (by simp)
  refine ⟨hmvd.owner, hmvd.unique, ?_⟩
  intro c' hc' stores hmis
  have hle : stores ≤ s.stores := (hmvd.missed c' hc' stores hmis).1
  exact ⟨Nat.le_succ_of_le hle, fun heq => absurd heq (by simp only; omega)⟩

theorem Sound.release {result : Except GuardError Out} (h : Sound s) (hc : c ∈ s.calls.rows)
    (htkn : c.phase.token = some token) : Sound ((s.deleteLock token).move c (.back result)) := by
  obtain ⟨l, hl, hlt, hlv, -⟩ := h.owner c hc token htkn
  have hdel : s.deleteLock token = { s with lock := none } := by
    simp only [deleteLock, liveLock_eq_some hl hlv, if_pos hlt]
  have hnob : ∀ c' ∈ (s.move c (.back result)).calls.rows, c'.phase.token = none := by
    intro c' hc'
    rcases mem_put.mp hc' with rfl | ⟨hm, hne⟩
    · rfl
    · by_contra howr
      obtain ⟨token', htkn'⟩ := Option.ne_none_iff_exists'.mp howr
      have hsm : c' = c := h.owner_unique hm hc htkn' htkn
      exact hne (hsm ▸ rfl)
  rw [hdel]
  constructor
  · intro c' hc' tok htok
    rw [hnob c' hc'] at htok
    cases htok
  · intro c₁ h₁ c₂ _ tok ht₁
    rw [hnob c₁ h₁] at ht₁
    cases ht₁
  · exact forall_mem_put nofun h.missed

end Invariant

section Steps

variable {s t : Guard Out} {a : GuardAct Out} {c : GuardCall Out}

inductive Moves (s : Guard Out) : GuardAct Out → Guard Out → Prop
  | ticks (ms : Nat)
      (hintime : (s.calls.rows.any (·.phase.token.isSome) && s.lock.any
        (fun l => decide (l.expiresAt ≤ s.now + ms))) = false) :
      Moves s (.tick ms) { s with now := s.now + ms }
  | calls (i : Nat) : Moves s (.call i) { s with calls := s.calls.put ⟨i, .started⟩ }
  | turns {a : GuardAct Out} (c : GuardCall Out) (phase : GuardPhase Out)
      (ha : a.attempts = false)
      (hc : c ∈ s.calls.rows)
      (htoken : phase.token = none ∨ phase.token = c.phase.token)
      (hmissed : ∀ stores, phase = .missed stores →
        stores ≤ s.stores ∧ (stores = s.stores → s.cached = none)) :
      Moves s a (s.move c phase)
  | acquires (i : Nat) (token : String) (c : GuardCall Out) (stores : Nat)
      (hget : s.calls.get i = some c)
      (hphase : c.phase = .missed stores) :
      Moves s (.acquire i token) (s.acquire c token)
  | stores {a : GuardAct Out} (c : GuardCall Out) (token : String) (out : Out)
      (ha : a.attempts = false)
      (hc : c ∈ s.calls.rows)
      (hphase : c.phase = .executed token out) :
      Moves s a
        { s.move c (.stored token out) with
          result := some ⟨out, s.now + resultTtl⟩, stores := s.stores + 1 }
  | releases {a : GuardAct Out} (c : GuardCall Out) (token : String)
      (result : Except GuardError Out)
      (ha : a.attempts = false)
      (hc : c ∈ s.calls.rows)
      (htoken : c.phase.token = some token) :
      Moves s a ((s.deleteLock token).move c (.back result))

theorem moves_poll (deadline : Int) (ha : a.attempts = false) (hc : c ∈ s.calls.rows) :
    Moves s a (s.poll c deadline) := by
  unfold poll
  split
  · split
    · exact .turns c _ ha hc (.inl rfl) (by simp)
    · exact .turns c _ ha hc (.inl rfl) (by simp)
  · exact .turns c _ ha hc (.inl rfl) (by simp)

theorem step_moves (hst : step s a = some t) : Moves s a t := by
  revert hst
  fun_cases step s a
  -- the paths that end without a successor are closed here
  all_goals rintro ⟨⟩
  · next ms hine => exact .ticks ms (Bool.eq_false_iff.mpr hine)
  · next i hn => exact .calls i
  · next i c hg hph out hcch =>
    exact .turns c _ rfl (mem_of_get hg) (.inl rfl) (by simp)
  · next i c hg hph hno =>
    refine .turns c _ rfl (mem_of_get hg) (.inl rfl) ?_
    rintro stores ⟨⟩
    exact ⟨le_refl _, fun _ => hno⟩
  · next i token c hg stores hph hn => exact .acquires i token c stores hg hph
  · next i out c hg token hph =>
    exact .turns c _ rfl (mem_of_get hg) (.inr (by rw [hph]; rfl)) (by simp)
  · next i err c hg token hph =>
    exact .turns c _ rfl (mem_of_get hg) (.inr (by rw [hph]; rfl)) (by simp)
  · next i c hg token out hph => exact .stores c token out rfl (mem_of_get hg) hph
  · next i c hg token out hph =>
    exact .turns c _ rfl (mem_of_get hg) (.inr (by rw [hph]; rfl)) (by simp)
  · next i c hg token out hph =>
    exact .releases c token _ rfl (mem_of_get hg) (by rw [hph]; rfl)
  · next i c hg token err hph =>
    exact .releases c token _ rfl (mem_of_get hg) (by rw [hph]; rfl)
  · next i c hg deadline wake hph hdue => exact moves_poll _ rfl (mem_of_get hg)
  · next i c hg hba => exact .turns c _ rfl (mem_of_get hg) (.inl rfl) (by simp)

theorem Sound.of_moves (h : Sound s) (hmov : Moves s a t) : Sound t := by
  cases hmov with
  | ticks _ hine => exact h.tick hine
  | calls i => exact h.call
  | turns c _ ha hc htkn hmis => exact h.move hc htkn hmis
  | acquires i token c stores hg hph => exact h.acquire (mem_of_get hg)
  | stores c token _ ha hc hph => exact h.storeResult hc hph
  | releases c token _ ha hc htkn => exact h.release hc htkn

theorem upToDate_of_attempts (h : a.attempts = false) : UpToDate s a := by
  cases a with
  | acquire i _ => cases h
  | _ => trivial

theorem noRepeat_acquire_iff {i stores : Nat} {token : String} (h : Sound s) (hbef : NoRepeat s)
    (hg : s.calls.get i = some c) (hph : c.phase = .missed stores) :
    NoRepeat (s.acquire c token) ↔ UpToDate s (.acquire i token) := by
  have hm := mem_of_get hg
  have hmis := (h.missed c hm stores hph).2
  constructor
  · intro haft c' stores' hg' hph' hfe hlv
    -- the run would be a repeated one
    simp [NoRepeat, acquire, hfe, hlv] at haft
  · intro hupT
    unfold acquire
    split
    · exact hbef
    · next hfe =>
      by_cases hlv : s.cached.isSome = true
      · have hno := hmis (hupT c stores hg hph hfe hlv).symm
        simp [hno] at hlv
      · simpa only [NoRepeat, if_neg hlv] using hbef

theorem noRepeat_iff_upToDate (h : Sound s) (hbef : NoRepeat s) (hmov : Moves s a t) :
    NoRepeat t ↔ UpToDate s a := by
  cases hmov with
  | ticks ms hine | calls i => exact iff_of_true hbef trivial
  | turns c phase ha hc htkn hmis | stores c token out ha hc hph =>
    exact iff_of_true hbef (upToDate_of_attempts ha)
  | acquires i token c stores hg hph => exact noRepeat_acquire_iff h hbef hg hph
  | releases c token _ ha hc htkn =>
    have hsm : (s.deleteLock token).repeated = s.repeated := by
      unfold deleteLock
      split
      · split <;> rfl
      · rfl
    exact iff_of_true (hsm.trans hbef) (upToDate_of_attempts ha)

end Steps

section Results

theorem one_run_per_analysis (now : Int) (lock : Option LockKey) (result : Option (ResultKey Out))
    (as : List (GuardAct Out)) :
    Throughout step NoOverlap { now := now, lock := lock, result := result } as ∧
      (Throughout step NoRepeat { now := now, lock := lock, result := result } as ↔
        Along step UpToDate { now := now, lock := lock, result := result } as) := by
  have hin := sound_init now lock result
  constructor
  · refine (throughout_invariant step ?_ hin as).mono step (fun s hs => hs.noOverlap)
    intro s a t hs hst
    exact hs.of_moves (step_moves hst)
  · refine throughout_iff_along step ?_ ?_ as hin rfl
    · intro s a t hs hst
      exact hs.of_moves (step_moves hst)
    · intro s a t hs hbef hst
      exact noRepeat_iff_upToDate hs hbef (step_moves hst)

def lateOwner : List (GuardAct Nat) :=
  [.call 0, .call 1, .checkCached 0, .checkCached 1, .acquire 0 "t0", .executeReturns 0 7,
    .storeResult 0, .release 0, .acquire 1 "t1"]

theorem late_owner_runs_again :
    (run step ({ now := 0 } : Guard Nat) lateOwner).map (fun s =>
        (s.cached, s.calls.rows.map (fun c => c.phase.runs), s.repeated)) =
      some (some 7, [false, true], [1]) := by
  decide +kernel

end Results

end Guard

end ETradie.Processor
