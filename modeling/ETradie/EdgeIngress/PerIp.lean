import ETradie.Kernel.Keyed
import ETradie.Kernel.Runs

namespace ETradie.EdgeIngress

open Kernel Keyed Bool Option

inductive EdgeError where
  | perIpConnectionLimitExceeded (ip : String) (limit : UInt64)
deriving DecidableEq

inductive ConnPhase where
  /-- `acquire` holds the entry. -/
  | entering
  /-- `acquire` has counted and found `current` connections. -/
  | counted (current : UInt64)
  | held
  | refused (err : EdgeError)
  /-- `drop` has a reference to the entry. -/
  | dropping
  /-- `drop` has counted down from `previous` and still has the reference. -/
  | subtracted (previous : UInt64)
  /-- `drop` has let the entry go and is about to remove the key. -/
  | emptied
  | gone
deriving DecidableEq

namespace ConnPhase

def live : ConnPhase → Bool
  | .held => true
  | _ => false

def claims : ConnPhase → Bool
  | .held => true
  | .dropping => true
  | _ => false

def writes : ConnPhase → Bool
  | .entering => true
  | .counted _ => true
  | _ => false

def added : ConnPhase → Bool
  | .counted _ => true
  | _ => false

def reads : ConnPhase → Bool
  | .dropping => true
  | .subtracted _ => true
  | _ => false

end ConnPhase

open ConnPhase (live claims writes added reads)

variable {Ip : Type}

structure Connection (Ip : Type) where
  id : Nat
  ip : Ip
  phase : ConnPhase
deriving DecidableEq

structure PerIp (Ip : Type) where
  connections : Ip → Option UInt64 := fun _ => none
  conns : Keyed (Connection.id : Connection Ip → Nat) := Keyed.empty

inductive PerIpAct (Ip : Type) where
  | acquire (i : Nat) (ip : Ip)
  | fetchAdd (i : Nat)
  | settle (i : Nat)
  | drop (i : Nat)
  | fetchSub (i : Nat)
  | release (i : Nat)
  | remove (i : Nat)
  | cleanup (ip : Ip)
deriving DecidableEq

variable {max n : UInt64}

namespace PerIp

variable [DecidableEq Ip]

def number (s : PerIp Ip) (ip : Ip) (p : ConnPhase → Bool) : Nat :=
  s.conns.rows.countP (fun c => c.ip = ip && p c.phase)

def activeConnections (s : PerIp Ip) (ip : Ip) : UInt64 := (s.connections ip).getD 0

def unlocked (s : PerIp Ip) (ip : Ip) : Bool := s.number ip writes = 0 && s.number ip reads = 0

def setEntry (s : PerIp Ip) (ip : Ip) (v : Option UInt64) : PerIp Ip :=
  { s with connections := Function.update s.connections ip v }

def move (s : PerIp Ip) (c : Connection Ip) (phase : ConnPhase) : PerIp Ip :=
  { s with conns := s.conns.put { c with phase := phase } }

section Step

variable (text : Ip → String) (max : UInt64)

def step (s : PerIp Ip) : PerIpAct Ip → Option (PerIp Ip)
  | .acquire i ip =>
    -- `entry` waits until nobody holds the entry
    if s.conns.get i = none ∧ s.unlocked ip = true then
      some ((s.setEntry ip (some (s.activeConnections ip))).move ⟨i, ip, .gone⟩ .entering)
    else none
  | .fetchAdd i =>
    match s.conns.get i with
    | some c =>
      match c.phase, s.connections c.ip with
      | .entering, some n => some ((s.setEntry c.ip (some (n + 1))).move c (.counted n))
      | _, _ => none
    | none => none
  | .settle i =>
    match s.conns.get i with
    | some c =>
      match c.phase, s.connections c.ip with
      | .counted current, some n =>
        if max ≤ current then
          some ((s.setEntry c.ip (some (n - 1))).move c
            (.refused (.perIpConnectionLimitExceeded (text c.ip) max)))
        else some (s.move c .held)
      | _, _ => none
    | none => none
  | .drop i =>
    match s.conns.get i with
    | some c =>
      -- `get` waits for an `acquire` in progress, not for other drops
      if c.phase = .held ∧ s.number c.ip writes = 0 then
        match s.connections c.ip with
        | some _ => some (s.move c .dropping)
        | none => some (s.move c .gone)
      else none
    | none => none
  | .fetchSub i =>
    match s.conns.get i with
    | some c =>
      match c.phase, s.connections c.ip with
      | .dropping, some n => some ((s.setEntry c.ip (some (n - 1))).move c (.subtracted n))
      | _, _ => none
    | none => none
  | .release i =>
    match s.conns.get i with
    | some c =>
      match c.phase with
      | .subtracted previous => some (s.move c (if previous ≤ 1 then .emptied else .gone))
      | _ => none
    | none => none
  | .remove i =>
    match s.conns.get i with
    | some c =>
      if c.phase = .emptied ∧ s.unlocked c.ip = true then
        some ((s.setEntry c.ip none).move c .gone)
      else none
    | none => none
  | .cleanup ip =>
    if s.unlocked ip = true then
      some (s.setEntry ip ((s.connections ip).filter (fun n => 0 < n)))
    else none

def Accounted (s : PerIp Ip) : Prop :=
  ∀ ip, s.number ip live ≤ max.toNat ∧
    (s.unlocked ip = true → (s.activeConnections ip).toNat = s.number ip live)

def RemovesIdle (s : PerIp Ip) : PerIpAct Ip → Prop
  | .remove i => ∀ c, s.conns.get i = some c → s.activeConnections c.ip = 0
  | _ => True

end Step

section Numbers

variable {s : PerIp Ip} {c : Connection Ip} {ip : Ip} {p : ConnPhase → Bool}

@[simp] theorem connections_setEntry (v : Option UInt64) (ip' : Ip) :
    (s.setEntry ip v).connections ip' = if ip' = ip then v else s.connections ip' :=
  Function.update_apply s.connections ip v ip'

omit [DecidableEq Ip] in
@[simp] theorem connections_move (phase : ConnPhase) :
    (s.move c phase).connections = s.connections :=
  rfl

@[simp] theorem number_setEntry (v : Option UInt64) (ip' : Ip) (p : ConnPhase → Bool) :
    (s.setEntry ip v).number ip' p = s.number ip' p :=
  rfl

@[simp] theorem number_setEntry_move (v : Option UInt64) (phase : ConnPhase) (ip' : Ip)
    (p : ConnPhase → Bool) :
    ((s.setEntry ip v).move c phase).number ip' p = (s.move c phase).number ip' p :=
  rfl

theorem number_move (hget : s.conns.get c.id = some c) (phase : ConnPhase) (ip : Ip)
    (p : ConnPhase → Bool) :
    (s.move c phase).number ip p + (if c.ip = ip && p c.phase then 1 else 0) =
      s.number ip p + (if c.ip = ip && p phase then 1 else 0) := by
  exact countP_put (fun c : Connection Ip => c.ip = ip && p c.phase) s.conns hget

theorem number_move_new (hget : s.conns.get c.id = none) (phase : ConnPhase) (ip : Ip)
    (p : ConnPhase → Bool) :
    (s.move c phase).number ip p = s.number ip p + (if c.ip = ip && p phase then 1 else 0) := by
  exact countP_put_new (fun c : Connection Ip => c.ip = ip && p c.phase) s.conns hget

theorem number_le {q : ConnPhase → Bool} (h : ∀ phase, p phase → q phase) :
    s.number ip p ≤ s.number ip q := by
  refine List.countP_mono_left ?_
  intro c _ hc
  simp only [and_eq_true] at hc ⊢
  exact ⟨hc.1, h c.phase hc.2⟩

theorem number_live_le_claims (s : PerIp Ip) (ip : Ip) : s.number ip live ≤ s.number ip claims :=
  number_le (by rintro (_ | _) <;> simp [live, claims])

theorem number_added_le_writes (s : PerIp Ip) (ip : Ip) : s.number ip added ≤ s.number ip writes :=
  number_le (by rintro (_ | _) <;> simp [added, writes])

theorem number_claims_le (s : PerIp Ip) (ip : Ip) :
    s.number ip claims ≤ s.number ip live + s.number ip reads := by
  have hrw : ∀ rows : List (Connection Ip),
      rows.countP (fun c => c.ip = ip && c.phase.claims) ≤
        rows.countP (fun c => c.ip = ip && c.phase.live) +
          rows.countP (fun c => c.ip = ip && c.phase.reads) := by
    intro rows
    induction rows with
    | nil => simp
    | cons c rows _ =>
      have hhe : (if c.ip = ip && c.phase.claims then 1 else 0) ≤
          (if c.ip = ip && c.phase.live then 1 else 0) +
            (if c.ip = ip && c.phase.reads then 1 else 0) := by
        cases c.phase <;> simp [claims, live, reads]
      simp only [List.countP_cons]
      omega
  exact hrw s.conns.rows

theorem unlocked_iff :
    s.unlocked ip ↔ s.number ip writes = 0 ∧ s.number ip reads = 0 := by
  simp [unlocked]

theorem number_claims_of_unlocked (h : s.unlocked ip) :
    s.number ip claims = s.number ip live := by
  have hrea := (unlocked_iff.mp h).2
  have hle := number_claims_le s ip
  have hge := number_live_le_claims s ip
  omega

theorem number_pos (hm : c ∈ s.conns.rows) (hp : p c.phase) : 0 < s.number c.ip p :=
  List.countP_pos_iff.mpr ⟨c, hm, by simp [hp]⟩

end Numbers

section Invariant

variable {s : PerIp Ip} {c : Connection Ip}
variable {v : Option UInt64} {k : Nat} {phase : ConnPhase} {ip : Ip}

structure SoundAt (max : UInt64) (s : PerIp Ip) (ip : Ip) : Prop where
  single : s.number ip writes ≤ 1
  exclusive : s.number ip reads = 0 ∨ s.number ip writes = 0
  bounded : s.number ip claims ≤ max.toNat
  absent : s.connections ip = none → s.number ip claims = 0 ∧ s.number ip writes = 0
  exact : ∀ n, s.connections ip = some n → n = UInt64.ofNat (s.number ip claims + s.number ip added)
  current : ∀ c ∈ s.conns.rows, c.ip = ip → ∀ n, c.phase = .counted n →
    n = UInt64.ofNat (s.number ip claims)

def Sound (max : UInt64) (s : PerIp Ip) : Prop := ∀ ip, SoundAt max s ip

theorem sound_init : Sound max ({} : PerIp Ip) := by
  intro ip
  constructor <;> simp [number]

theorem toNat_ofNat_of_le (h : k ≤ max.toNat) : (UInt64.ofNat k).toNat = k :=
  UInt64.toNat_ofNat_of_lt' (lt_of_le_of_lt h max.toNat_lt)

theorem sound_of_soundAt (h : Sound max s)
    (hnum : ∀ ip, ip ≠ c.ip → ∀ p, (s.move c phase).number ip p = s.number ip p)
    (hat : SoundAt max ((s.setEntry c.ip v).move c phase) c.ip) :
    Sound max ((s.setEntry c.ip v).move c phase) := by
  intro ip
  by_cases hip : ip = c.ip
  · exact hip ▸ hat
  · have hsm : ∀ p, ((s.setEntry c.ip v).move c phase).number ip p = s.number ip p :=
      hnum ip hip
    have hent : ((s.setEntry c.ip v).move c phase).connections ip = s.connections ip := by
      simp [hip]
    have ho := h ip
    constructor
    · rw [hsm]
      exact ho.single
    · rw [hsm, hsm]
      exact ho.exclusive
    · rw [hsm]
      exact ho.bounded
    · rw [hsm, hsm, hent]
      exact ho.absent
    · rw [hsm, hsm, hent]
      exact ho.exact
    · rw [hsm]
      intro c' hc' hip' n hn
      rcases mem_put.mp hc' with rfl | ⟨hm, -⟩
      · exact absurd hip'.symm hip
      · exact ho.current c' hm hip' n hn

theorem number_move_other (hget : s.conns.get c.id = some c) (phase : ConnPhase) (ip : Ip)
    (hip : ip ≠ c.ip) (p : ConnPhase → Bool) : (s.move c phase).number ip p = s.number ip p := by
  have hmv := number_move hget phase ip p
  simpa [hip.symm] using hmv

theorem number_move_at (hget : s.conns.get c.id = some c) (phase : ConnPhase)
    (p : ConnPhase → Bool) :
    (s.move c phase).number c.ip p = s.number c.ip p + (p phase).toNat - (p c.phase).toNat := by
  have hmv := number_move hget phase c.ip p
  cases ho : p c.phase <;> cases hnew : p phase <;> simp [ho, hnew] at hmv ⊢ <;> omega

theorem current_move (ho : SoundAt max s c.ip)
    (hk : k = s.number c.ip claims ∨ ((s.setEntry c.ip v).move c phase).number c.ip writes = 0)
    (hnew : ∀ n, phase = .counted n → n = UInt64.ofNat k) :
    ∀ c' ∈ ((s.setEntry c.ip v).move c phase).conns.rows, c'.ip = c.ip →
      ∀ n, c'.phase = .counted n → n = UInt64.ofNat k := by
  intro c' hc' hip n hn
  have hpos : 0 < ((s.setEntry c.ip v).move c phase).number c'.ip writes :=
    number_pos hc' (by simp [hn, writes])
  rcases hk with rfl | hno
  · rcases mem_put.mp hc' with rfl | ⟨hm, -⟩
    · exact hnew n hn
    · exact ho.current c' hm hip n hn
  · rw [hip] at hpos
    omega

theorem added_of_entering (ho : SoundAt max s c.ip) (hget : s.conns.get c.id = some c)
    (hph : c.phase = .entering) : s.number c.ip added = 0 := by
  have hsin := ho.single
  have hwit := number_added_le_writes (s.move c .gone) c.ip
  simp only [number_move_at hget, hph, writes, added, toNat_true, toNat_false] at hwit
  omega

theorem added_of_counted (ho : SoundAt max s c.ip) (hget : s.conns.get c.id = some c)
    (hph : c.phase = .counted n) : s.number c.ip added = 1 ∧ s.number c.ip writes = 1 := by
  have hsin := ho.single
  have hle := number_added_le_writes s c.ip
  have hpos : 0 < s.number c.ip added :=
    number_pos (get_eq_some_iff.mp hget).1 (by simp [hph, added])
  omega

theorem ofNat_succ_sub_one (k : Nat) : UInt64.ofNat (k + 1) - 1 = UInt64.ofNat k := by
  rw [UInt64.ofNat_add]
  exact UInt64.add_sub_cancel _ _

theorem sound_acquire {i : Nat} (h : Sound max s) (hget : s.conns.get i = none)
    (hunl : s.unlocked ip) :
    Sound max ((s.setEntry ip (some (s.activeConnections ip))).move ⟨i, ip, .gone⟩ .entering) := by
  have ho := h ip
  obtain ⟨hwrs, hrea⟩ := unlocked_iff.mp hunl
  have hadd : s.number ip added = 0 := by
    have hle := number_added_le_writes s ip
    omega
  have hnew : ∀ p, ((s.setEntry ip (some (s.activeConnections ip))).move ⟨i, ip, .gone⟩
      .entering).number ip p = s.number ip p + (p .entering).toNat := by
    intro p
    have hmv := number_move_new (c := ⟨i, ip, .gone⟩) hget .entering ip p
    rw [number_setEntry_move, hmv]
    cases p .entering <;> simp
  refine sound_of_soundAt (c := ⟨i, ip, .gone⟩) h ?_ ?_
  · intro ip' hip' p
    have hmv := number_move_new (c := ⟨i, ip, .gone⟩) hget .entering ip' p
    simpa [Ne.symm hip'] using hmv
  · constructor
    all_goals simp only [hnew, writes, claims, added, toNat_true]
    · omega
    · exact .inl hrea
    · exact ho.bounded
    · simp
    · -- a new entry counts from zero, an old one is taken as it is
      intro n hn
      cases hent : s.connections ip with
      | none =>
        have hno := ho.absent hent
        simp [activeConnections, hent] at hn
        simp [← hn, hno.1, hadd]
      | some m =>
        simp [activeConnections, hent] at hn
        exact hn ▸ ho.exact m hent
    · exact current_move (c := ⟨i, ip, .gone⟩) ho (.inl rfl) (by simp)

section Moving

variable {current : UInt64} (h : Sound max s) (hget : s.conns.get c.id = some c)

include h hget

theorem sound_move (phase : ConnPhase) (hloc : (s.move c phase).number c.ip writes ≤ 1 ∧
      ((s.move c phase).number c.ip reads = 0 ∨ (s.move c phase).number c.ip writes = 0))
    (hbdd : (s.move c phase).number c.ip claims ≤ max.toNat)
    (hexact : n = UInt64.ofNat ((s.move c phase).number c.ip claims +
      (s.move c phase).number c.ip added))
    (hcur : (s.move c phase).number c.ip claims = s.number c.ip claims ∨
      (s.move c phase).number c.ip writes = 0) (hnew : ∀ n, phase = .counted n →
      n = UInt64.ofNat ((s.move c phase).number c.ip claims)) :
    Sound max ((s.setEntry c.ip (some n)).move c phase) := by
  refine sound_of_soundAt h (number_move_other hget _) ⟨hloc.1, hloc.2, hbdd, ?_, ?_, ?_⟩
  · simp
  · simpa using hexact
  · exact current_move (h c.ip) hcur hnew

theorem sound_fetchAdd (hph : c.phase = .entering) (hent : s.connections c.ip = some n) :
    Sound max ((s.setEntry c.ip (some (n + 1))).move c (.counted n)) := by
  have ho := h c.ip
  have hadd := added_of_entering ho hget hph
  have hn := ho.exact n hent
  have hsin := ho.single
  have hexclusive := ho.exclusive
  apply sound_move h hget
  all_goals simp only [number_move_at hget, hph, writes, reads, claims, added]
  · omega
  · exact ho.bounded
  · rw [hn, hadd]
    simp [UInt64.ofNat_add]
  · exact .inl rfl
  · simpa [hadd] using hn

theorem sound_refused {err : EdgeError} (hph : c.phase = .counted current)
    (hent : s.connections c.ip = some n) :
    Sound max ((s.setEntry c.ip (some (n - 1))).move c (.refused err)) := by
  have ho := h c.ip
  obtain ⟨hadd, hwrs⟩ := added_of_counted ho hget hph
  have hn := ho.exact n hent
  apply sound_move h hget
  all_goals simp only [number_move_at hget, hph, writes, toNat_true, toNat_false]
  · omega
  · exact ho.bounded
  · rw [hn, hadd, ofNat_succ_sub_one]
    rfl
  · exact .inl rfl
  · nofun

theorem sound_held (hph : c.phase = .counted current) (hent : s.connections c.ip = some n)
    (hlim : ¬ max ≤ current) : Sound max ((s.setEntry c.ip (some n)).move c .held) := by
  have ho := h c.ip
  obtain ⟨hadd, hwrs⟩ := added_of_counted ho hget hph
  have hn := ho.exact n hent
  have hcur := ho.current c (mem_of_get hget) rfl current hph
  have hrm : s.number c.ip claims < max.toNat := by
    rw [hcur, UInt64.not_le, UInt64.lt_iff_toNat_lt, toNat_ofNat_of_le ho.bounded] at hlim
    exact hlim
  apply sound_move h hget
  all_goals simp only [number_move_at hget, hph, writes, claims, toNat_true, toNat_false]
  · omega
  · omega
  · rw [hn, hadd]
    rfl
  · omega
  · nofun

theorem sound_dropping (hph : c.phase = .held) (hwrs : s.number c.ip writes = 0)
    (hent : s.connections c.ip = some n) :
    Sound max ((s.setEntry c.ip (some n)).move c .dropping) := by
  have ho := h c.ip
  apply sound_move h hget
  all_goals simp only [number_move_at hget, hph, writes]
  · omega
  · exact ho.bounded
  · exact ho.exact n hent
  · exact .inl rfl
  · nofun

theorem sound_fetchSub (hph : c.phase = .dropping) (hent : s.connections c.ip = some n) :
    Sound max ((s.setEntry c.ip (some (n - 1))).move c (.subtracted n)) := by
  have ho := h c.ip
  have hm := mem_of_get hget
  have hclms : 0 < s.number c.ip claims := number_pos hm (by simp [hph, claims])
  have hrea : 0 < s.number c.ip reads := number_pos hm (by simp [hph, reads])
  have hexclusive := ho.exclusive
  have hbdd := ho.bounded
  apply sound_move h hget
  all_goals simp only [number_move_at hget, hph, writes, claims, toNat_false]
  · omega
  · omega
  · obtain ⟨k, hk⟩ : ∃ k, s.number c.ip claims = k + 1 :=
      ⟨s.number c.ip claims - 1, by omega⟩
    rw [ho.exact n hent, hk, Nat.add_right_comm, ofNat_succ_sub_one]
    rfl
  · omega
  · nofun

end Moving

theorem sound_let_go (phase : ConnPhase) (h : Sound max s) (hget : s.conns.get c.id = some c)
    (hbef : c.phase.claims = false ∧ c.phase.writes = false ∧ c.phase.added = false)
    (haft : phase.claims = false ∧ phase.writes = false ∧ phase.added = false ∧
      phase.reads = false) (hent : v = s.connections c.ip) :
    Sound max ((s.setEntry c.ip v).move c phase) := by
  have ho := h c.ip
  have hexclusive := ho.exclusive
  refine sound_of_soundAt h (number_move_other hget _) ?_
  constructor
  all_goals simp only [number_setEntry_move, number_move_at hget, hbef, haft, toNat_false]
  · exact ho.single
  · rcases hexclusive with hrea | hwrs
    · omega
    · omega
  · exact ho.bounded
  · simp only [connections_move, connections_setEntry, if_true, hent]
    exact ho.absent
  · simp only [connections_move, connections_setEntry, if_true, hent]
    exact ho.exact
  · exact current_move ho (.inl rfl) (by rintro n rfl; simp [writes] at haft)

theorem sound_removed (h : Sound max s) (hunl : s.unlocked ip)
    (hil : s.activeConnections ip = 0) : Sound max (s.setEntry ip none) := by
  have ho := h ip
  obtain ⟨hwrs, hrea⟩ := unlocked_iff.mp hunl
  have hadd : s.number ip added = 0 := by
    have hle := number_added_le_writes s ip
    omega
  have hclms : s.number ip claims = 0 := by
    cases hent : s.connections ip with
    | none => exact (ho.absent hent).1
    | some n =>
      have hn := ho.exact n hent
      rw [activeConnections, hent, getD_some] at hil
      rw [hil, hadd] at hn
      rw [← toNat_ofNat_of_le ho.bounded]
      simpa using (congrArg UInt64.toNat hn).symm
  intro ip'
  have ho' := h ip'
  constructor
  all_goals simp only [number_setEntry, connections_setEntry]
  · exact ho'.single
  · exact ho'.exclusive
  · exact ho'.bounded
  · split
    · next hip =>
      intro _
      rw [hip]
      exact ⟨hclms, hwrs⟩
    · exact ho'.absent
  · split
    · simp
    · exact ho'.exact
  · exact ho'.current

theorem Sound.accounted (h : Sound max s) : Accounted max s := by
  intro ip
  have ho := h ip
  have hlv := number_live_le_claims s ip
  refine ⟨le_trans hlv ho.bounded, ?_⟩
  intro hunl
  have hclms := number_claims_of_unlocked hunl
  have hadd := number_added_le_writes s ip
  rw [(unlocked_iff.mp hunl).1, Nat.le_zero] at hadd
  cases hent : s.connections ip with
  | none =>
    rw [activeConnections, hent, ← hclms, (ho.absent hent).1]
    rfl
  | some n =>
    rw [activeConnections, hent, getD_some, ho.exact n hent, hadd, Nat.add_zero,
      toNat_ofNat_of_le ho.bounded, hclms]

theorem setEntry_self (ip : Ip) : s.setEntry ip (s.connections ip) = s := by
  simp only [setEntry, Function.update_eq_self]

end Invariant

section Steps

variable {text : Ip → String} {s t : PerIp Ip} {a : PerIpAct Ip}

theorem entry_of_held (h : Sound max s) (hget : s.conns.get c.id = some c)
    (hph : c.phase = .held) : s.connections c.ip ≠ none := by
  intro hent
  have hpos : 0 < s.number c.ip claims :=
    number_pos (get_eq_some_iff.mp hget).1 (by simp [hph, claims])
  have hno := ((h c.ip).absent hent).1
  omega

theorem sound_release {previous : UInt64} (h : Sound max s) (hget : s.conns.get c.id = some c)
    (hph : c.phase = .subtracted previous) :
    Sound max (s.move c (if previous ≤ 1 then .emptied else .gone)) := by
  have hgo := sound_let_go (if previous ≤ 1 then .emptied else .gone) h hget
    (by simp [hph, claims, writes, added])
    (by split <;> simp [claims, writes, added, reads])
    rfl
  rwa [setEntry_self] at hgo

theorem sound_remove (h : Sound max s) (hget : s.conns.get c.id = some c)
    (hph : c.phase = .emptied) (hunl : s.unlocked c.ip)
    (hil : s.activeConnections c.ip = 0) : Sound max ((s.setEntry c.ip none).move c .gone) := by
  have hrem := sound_removed h hunl hil
  have hgo := sound_let_go (c := c) .gone hrem hget
    (by simp [hph, claims, writes, added])
    (by simp [claims, writes, added, reads])
    rfl
  rwa [setEntry_self] at hgo

theorem sound_cleanup {ip : Ip} (h : Sound max s) (hunl : s.unlocked ip) :
    Sound max (s.setEntry ip ((s.connections ip).filter (fun n => 0 < n))) := by
  cases hent : s.connections ip with
  | none =>
    rw [filter_none, ← hent, setEntry_self]
    exact h
  | some n =>
    by_cases hpos : 0 < n
    · rw [filter_some_pos (by simpa using hpos), ← hent, setEntry_self]
      exact h
    · rw [filter_some_neg (by simpa using hpos)]
      have hz : n = 0 := by simpa using hpos
      exact sound_removed h hunl (by simp [activeConnections, hent, hz])

theorem sound_step (h : Sound max s) (hil : RemovesIdle s a)
    (hst : step text max s a = some t) : Sound max t := by
  have hk : ∀ {i c}, s.conns.get i = some c → s.conns.get c.id = some c := by
    intro i c hget
    rwa [key_of_get hget]
  revert hst
  fun_cases step text max s a
  all_goals rintro ⟨⟩
  · next hfe => exact sound_acquire h hfe.1 hfe.2
  · next hget n hent hph => exact sound_fetchAdd h (hk hget) hph hent
  · next hget current n hent hph hlim => exact sound_refused h (hk hget) hph hent
  · next hget current n hent hph hlim =>
    have hhd := sound_held h (hk hget) hph hent hlim
    rwa [← hent, setEntry_self] at hhd
  · next hget hrdy n hent =>
    have hdro := sound_dropping h (hk hget) hrdy.1 hrdy.2 hent
    rwa [← hent, setEntry_self] at hdro
  · next hget hrdy hent => exact absurd hent (entry_of_held h (hk hget) hrdy.1)
  · next hget n hent hph => exact sound_fetchSub h (hk hget) hph hent
  · next hget previous hph => exact sound_release h (hk hget) hph
  · next c hget hrdy => exact sound_remove h (hk hget) hrdy.1 hrdy.2 (hil c hget)
  · next hunl => exact sound_cleanup h hunl

theorem removes_idle_of_accounted (hbef : Accounted max s) (haft : Accounted max t)
    (hst : step text max s a = some t) : RemovesIdle s a := by
  revert hst
  fun_cases step text max s a
  all_goals rintro ⟨⟩
  -- nothing is asked of the other actions
  any_goals trivial
  next c hget hrdy =>
    obtain rfl := key_of_get hget
    have hsm : ∀ p : ConnPhase → Bool, p .emptied = false → p .gone = false →
        ((s.setEntry c.ip none).move c .gone).number c.ip p = s.number c.ip p := by
      intro p hp hp'
      simp [number_move_at hget, hrdy.1, hp, hp']
    have hunl : ((s.setEntry c.ip none).move c .gone).unlocked c.ip := by
      rw [unlocked_iff, hsm _ rfl rfl, hsm _ rfl rfl]
      exact unlocked_iff.mp hrdy.2
    have hlv := (haft c.ip).2 hunl
    have hz : s.number c.ip live = 0 := by
      rw [hsm _ rfl rfl] at hlv
      rw [← hlv]
      simp [activeConnections]
    have hcou := (hbef c.ip).2 hrdy.2
    intro c' hget'
    rw [hget] at hget'
    cases hget'
    rw [hz] at hcou
    exact UInt64.toNat_inj.mp hcou

end Steps

theorem accounted_iff_removes_idle (text : Ip → String) (max : UInt64) (as : List (PerIpAct Ip)) :
    Throughout (step text max) (Accounted max) ({} : PerIp Ip) as ↔
      Along (step text max) RemovesIdle ({} : PerIp Ip) as := by
  refine throughout_iff_along_while (step text max) (I := Sound max) ?_ ?_ as sound_init
    sound_init.accounted
  · intro s a t hs hbef haft hst
    exact sound_step hs (removes_idle_of_accounted hbef haft hst) hst
  · intro s a t hs hbef hst
    constructor
    · intro haft
      exact removes_idle_of_accounted hbef haft hst
    · intro hil
      exact (sound_step hs hil hst).accounted

def lostCount : List (PerIpAct String) :=
  [.acquire 0 "10.0.0.1", .fetchAdd 0, .settle 0, .drop 0, .fetchSub 0, .release 0,
    .acquire 1 "10.0.0.1", .fetchAdd 1, .settle 1, .remove 0]

def overLimit : List (PerIpAct String) :=
  lostCount ++ [.acquire 2 "10.0.0.1", .fetchAdd 2, .settle 2]

theorem removal_loses_count :
    (run (step id 1) ({} : PerIp String) lostCount).map (fun s =>
        (s.conns.rows.map Connection.phase, s.activeConnections "10.0.0.1",
          s.number "10.0.0.1" live)) = some ([.gone, .held], 0, 1) ∧
      (run (step id 1) ({} : PerIp String) overLimit).map (fun s =>
        (s.conns.rows.map Connection.phase, s.number "10.0.0.1" live)) =
          some ([.gone, .held, .held], 2) ∧
      ¬ Throughout (step id 1) (Accounted 1) ({} : PerIp String) lostCount := by
  refine ⟨by decide +kernel, by decide +kernel, ?_⟩
  intro hall
  have hfin : (run (step id 1) ({} : PerIp String) lostCount).map (fun s =>
      (s.unlocked "10.0.0.1", (s.activeConnections "10.0.0.1").toNat,
        s.number "10.0.0.1" live)) = some (true, 0, 1) := by
    decide +kernel
  obtain ⟨s, hrun, hs⟩ := map_eq_some_iff.mp hfin
  simp only [Prod.mk.injEq] at hs
  have hexact := (hall.final _ hrun "10.0.0.1").2 hs.1
  omega

end PerIp

end ETradie.EdgeIngress
