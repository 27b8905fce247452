import ETradie.Envoy.Words
import ETradie.Kernel.Runs

namespace ETradie.Envoy

open Kernel RateLimitStorage

namespace RateLimitConfig

def validate (c : RateLimitConfig) : Except String Unit :=
  if c.globalEnabled && c.globalRequests == 0 then
    .error "Global rate limit requests must be greater than 0"
  else if c.globalEnabled && c.globalPeriodSecs == 0 then
    .error "Global rate limit period must be greater than 0"
  else if c.ipEnabled && c.ipRequests == 0 then
    .error "IP rate limit requests must be greater than 0"
  else if c.ipEnabled && c.ipPeriodSecs == 0 then
    .error "IP rate limit period must be greater than 0"
  else .ok ()

end RateLimitConfig

structure Answered where
  ip : String
  now : Nat
  allowed : Bool
deriving DecidableEq

structure Watched where
  storage : RateLimitStorage
  clock : Nat
  log : List Answered

structure Call where
  ip : String
  now : Nat
deriving DecidableEq

namespace Watched

def start (config : RateLimitConfig) (now : Nat) : Watched where
  storage := .new config.globalRequests config.globalRefillRate now
  clock := now
  log := []

def step (capacity rate : Nat) (s : Watched) (c : Call) : Option Watched :=
  if c.now < s.clock then none
  else
    let r := Word.checkIpLimit s.storage c.now c.ip capacity rate
    some ⟨r.1, c.now, ⟨c.ip, c.now, r.2.isOk⟩ :: s.log⟩

def own (s : Watched) (ip : String) : List (Nat × Bool) :=
  (s.log.filter (·.ip = ip)).map (fun a => (a.now, a.allowed))

end Watched

variable {capacity rate : Nat} {ip : String}
variable (b : TokenBucket)

namespace Word

variable {s : RateLimitStorage} {now : Nat}

def next (ip : String) (capacity rate now : Nat) (found : Option IpBucketEntry) : IpBucketEntry :=
  let e := RateLimitStorage.entry ip capacity rate now found
  { e with bucket := (tryConsume e.bucket now 1).1 }

def serves (ip : String) (capacity rate now : Nat) (found : Option IpBucketEntry) : Bool :=
  1 ≤ (refill (RateLimitStorage.entry ip capacity rate now found).bucket now).tokens

theorem refill_cases (now : Nat) :
    (gained b.refillRate (now - b.lastRefillMs) = 0 ∧ refill b now = b) ∨
      (0 < gained b.refillRate (now - b.lastRefillMs) ∧
        refill b now =
          { b with
            tokens := min ((b.tokens + gained b.refillRate (now - b.lastRefillMs)) % size) b.capacity
            lastRefillMs := now }) := by
  rcases Nat.eq_zero_or_pos (gained b.refillRate (now - b.lastRefillMs)) with hz | hpos
  · exact .inl ⟨hz, by simp [refill, hz]⟩
  · have hela : now - b.lastRefillMs ≠ 0 := by
      intro hsm
      simp [hsm, gained] at hpos
    exact .inr ⟨hpos, by simp only [refill, if_neg hela, if_pos hpos]⟩

theorem fst_tryConsume (now : Nat) :
    (tryConsume b now 1).1 = { refill b now with tokens := (refill b now).tokens - 1 } := by
  unfold tryConsume
  by_cases h : 1 ≤ (refill b now).tokens
  · simp only [if_pos h]
  · have hz : (refill b now).tokens - 1 = (refill b now).tokens := by
      omega
    simp only [if_neg h, hz]

theorem next_some (e : IpBucketEntry) :
    next ip capacity rate now (some e) =
        ⟨e.ip, { refill e.bucket now with tokens := (refill e.bucket now).tokens - 1 }, now⟩ ∧
      serves ip capacity rate now (some e) = decide (1 ≤ (refill e.bucket now).tokens) := by
  refine ⟨?_, rfl⟩
  simp only [next, entry, Option.getD_some, fst_tryConsume]

theorem next_none :
    next ip capacity rate now none = ⟨ip, ⟨capacity, capacity - 1, rate, now⟩, now⟩ ∧
      serves ip capacity rate now none = decide (1 ≤ capacity) := by
  have hfu : refill (TokenBucket.new capacity rate now) now = .new capacity rate now := by
    simp [refill, TokenBucket.new]
  refine ⟨?_, ?_⟩
  · simp only [next, entry, Option.getD_none, fst_tryConsume, hfu]
    rfl
  · simp only [serves, entry, Option.getD_none, hfu]
    rfl

theorem isOk_tryConsume (now : Nat) :
    (tryConsume b now 1).2.isOk = decide (1 ≤ (refill b now).tokens) := by
  unfold tryConsume
  by_cases h : 1 ≤ (refill b now).tokens
  · simp only [h]
    rfl
  · simp only [h]
    rfl

theorem isOk_mapError {ε ε' α : Type} (f : ε → ε') (r : Except ε α) :
    (r.mapError f).isOk = r.isOk := by
  cases r with
  | error err | ok a => rfl

theorem isOk_checkIpLimit :
    (checkIpLimit s now ip capacity rate).2.isOk =
      serves ip capacity rate now ((s.tidy now).ipBuckets.get ip) := by
  simp only [checkIpLimit, isOk_mapError, isOk_tryConsume, serves]

theorem ip_next (s : RateLimitStorage) :
    (next ip capacity rate now (s.ipBuckets.get ip)).ip = ip := by
  cases hg : s.ipBuckets.get ip with
  | none => rfl
  | some e => exact (Keyed.key_of_get hg : e.ip = ip)

theorem get_checkIpLimit (ip' : String) :
    (checkIpLimit s now ip capacity rate).1.ipBuckets.get ip' =
      if ip = ip' then some (next ip capacity rate now ((s.tidy now).ipBuckets.get ip))
      else (s.tidy now).ipBuckets.get ip' := by
  have hput : (checkIpLimit s now ip capacity rate).1.ipBuckets =
      (s.tidy now).ipBuckets.put (next ip capacity rate now ((s.tidy now).ipBuckets.get ip)) :=
    rfl
  rw [hput, Keyed.get_put, ip_next]

theorem get_tidy_cases (s : RateLimitStorage) (now : Nat) (ip : String) :
    (s.tidy now).ipBuckets.get ip = s.ipBuckets.get ip ∨
      ∃ e, s.ipBuckets.get ip = some e ∧ e.fresh now = false ∧
        (s.tidy now).ipBuckets.get ip = none := by
  unfold tidy
  split
  · rw [cleanupStaleEntries, Keyed.get_retain]
    cases s.ipBuckets.get ip with
    | none => exact .inl rfl
    | some e =>
      cases hfr : e.fresh now with
      | true => exact .inl (Option.filter_some_pos hfr)
      | false => exact .inr ⟨e, rfl, hfr, Option.filter_some_neg (by simp [hfr])⟩
  · exact .inl rfl

end Word

variable {s : Watched}

namespace Watched

variable {t : Watched} {c : Call}

theorem step_eq (h : s.clock ≤ c.now) :
    step capacity rate s c =
      some ⟨(Word.checkIpLimit s.storage c.now c.ip capacity rate).1, c.now,
        ⟨c.ip, c.now, Word.serves c.ip capacity rate c.now
          ((s.storage.tidy c.now).ipBuckets.get c.ip)⟩ :: s.log⟩ := by
  rw [step, if_neg (not_lt.mpr h)]
  simp only [Word.isOk_checkIpLimit]

theorem clock_le_of_step (h : step capacity rate s c = some t) : s.clock ≤ c.now := by
  unfold step at h
  split at h
  · cases h
  · next hlt => exact not_lt.mp hlt

theorem client_step (h : step capacity rate s c = some t) (ip : String) :
    t.clock = c.now ∧
      ((c.ip = ip ∧
          t.storage.ipBuckets.get ip =
            some (Word.next ip capacity rate c.now ((s.storage.tidy c.now).ipBuckets.get ip)) ∧
          t.own ip = (c.now, Word.serves ip capacity rate c.now
            ((s.storage.tidy c.now).ipBuckets.get ip)) :: s.own ip) ∨
        (c.ip ≠ ip ∧
          t.storage.ipBuckets.get ip = (s.storage.tidy c.now).ipBuckets.get ip ∧
          t.own ip = s.own ip)) := by
  rw [step_eq (clock_le_of_step h)] at h
  obtain rfl := Option.some.inj h
  refine ⟨rfl, ?_⟩
  simp only [Word.get_checkIpLimit]
  by_cases hip : c.ip = ip
  · subst hip
    exact .inl ⟨rfl, if_pos rfl, by simp [own]⟩
  · exact .inr ⟨hip, if_neg hip, by simp [own, hip]⟩

end Watched

structure ClientInvariant (capacity rate : Nat) (ip : String)
    (I : Nat → Option IpBucketEntry → List (Nat × Bool) → Prop) : Prop where
  later : ∀ now later e log, I now e log → now ≤ later → I later e log
  dropped : ∀ now e log, I now (some e) log → e.fresh now = false → I now none log
  answered : ∀ now e log, I now e log →
    I now (some (Word.next ip capacity rate now e))
      ((now, Word.serves ip capacity rate now e) :: log)

theorem ClientInvariant.throughout {I : Nat → Option IpBucketEntry → List (Nat × Bool) → Prop}
    (h : ClientInvariant capacity rate ip I)
    (hs : I s.clock (s.storage.ipBuckets.get ip) (s.own ip)) (calls : List Call) :
    Throughout (Watched.step capacity rate)
      (fun s => I s.clock (s.storage.ipBuckets.get ip) (s.own ip)) s calls := by
  refine throughout_invariant
    (I := fun s : Watched => I s.clock (s.storage.ipBuckets.get ip) (s.own ip)) _ ?_ hs calls
  intro s c t hI hst
  have hnow := h.later _ _ _ _ hI (Watched.clock_le_of_step hst)
  have htidy : I c.now ((s.storage.tidy c.now).ipBuckets.get ip) (s.own ip) := by
    rcases Word.get_tidy_cases s.storage c.now ip with hsm | ⟨e, hg, hstl, hno⟩
    · rw [hsm]
      exact hnow
    · rw [hno]
      rw [hg] at hnow
      exact h.dropped _ _ _ hnow hstl
  obtain ⟨hclk, ⟨-, hg, hown⟩ | ⟨-, hg, hown⟩⟩ := Watched.client_step hst ip
  · rw [hclk, hg, hown]
    exact h.answered _ _ _ htidy
  · rw [hclk, hg, hown]
    exact htidy

section Bursts

open Watched

variable {t n : Nat}

def burst (n : Nat) (ip : String) (t : Nat) : List Call := List.replicate n ⟨ip, t⟩

theorem get_tidy_of_access (storage : RateLimitStorage) {e : IpBucketEntry}
    (hg : storage.ipBuckets.get ip = some e) (hacc : e.lastAccessMs = t) :
    (storage.tidy t).ipBuckets.get ip = storage.ipBuckets.get ip := by
  rcases Word.get_tidy_cases storage t ip with hsm | ⟨e', he', hstl, -⟩
  · exact hsm
  · rw [hg] at he'
    obtain rfl := Option.some.inj he'
    simp [IpBucketEntry.fresh, hacc, staleThresholdMs] at hstl

theorem own_step (capacity rate : Nat) (ip : String) (hclk : s.clock ≤ t) :
    ∃ q, step capacity rate s ⟨ip, t⟩ = some q ∧ q.clock = t ∧
      q.storage.ipBuckets.get ip =
        some (Word.next ip capacity rate t ((s.storage.tidy t).ipBuckets.get ip)) ∧
      q.own ip =
        (t, Word.serves ip capacity rate t ((s.storage.tidy t).ipBuckets.get ip)) :: s.own ip := by
  obtain ⟨q, hq⟩ : ∃ q, step capacity rate s ⟨ip, t⟩ = some q := ⟨_, step_eq hclk⟩
  obtain ⟨hnow, ⟨-, hent, hown⟩ | ⟨hne, -⟩⟩ := client_step hq ip
  · exact ⟨q, hq, hnow, hent, hown⟩
  · exact absurd rfl hne

theorem run_burst (capacity rate : Nat) {k : Nat} (hclk : s.clock ≤ t)
    (hsv : Word.serves ip capacity rate t ((s.storage.tidy t).ipBuckets.get ip))
    (hnx : Word.next ip capacity rate t ((s.storage.tidy t).ipBuckets.get ip) =
      ⟨ip, ⟨capacity, k, rate, t⟩, t⟩) (htoks : n ≤ k) :
    ∃ s', run (step capacity rate) s (burst (n + 1) ip t) = some s' ∧ s'.clock = t ∧
      s'.own ip = List.replicate (n + 1) (t, true) ++ s.own ip ∧
      s'.storage.ipBuckets.get ip = some ⟨ip, ⟨capacity, k - n, rate, t⟩, t⟩ := by
  induction n generalizing s k with
  | zero =>
    obtain ⟨q, hq, hnow, hent, hown⟩ := own_step capacity rate ip hclk
    refine ⟨q, (run_cons_eq_some _).mpr ⟨q, hq, rfl⟩, hnow, ?_, hent.trans (by rw [hnx]; rfl)⟩
    rw [hown, hsv]
    rfl
  | succ n ih =>
    obtain ⟨q, hq, hnow, hent, hown⟩ := own_step capacity rate ip hclk
    rw [hnx] at hent
    have hkp := (get_tidy_of_access q.storage hent rfl).trans hent
    have hsm : Word.refill ⟨capacity, k, rate, t⟩ t = ⟨capacity, k, rate, t⟩ := by
      simp [Word.refill]
    obtain ⟨s', hrun, hclk', hlog, hlat⟩ := ih hnow.le
      (by rw [hkp, (Word.next_some _).2, hsm]; simpa using Nat.one_le_of_lt htoks)
      (by rw [hkp, (Word.next_some _).1, hsm])
      (Nat.le_sub_one_of_lt htoks)
    refine ⟨s', (run_cons_eq_some _).mpr ⟨q, hq, hrun⟩, hclk', ?_, ?_⟩
    · rw [hlog, hown, hsv, List.replicate_succ' (n := n + 1), List.append_assoc]
      rfl
    · rw [hlat, Nat.sub_sub, Nat.add_comm 1 n]

theorem run_burst_of_none (rate : Nat) (hclk : s.clock ≤ t)
    (hno : (s.storage.tidy t).ipBuckets.get ip = none) (hn : 1 ≤ n) (hcap : n ≤ capacity) :
    ∃ s', run (step capacity rate) s (burst n ip t) = some s' ∧ s'.clock = t ∧
      s'.own ip = List.replicate n (t, true) ++ s.own ip ∧
      s'.storage.ipBuckets.get ip = some ⟨ip, ⟨capacity, capacity - n, rate, t⟩, t⟩ := by
  obtain ⟨m, rfl⟩ : ∃ m, n = m + 1 := ⟨n - 1, by omega⟩
  obtain ⟨s', hrun, hnow, hown, hent⟩ := run_burst capacity rate hclk
    (by rw [hno]; exact Word.next_none.2.trans (decide_eq_true (hn.trans hcap)))
    (by rw [hno]; exact Word.next_none.1) (Nat.le_sub_one_of_lt hcap)
  exact ⟨s', hrun, hnow, hown, hent.trans (by rw [Nat.sub_sub, Nat.add_comm 1 m])⟩

end Bursts

end ETradie.Envoy
