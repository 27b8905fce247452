import ETradie.Envoy.Validators
import ETradie.Kernel.Keyed

namespace ETradie.Envoy

open Kernel Option Keyed

structure TokenBucket where
  (capacity tokens refillRate lastRefillMs : Nat)
deriving DecidableEq

variable (rate : Nat)

def gained (elapsedMs : Nat) : Nat := elapsedMs * rate / 1000

variable (b : TokenBucket)

namespace TokenBucket

def new (capacity refillRatePerSec now : Nat) : TokenBucket where
  capacity := capacity
  tokens := capacity
  refillRate := refillRatePerSec
  lastRefillMs := now

def refill (now : Nat) : TokenBucket :=
  let elapsedMs := now - b.lastRefillMs
  if elapsedMs = 0 then b
  else
    let tokensToAdd := gained b.refillRate elapsedMs
    if 0 < tokensToAdd then
      { b with tokens := min (b.tokens + tokensToAdd) b.capacity, lastRefillMs := now }
    else b

def calculateRetryAfter (requiredTokens : Nat) : Nat :=
  if b.capacity < requiredTokens then 60
  else
    let tokensNeeded := requiredTokens - b.tokens
    let secondsNeeded := tokensNeeded * 1000 / max b.refillRate 1
    min (max secondsNeeded 1) 60

def tryConsume (now tokens : Nat) : TokenBucket × Except FilterError Unit :=
  let b := b.refill now
  if tokens ≤ b.tokens then ({ b with tokens := b.tokens - tokens }, .ok ())
  else (b, .error (.rateLimitExceeded "Token bucket" (b.calculateRetryAfter tokens)))

end TokenBucket

theorem gained_add_le (x y : Nat) : gained rate x + gained rate y ≤ gained rate (x + y) := by
  unfold gained
  rw [Nat.add_mul]
  exact Nat.div_add_div_le_add_div

variable {now : Nat}

theorem gained_span {t u : Nat} (htu : t ≤ u) (hu : u ≤ now) :
    gained rate (u - t) + gained rate (now - u) ≤ gained rate (now - t) ∧
      gained rate (now - t) ≤ gained rate (u - t) + gained rate (now - u) + 1 := by
  have hsp : now - t = (u - t) + (now - u) := by omega
  rw [hsp]
  unfold gained
  rw [Nat.add_mul]
  omega

@[simp] theorem gained_zero : gained rate 0 = 0 := by simp [gained]

variable {b}

namespace TokenBucket

variable {b' : TokenBucket}

theorem refill_of_gained (h : 0 < gained b.refillRate (now - b.lastRefillMs)) :
    b.refill now =
      { b with
        tokens := min (b.tokens + gained b.refillRate (now - b.lastRefillMs)) b.capacity
        lastRefillMs := now } := by
  have hela : now - b.lastRefillMs ≠ 0 := by
    intro hz
    simp [hz] at h
  simp only [refill, if_neg hela, if_pos h]

theorem refill_of_gained_zero (h : gained b.refillRate (now - b.lastRefillMs) = 0) :
    b.refill now = b := by
  simp [refill, h]

theorem tokens_refill :
    (b.refill now).tokens =
      if gained b.refillRate (now - b.lastRefillMs) = 0 then b.tokens
      else min (b.tokens + gained b.refillRate (now - b.lastRefillMs)) b.capacity := by
  split_ifs with h
  · rw [refill_of_gained_zero h]
  · rw [refill_of_gained (Nat.pos_of_ne_zero h)]

theorem lastRefillMs_refill :
    (b.refill now).lastRefillMs =
      if gained b.refillRate (now - b.lastRefillMs) = 0 then b.lastRefillMs else now := by
  split_ifs with h
  · rw [refill_of_gained_zero h]
  · rw [refill_of_gained (Nat.pos_of_ne_zero h)]

@[simp] theorem capacity_refill : (b.refill now).capacity = b.capacity := by
  simp only [refill]
  split
  · rfl
  · split <;> rfl

@[simp] theorem refillRate_refill : (b.refill now).refillRate = b.refillRate := by
  simp only [refill]
  split
  · rfl
  · split <;> rfl

def spend (b : TokenBucket) (now : Nat) : TokenBucket :=
  { b.refill now with tokens := (b.refill now).tokens - 1 }

def ready (b : TokenBucket) (now : Nat) : Bool := 1 ≤ (b.refill now).tokens

theorem tryConsume_of_ready (h : b.ready now) :
    b.tryConsume now 1 = (b.spend now, .ok ()) := by
  simp only [ready, decide_eq_true_eq] at h
  simp only [tryConsume, if_pos h, spend]

theorem tryConsume_of_not_ready (hcap : 1 ≤ b.capacity) (h : b.ready now = false) :
    b.tryConsume now 1 =
      (b, .error (.rateLimitExceeded "Token bucket" (b.calculateRetryAfter 1))) := by
  simp only [ready, decide_eq_false_iff_not] at h
  have hsm : b.refill now = b := by
    apply refill_of_gained_zero
    by_contra hga
    rw [refill_of_gained (Nat.pos_of_ne_zero hga)] at h
    simp only at h
    omega
  rw [hsm] at h
  simp only [tryConsume, hsm, if_neg h]

theorem tryConsume_refused (h : b.ready now = false) :
    ∃ err, (b.tryConsume now 1).2 = .error err := by
  simp only [ready, decide_eq_false_iff_not] at h
  simp only [tryConsume, if_neg h]
  exact ⟨_, rfl⟩

structure Ahead (b b' : TokenBucket) : Prop where
  capacity : b'.capacity = b.capacity
  rate : b'.refillRate = b.refillRate
  tokens : (b.lastRefillMs = b'.lastRefillMs ∧ b.tokens ≤ b'.tokens) ∨
    (b'.lastRefillMs < b.lastRefillMs ∧ b.tokens + 1 ≤ b.capacity ∧
      (b.tokens + 1 ≤ b'.tokens + gained b.refillRate (b.lastRefillMs - b'.lastRefillMs) ∨
        b.tokens ≤ b'.tokens)) ∨
    (b.lastRefillMs < b'.lastRefillMs ∧
      gained b.refillRate (b'.lastRefillMs - b.lastRefillMs) = 0 ∧ b.tokens + 1 ≤ b'.tokens)

theorem Ahead.refl (b : TokenBucket) : Ahead b b := ⟨rfl, rfl, .inl ⟨rfl, le_refl _⟩⟩

theorem spend_of_gained (h : 0 < gained b.refillRate (now - b.lastRefillMs)) :
    b.spend now =
      { b with
        tokens := min (b.tokens + gained b.refillRate (now - b.lastRefillMs)) b.capacity - 1
        lastRefillMs := now } := by
  simp only [spend, refill_of_gained h]

theorem spend_of_gained_zero (h : gained b.refillRate (now - b.lastRefillMs) = 0) :
    b.spend now = { b with tokens := b.tokens - 1 } := by
  simp only [spend, refill_of_gained_zero h]

theorem ready_of_gained_zero (h : gained b.refillRate (now - b.lastRefillMs) = 0) :
    b.ready now ↔ 1 ≤ b.tokens := by
  simp only [ready, refill_of_gained_zero h, decide_eq_true_eq]

theorem ready_of_gained (h : 0 < gained b.refillRate (now - b.lastRefillMs)) :
    b.ready now ↔ 1 ≤ b.capacity := by
  simp only [ready, refill_of_gained h, decide_eq_true_eq]
  omega

section Refilling

variable (h : Ahead b b') (hnow : b.lastRefillMs ≤ now) (hnow' : b'.lastRefillMs ≤ now)
include h hnow hnow'

theorem Ahead.ready (hrdy : b.ready now) : b'.ready now := by
  have htoks := h.tokens
  have hsp := fun hle => gained_span b.refillRate hle hnow (t := b'.lastRefillMs)
  have hsp' := fun hle => gained_span b.refillRate hle hnow' (t := b.lastRefillMs)
  simp only [TokenBucket.ready, tokens_refill, h.rate, h.capacity, decide_eq_true_eq] at hrdy ⊢
  split_ifs at hrdy ⊢ <;> omega

theorem Ahead.spend_left (hrdy : b.ready now) : Ahead (b.spend now) b' := by
  have htoks := h.tokens
  have hsp := fun hle => gained_span b.refillRate hle hnow (t := b'.lastRefillMs)
  have hsp' := fun hle => gained_span b.refillRate hle hnow' (t := b.lastRefillMs)
  constructor
  · simp [spend, h.capacity]
  · simp [spend, h.rate]
  · simp only [TokenBucket.ready, spend, tokens_refill, lastRefillMs_refill, decide_eq_true_eq,
      capacity_refill, refillRate_refill] at hrdy ⊢
    split_ifs at hrdy ⊢ with hz
    · omega
    · -- a second bucket refilled just now has seen the first one gain nothing
      have hbef : b.lastRefillMs ≠ now := by
        intro heq
        simp [heq] at hz
      have hlat : b'.lastRefillMs ≠ now := by
        intro heq
        rw [heq] at htoks
        omega
      omega

theorem Ahead.spend_both (hrdy : b.ready now) : Ahead (b.spend now) (b'.spend now) := by
  have htoks := h.tokens
  have hsp := fun hle => gained_span b.refillRate hle hnow (t := b'.lastRefillMs)
  have hsp' := fun hle => gained_span b.refillRate hle hnow' (t := b.lastRefillMs)
  constructor
  · simp [spend, h.capacity]
  · simp [spend, h.rate]
  · simp only [TokenBucket.ready, spend, tokens_refill, lastRefillMs_refill, decide_eq_true_eq,
      capacity_refill, refillRate_refill, h.rate, h.capacity] at hrdy ⊢
    split_ifs at hrdy ⊢ <;> omega

end Refilling

end TokenBucket

structure RateLimitConfig where
  globalEnabled : Bool
  (globalRequests globalPeriodSecs : Nat)
  ipEnabled : Bool
  (ipRequests ipPeriodSecs : Nat)
deriving DecidableEq

namespace RateLimitConfig

def new : RateLimitConfig where
  globalEnabled := true
  globalRequests := 10000
  globalPeriodSecs := 1
  ipEnabled := true
  ipRequests := 100
  ipPeriodSecs := 1

def ratePerSecond (requests periodSecs : Nat) : Nat :=
  if periodSecs = 0 then requests else requests / periodSecs

def globalRefillRate (c : RateLimitConfig) : Nat :=
  ratePerSecond c.globalRequests c.globalPeriodSecs

def ipRefillRate (c : RateLimitConfig) : Nat := ratePerSecond c.ipRequests c.ipPeriodSecs

end RateLimitConfig

structure IpBucketEntry where
  ip : String
  bucket : TokenBucket
  lastAccessMs : Nat
deriving DecidableEq

structure RateLimitStorage where
  globalBucket : TokenBucket
  ipBuckets : Keyed IpBucketEntry.ip

def cleanupThreshold : Nat := 90000

def staleThresholdMs : Nat := 300000

def IpBucketEntry.fresh (now : Nat) (e : IpBucketEntry) : Bool :=
  now - e.lastAccessMs < staleThresholdMs

variable (s : RateLimitStorage)

namespace RateLimitStorage

def new (globalCapacity globalRefillRate now : Nat) : RateLimitStorage where
  globalBucket := .new globalCapacity globalRefillRate now
  ipBuckets := Keyed.empty

def named (limitType : String) : FilterError → FilterError
  | .rateLimitExceeded _ retryAfterSecs => .rateLimitExceeded limitType retryAfterSecs
  | err => err

def checkGlobalLimit (now : Nat) :
    RateLimitStorage × Except FilterError Unit :=
  let r := s.globalBucket.tryConsume now 1
  ({ s with globalBucket := r.1 }, r.2.mapError (named "Global"))

def cleanupStaleEntries (now : Nat) : RateLimitStorage :=
  { s with ipBuckets := s.ipBuckets.retain (IpBucketEntry.fresh now) }

def tidy (now : Nat) : RateLimitStorage :=
  if cleanupThreshold ≤ s.ipBuckets.rows.length then s.cleanupStaleEntries now else s

def entry (ip : String) (capacity refillRate now : Nat) (found : Option IpBucketEntry) :
    IpBucketEntry :=
  { found.getD ⟨ip, .new capacity refillRate now, now⟩ with lastAccessMs := now }

def checkIpLimit (now : Nat) (ip : String) (capacity refillRate : Nat) :
    RateLimitStorage × Except FilterError Unit :=
  let s := s.tidy now
  let e := entry ip capacity refillRate now (s.ipBuckets.get ip)
  let r := e.bucket.tryConsume now 1
  ({ s with ipBuckets := s.ipBuckets.put { e with bucket := r.1 } },
    r.2.mapError (named ("IP (" ++ ip ++ ")")))

def checkLimits (config : RateLimitConfig) (s : RateLimitStorage) (now : Nat) (traceId : String)
    (ip : String) : RateLimitStorage × FilterDecision :=
  let global := if config.globalEnabled then s.checkGlobalLimit now else (s, .ok ())
  match global.2 with
  | .error _ =>
    (global.1, .deny "Global rate limit exceeded"
      ⟨.rateLimitGlobal, traceId, now, "Global rate limit exceeded"⟩)
  | .ok _ =>
    let own :=
      if config.ipEnabled then
        global.1.checkIpLimit now ip config.ipRequests config.ipRefillRate
      else (global.1, .ok ())
    match own.2 with
    | .error _ =>
      (own.1, .deny ("IP rate limit exceeded for " ++ ip)
        ⟨.rateLimitIp, traceId, now, "IP rate limit exceeded for " ++ ip⟩)
    | .ok _ => (own.1, .allow)

end RateLimitStorage

variable {later : Nat} {ip : String} {e e' : IpBucketEntry} {found : Option IpBucketEntry}

section Entries

variable {capacity : Nat} {rate}

structure IpBucketEntry.Used (capacity rate now : Nat) (e : IpBucketEntry) : Prop where
  sized : e.bucket.capacity = capacity
  paced : e.bucket.refillRate = rate
  refilled : e.bucket.lastRefillMs ≤ e.lastAccessMs
  accessed : e.lastAccessMs ≤ now
  spent : e.bucket.tokens + 1 ≤ capacity

theorem IpBucketEntry.Used.last (h : e.Used capacity rate now) : e.bucket.lastRefillMs ≤ now :=
  h.refilled.trans h.accessed

theorem IpBucketEntry.Used.mono (h : e.Used capacity rate now) (hle : now ≤ later) :
    e.Used capacity rate later :=
  ⟨h.sized, h.paced, h.refilled, h.accessed.trans hle, h.spent⟩

def IpBucketEntry.next (ip : String) (capacity rate now : Nat) (found : Option IpBucketEntry) :
    IpBucketEntry :=
  let e := RateLimitStorage.entry ip capacity rate now found
  { e with bucket := (e.bucket.tryConsume now 1).1 }

def IpBucketEntry.serves (ip : String) (capacity rate now : Nat) (found : Option IpBucketEntry) :
    Bool :=
  (RateLimitStorage.entry ip capacity rate now found).bucket.ready now

theorem next_none (hcap : 1 ≤ capacity) :
    IpBucketEntry.serves ip capacity rate now none ∧
      IpBucketEntry.next ip capacity rate now none =
        ⟨ip, ⟨capacity, capacity - 1, rate, now⟩, now⟩ := by
  have hz : gained (TokenBucket.new capacity rate now).refillRate
      (now - (TokenBucket.new capacity rate now).lastRefillMs) = 0 := by
    simp [TokenBucket.new]
  have hrdy : (TokenBucket.new capacity rate now).ready now :=
    (TokenBucket.ready_of_gained_zero hz).mpr hcap
  refine ⟨hrdy, ?_⟩
  simp only [IpBucketEntry.next, RateLimitStorage.entry, getD_none]
  rw [TokenBucket.tryConsume_of_ready hrdy, TokenBucket.spend_of_gained_zero hz]
  rfl

theorem next_some_of_ready (hrdy : e.bucket.ready now) :
    IpBucketEntry.next ip capacity rate now (some e) = ⟨e.ip, e.bucket.spend now, now⟩ := by
  simp only [IpBucketEntry.next, RateLimitStorage.entry, getD_some,
    TokenBucket.tryConsume_of_ready hrdy]

theorem next_some_of_not_ready (hcap : 1 ≤ e.bucket.capacity)
    (hrdy : e.bucket.ready now = false) :
    IpBucketEntry.next ip capacity rate now (some e) = ⟨e.ip, e.bucket, now⟩ := by
  simp only [IpBucketEntry.next, RateLimitStorage.entry, getD_some,
    TokenBucket.tryConsume_of_not_ready hcap hrdy]

theorem next_of_not_fresh (hcap : 1 ≤ capacity)
    (hfu : capacity ≤ gained rate staleThresholdMs) (hud : e.Used capacity rate now)
    (hip : e.ip = ip) (hstl : e.fresh now = false) :
    IpBucketEntry.serves ip capacity rate now (some e) ∧
      IpBucketEntry.next ip capacity rate now (some e) =
        IpBucketEntry.next ip capacity rate now none := by
  have hela : staleThresholdMs ≤ now - e.bucket.lastRefillMs := by
    have href := hud.refilled
    simp only [IpBucketEntry.fresh, decide_eq_false_iff_not] at hstl
    omega
  have hga : capacity ≤ gained e.bucket.refillRate (now - e.bucket.lastRefillMs) := by
    rw [hud.paced]
    exact hfu.trans (Nat.div_le_div_right (Nat.mul_le_mul_right _ hela))
  have hpos : 0 < gained e.bucket.refillRate (now - e.bucket.lastRefillMs) := by omega
  have hrdy : e.bucket.ready now := by
    rw [TokenBucket.ready_of_gained hpos, hud.sized]
    exact hcap
  refine ⟨hrdy, ?_⟩
  rw [next_some_of_ready hrdy, (next_none hcap).2, TokenBucket.spend_of_gained hpos,
    hud.sized, hud.paced]
  rw [hud.paced] at hga
  congr
  omega

theorem lastRefillMs_spend_le (h : b.lastRefillMs ≤ now) : (b.spend now).lastRefillMs ≤ now := by
  simp only [TokenBucket.spend, TokenBucket.lastRefillMs_refill]
  split_ifs
  · exact h
  · rfl

theorem used_next (hcap : 1 ≤ capacity)
    (hfnd : ∀ e, found = some e → e.Used capacity rate now) :
    (IpBucketEntry.next ip capacity rate now found).Used capacity rate now := by
  cases found with
  | none =>
    rw [(next_none hcap).2]
    exact ⟨rfl, rfl, le_refl _, le_refl _, by simp only; omega⟩
  | some e =>
    have hud := hfnd e rfl
    have hl := hud.last
    have hspt := hud.spent
    cases hrdy : e.bucket.ready now with
    | false =>
      rw [next_some_of_not_ready (by rw [hud.sized]; exact hcap) hrdy]
      exact ⟨hud.sized, hud.paced, hl, le_refl _, hud.spent⟩
    | true =>
      rw [next_some_of_ready hrdy]
      refine ⟨by simp [TokenBucket.spend, hud.sized], by simp [TokenBucket.spend, hud.paced],
        lastRefillMs_spend_le hl, le_refl _, ?_⟩
      simp only [TokenBucket.spend, TokenBucket.tokens_refill, hud.sized]
      split_ifs <;> omega

end Entries

section Leading

open RateLimitStorage

def LeadEntry : Option IpBucketEntry → Option IpBucketEntry → Prop
  | none, none => True
  | none, some _ => False
  | some _, none => True
  | some e, some e' => e.bucket.Ahead e'.bucket ∧ e'.lastAccessMs ≤ e.lastAccessMs

def RateLimitStorage.live (now : Nat) (ip : String) : Option IpBucketEntry :=
  (s.ipBuckets.get ip).filter (IpBucketEntry.fresh now)

structure Leads (a : String) (now : Nat) (s s' : RateLimitStorage) : Prop where
  global : s.globalBucket.Ahead s'.globalBucket
  capacity : 1 ≤ s.globalBucket.capacity
  refilled : s.globalBucket.lastRefillMs ≤ now
  refilled' : s'.globalBucket.lastRefillMs ≤ now
  used : ∀ e ∈ s.ipBuckets.rows, e.Used 100 100 now
  used' : ∀ e ∈ s'.ipBuckets.rows, e.Used 100 100 now
  own : LeadEntry (s.live now a) (s'.live now a)
  others : ∀ ip, ip ≠ a → s.live now ip = s'.live now ip

def RateLimitStorage.counted (now : Nat) (ip : String) :
    RateLimitStorage where
  globalBucket := s.globalBucket.spend now
  ipBuckets := (s.tidy now).ipBuckets.put
    (IpBucketEntry.next ip 100 100 now ((s.tidy now).ipBuckets.get ip))

variable {a : String} {s' : RateLimitStorage} {s} {traceId : String}

theorem checkLimits_of_not_ready (hcap : 1 ≤ s.globalBucket.capacity)
    (h : s.globalBucket.ready now = false) :
    checkLimits .new s now traceId ip =
      (s, .deny "Global rate limit exceeded"
        ⟨.rateLimitGlobal, traceId, now, "Global rate limit exceeded"⟩) := by
  simp only [checkLimits, RateLimitConfig.new, checkGlobalLimit, if_true,
    TokenBucket.tryConsume_of_not_ready hcap h, Except.mapError]

theorem tidy_withGlobal (s : RateLimitStorage) (b : TokenBucket) (now : Nat) :
    ({ s with globalBucket := b } : RateLimitStorage).tidy now =
      { s.tidy now with globalBucket := b } := by
  unfold tidy
  split <;> rfl

theorem checkLimits_of_ready (h : s.globalBucket.ready now) :
    checkLimits .new s now traceId ip =
      (s.counted now ip,
        if IpBucketEntry.serves ip 100 100 now ((s.tidy now).ipBuckets.get ip) then .allow
        else .deny ("IP rate limit exceeded for " ++ ip)
          ⟨.rateLimitIp, traceId, now, "IP rate limit exceeded for " ++ ip⟩) := by
  have hrt : RateLimitConfig.new.ipRefillRate = 100 := rfl
  have hglb : s.checkGlobalLimit now =
      ({ s with globalBucket := s.globalBucket.spend now }, .ok ()) := by
    simp only [checkGlobalLimit, TokenBucket.tryConsume_of_ready h, Except.mapError]
  have hown : ({ s with globalBucket := s.globalBucket.spend now } :
      RateLimitStorage).checkIpLimit now ip 100 100 = (s.counted now ip,
        ((entry ip 100 100 now ((s.tidy now).ipBuckets.get ip)).bucket.tryConsume now 1).2.mapError
          (named ("IP (" ++ ip ++ ")"))) := by
    simp only [checkIpLimit, tidy_withGlobal]
    rfl
  unfold checkLimits
  rw [hrt]
  simp only [RateLimitConfig.new, if_true, hglb, hown]
  cases hsrv : IpBucketEntry.serves ip 100 100 now ((s.tidy now).ipBuckets.get ip) with
  | true =>
    rw [TokenBucket.tryConsume_of_ready hsrv]
    rfl
  | false =>
    obtain ⟨err, herr⟩ := TokenBucket.tryConsume_refused hsrv
    rw [herr]
    rfl

theorem live_tidy (s : RateLimitStorage) (now : Nat) (ip : String) :
    (s.tidy now).live now ip = s.live now ip := by
  unfold live tidy
  split
  · rw [cleanupStaleEntries, get_retain]
    simp
  · rfl

theorem mem_tidy (h : e ∈ (s.tidy now).ipBuckets.rows) : e ∈ s.ipBuckets.rows := by
  unfold tidy at h
  split at h
  · exact (List.mem_filter.mp h).1
  · exact h

theorem next_live (hud : ∀ e ∈ s.ipBuckets.rows, e.Used 100 100 now) (ip : String) :
    IpBucketEntry.serves ip 100 100 now (s.ipBuckets.get ip) =
        IpBucketEntry.serves ip 100 100 now (s.live now ip) ∧
      IpBucketEntry.next ip 100 100 now (s.ipBuckets.get ip) =
        IpBucketEntry.next ip 100 100 now (s.live now ip) := by
  unfold live
  cases hg : s.ipBuckets.get ip with
  | none => exact ⟨rfl, rfl⟩
  | some e =>
    obtain ⟨hm, hip⟩ := get_eq_some_iff.mp hg
    cases hfr : IpBucketEntry.fresh now e with
    | true =>
      rw [filter_some_pos hfr]
      exact ⟨rfl, rfl⟩
    | false =>
      rw [filter_some_neg (by simp [hfr])]
      have hnx := next_of_not_fresh (by decide) (by decide) (hud e hm) hip hfr
      exact ⟨hnx.1.trans (next_none (by decide)).1.symm, hnx.2⟩

theorem next_ip (h : ∀ e, found = some e → e.ip = ip) :
    (IpBucketEntry.next ip 100 100 now found).ip = ip := by
  cases found with
  | none => rfl
  | some e => exact h e rfl

theorem fresh_next (found : Option IpBucketEntry) :
    (IpBucketEntry.next ip 100 100 now found).fresh now := by
  simp [IpBucketEntry.next, entry, IpBucketEntry.fresh, staleThresholdMs]

theorem counted_next (hud : ∀ e ∈ s.ipBuckets.rows, e.Used 100 100 now) :
    IpBucketEntry.next ip 100 100 now ((s.tidy now).ipBuckets.get ip) =
      IpBucketEntry.next ip 100 100 now (s.live now ip) := by
  rw [(next_live (fun e he => hud e (mem_tidy he)) ip).2, live_tidy]

theorem live_counted (hud : ∀ e ∈ s.ipBuckets.rows, e.Used 100 100 now) (ip' : String) :
    (s.counted now ip).live now ip' =
      if ip = ip' then some (IpBucketEntry.next ip 100 100 now (s.live now ip))
      else s.live now ip' := by
  have hip : (IpBucketEntry.next ip 100 100 now ((s.tidy now).ipBuckets.get ip)).ip = ip :=
    next_ip (fun e he => key_of_get he)
  rw [live, counted, get_put, hip]
  split
  · rw [filter_some_pos (fresh_next _), counted_next hud]
  · exact live_tidy s now ip'

theorem used_counted (hud : ∀ e ∈ s.ipBuckets.rows, e.Used 100 100 now) :
    ∀ e ∈ (s.counted now ip).ipBuckets.rows, e.Used 100 100 now := by
  intro e he
  rcases mem_put.mp he with rfl | ⟨hm, -⟩
  · refine used_next (by decide) ?_
    intro e he
    exact hud e (mem_tidy (get_eq_some_iff.mp he).1)
  · exact hud e (mem_tidy hm)

theorem live_later (hle : now ≤ later) (s : RateLimitStorage) (ip : String) :
    s.live later ip = (s.live now ip).filter (IpBucketEntry.fresh later) := by
  rw [live, live, filter_filter]
  congr
  funext e
  simp only [IpBucketEntry.fresh, Bool.eq_and_self]
  simp only [decide_eq_true_eq]
  omega

theorem leadEntry_none (e : Option IpBucketEntry) : LeadEntry e none := by cases e <;> trivial

theorem LeadEntry.filter_fresh {e e' : Option IpBucketEntry} (h : LeadEntry e e') :
    LeadEntry (e.filter (IpBucketEntry.fresh later)) (e'.filter (IpBucketEntry.fresh later)) := by
  cases e' with
  | none => exact leadEntry_none _
  | some e' =>
    cases hfr' : IpBucketEntry.fresh later e' with
    | false =>
      rw [filter_some_neg (by simp [hfr'])]
      exact leadEntry_none _
    | true =>
      cases e with
      | none => exact absurd h id
      | some e =>
        -- the first entry was used last, so it is fresh as well
        have hfr : IpBucketEntry.fresh later e := by
          have hl := h.2
          simp only [IpBucketEntry.fresh, decide_eq_true_eq] at hfr' ⊢
          omega
        rw [filter_some_pos hfr, filter_some_pos hfr']
        exact h

theorem Leads.mono (h : Leads a now s s') (hle : now ≤ later) : Leads a later s s' where
  global := h.global
  capacity := h.capacity
  refilled := h.refilled.trans hle
  refilled' := h.refilled'.trans hle
  used := fun e he => (h.used e he).mono hle
  used' := fun e he => (h.used' e he).mono hle
  own := by
    rw [live_later hle, live_later hle]
    exact h.own.filter_fresh
  others := by
    intro ip hip
    rw [live_later hle, live_later hle, h.others ip hip]

theorem mem_of_live (h : s.live now ip = some e) : e ∈ s.ipBuckets.rows := by
  obtain ⟨hg, -⟩ := filter_eq_some_iff.mp h
  exact (get_eq_some_iff.mp hg).1

theorem Leads.entry (h : Leads a now s s') (hlv' : s'.live now a = some e') :
    ∃ e, s.live now a = some e ∧ e.bucket.Ahead e'.bucket ∧ e.Used 100 100 now ∧
      e'.Used 100 100 now := by
  have hown := h.own
  rw [hlv'] at hown
  cases hlv : s.live now a with
  | none =>
    rw [hlv] at hown
    exact absurd hown id
  | some e =>
    rw [hlv] at hown
    exact ⟨e, rfl, hown.1, h.used e (mem_of_live hlv), h.used' e' (mem_of_live hlv')⟩

theorem Leads.spared (h : Leads a now s s') (hrdy : s.globalBucket.ready now) :
    Leads a now (s.counted now a) s' where
  global := h.global.spend_left h.refilled h.refilled' hrdy
  capacity := by
    rw [counted, TokenBucket.spend, TokenBucket.capacity_refill]
    exact h.capacity
  refilled := lastRefillMs_spend_le h.refilled
  refilled' := h.refilled'
  used := used_counted h.used
  used' := h.used'
  own := by
    rw [live_counted h.used, if_pos rfl]
    cases hlv' : s'.live now a with
    | none => trivial
    | some _ =>
      obtain ⟨e, hlv, hahe, hud, hud'⟩ := h.entry hlv'
      rw [hlv]
      cases hsrv : e.bucket.ready now with
      | true =>
        rw [next_some_of_ready hsrv]
        exact ⟨hahe.spend_left hud.last hud'.last hsrv, hud'.accessed⟩
      | false =>
        rw [next_some_of_not_ready (by rw [hud.sized]; decide) hsrv]
        exact ⟨hahe, hud'.accessed⟩
  others := by
    intro ip hip
    rw [live_counted h.used, if_neg hip.symm]
    exact h.others ip hip

theorem ahead_next_none (hud : e.Used 100 100 now) (hrdy : e.bucket.ready now) :
    (e.bucket.spend now).Ahead (IpBucketEntry.next ip 100 100 now none).bucket := by
  have hl := hud.last
  have hspt := hud.spent
  rw [(next_none (by decide)).2]
  rcases Nat.eq_zero_or_pos (gained e.bucket.refillRate (now - e.bucket.lastRefillMs)) with
    hz | hpos
  · rw [TokenBucket.spend_of_gained_zero hz]
    refine ⟨hud.sized.symm, hud.paced.symm, ?_⟩
    simp only
    rcases Nat.lt_or_eq_of_le hl with hlt | heq
    · exact .inr (.inr ⟨hlt, hz, by omega⟩)
    · exact .inl ⟨heq, by omega⟩
  · rw [TokenBucket.spend_of_gained hpos]
    refine ⟨hud.sized.symm, hud.paced.symm, .inl ⟨rfl, ?_⟩⟩
    simp only [hud.sized]
    omega

theorem Leads.counted (h : Leads a now s s') (hrdy : s.globalBucket.ready now)
    (hown : ip = a → LeadEntry (some (IpBucketEntry.next ip 100 100 now (s.live now ip)))
      (some (IpBucketEntry.next ip 100 100 now (s'.live now ip)))) :
    Leads a now (s.counted now ip) (s'.counted now ip) where
  global := h.global.spend_both h.refilled h.refilled' hrdy
  capacity := by
    rw [RateLimitStorage.counted, TokenBucket.spend, TokenBucket.capacity_refill]
    exact h.capacity
  refilled := lastRefillMs_spend_le h.refilled
  refilled' := lastRefillMs_spend_le h.refilled'
  used := used_counted h.used
  used' := used_counted h.used'
  own := by
    rw [live_counted h.used, live_counted h.used']
    split
    next heq => exact hown heq
    next => exact h.own
  others := by
    intro ip' hip'
    rw [live_counted h.used, live_counted h.used', h.others ip' hip']
    split
    next heq => rw [h.others ip (heq ▸ hip')]
    next => rfl

theorem Leads.own_served (h : Leads a now s s') (hrdy : s.globalBucket.ready now)
    (hsrv : IpBucketEntry.serves a 100 100 now (s.live now a)) :
    IpBucketEntry.serves a 100 100 now (s'.live now a) ∧
      Leads a now (s.counted now a) (s'.counted now a) := by
  have hbo : IpBucketEntry.serves a 100 100 now (s'.live now a) ∧
      LeadEntry (some (IpBucketEntry.next a 100 100 now (s.live now a)))
        (some (IpBucketEntry.next a 100 100 now (s'.live now a))) := by
    cases hlv' : s'.live now a with
    | none =>
      refine ⟨(next_none (by decide)).1, ?_⟩
      cases hlv : s.live now a with
      | none => exact ⟨.refl _, le_refl _⟩
      | some e =>
        rw [hlv] at hsrv
        change e.bucket.ready now = true at hsrv
        have hnx : (e.bucket.spend now).Ahead
            (IpBucketEntry.next a 100 100 now none).bucket :=
          ahead_next_none (h.used e (mem_of_live hlv)) hsrv
        rw [next_some_of_ready hsrv]
        exact ⟨hnx, le_refl _⟩
    | some _ =>
      obtain ⟨e, hlv, hahe, hud, hud'⟩ := h.entry hlv'
      rw [hlv] at hsrv ⊢
      change e.bucket.ready now = true at hsrv
      have hsrv' := hahe.ready hud.last hud'.last hsrv
      refine ⟨hsrv', ?_⟩
      rw [next_some_of_ready hsrv, next_some_of_ready hsrv']
      exact ⟨hahe.spend_both hud.last hud'.last hsrv, le_refl _⟩
  exact ⟨hbo.1, h.counted hrdy (fun _ => hbo.2)⟩

theorem Leads.other_counted (h : Leads a now s s') (hrdy : s.globalBucket.ready now)
    (hip : ip ≠ a) : Leads a now (s.counted now ip) (s'.counted now ip) :=
  h.counted hrdy (fun heq => absurd heq hip)

end Leading

end ETradie.Envoy
