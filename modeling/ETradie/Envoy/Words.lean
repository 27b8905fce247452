import ETradie.Envoy.RateLimit

namespace ETradie.Envoy

open Kernel

variable (b : TokenBucket)

namespace Word

def size : Nat := 2 ^ 64

def gained (rate elapsedMs : Nat) : Nat := elapsedMs * rate % size / 1000

def refill (now : Nat) : TokenBucket :=
  let elapsedMs := now - b.lastRefillMs
  if elapsedMs = 0 then b
  else
    let tokensToAdd := gained b.refillRate elapsedMs
    if 0 < tokensToAdd then
      { b with tokens := min ((b.tokens + tokensToAdd) % size) b.capacity, lastRefillMs := now }
    else b

def calculateRetryAfter (requiredTokens : Nat) : Nat :=
  if b.capacity < requiredTokens then 60
  else
    let tokensNeeded := requiredTokens - b.tokens
    let secondsNeeded := tokensNeeded * 1000 % size / max b.refillRate 1
    min (max secondsNeeded 1) 60

def tryConsume (now tokens : Nat) : TokenBucket × Except FilterError Unit :=
  let b := refill b now
  if tokens ≤ b.tokens then ({ b with tokens := b.tokens - tokens }, .ok ())
  else (b, .error (.rateLimitExceeded "Token bucket" (calculateRetryAfter b tokens)))

def checkGlobalLimit (s : RateLimitStorage) (now : Nat) :
    RateLimitStorage × Except FilterError Unit :=
  let r := tryConsume s.globalBucket now 1
  ({ s with globalBucket := r.1 }, r.2.mapError (RateLimitStorage.named "Global"))

def checkIpLimit (s : RateLimitStorage) (now : Nat) (ip : String) (capacity refillRate : Nat) :
    RateLimitStorage × Except FilterError Unit :=
  let s := s.tidy now
  let e := RateLimitStorage.entry ip capacity refillRate now (s.ipBuckets.get ip)
  let r := tryConsume e.bucket now 1
  ({ s with ipBuckets := s.ipBuckets.put { e with bucket := r.1 } },
    r.2.mapError (RateLimitStorage.named ("IP (" ++ ip ++ ")")))

def checkLimits (config : RateLimitConfig) (s : RateLimitStorage) (now : Nat) (traceId : String)
    (ip : String) : RateLimitStorage × FilterDecision :=
  let global := if config.globalEnabled then checkGlobalLimit s now else (s, .ok ())
  match global.2 with
  | .error _ =>
    (global.1, .deny "Global rate limit exceeded"
      ⟨.rateLimitGlobal, traceId, now, "Global rate limit exceeded"⟩)
  | .ok _ =>
    let own :=
      if config.ipEnabled then
        checkIpLimit global.1 now ip config.ipRequests config.ipRefillRate
      else (global.1, .ok ())
    match own.2 with
    | .error _ =>
      (own.1, .deny ("IP rate limit exceeded for " ++ ip)
        ⟨.rateLimitIp, traceId, now, "IP rate limit exceeded for " ++ ip⟩)
    | .ok _ => (own.1, .allow)

section Refinement

variable {b} {s : RateLimitStorage} {now tokens : Nat}

theorem gained_le (rate elapsedMs : Nat) : gained rate elapsedMs ≤ Envoy.gained rate elapsedMs :=
  Nat.div_le_div_right (Nat.mod_le _ _)

theorem gained_eq {rate elapsedMs : Nat} (h : elapsedMs * rate < size) :
    gained rate elapsedMs = Envoy.gained rate elapsedMs := by
  rw [gained, Nat.mod_eq_of_lt h, Envoy.gained]

def InRange (b : TokenBucket) (now : Nat) : Prop :=
  (now - b.lastRefillMs) * b.refillRate + b.tokens < size

theorem refill_eq (h : InRange b now) : refill b now = b.refill now := by
  unfold InRange at h
  have hgai : gained b.refillRate (now - b.lastRefillMs) =
      Envoy.gained b.refillRate (now - b.lastRefillMs) := gained_eq (by omega)
  have hsum : b.tokens + Envoy.gained b.refillRate (now - b.lastRefillMs) < size := by
    unfold Envoy.gained
    omega
  simp only [refill, TokenBucket.refill, hgai, Nat.mod_eq_of_lt hsum]

theorem calculateRetryAfter_eq (h : tokens * 1000 < size) :
    calculateRetryAfter b tokens = b.calculateRetryAfter tokens := by
  have hnee : (tokens - b.tokens) * 1000 < size :=
    (Nat.mul_le_mul_right 1000 (Nat.sub_le tokens b.tokens)).trans_lt h
  simp only [calculateRetryAfter, TokenBucket.calculateRetryAfter, Nat.mod_eq_of_lt hnee]

theorem tryConsume_eq (h : InRange b now) (htoks : tokens * 1000 < size) :
    tryConsume b now tokens = b.tryConsume now tokens := by
  simp only [tryConsume, TokenBucket.tryConsume, refill_eq h, calculateRetryAfter_eq htoks]

end Refinement

end Word

end ETradie.Envoy
