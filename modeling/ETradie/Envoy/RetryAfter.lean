import ETradie.Envoy.Words

namespace ETradie.Envoy

open TokenBucket Nat

variable {b : TokenBucket} {now n k m : Nat}

def lacking (b : TokenBucket) (now n : Nat) : Nat := n - (Word.refill b now).tokens

def ServedAfter (b : TokenBucket) (now n seconds : Nat) : Prop :=
  (Word.tryConsume (Word.tryConsume b now n).1 (now + 1000 * seconds) n).2 = .ok ()

def LeastWait (b : TokenBucket) (now n seconds : Nat) : Prop :=
  IsLeast (fun m => 1 ≤ m ∧ ServedAfter b now n m) seconds

def WaitInRange (b : TokenBucket) (now n : Nat) : Prop :=
  (now - b.lastRefillMs) * b.refillRate + 1000 * (n + 60 * b.refillRate) + b.tokens < Word.size

theorem gained_add_seconds (rate elapsedMs seconds : Nat) :
    gained rate (elapsedMs + 1000 * seconds) = gained rate elapsedMs + seconds * rate := by
  unfold gained
  have hspl : (elapsedMs + 1000 * seconds) * rate =
      elapsedMs * rate + 1000 * (seconds * rate) := by
    ring
  rw [hspl, add_mul_div_left _ _ (by decide)]

theorem gained_refill (b : TokenBucket) (now : Nat) :
    gained b.refillRate (now - (b.refill now).lastRefillMs) = 0 := by
  rcases Nat.eq_zero_or_pos (gained b.refillRate (now - b.lastRefillMs)) with hz | hpos
  · rw [refill_of_gained_zero hz]
    exact hz
  · rw [refill_of_gained hpos]
    simp

theorem lastRefillMs_refill_le (h : b.lastRefillMs ≤ now) :
    b.lastRefillMs ≤ (b.refill now).lastRefillMs ∧ (b.refill now).lastRefillMs ≤ now := by
  rcases Nat.eq_zero_or_pos (gained b.refillRate (now - b.lastRefillMs)) with hz | hpos
  · rw [refill_of_gained_zero hz]
    exact ⟨le_refl _, h⟩
  · rw [refill_of_gained hpos]
    exact ⟨h, le_refl _⟩

theorem tokens_refill_later (h : b.lastRefillMs ≤ now) (hrm : (b.refill now).tokens ≤ b.capacity)
    (m : Nat) :
    ((b.refill now).refill (now + 1000 * m)).tokens =
      min ((b.refill now).tokens + m * b.refillRate) b.capacity := by
  have hl := (lastRefillMs_refill_le h).2
  have hsp : now + 1000 * m - (b.refill now).lastRefillMs =
      (now - (b.refill now).lastRefillMs) + 1000 * m := by
    omega
  have hga : gained (b.refill now).refillRate
      (now + 1000 * m - (b.refill now).lastRefillMs) = m * b.refillRate := by
    rw [refillRate_refill, hsp, gained_add_seconds, gained_refill, Nat.zero_add]
  rcases Nat.eq_zero_or_pos (m * b.refillRate) with hz | hpos
  · rw [refill_of_gained_zero (hga.trans hz), hz, Nat.add_zero, min_eq_left hrm]
  · rw [refill_of_gained (hga ▸ hpos), hga, capacity_refill]

theorem refill_inRange (b : TokenBucket) (now : Nat) :
    (now - (b.refill now).lastRefillMs) * b.refillRate + (b.refill now).tokens ≤
      (now - b.lastRefillMs) * b.refillRate + b.tokens := by
  rcases Nat.eq_zero_or_pos (gained b.refillRate (now - b.lastRefillMs)) with hz | hpos
  · rw [refill_of_gained_zero hz]
  · rw [refill_of_gained hpos]
    simp only [Nat.sub_self, Nat.zero_mul, Nat.zero_add]
    have hga : gained b.refillRate (now - b.lastRefillMs) ≤
        (now - b.lastRefillMs) * b.refillRate := Nat.div_le_self _ _
    omega

section Refused

variable (hclock : b.lastRefillMs ≤ now) (hcapacity : n ≤ b.capacity)
variable (hrange : WaitInRange b now n)

include hrange in
theorem tryConsume_in_range :
    Word.tryConsume b now n = b.tryConsume now n ∧ lacking b now n = n - (b.refill now).tokens := by
  unfold WaitInRange at hrange
  have hnow : Word.InRange b now := by
    unfold Word.InRange
    exact lt_of_le_of_lt (by omega) hrange
  refine ⟨Word.tryConsume_eq hnow (lt_of_le_of_lt (by omega) hrange), ?_⟩
  rw [lacking, Word.refill_eq hnow]

include hclock hcapacity hrange in
theorem servedAfter_iff (href : (b.refill now).tokens < n)
    (hm : m * b.refillRate ≤ n + 60 * b.refillRate) :
    ServedAfter b now n m ↔ lacking b now n ≤ m * b.refillRate := by
  obtain ⟨hfst, hlac⟩ := tryConsume_in_range hrange
  have hsm : (b.tryConsume now n).1 = b.refill now := by
    simp only [tryConsume, if_neg (not_le.mpr href)]
  have hlat : Word.InRange (b.refill now) (now + 1000 * m) := by
    unfold Word.InRange
    refine lt_of_le_of_lt ?_ hrange
    have hl := (lastRefillMs_refill_le hclock).2
    have hsp : (now + 1000 * m - (b.refill now).lastRefillMs) * b.refillRate =
        (now - (b.refill now).lastRefillMs) * b.refillRate + 1000 * (m * b.refillRate) := by
      rw [show now + 1000 * m - (b.refill now).lastRefillMs =
        (now - (b.refill now).lastRefillMs) + 1000 * m by omega]
      ring
    have hrfl := refill_inRange b now
    rw [refillRate_refill, hsp]
    omega
  have htoks := tokens_refill_later hclock (href.le.trans hcapacity) m
  have hsml : n * 1000 < Word.size := by
    unfold WaitInRange at hrange
    exact lt_of_le_of_lt (by omega) hrange
  rw [ServedAfter, hfst, hsm, Word.tryConsume_eq hlat hsml, hlac]
  by_cases hsv : n ≤ ((b.refill now).refill (now + 1000 * m)).tokens
  · simp only [tryConsume, if_pos hsv, true_iff]
    rw [htoks] at hsv
    omega
  · simp only [tryConsume, if_neg hsv]
    rw [htoks] at hsv
    simp only [reduceCtorEq, false_iff]
    omega

end Refused

section Seconds

variable {need rate : Nat}

def EnoughAfter (need rate : Nat) (m : Nat) : Prop := 1 ≤ m ∧ need ≤ m * rate

theorem exists_least_enough (hneed : 1 ≤ need) (hrate : 1 ≤ rate) :
    ∃ m, IsLeast (EnoughAfter need rate) m ∧ m * rate ≤ need + rate := by
  classical
  have hexists : ∃ m, EnoughAfter need rate m := ⟨need, hneed, Nat.le_mul_of_pos_right need hrate⟩
  refine ⟨Nat.find hexists, ⟨Nat.find_spec hexists, fun m hm => Nat.find_min' hexists hm⟩, ?_⟩
  obtain ⟨hpos, -⟩ := Nat.find_spec hexists
  obtain ⟨m, hm⟩ : ∃ m, Nat.find hexists = m + 1 := ⟨Nat.find hexists - 1, by omega⟩
  rw [hm, Nat.add_mul]
  rcases Nat.eq_zero_or_pos m with rfl | hmpos
  · omega
  · have hear : ¬ EnoughAfter need rate m := Nat.find_min hexists (by omega)
    have hless : m * rate < need := not_le.mp (fun h => hear ⟨hmpos, h⟩)
    omega

theorem le_least_add_one_iff (h : IsLeast (EnoughAfter need rate) m) :
    k ≤ m + 1 ↔ k ≤ 2 ∨ (k - 2) * rate < need := by
  obtain ⟨⟨hpos, heno⟩, hlst⟩ := h
  constructor
  · intro _
    by_cases htwo : k ≤ 2
    · exact .inl htwo
    · right
      by_contra hnot
      have hle : m ≤ k - 2 := hlst ⟨by omega, not_lt.mp hnot⟩
      omega
  · rintro (htwo | hless)
    · omega
    · have hlt : k - 2 < m := lt_of_mul_lt_mul_right (hless.trans_le heno) (zero_le rate)
      omega

def clampedWait (need rate : Nat) : Nat := min (max (need * 1000 / max rate 1) 1) 60

section Clamping

variable (hrate : 1 ≤ rate)
include hrate

theorem clampedWait_cases :
    ∃ q, q * rate ≤ need * 1000 ∧ need * 1000 < q * rate + rate ∧
      clampedWait need rate = min (max q 1) 60 := by
  refine ⟨need * 1000 / rate, div_mul_le_self _ _, ?_, ?_⟩
  · have hlt := lt_div_mul_add (a := need * 1000) hrate
    exact hlt
  · rw [clampedWait, max_eq_left hrate]

theorem le_clampedWait_mul_iff : need ≤ clampedWait need rate * rate ↔ need ≤ 60 * rate := by
  obtain ⟨q, -, hhi, hwt⟩ := clampedWait_cases hrate
  rw [hwt]
  by_cases hq : 60 ≤ q
  · rw [min_eq_right (by omega)]
  · have hbd : need ≤ max q 1 * rate := by
      rcases Nat.eq_zero_or_pos q with rfl | hpos
      · simp only [Nat.zero_le, max_eq_right]
        omega
      · rw [max_eq_left hpos]
        have hle : rate ≤ q * rate := Nat.le_mul_of_pos_left rate hpos
        omega
    have hsix : max q 1 * rate ≤ 60 * rate := Nat.mul_le_mul_right rate (by omega)
    rw [min_eq_left (by omega)]
    exact ⟨fun _ => hbd.trans hsix, fun _ => hbd⟩

theorem clampedWait_tight_iff :
    (clampedWait need rate ≤ 2 ∨ (clampedWait need rate - 2) * rate < need) ↔
      1000 * need < 3 * rate ∨ 58 * rate < need := by
  obtain ⟨q, hlow, hhi, hwt⟩ := clampedWait_cases hrate
  rw [hwt]
  by_cases htwo : q ≤ 2
  · have hmul : q * rate ≤ 2 * rate := mul_le_mul_right rate htwo
    exact ⟨fun _ => .inl (by omega), fun _ => .inl (by omega)⟩
  · have hthr : 3 * rate ≤ q * rate := mul_le_mul_right rate (by omega)
    have hlg : ¬ 1000 * need < 3 * rate := by omega
    by_cases hq : 60 ≤ q
    · rw [min_eq_right (by omega)]
      simp [hlg]
    · -- the wait is below a minute, and far too long
      rw [min_eq_left (by omega), max_eq_left (by omega)]
      obtain ⟨p, rfl⟩ : ∃ p, q = p + 3 := ⟨q - 3, by omega⟩
      have hexpand : (p + 3) * rate = p * rate + 3 * rate := add_mul p 3 rate
      have hexpand' : (p + 3 - 2) * rate = p * rate + rate := by
        rw [show p + 3 - 2 = p + 1 by omega, add_mul, one_mul]
      have hsix : p * rate ≤ 57 * rate := mul_le_mul_right rate (by omega)
      omega

end Clamping

end Seconds

theorem retry_after_exact_iff (hclock : b.lastRefillMs ≤ now) (hrate : 1 ≤ b.refillRate)
    (hcapacity : n ≤ b.capacity) (hrange : WaitInRange b now n) {limitType : String}
    (hrefused : (Word.tryConsume b now n).2 = .error (.rateLimitExceeded limitType k)) :
    (ServedAfter b now n k ∧ ∃ m, LeastWait b now n m ∧ k ≤ m + 1) ↔
      1000 * lacking b now n < 3 * b.refillRate ∨
        (58 * b.refillRate < lacking b now n ∧ lacking b now n ≤ 60 * b.refillRate) := by
  obtain ⟨hfst, hlac⟩ := tryConsume_in_range hrange
  rw [hfst, tryConsume] at hrefused
  by_cases hsv : n ≤ (b.refill now).tokens
  · simp only [if_pos hsv, reduceCtorEq] at hrefused
  · simp only [if_neg hsv, Except.error.injEq, FilterError.rateLimitExceeded.injEq] at hrefused
    have hemp : (b.refill now).tokens < n := not_le.mp hsv
    have hwt : k = clampedWait (lacking b now n) b.refillRate := by
      rw [← hrefused.2, hlac, calculateRetryAfter, capacity_refill,
        refillRate_refill, if_neg (not_lt.mpr hcapacity)]
      rfl
    have hneed : 1 ≤ lacking b now n := by omega
    have hsrv := fun m hm => servedAfter_iff (m := m) hclock hcapacity hrange hemp hm
    have hk : k ≤ 60 := hwt ▸ min_le_right _ _
    obtain ⟨m, hlst, hm⟩ := exists_least_enough hneed hrate
    have hlea : LeastWait b now n m := by
      refine ⟨⟨hlst.1.1, (hsrv m (by omega)).mpr hlst.1.2⟩, ?_⟩
      intro m' hm'
      by_contra hlt
      have hless : ¬ lacking b now n ≤ m' * b.refillRate := fun heno => hlt (hlst.2 ⟨hm'.1, heno⟩)
      exact hless ((hsrv m' (by omega)).mp hm'.2)
    have htgt : (∃ m, LeastWait b now n m ∧ k ≤ m + 1) ↔ k ≤ m + 1 := by
      constructor
      · rintro ⟨m', hm', hle⟩
        rwa [IsLeast.unique hm' hlea] at hle
      · exact fun hle => ⟨m, hlea, hle⟩
    rw [hsrv k ((mul_le_mul_right _ hk).trans (le_add_left _ _)), htgt,
      le_least_add_one_iff hlst, hwt, le_clampedWait_mul_iff hrate,
      clampedWait_tight_iff hrate]
    omega

theorem retry_after_exact_fifty_nine :
    (Word.tryConsume ⟨100, 0, 1, 0⟩ 0 59).2 =
        .error (.rateLimitExceeded "Token bucket" 60) ∧
      (ServedAfter ⟨100, 0, 1, 0⟩ 0 59 60 ∧ ∃ m, LeastWait ⟨100, 0, 1, 0⟩ 0 59 m ∧ 60 ≤ m + 1) := by
  have href : (Word.tryConsume ⟨100, 0, 1, 0⟩ 0 59).2 =
      .error (.rateLimitExceeded "Token bucket" 60) := by
    decide +kernel
  refine ⟨href, ?_⟩
  exact (retry_after_exact_iff (by decide) (by decide) (by decide)
    (by unfold WaitInRange; decide +kernel) href).mpr (by decide +kernel)

theorem wait_of_ten_seconds :
    ((Word.tryConsume ⟨100, 0, 100, 0⟩ 0 1).2 =
        .error (.rateLimitExceeded "Token bucket" 10) ∧
      ServedAfter ⟨100, 0, 100, 0⟩ 0 1 1) ∧
    ((Word.tryConsume ⟨1000, 0, 1, 0⟩ 0 1000).2 =
        .error (.rateLimitExceeded "Token bucket" 60) ∧
      ¬ ServedAfter ⟨1000, 0, 1, 0⟩ 0 1000 60) := by
  unfold ServedAfter
  decide +kernel

end ETradie.Envoy
