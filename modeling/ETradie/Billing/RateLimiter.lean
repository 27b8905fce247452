import ETradie.Kernel.Runs

namespace ETradie.Billing

open Kernel List Function

structure RateLimiterConfig where
  maxKeys : Int := 0
  (ratePerSec burst : ℚ := 0)

def RateLimiterConfig.applyDefaults (c : RateLimiterConfig) : RateLimiterConfig where
  maxKeys := if c.maxKeys ≤ 0 then 4096 else c.maxKeys
  ratePerSec := if c.ratePerSec ≤ 0 then 50 else c.ratePerSec
  burst := if c.burst ≤ 0 then 100 else c.burst

structure RateLimitEntry where
  key : String
  (tokens lastSeen : ℚ)
deriving DecidableEq

structure RateLimiter where
  buckets : List String := []
  lru : List RateLimitEntry := []
  rejected : Nat := 0
deriving DecidableEq

variable (cfg : RateLimiterConfig)

def refillLocked (entry : RateLimitEntry) (now : ℚ) : RateLimitEntry :=
  let elapsed := now - entry.lastSeen
  if elapsed > 0 then
    let tokens := entry.tokens + elapsed * cfg.ratePerSec
    { entry with
      tokens := if tokens > cfg.burst then cfg.burst else tokens
      lastSeen := now }
  else entry

namespace RateLimiter

def bucket (r : RateLimiter) (key : String) : Option RateLimitEntry :=
  if key ∈ r.buckets then r.lru.find? (·.key = key) else none

def evict (r : RateLimiter) : RateLimiter :=
  if r.lru.length ≥ cfg.maxKeys then
    match r.lru.getLast? with
    | some oldest => { r with lru := r.lru.dropLast, buckets := r.buckets.erase oldest.key }
    | none => r
  else r

def allow (key : String) (now : ℚ) (r : RateLimiter) :
    Bool × RateLimiter :=
  if key = "" then (true, r)
  else
    match r.bucket key with
    | some elem =>
      let entry := refillLocked cfg elem now
      if entry.tokens ≥ 1 then
        (true, { r with lru := { entry with tokens := entry.tokens - 1 } :: r.lru.erase elem })
      else (false, { r with lru := entry :: r.lru.erase elem, rejected := r.rejected + 1 })
    | none =>
      let room := r.evict cfg
      (true,
        { room with
          lru := { key := key, tokens := cfg.burst - 1, lastSeen := now } :: room.lru
          buckets := key :: room.buckets })

end RateLimiter

structure Limiting where
  limiter : RateLimiter := {}
  clock : ℚ
  since : String → List ℚ := fun _ => []

def Limiting.step (config : RateLimiterConfig) (s : Limiting) (call : String × ℚ) :
    Option Limiting :=
  let cfg := config.applyDefaults
  if s.clock ≤ call.2 then
    let answer := s.limiter.allow cfg call.1 call.2
    some
      { limiter := answer.2, clock := call.2
        since := Function.update s.since call.1
          (if call.1 ≠ "" ∧ (s.limiter.bucket call.1).isNone then [call.2]
            else if answer.1 then call.2 :: s.since call.1 else s.since call.1) }
  else none

def RateBounded (burst rate : ℚ) (times : List ℚ) : Prop :=
  ∀ s t, s ≤ t → (times.countP (fun τ => s ≤ τ ∧ τ ≤ t) : ℚ) ≤ burst + rate * (t - s)

structure RateLimiter.Consistent (cfg : RateLimiterConfig) (r : RateLimiter) : Prop where
  same : r.buckets.Perm (r.lru.map RateLimitEntry.key)
  distinct : (r.lru.map RateLimitEntry.key).Nodup
  room : r.lru.length ≤ cfg.maxKeys

variable {cfg} {now : ℚ} {times : List ℚ} {e : RateLimitEntry}

section Buckets

variable {most rate : ℚ}

structure Covers (most rate : ℚ) (e : RateLimitEntry) (times : List ℚ) : Prop where
  past : ∀ τ ∈ times, τ ≤ e.lastSeen
  paid : ∀ s, s ≤ e.lastSeen →
    (times.countP (fun τ => s ≤ τ) : ℚ) + max e.tokens 0 ≤ most + rate * (e.lastSeen - s)

theorem covers_refill (h : Covers most cfg.ratePerSec e times) (hnow : e.lastSeen ≤ now)
    (hbur : max cfg.burst 0 ≤ most) (hrt : 0 ≤ cfg.ratePerSec) :
    (refillLocked cfg e now).lastSeen = now ∧
      Covers most cfg.ratePerSec (refillLocked cfg e now) times := by
  unfold refillLocked
  simp only
  by_cases hela : now - e.lastSeen > 0
  · rw [if_pos hela]
    refine ⟨rfl, fun τ hτ => (h.past τ hτ).trans hnow, ?_⟩
    intro s hs
    have hga := mul_nonneg hela.le hrt
    generalize htoks : (if e.tokens + (now - e.lastSeen) * cfg.ratePerSec > cfg.burst then
      cfg.burst else e.tokens + (now - e.lastSeen) * cfg.ratePerSec) = tokens
    have hcap : max tokens 0 ≤ most ∧
        max tokens 0 ≤ max e.tokens 0 + (now - e.lastSeen) * cfg.ratePerSec := by
      subst htoks
      split_ifs with hov
      · refine ⟨hbur, max_le ?_ ?_⟩
        · linarith [le_max_left e.tokens 0]
        · linarith [le_max_right e.tokens 0]
      · refine ⟨(max_le_max (not_lt.mp hov) le_rfl).trans hbur, max_le ?_ ?_⟩
        · linarith [le_max_left e.tokens 0]
        · linarith [le_max_right e.tokens 0]
    by_cases ho : s ≤ e.lastSeen
    · have hpd := h.paid s ho
      linarith [hcap.2]
    · -- nothing was admitted after the last refill
      have hno : times.countP (fun τ => s ≤ τ) = 0 := by
        rw [countP_eq_zero]
        intro τ hτ
        simpa using (h.past τ hτ).trans_lt (not_le.mp ho)
      have hla := mul_nonneg hrt (sub_nonneg.mpr hs)
      rw [hno]
      push_cast
      linarith [hcap.1]
  · rw [if_neg hela]
    exact ⟨le_antisymm hnow (by linarith), h⟩

theorem covers_take (h : Covers most rate e times) (hnow : e.lastSeen = now)
    (htok : e.tokens ≥ 1) :
    Covers most rate { e with tokens := e.tokens - 1 } (now :: times) := by
  refine ⟨forall_mem_cons.mpr ⟨hnow.ge, h.past⟩, ?_⟩
  intro s hs
  have hpd := h.paid s hs
  rw [max_eq_left (by linarith)] at hpd
  rw [max_eq_left (by linarith), countP_cons_of_pos (by simpa [← hnow] using hs)]
  push_cast
  linarith

theorem rateBounded_nil (hmt : 0 ≤ most) (hrt : 0 ≤ rate) : RateBounded most rate [] := by
  intro s t hst
  have hga := mul_nonneg hrt (sub_nonneg.mpr hst)
  rw [countP_nil]
  push_cast
  linarith

theorem RateBounded.cons (h : RateBounded most rate times) (hmt : 0 ≤ most) (hrt : 0 ≤ rate)
    (hcvs : Covers most rate e (now :: times)) (hnow : e.lastSeen = now) :
    RateBounded most rate (now :: times) := by
  intro s t hst
  by_cases hla : now ≤ t
  · have hlon := mul_nonneg hrt (sub_nonneg.mpr hla)
    by_cases herl : s ≤ now
    · have hpd := hcvs.paid s (herl.trans hnow.ge)
      have hless : (now :: times).countP (fun τ => s ≤ τ ∧ τ ≤ t) ≤
          (now :: times).countP (fun τ => s ≤ τ) := by
        refine countP_mono_left ?_
        intro τ _ hτ
        simp only [decide_eq_true_eq] at hτ ⊢
        exact hτ.1
      have hcast : ((now :: times).countP (fun τ => s ≤ τ ∧ τ ≤ t) : ℚ) ≤
          (now :: times).countP (fun τ => s ≤ τ) := by
        exact_mod_cast hless
      rw [hnow] at hpd
      linarith [le_max_right e.tokens 0]
    · have hno : (now :: times).countP (fun τ => s ≤ τ ∧ τ ≤ t) = 0 := by
        rw [countP_eq_zero]
        intro τ hτ
        have hps := (hcvs.past τ hτ).trans hnow.le
        simp only [decide_eq_true_eq]
        intro _
        linarith
      rw [hno]
      push_cast
      linarith [mul_nonneg hrt (sub_nonneg.mpr hst)]
  · rw [countP_cons_of_neg (by simp [hla])]
    exact h s t hst

theorem covers_new (hrt : 0 ≤ rate) (hmt : max (cfg.burst - 1) 0 + 1 ≤ most) (key : String) :
    Covers most rate ⟨key, cfg.burst - 1, now⟩ [now] := by
  refine ⟨by simp, ?_⟩
  intro s hs
  have hear := mul_nonneg hrt (sub_nonneg.mpr hs)
  rw [countP_cons_of_pos (by simpa using hs)]
  simp only [countP_nil]
  push_cast
  linarith

end Buckets

variable {key : String}

section Keys

variable {r : RateLimiter}

theorem RateLimiter.Consistent.bucket_eq_none_iff (h : r.Consistent cfg) :
    r.bucket key = none ↔ key ∉ r.lru.map RateLimitEntry.key := by
  unfold RateLimiter.bucket
  rw [ite_eq_right_iff, h.same.mem_iff]
  constructor
  · intro hno hm
    obtain ⟨e, he, hk⟩ := mem_map.mp hm
    exact find?_eq_none.mp (hno hm) e he (by simpa using hk)
  · intro hnot hm
    exact absurd hm hnot

theorem bucket_eq_some (h : r.bucket key = some e) : e ∈ r.lru ∧ e.key = key := by
  unfold RateLimiter.bucket at h
  split_ifs at h
  exact ⟨mem_of_find?_eq_some h, by simpa using find?_some h⟩

theorem RateLimiter.Consistent.move (h : r.Consistent cfg) (he : e ∈ r.lru) {f : RateLimitEntry}
    (hk : f.key = e.key) (rejected : Nat) :
    RateLimiter.Consistent cfg ⟨r.buckets, f :: r.lru.erase e, rejected⟩ := by
  have hpm : (r.lru.map RateLimitEntry.key).Perm
      ((f :: r.lru.erase e).map RateLimitEntry.key) := by
    rw [map_cons, hk]
    exact (perm_cons_erase he).map RateLimitEntry.key
  refine ⟨h.same.trans hpm, hpm.nodup_iff.mp h.distinct, ?_⟩
  have hlen := hpm.length_eq
  rw [length_map, length_map] at hlen
  rw [← hlen]
  exact h.room

theorem RateLimiter.Consistent.evict (h : r.Consistent cfg) (hmax : 0 < cfg.maxKeys) :
    (r.evict cfg).Consistent cfg ∧ ((r.evict cfg).lru.length : Int) < cfg.maxKeys ∧
      (r.evict cfg).lru.Sublist r.lru := by
  unfold RateLimiter.evict
  split_ifs with hfu
  · cases hl : r.lru.getLast? with
    | none =>
      rw [getLast?_eq_none_iff.mp hl] at hfu
      exact absurd hmax (not_lt.mpr hfu)
    | some oldest =>
      have hspl := dropLast_append_getLast? oldest hl
      have hrm := h.room
      have hsub := r.lru.dropLast_sublist
      have hks : (r.lru.map RateLimitEntry.key).Perm
          (oldest.key :: r.lru.dropLast.map RateLimitEntry.key) := by
        rw [← hspl, map_append, dropLast_concat]
        exact perm_append_comm
      have hlen := congrArg List.length hspl
      rw [length_append, length_singleton] at hlen
      refine ⟨⟨?_, h.distinct.sublist (hsub.map _), ?_⟩, ?_, hsub⟩
      · have hera := (h.same.trans hks).erase oldest.key
        rwa [erase_cons_head] at hera
      · simp only
        omega
      · simp only
        omega
  · exact ⟨h, not_le.mp hfu, List.Sublist.refl _⟩

theorem RateLimiter.Consistent.push (h : r.Consistent cfg)
    (hrm : (r.lru.length : Int) < cfg.maxKeys) (hn : e.key ∉ r.lru.map RateLimitEntry.key) :
    RateLimiter.Consistent cfg ⟨e.key :: r.buckets, e :: r.lru, r.rejected⟩ := by
  refine ⟨h.same.cons _, nodup_cons.mpr ⟨hn, h.distinct⟩, ?_⟩
  rw [length_cons]
  omega

end Keys

section Limits

variable {config : RateLimiterConfig} {s t : Limiting}

def RateLimiterConfig.most (cfg : RateLimiterConfig) : ℚ := max 1 cfg.burst

theorem applyDefaults_pos (config : RateLimiterConfig) :
    0 < config.applyDefaults.maxKeys ∧ 0 < config.applyDefaults.ratePerSec := by
  unfold RateLimiterConfig.applyDefaults
  constructor
  · simp only
    split_ifs with h
    · decide
    · exact not_le.mp h
  · simp only
    split_ifs with h
    · norm_num
    · exact not_le.mp h

structure Limited (cfg : RateLimiterConfig) (s : Limiting) : Prop where
  consistent : s.limiter.Consistent cfg
  covers : ∀ e ∈ s.limiter.lru, e.key ≠ "" ∧ e.lastSeen ≤ s.clock ∧
    Covers cfg.most cfg.ratePerSec e (s.since e.key)
  bounded : ∀ key ≠ "", RateBounded cfg.most cfg.ratePerSec (s.since key)

theorem Limited.put {limiter : RateLimiter} {rest : List RateLimitEntry} (h : Limited cfg s)
    (hclk : s.clock ≤ now) (hlru : limiter.lru = e :: rest) (hrs : rest.Sublist s.limiter.lru)
    (hcon : limiter.Consistent cfg) (hk : e.key ≠ "") (hsn : e.lastSeen = now)
    (hcvs : Covers cfg.most cfg.ratePerSec e times)
    (hbdd : RateBounded cfg.most cfg.ratePerSec times) :
    Limited cfg
      { limiter := limiter, clock := now, since := Function.update s.since e.key times } := by
  refine ⟨hcon, ?_, ?_⟩
  · rw [hlru]
    refine forall_mem_cons.mpr ⟨⟨hk, hsn.le, ?_⟩, ?_⟩
    · simpa only [update_self] using hcvs
    · intro e' he'
      obtain ⟨hnam, hps, ho⟩ := h.covers e' (hrs.subset he')
      have hdis := hcon.distinct
      rw [hlru, map_cons, nodup_cons] at hdis
      have hoth : e'.key ≠ e.key := by
        intro hsm
        exact hdis.1 (mem_map.mpr ⟨e', he', hsm⟩)
      exact ⟨hnam, hps.trans hclk, by simpa only [update_of_ne hoth] using ho⟩
  · intro key hnam
    by_cases hsm : key = e.key
    · simpa only [hsm, update_self] using hbdd
    · simpa only [update_of_ne hsm] using h.bounded key hnam

theorem Limited.hit {elem : RateLimitEntry} (h : Limited cfg s) (hrt : 0 < cfg.ratePerSec)
    (hclk : s.clock ≤ now) (hemp : elem.key ≠ "") (hm : elem ∈ s.limiter.lru) :
    let entry := refillLocked cfg elem now
    if entry.tokens ≥ 1 then
      Limited cfg
        { limiter :=
            { s.limiter with
              lru := { entry with tokens := entry.tokens - 1 } :: s.limiter.lru.erase elem }
          clock := now
          since := Function.update s.since elem.key (now :: s.since elem.key) }
    else
      Limited cfg
        { limiter :=
            { s.limiter with
              lru := entry :: s.limiter.lru.erase elem, rejected := s.limiter.rejected + 1 }
          clock := now
          since := Function.update s.since elem.key (s.since elem.key) } := by
  intro entry
  have hmt : cfg.burst ≤ cfg.most ∧ 0 ≤ cfg.most :=
    ⟨le_max_right 1 cfg.burst, zero_le_one.trans (le_max_left 1 cfg.burst)⟩
  obtain ⟨-, hps, hcvs⟩ := h.covers elem hm
  obtain ⟨hsn, href⟩ := covers_refill hcvs (hps.trans hclk) (max_le hmt.1 hmt.2) hrt.le
  have hk : entry.key = elem.key := by
    unfold entry refillLocked
    simp only
    split_ifs <;> rfl
  split_ifs with htok
  · have htkn := covers_take href hsn htok
    rw [← hk] at hemp htkn ⊢
    exact h.put (e := { entry with tokens := entry.tokens - 1 }) hclk rfl erase_sublist
      (h.consistent.move (f := { entry with tokens := entry.tokens - 1 }) hm hk _) hemp
      hsn htkn ((h.bounded entry.key hemp).cons hmt.2 hrt.le htkn hsn)
  · rw [← hk] at hemp href ⊢
    exact h.put hclk rfl erase_sublist (h.consistent.move hm hk _) hemp hsn
      href (h.bounded entry.key hemp)

theorem Limited.miss (h : Limited cfg s) (hmax : 0 < cfg.maxKeys) (hrt : 0 < cfg.ratePerSec)
    (hclk : s.clock ≤ now) (hemp : key ≠ "") (hbkt : s.limiter.bucket key = none) :
    Limited cfg
      { limiter :=
          { s.limiter.evict cfg with
            lru := ⟨key, cfg.burst - 1, now⟩ :: (s.limiter.evict cfg).lru
            buckets := key :: (s.limiter.evict cfg).buckets }
        clock := now
        since := Function.update s.since key [now] } := by
  obtain ⟨hroo, hrm, hsub⟩ := h.consistent.evict hmax
  have hn : key ∉ (s.limiter.evict cfg).lru.map RateLimitEntry.key := fun hm =>
    h.consistent.bucket_eq_none_iff.mp hbkt ((hsub.map RateLimitEntry.key).subset hm)
  have hone : 1 ≤ cfg.most := le_max_left 1 cfg.burst
  have hbur : cfg.burst ≤ cfg.most := le_max_right 1 cfg.burst
  have hcvs : Covers cfg.most cfg.ratePerSec ⟨key, cfg.burst - 1, now⟩ [now] := by
    refine covers_new hrt.le ?_ key
    rcases max_cases (cfg.burst - 1) 0 with ⟨hmxm, -⟩ | ⟨hmxm, -⟩
    · linarith
    · linarith
  exact h.put hclk rfl hsub
    (hroo.push (e := ⟨key, cfg.burst - 1, now⟩) hrm hn) hemp rfl hcvs
    ((rateBounded_nil (by linarith) hrt.le).cons (by linarith) hrt.le hcvs rfl)

theorem Limited.step (h : Limited config.applyDefaults s) {call : String × ℚ}
    (hst : s.step config call = some t) : Limited config.applyDefaults t := by
  obtain ⟨key, now⟩ := call
  obtain ⟨hmax, hrt⟩ := applyDefaults_pos config
  unfold Limiting.step at hst
  split at hst
  · next hclk =>
    cases hst
    by_cases hemp : key = ""
    · -- the empty key touches no bucket
      subst hemp
      refine ⟨h.consistent, ?_, ?_⟩
      · intro e he
        obtain ⟨hnam, hps, hcvs⟩ := h.covers e he
        exact ⟨hnam, hps.trans hclk, by simpa only [update_of_ne hnam] using hcvs⟩
      · intro key hnam
        simpa only [update_of_ne hnam] using h.bounded key hnam
    · cases hbkt : s.limiter.bucket key with
      | some _ =>
        obtain ⟨hm, rfl⟩ := bucket_eq_some hbkt
        have hhit := h.hit hrt hclk hemp hm
        simp only [RateLimiter.allow, hbkt]
        split_ifs at hhit ⊢ <;> simp_all
      | none =>
        have hmi := h.miss hmax hrt hclk hemp hbkt
        simpa [RateLimiter.allow, hemp, hbkt] using hmi
  · cases hst

theorem admissions_within_rate (config : RateLimiterConfig) (clock : ℚ)
    (calls : List (String × ℚ)) :
    Throughout (Limiting.step config)
      (fun s => s.limiter.Consistent config.applyDefaults ∧
        ∀ key ≠ "", RateBounded (max 1 config.applyDefaults.burst)
          config.applyDefaults.ratePerSec (s.since key))
      { clock := clock } calls := by
  have hsta : Limited config.applyDefaults { clock := clock } := by
    obtain ⟨hmax, hrt⟩ := applyDefaults_pos config
    refine ⟨⟨List.Perm.refl _, nodup_nil, hmax.le⟩, by simp, fun _ _ => ?_⟩
    exact rateBounded_nil (zero_le_one.trans (le_max_left 1 _)) hrt.le
  exact (throughout_invariant (Limiting.step config) (fun _ _ _ h hst => h.step hst) hsta
    calls).mono (Limiting.step config) (fun _ h => ⟨h.consistent, h.bounded⟩)

theorem half_burst_and_empty_key :
    (run (Limiting.step { burst := 1 / 2 }) { clock := 0 } [("203.0.113.7", 0)]).map
        (fun s => s.since "203.0.113.7") = some [0] ∧
      (run (Limiting.step { burst := 1 }) { clock := 0 } [("", 0), ("", 0)]).map
        (fun s => s.since "") = some [0, 0] := by
  decide +kernel

end Limits

end ETradie.Billing
