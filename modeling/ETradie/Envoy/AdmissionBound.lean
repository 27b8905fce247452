import ETradie.Envoy.Clients
import ETradie.Kernel.Window

namespace ETradie.Envoy

open Kernel List RateLimitStorage Nat

def admitted (log : List (Nat × Bool)) : List Nat := (log.filter Prod.snd).map Prod.fst

def Bounded (capacity rate : Nat) (times : List Nat) : Prop :=
  ∀ from_ d, times.countP (fun u => from_ ≤ u ∧ u ≤ from_ + d) ≤ capacity + rate * d / 1000

variable {capacity rate now t a : Nat} {times : List Nat}

theorem admitted_cons (now : Nat) (allowed : Bool) (log : List (Nat × Bool)) :
    admitted ((now, allowed) :: log) = if allowed then now :: admitted log else admitted log := by
  cases allowed with
  | true | false => simp [admitted]

theorem Bounded.cons (h : Bounded capacity rate times)
    (hnow : ∀ a, a ≤ now → since a (now :: times) ≤ capacity + gained rate (now - a)) :
    Bounded capacity rate (now :: times) := by
  intro a d
  by_cases hin : a ≤ now ∧ now ≤ a + d
  · have hsin : (now :: times).countP (fun u => a ≤ u ∧ u ≤ a + d) ≤ since a (now :: times) := by
      refine countP_mono_left ?_
      intro u _ hu
      simp only [decide_eq_true_eq] at hu ⊢
      exact hu.1
    have hga : gained rate (now - a) ≤ rate * d / 1000 := by
      rw [Nat.mul_comm rate d]
      exact Nat.div_le_div_right (Nat.mul_le_mul_right rate (by omega))
    have hbd := hnow a hin.1
    omega
  · rw [countP_cons_of_neg (by simpa using hin)]
    exact h a d

theorem gained_mono {x y : Nat} (h : x ≤ y) : gained rate x ≤ gained rate y :=
  Nat.div_le_div_right (Nat.mul_le_mul_right rate h)

theorem word_gained_le (rate : Nat) {last u : Nat} (hl : last ≤ u) (hu : u ≤ t)
    (hz : Word.gained rate (u - last) = 0) :
    Word.gained rate (t - last) ≤ gained rate (t - u) + 1 := by
  unfold Word.gained at hz ⊢
  unfold gained
  have hspl : (t - last) * rate = (u - last) * rate + (t - u) * rate := by
    rw [← add_mul]
    congr 1
    omega
  have hmod : ((u - last) * rate + (t - u) * rate) % Word.size ≤
      (u - last) * rate % Word.size + (t - u) * rate := by
    rw [← mod_add_mod]
    exact mod_le _ _
  rw [hspl]
  omega

variable {ip : String}

section Buckets

variable {now' : Nat} {e : IpBucketEntry}

structure Held (capacity rate now : Nat) (e : IpBucketEntry) (times : List Nat) : Prop where
  sized : e.bucket.capacity = capacity
  paced : e.bucket.refillRate = rate
  refilled : e.bucket.lastRefillMs ≤ e.lastAccessMs
  accessed : e.lastAccessMs ≤ now
  past : ∀ u ∈ times, u ≤ e.lastAccessMs
  spent : e.bucket.tokens + 1 ≤ capacity
  early : ∀ a, a ≤ e.bucket.lastRefillMs →
    since a times + e.bucket.tokens ≤ capacity + gained rate (e.bucket.lastRefillMs - a)
  late : ∀ a, e.bucket.lastRefillMs < a → since a times + e.bucket.tokens + 1 ≤ capacity
  slow : ∀ u ∈ times, e.bucket.lastRefillMs < u → Word.gained rate (u - e.bucket.lastRefillMs) = 0

def Repaid (rate now : Nat) (times : List Nat) : Prop := ∀ a, since a times ≤ gained rate (now - a)

theorem Held.later (h : Held capacity rate now e times) (hle : now ≤ now') :
    Held capacity rate now' e times :=
  { h with accessed := h.accessed.trans hle }

theorem Repaid.later (h : Repaid rate now times) (hle : now ≤ now') : Repaid rate now' times :=
  fun a => (h a).trans (gained_mono (by omega))

theorem Held.repaid (h : Held capacity rate now e times) (hfi : capacity ≤ 300 * rate)
    (hstl : e.fresh now = false) : Repaid rate now times := by
  intro a
  simp only [IpBucketEntry.fresh, decide_eq_false_iff_not] at hstl
  have hmin : gained rate staleThresholdMs = 300 * rate := by
    unfold gained staleThresholdMs
    omega
  have href := h.refilled
  have hacc := h.accessed
  by_cases herl : a ≤ e.bucket.lastRefillMs
  · have hbd := h.early a herl
    have hsp : gained rate (e.bucket.lastRefillMs - a) + gained rate staleThresholdMs ≤
        gained rate (now - a) :=
      (gained_add_le rate _ _).trans (gained_mono (by omega))
    omega
  · by_cases hla : a ≤ e.lastAccessMs
    · have hbd := h.late a (by omega)
      have hsp : gained rate staleThresholdMs ≤ gained rate (now - a) := gained_mono (by omega)
      omega
    · rw [since_eq_zero (fun u hu => by have := h.past u hu; omega)]
      exact zero_le _

theorem Repaid.held (h : Repaid rate now times) (hcap : 1 ≤ capacity)
    (hps : ∀ u ∈ times, u ≤ now) :
    Held capacity rate now ⟨ip, ⟨capacity, capacity - 1, rate, now⟩, now⟩ (now :: times) := by
  have hall : ∀ u ∈ now :: times, u ≤ now := forall_mem_cons.mpr ⟨le_refl now, hps⟩
  refine ⟨rfl, rfl, le_refl _, le_refl _, hall, by simp only; omega, ?_, ?_, ?_⟩
  · intro a ha
    have hrep := h a
    rw [since_cons_of_le ha]
    simp only
    omega
  · intro a ha
    rw [since_eq_zero (fun u hu => (hall u hu).trans_lt ha)]
    simp only
    omega
  · intro u hu hlt
    exact absurd (hall u hu) (not_le.mpr hlt)

theorem Held.refilled_bound (h : Held capacity rate now e times) {tokens : Nat}
    (hga : tokens ≤ e.bucket.tokens + Word.gained rate (now - e.bucket.lastRefillMs))
    (hfu : tokens ≤ capacity) (ha : a ≤ now) :
    since a times + tokens ≤ capacity + gained rate (now - a) := by
  have hl : e.bucket.lastRefillMs ≤ now := h.refilled.trans h.accessed
  by_cases herl : a ≤ e.bucket.lastRefillMs
  · have hbd := h.early a herl
    have hword := Word.gained_le rate (now - e.bucket.lastRefillMs)
    have hsp : gained rate (e.bucket.lastRefillMs - a) +
        gained rate (now - e.bucket.lastRefillMs) ≤ gained rate (now - a) :=
      (gained_add_le rate _ _).trans (gained_mono (by omega))
    omega
  · rcases Nat.eq_zero_or_pos (since a times) with hno | hso
    · omega
    · -- the client was admitted since `a`, and nothing was gained then
      obtain ⟨u, hu, hau⟩ := exists_of_since_pos hso
      have hbd := h.late a (not_le.mp herl)
      have hu' : u ≤ now := (h.past u hu).trans h.accessed
      have hone := word_gained_le rate (by omega) hu' (h.slow u hu (by omega))
      have hsp : gained rate (now - u) ≤ gained rate (now - a) := gained_mono (by omega)
      omega

theorem Held.answered (h : Held capacity rate now e times) :
    Held capacity rate now
      ⟨e.ip, { Word.refill e.bucket now with
        tokens := (Word.refill e.bucket now).tokens - 1 }, now⟩
      (if 1 ≤ (Word.refill e.bucket now).tokens then now :: times else times) := by
  have hl : e.bucket.lastRefillMs ≤ now := h.refilled.trans h.accessed
  have hspt := h.spent
  have ho : ∀ u ∈ times, u ≤ now := fun u hu => (h.past u hu).trans h.accessed
  have hps : ∀ u ∈ if 1 ≤ (Word.refill e.bucket now).tokens then now :: times else times,
      u ≤ now := by
    split
    · exact forall_mem_cons.mpr ⟨le_refl now, ho⟩
    · exact ho
  -- whether or not the call is served, it keeps the number of tokens and admissions together
  have hsum : ∀ a, a ≤ now →
      since a (if 1 ≤ (Word.refill e.bucket now).tokens then now :: times else times) +
        ((Word.refill e.bucket now).tokens - 1) = since a times + (Word.refill e.bucket now).tokens := by
    intro a ha
    split
    · rw [since_cons_of_le ha]
      omega
    · omega
  have haft : ∀ a, now < a →
      since a (if 1 ≤ (Word.refill e.bucket now).tokens then now :: times else times) = 0 :=
    fun a ha => since_eq_zero (fun u hu => (hps u hu).trans_lt ha)
  rcases Word.refill_cases e.bucket now with ⟨hz, hsm⟩ | ⟨-, href⟩
  · rw [hsm] at hps hsum haft ⊢
    rw [h.paced] at hz
    refine ⟨h.sized, h.paced, hl, le_refl _, hps, by simp only; omega, ?_, ?_, ?_⟩
    · intro a ha
      rw [hsum a (ha.trans hl)]
      exact h.early a ha
    · intro a ha
      simp only at ha ⊢
      by_cases hnow : a ≤ now
      · rw [hsum a hnow]
        exact h.late a ha
      · rw [haft a (not_le.mp hnow)]
        omega
    · intro u hu hlt
      split at hu
      · rcases mem_cons.mp hu with rfl | hu
        · exact hz
        · exact h.slow u hu hlt
      · exact h.slow u hu hlt
  · have hbd : ∀ a, a ≤ now →
        since a times + (Word.refill e.bucket now).tokens ≤ capacity + gained rate (now - a) := by
      intro a ha
      refine h.refilled_bound ?_ ?_ ha
      · rw [href, ← h.paced]
        exact (min_le_left _ _).trans (mod_le _ _)
      · rw [href, ← h.sized]
        exact min_le_right _ _
    have hfu : (Word.refill e.bucket now).tokens ≤ capacity := by
      rw [href, ← h.sized]
      exact min_le_right _ _
    rw [href] at hps hsum haft hbd hfu ⊢
    refine ⟨h.sized, h.paced, le_refl _, le_refl _, hps, by simp only at hfu ⊢; omega, ?_, ?_, ?_⟩
    · intro a ha
      rw [hsum a ha]
      exact hbd a ha
    · intro a ha
      rw [haft a ha]
      simp only at hfu ⊢
      omega
    · intro u hu hlt
      exact absurd (hps u hu) (not_le.mpr hlt)

def Paid (capacity rate now : Nat) : Option IpBucketEntry → List Nat → Prop
  | none, times => Repaid rate now times ∧ ∀ u ∈ times, u ≤ now
  | some e, times => Held capacity rate now e times

theorem Paid.answered (hcap : 1 ≤ capacity) {found : Option IpBucketEntry}
    {log : List (Nat × Bool)} (h : Paid capacity rate now found (admitted log)) :
    Held capacity rate now (Word.next ip capacity rate now found)
      (admitted ((now, Word.serves ip capacity rate now found) :: log)) := by
  rw [admitted_cons]
  cases found with
  | none =>
    rw [Word.next_none.1, Word.next_none.2, if_pos (by simpa using hcap)]
    exact h.1.held hcap h.2
  | some e =>
    rw [(Word.next_some e).1, (Word.next_some e).2]
    simp only [decide_eq_true_eq]
    exact Held.answered h

theorem bounded_invariant (hcap : 1 ≤ capacity) (hfi : capacity ≤ 300 * rate) (ip : String) :
    ClientInvariant capacity rate ip (fun now e log =>
      Bounded capacity rate (admitted log) ∧ Paid capacity rate now e (admitted log)) where
  later := by
    rintro now now' (- | e) log ⟨hbd, hpd⟩ hle
    · exact ⟨hbd, hpd.1.later hle, fun u hu => (hpd.2 u hu).trans hle⟩
    · exact ⟨hbd, Held.later hpd hle⟩
  dropped := by
    rintro now e log ⟨hbd, hhd⟩ hstl
    exact ⟨hbd, Held.repaid hhd hfi hstl, fun u hu => (hhd.past u hu).trans hhd.accessed⟩
  answered := by
    rintro now e log ⟨hbd, hpd⟩
    have hhd : Held capacity rate now (Word.next ip capacity rate now e)
        (admitted ((now, Word.serves ip capacity rate now e) :: log)) :=
      hpd.answered hcap
    refine ⟨?_, hhd⟩
    rw [admitted_cons] at hhd ⊢
    split
    · next hsv =>
      rw [if_pos hsv] at hhd
      exact hbd.cons fun a ha => hhd.refilled_bound (zero_le _) (zero_le _) ha
    · exact hbd

theorem empty_invariant (rate : Nat) (ip : String) :
    ClientInvariant 0 rate ip (fun _ e log =>
      admitted log = [] ∧ ∀ e', e = some e' → e'.bucket.capacity = 0 ∧ e'.bucket.tokens = 0) where
  later := fun _ _ _ _ h _ => h
  dropped := fun _ _ _ h _ => ⟨h.1, by simp⟩
  answered := by
    rintro now (- | e) log ⟨hno, hemp⟩
    · rw [Word.next_none.1, Word.next_none.2]
      refine ⟨by rw [admitted_cons]; simpa using hno, ?_⟩
      intro e' he'
      obtain rfl := Option.some.inj he'
      exact ⟨rfl, rfl⟩
    · obtain ⟨hcap, htoks⟩ := hemp e rfl
      have href : (Word.refill e.bucket now).capacity = 0 ∧
          (Word.refill e.bucket now).tokens = 0 := by
        rcases Word.refill_cases e.bucket now with ⟨-, hsm⟩ | ⟨-, href⟩
        · rw [hsm]
          exact ⟨hcap, htoks⟩
        · rw [href]
          exact ⟨hcap, by simp [hcap]⟩
      rw [(Word.next_some e).1, (Word.next_some e).2, href.2]
      refine ⟨by rw [admitted_cons]; simpa using hno, ?_⟩
      intro e' he'
      obtain rfl := Option.some.inj he'
      exact ⟨href.1, rfl⟩

end Buckets

variable {s : Watched} {ips : List String}

section Eviction

open Watched

variable {n : Nat}

theorem run_strangers (capacity rate : Nat) (ips : List String) (hclk : s.clock = t) :
    ∃ s', run (step capacity rate) s (ips.map (fun ip => ⟨ip, t⟩)) = some s' ∧ s'.clock = t ∧
      (∀ ip ∉ ips, s'.own ip = s.own ip) ∧
      (∀ ip, (∃ e, s.storage.ipBuckets.get ip = some e ∧ e.lastAccessMs = t) ∨ ip ∈ ips →
        ∃ e, s'.storage.ipBuckets.get ip = some e ∧ e.lastAccessMs = t) := by
  induction ips generalizing s with
  | nil => exact ⟨s, rfl, hclk, fun _ _ => rfl, by simp⟩
  | cons ip ips ih =>
    obtain ⟨q, hq⟩ : ∃ q, step capacity rate s ⟨ip, t⟩ = some q := ⟨_, step_eq hclk.le⟩
    obtain ⟨s', hrun, hclk', hown, hents⟩ := ih (client_step hq ip).1
    refine ⟨s', (run_cons_eq_some _).mpr ⟨q, hq, hrun⟩, hclk', ?_, ?_⟩
    · intro ip' hip'
      have hne : ip' ≠ ip := ne_of_not_mem_cons hip'
      rw [hown ip' (not_mem_of_not_mem_cons hip')]
      obtain ⟨-, ⟨heq, -⟩ | ⟨-, -, hsm⟩⟩ := client_step hq ip'
      · exact absurd heq.symm hne
      · exact hsm
    · intro ip' hip'
      apply hents
      by_cases hrs : ip' ∈ ips
      · exact .inr hrs
      · left
        obtain ⟨-, ⟨-, hent, -⟩ | ⟨hne, hent, -⟩⟩ := client_step hq ip'
        · exact ⟨_, hent, by simp [Word.next, entry]⟩
        · obtain ⟨e, hg, hacc⟩ := hip'.resolve_right
            (not_mem_cons_of_ne_of_not_mem (Ne.symm hne) hrs)
          have hsm := get_tidy_of_access s.storage hg hacc
          exact ⟨e, hent.trans (hsm.trans hg), hacc⟩

theorem cleanupThreshold_le_length {storage : RateLimitStorage}
    (hnd : ips.Nodup) (hmany : cleanupThreshold ≤ ips.length)
    (h : ∀ ip ∈ ips, ∃ e, storage.ipBuckets.get ip = some e) :
    cleanupThreshold ≤ storage.ipBuckets.rows.length := by
  have hsub : ips ⊆ storage.ipBuckets.rows.map IpBucketEntry.ip := by
    intro ip hip
    obtain ⟨e, he⟩ := h ip hip
    obtain ⟨hm, hk⟩ := Keyed.get_eq_some_iff.mp he
    exact mem_map.mpr ⟨e, hm, hk⟩
  have hlen := (hnd.subperm hsub).length_le
  rw [length_map] at hlen
  exact hmany.trans hlen

def revisit (capacity : Nat) (ip : String) (ips : List String) : List Call :=
  burst capacity ip 0 ++ (ips.map (fun ip => ⟨ip, 0⟩) ++ burst capacity ip staleThresholdMs)

theorem run_revisit (config : RateLimitConfig) (rate : Nat) (hcap : 1 ≤ capacity)
    (hnd : ips.Nodup) (hmany : cleanupThreshold ≤ ips.length) (hoth : ip ∉ ips) :
    ∃ s, run (step capacity rate) (start config 0) (revisit capacity ip ips) = some s ∧
      admitted (s.own ip) =
        List.replicate capacity staleThresholdMs ++ List.replicate capacity 0 := by
  have hemp : ((start config 0).storage.tidy 0).ipBuckets.get ip = none := rfl
  obtain ⟨s₁, hrun₁, hclk₁, hown₁, hg₁⟩ := run_burst_of_none rate (le_refl 0) hemp hcap le_rfl
  obtain ⟨s₂, hrun₂, hclk₂, hown₂, hents₂⟩ := run_strangers capacity rate ips hclk₁
  have hrw : cleanupThreshold ≤ s₂.storage.ipBuckets.rows.length := by
    refine cleanupThreshold_le_length hnd hmany ?_
    intro ip' hip'
    obtain ⟨e, he, -⟩ := hents₂ ip' (.inr hip')
    exact ⟨e, he⟩
  obtain ⟨e₂, hg₂, hacc₂⟩ := hents₂ ip (.inl ⟨_, hg₁, rfl⟩)
  have hdrp : (s₂.storage.tidy staleThresholdMs).ipBuckets.get ip = none := by
    rw [tidy, if_pos hrw, cleanupStaleEntries, Keyed.get_retain, hg₂]
    exact Option.filter_some_neg (by simp [IpBucketEntry.fresh, hacc₂])
  obtain ⟨s₃, hrun₃, -, hown₃, -⟩ :=
    run_burst_of_none rate (hclk₂.le.trans (zero_le _)) hdrp hcap le_rfl
  refine ⟨s₃, ?_, ?_⟩
  · exact (run_append_eq_some _).mpr ⟨s₁, hrun₁, (run_append_eq_some _).mpr ⟨s₂, hrun₂, hrun₃⟩⟩
  · rw [hown₃, hown₂ ip hoth, hown₁]
    simp [admitted, own, start]

theorem countP_revisit (capacity : Nat) :
    (List.replicate capacity staleThresholdMs ++ List.replicate capacity 0).countP
      (fun u => 0 ≤ u ∧ u ≤ 0 + staleThresholdMs) = capacity + capacity := by
  simp [countP_replicate]

theorem not_bounded_revisit (h : 300 * rate < capacity) :
    ¬ Bounded capacity rate
      (List.replicate capacity staleThresholdMs ++ List.replicate capacity 0) := by
  intro hbdd
  have hfive := hbdd 0 staleThresholdMs
  rw [countP_revisit, staleThresholdMs] at hfive
  omega

def strangers (n : Nat) : List String :=
  (List.range n).map (fun i => String.ofList (List.replicate (i + 1) '1'))

theorem strangers_nodup (n : Nat) : (strangers n).Nodup := by
  refine nodup_range.map ?_
  intro i j hij
  have hlen := congrArg String.length hij
  simpa using hlen

def returning : String := "203.0.113.7"

theorem returning_notMem (n : Nat) : returning ∉ strangers n := by
  intro h
  obtain ⟨i, -, hi⟩ := mem_map.mp h
  have hls := congrArg String.toList hi
  simp [replicate_succ, returning] at hls

theorem admissions_bounded_iff (config : RateLimitConfig) :
    (∀ now calls ip,
        Throughout (step config.ipRequests config.ipRefillRate)
          (fun s => Bounded config.ipRequests config.ipRefillRate (admitted (s.own ip)))
          (start config now) calls) ↔
      config.ipRequests ≤ 300 * config.ipRefillRate := by
  constructor
  · intro h
    by_contra hsml
    obtain ⟨s, hrun, hadm⟩ :=
      run_revisit config config.ipRefillRate (show 1 ≤ config.ipRequests by omega)
        (strangers_nodup cleanupThreshold) (by simp [strangers])
        (returning_notMem cleanupThreshold)
    have hbdd := (h 0 _ returning).final _ hrun
    rw [hadm] at hbdd
    exact not_bounded_revisit (not_le.mp hsml) hbdd
  · intro hfi now calls ip
    rcases Nat.eq_zero_or_pos config.ipRequests with hz | hpos
    · rw [hz]
      refine ((empty_invariant config.ipRefillRate ip).throughout ?_ calls).mono _ ?_
      · exact ⟨rfl, by simp [start, new]⟩
      · intro s hs
        rw [hs.1]
        exact fun _ _ => Nat.zero_le _
    · refine ((bounded_invariant hpos hfi ip).throughout ?_ calls).mono _ (fun s hs => hs.1)
      exact ⟨fun _ _ => Nat.zero_le _, fun _ => Nat.zero_le _, by simp [start, own, admitted]⟩

def slowConfig : RateLimitConfig :=
  { RateLimitConfig.new with ipRequests := 301, ipPeriodSecs := 301 }

theorem dropped_bucket_comes_back_full :
    slowConfig.validate = .ok () ∧
      slowConfig.ipRequests + slowConfig.ipRefillRate * staleThresholdMs / 1000 = 601 ∧
      ∃ calls s, run (step slowConfig.ipRequests slowConfig.ipRefillRate) (start slowConfig 0)
          calls = some s ∧
        (admitted (s.own returning)).countP (fun u => 0 ≤ u ∧ u ≤ 0 + staleThresholdMs) = 602 := by
  refine ⟨rfl, by decide, ?_⟩
  obtain ⟨s, hrun, hadm⟩ :=
    run_revisit slowConfig slowConfig.ipRefillRate (show 1 ≤ slowConfig.ipRequests by decide)
      (strangers_nodup cleanupThreshold) (by simp [strangers]) (returning_notMem cleanupThreshold)
  refine ⟨_, s, hrun, ?_⟩
  rw [hadm, countP_revisit]
  rfl

end Eviction

end ETradie.Envoy
