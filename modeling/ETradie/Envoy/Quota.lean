import ETradie.Envoy.Clients
import ETradie.Kernel.Window

namespace ETradie.Envoy

open Kernel List TokenBucket RateLimitConfig

structure Visit where
  now : Nat
  traceId : String
  clientIp : Option String
deriving DecidableEq

def Visit.key (v : Visit) : String := v.clientIp.getD "unknown"

def Watched.visit (config : RateLimitConfig) (s : Watched) (v : Visit) : Option Watched :=
  if v.now < s.clock then none
  else
    let r := Word.checkLimits config s.storage v.now v.traceId v.key
    some ⟨r.1, v.now, ⟨v.key, v.now, r.2.allowed⟩ :: s.log⟩

variable {capacity rate window begun now : Nat} {times : List Nat}

section Credit

structure Credit (capacity rate begun now : Nat) (b : TokenBucket) : Prop where
  sized : b.capacity = capacity
  paced : b.refillRate = rate
  full : b.tokens ≤ capacity
  begun : begun ≤ b.lastRefillMs
  refilled : b.lastRefillMs ≤ now

structure InQuota (capacity rate window begun : Nat) (times : List Nat) : Prop where
  sparse : Sparse window capacity times
  word : ∀ u ∈ times, u < Word.size
  range : ∀ u ∈ times, (u - begun) * rate + capacity < Word.size

structure Accounting (capacity rate window : Nat)
    (C : Nat → TokenBucket → List Nat → Prop) : Prop where
  first : ∀ now times, C now ⟨capacity, capacity - 1, rate, now⟩ (now :: times)
  later : ∀ now now' b times, C now b times → now ≤ now' → C now' b times
  served : ∀ now begun b times, Credit capacity rate begun now b → C now b times →
    (∀ u ∈ times, u ≤ now) → Sparse window capacity (now :: times) →
    1 ≤ (b.refill now).tokens ∧
      C now { b.refill now with tokens := (b.refill now).tokens - 1 } (now :: times)

variable {b : TokenBucket}
variable {C : Nat → TokenBucket → List Nat → Prop}

theorem Credit.refill (h : Credit capacity rate begun now b) :
    Credit capacity rate begun now { b.refill now with tokens := (b.refill now).tokens - 1 } := by
  have hfu := h.full
  rcases Nat.eq_zero_or_pos (gained b.refillRate (now - b.lastRefillMs)) with hz | hpos
  · rw [refill_of_gained_zero hz]
    exact ⟨h.sized, h.paced, by simp only; omega, h.begun, h.refilled⟩
  · rw [refill_of_gained hpos]
    have hle : min (b.tokens + gained b.refillRate (now - b.lastRefillMs)) b.capacity ≤
        capacity := (min_le_right _ _).trans h.sized.le
    exact ⟨h.sized, h.paced, by simp only; omega, h.begun.trans h.refilled, le_refl _⟩

theorem Credit.inRange (h : Credit capacity rate begun now b)
    (hrng : (now - begun) * rate + capacity < Word.size) : Word.InRange b now := by
  refine lt_of_le_of_lt (Nat.add_le_add ?_ h.full) hrng
  rw [h.paced]
  exact Nat.mul_le_mul_right rate (Nat.sub_le_sub_left h.begun now)

theorem Accounting.invariant (h : Accounting capacity rate window C) (hcap : 1 ≤ capacity)
    (begun : Nat) (ip : String) :
    ClientInvariant capacity rate ip (fun now e log =>
      begun ≤ now ∧ (∀ u ∈ log.map Prod.fst, u ≤ now) ∧
        (InQuota capacity rate window begun (log.map Prod.fst) →
          (∀ p ∈ log, p.2) ∧
            ∀ e', e = some e' →
              Credit capacity rate begun now e'.bucket ∧ C now e'.bucket (log.map Prod.fst))) where
  later := by
    rintro now now' e log ⟨hbeg, hps, hquo⟩ hle
    refine ⟨hbeg.trans hle, fun u hu => (hps u hu).trans hle, ?_⟩
    intro hin
    obtain ⟨hall, hent⟩ := hquo hin
    refine ⟨hall, ?_⟩
    intro e' he'
    obtain ⟨hcre, hC⟩ := hent e' he'
    exact ⟨{ hcre with refilled := hcre.refilled.trans hle }, h.later _ _ _ _ hC hle⟩
  dropped := by
    rintro now e log ⟨hbeg, hps, hquo⟩ -
    exact ⟨hbeg, hps, fun hin => ⟨(hquo hin).1, by simp⟩⟩
  answered := by
    rintro now e log ⟨hbeg, hps, hquo⟩
    refine ⟨hbeg, forall_mem_cons.mpr ⟨le_refl _, hps⟩, ?_⟩
    intro hin
    have hsub : List.Sublist (log.map Prod.fst) (now :: log.map Prod.fst) := sublist_cons_self _ _
    obtain ⟨hall, hent⟩ := hquo ⟨hin.sparse.sublist hsub,
      fun u hu => hin.word u (hsub.subset hu), fun u hu => hin.range u (hsub.subset hu)⟩
    cases e with
    | none =>
      rw [Word.next_none.1, Word.next_none.2]
      refine ⟨forall_mem_cons.mpr ⟨by simpa using hcap, hall⟩, ?_⟩
      intro e' he'
      obtain rfl := Option.some.inj he'
      exact ⟨⟨rfl, rfl, Nat.sub_le _ _, hbeg, le_refl _⟩, h.first _ _⟩
    | some e =>
      obtain ⟨hcre, hC⟩ := hent e rfl
      have hrng := hcre.inRange (hin.range now mem_cons_self)
      obtain ⟨hsv, hnx⟩ := h.served _ _ _ _ hcre hC hps hin.sparse
      rw [(Word.next_some e).1, (Word.next_some e).2, Word.refill_eq hrng]
      refine ⟨forall_mem_cons.mpr ⟨by simpa using hsv, hall⟩, ?_⟩
      intro e' he'
      obtain rfl := Option.some.inj he'
      exact ⟨hcre.refill, hnx⟩

end Credit

variable {t : Nat}

section Accounts

variable {now' : Nat}

theorem recent_cons_of_lt (h : t < now + window) :
    recent window t (now :: times) = recent window t times + 1 :=
  countP_cons_of_pos (by simpa using h)

theorem accounting_fine {perMs : Nat} (hrt : rate = 1000 * perMs)
    (hwin : capacity = perMs * window) (hcap : 1 ≤ capacity) (hpos : 0 < window) :
    Accounting capacity rate window (fun now b times =>
      ∀ t, now ≤ t → capacity ≤ b.tokens + perMs * (t - b.lastRefillMs) + recent window t times) where
  first := by
    intro now times t ht
    simp only
    by_cases hin : t < now + window
    · rw [recent_cons_of_lt hin]
      omega
    · have hfu : perMs * window ≤ perMs * (t - now) := Nat.mul_le_mul_left perMs (by omega)
      omega
  later := fun now _ b times hC hle t ht => hC t (hle.trans ht)
  served := by
    intro now _ b times hcre hC hps hspa
    have href := hcre.refilled
    have hrec : recent window now times < capacity :=
      hspa.recent_lt (Nat.lt_add_of_pos_right hpos) hps
    have hgai : gained b.refillRate (now - b.lastRefillMs) =
        perMs * (now - b.lastRefillMs) := by
      rw [gained, hcre.paced, hrt,
        show (now - b.lastRefillMs) * (1000 * perMs) = 1000 * (perMs * (now - b.lastRefillMs)) by
          ring,
        Nat.mul_div_cancel_left _ (by decide)]
    have hown := hC now (le_refl now)
    -- after a whole window the bucket is full whatever it had
    have hfu : ∀ t, ¬ t < now + window → capacity ≤ perMs * (t - now) := by
      intro t ht
      rw [hwin]
      exact Nat.mul_le_mul_left perMs (by omega)
    rcases Nat.eq_zero_or_pos (gained b.refillRate (now - b.lastRefillMs)) with hz | hga
    · rw [refill_of_gained_zero hz]
      refine ⟨by omega, ?_⟩
      intro t ht
      simp only
      by_cases hin : t < now + window
      · have hlat := hC t ht
        rw [recent_cons_of_lt hin]
        omega
      · have hlg : perMs * (t - now) ≤ perMs * (t - b.lastRefillMs) :=
          Nat.mul_le_mul_left perMs (by omega)
        have hwh := hfu t hin
        omega
    · rw [refill_of_gained hga]
      have hsiz := hcre.sized
      simp only
      refine ⟨by omega, ?_⟩
      intro t ht
      by_cases hin : t < now + window
      · have hlat := hC t ht
        have hspl : perMs * (t - b.lastRefillMs) =
            perMs * (now - b.lastRefillMs) + perMs * (t - now) := by
          rw [← Nat.mul_add]
          congr 1
          omega
        rw [recent_cons_of_lt hin]
        omega
      · have hwh := hfu t hin
        omega

theorem accounting_few (hfew : capacity ≤ 2) (hwin : gained rate window = capacity)
    (hcap : 1 ≤ capacity) (hpos : 0 < window) :
    Accounting capacity rate window (fun _ b times =>
      capacity ≤ b.tokens + since b.lastRefillMs times) where
  first := by
    intro now times
    rw [since_cons_of_le (le_refl now)]
    simp only
    omega
  later := fun _ _ _ _ hC _ => hC
  served := by
    intro now _ b times hcre hC hps hspa
    have href := hcre.refilled
    have hsiz := hcre.sized
    have hrec : recent window now times < capacity :=
      hspa.recent_lt (Nat.lt_add_of_pos_right hpos) hps
    -- unless a window has passed, the calls since the last refill are recent
    have htok : now < b.lastRefillMs + window → 1 ≤ b.tokens := by
      intro hin
      have hle : since b.lastRefillMs times ≤ recent window now times := by
        refine countP_mono_left ?_
        intro u _ hu
        simp only [decide_eq_true_eq] at hu ⊢
        omega
      omega
    have hwh : ¬ now < b.lastRefillMs + window →
        capacity ≤ gained b.refillRate (now - b.lastRefillMs) := by
      intro _
      rw [hcre.paced, ← hwin]
      exact Nat.div_le_div_right (Nat.mul_le_mul_right rate (by omega))
    rcases Nat.eq_zero_or_pos (gained b.refillRate (now - b.lastRefillMs)) with hz | hga
    · have htok' := htok (by omega)
      rw [refill_of_gained_zero hz]
      rw [since_cons_of_le href]
      simp only
      omega
    · rw [refill_of_gained hga]
      simp only
      rw [since_cons_of_le (le_refl now)]
      by_cases hin : now < b.lastRefillMs + window
      · omega
      · omega

end Accounts

variable {ip : String} {config : RateLimitConfig} {log : List (Nat × Bool)}

section Refusals

open Watched

variable {t' n k last : Nat} {s : Watched}

theorem inRange_of_le (hrng : t * rate + capacity < Word.size) (hk : k ≤ capacity) :
    Word.InRange ⟨capacity, k, rate, last⟩ t :=
  lt_of_le_of_lt (Nat.add_le_add (Nat.mul_le_mul_right rate (Nat.sub_le t last)) hk) hrng

def Alone (ip : String) (s : Watched) : Prop := ∀ e ∈ s.storage.ipBuckets.rows, e.ip = ip

theorem Alone.tidy_eq (h : Alone ip s) (t : Nat) : s.storage.tidy t = s.storage := by
  have hlen : (s.storage.ipBuckets.rows.filter (fun _ => true)).length ≤ 1 := by
    refine Keyed.length_filter_le_one ?_
    intro e he e' he' _ _
    have hg := Keyed.get_key he
    have hg' := Keyed.get_key he'
    rw [h e he] at hg
    rw [h e' he', hg] at hg'
    exact Option.some.inj hg'
  rw [filter_true] at hlen
  rw [RateLimitStorage.tidy, if_neg]
  unfold cleanupThreshold
  omega

theorem Alone.step (h : Alone ip s) {q : Watched} (hst : step capacity rate s ⟨ip, t⟩ = some q) :
    Alone ip q := by
  rw [step_eq (clock_le_of_step hst)] at hst
  obtain rfl := Option.some.inj hst
  intro e he
  rcases Keyed.mem_put.mp he with rfl | ⟨hm, -⟩
  · exact Word.ip_next _
  · exact h e (mem_tidy hm)

theorem Alone.run_burst (h : Alone ip s) {s' : Watched}
    (hrun : run (Watched.step capacity rate) s (burst n ip t) = some s') : Alone ip s' := by
  induction n generalizing s with
  | zero =>
    obtain rfl := Option.some.inj hrun
    exact h
  | succ n ih =>
    obtain ⟨q, hq, hrs⟩ := (run_cons_eq_some _).mp hrun
    exact ih (h.step hq) hrs

structure Lone (config : RateLimitConfig) (capacity rate : Nat) (ip : String) (t k last : Nat)
    (log : List (Nat × Bool)) (s : Watched) : Prop where
  reached : ∃ calls, run (Watched.step capacity rate) (start config 0) calls = some s
  clock : s.clock = t
  alone : Alone ip s
  entry : s.storage.ipBuckets.get ip = some ⟨ip, ⟨capacity, k, rate, last⟩, t⟩
  answers : s.own ip = log

theorem Lone.tidy_get (h : Lone config capacity rate ip t k last log s) (t' : Nat) :
    (s.storage.tidy t').ipBuckets.get ip = some ⟨ip, ⟨capacity, k, rate, last⟩, t⟩ := by
  rw [h.alone.tidy_eq, h.entry]

theorem Lone.served (h : Lone config capacity rate ip t k last log s) (hle : t ≤ t') {gain : Nat}
    (hga : gained rate (t' - last) = gain) (hpos : 0 < gain) (hrm : k + gain ≤ capacity)
    (hrng : t' * rate + capacity < Word.size) (hn : 1 ≤ n) (htoks : n ≤ k + gain) :
    ∃ s', Lone config capacity rate ip t' (k + gain - n) t' (List.replicate n (t', true) ++ log)
      s' := by
  obtain ⟨m, rfl⟩ : ∃ m, n = m + 1 := ⟨n - 1, by omega⟩
  have href : Word.refill ⟨capacity, k, rate, last⟩ t' = ⟨capacity, k + gain, rate, t'⟩ := by
    rw [Word.refill_eq (inRange_of_le hrng (by omega)), refill_of_gained (hga ▸ hpos)]
    simp only [hga, min_eq_left hrm]
  have hfst : Word.serves ip capacity rate t' ((s.storage.tidy t').ipBuckets.get ip) ∧
      Word.next ip capacity rate t' ((s.storage.tidy t').ipBuckets.get ip) =
        ⟨ip, ⟨capacity, k + gain - 1, rate, t'⟩, t'⟩ := by
    rw [h.tidy_get, (Word.next_some _).1, (Word.next_some _).2, href]
    exact ⟨decide_eq_true (hn.trans htoks), rfl⟩
  obtain ⟨calls, hcal⟩ := h.reached
  obtain ⟨s', hrun, hclk, hown, hent⟩ := run_burst capacity rate
    (h.clock.le.trans hle) hfst.1 hfst.2 (Nat.le_sub_one_of_lt htoks)
  refine ⟨s', ⟨_, (run_append_eq_some _).mpr ⟨s, hcal, hrun⟩⟩, hclk, h.alone.run_burst hrun, ?_,
    by rw [hown, h.answers]⟩
  rw [hent, Nat.sub_sub, Nat.add_comm 1 m]

theorem Lone.refused (h : Lone config capacity rate ip t 0 last log s) (hle : t ≤ t')
    (hga : gained rate (t' - last) = 0) (hrng : t' * rate + capacity < Word.size) :
    ∃ s', (∃ calls, run (Watched.step capacity rate) (start config 0) calls = some s') ∧
      s'.own ip = (t', false) :: log := by
  have href : Word.refill ⟨capacity, 0, rate, last⟩ t' = ⟨capacity, 0, rate, last⟩ := by
    rw [Word.refill_eq (inRange_of_le hrng (Nat.zero_le _)), refill_of_gained_zero hga]
  obtain ⟨calls, hcal⟩ := h.reached
  obtain ⟨q, hq, -, -, hown⟩ := own_step capacity rate ip (h.clock.le.trans hle)
  refine ⟨q, ⟨calls ++ [⟨ip, t'⟩],
    (run_append_eq_some _).mpr ⟨s, hcal, (run_cons_eq_some _).mpr ⟨q, hq, rfl⟩⟩⟩, ?_⟩
  rw [hown, h.tidy_get, (Word.next_some _).2, href, h.answers]
  rfl

theorem exists_lone (config : RateLimitConfig) (capacity rate : Nat) (ip : String) (hn : 1 ≤ n)
    (hcap : n ≤ capacity) :
    ∃ s, Lone config capacity rate ip 0 (capacity - n) 0 (List.replicate n (0, true)) s := by
  have halo : Alone ip (start config 0) := nofun
  obtain ⟨s, hrun, hclk, hown, hent⟩ := run_burst_of_none rate (s := start config 0)
    (le_refl 0) rfl hn hcap
  refine ⟨s, ⟨_, hrun⟩, hclk, halo.run_burst hrun, hent, ?_⟩
  rw [hown]
  simp [own, start]

end Refusals

section Rounding

open Watched

variable {N P r x g W : Nat}

theorem exists_lossy_instant (hr : 1 ≤ r) (hN : 3 ≤ N) (hPr : N = P * r) (hfrac : ¬ 1000 ∣ r) :
    ∃ x g, 0 < x ∧ x < 1000 * P ∧ 1 ≤ g ∧ g + 2 ≤ N ∧ 1000 * g < x * r ∧ x * r < 1000 * g + 1000 := by
  have hP : 1 ≤ P := by
    rcases Nat.eq_zero_or_pos P with rfl | hpos
    · omega
    · exact hpos
  by_cases hsml : r < 1000
  · -- the first instant at which more than one token has been gained
    refine ⟨1000 / r + 1, 1, Nat.succ_pos _, ?_, le_refl 1, by omega, ?_, ?_⟩
    · refine lt_of_mul_lt_mul_right ?_ (Nat.zero_le r)
      rw [Nat.add_mul, Nat.mul_assoc]
      have hdiv := Nat.div_mul_le_self 1000 r
      omega
    · have hlt := Nat.lt_div_mul_add (a := 1000) hr
      rw [Nat.add_mul]
      omega
    · have hdiv := Nat.div_mul_le_self 1000 r
      rw [Nat.add_mul]
      omega
  · have hle : r ≤ N := hPr ▸ Nat.le_mul_of_pos_left r hP
    refine ⟨1, r / 1000, by omega, by omega, by omega, by omega, ?_, by omega⟩
    rcases Nat.lt_or_ge (1000 * (r / 1000)) (1 * r) with hlt | hge
    · exact hlt
    · exact absurd (Nat.dvd_of_mod_eq_zero (by omega)) hfrac

theorem gained_of_lossy (hlow : 1000 * g < x * r) (hhi : x * r < 1000 * g + 1000) :
    gained r x = g := by
  unfold gained
  omega

theorem gained_rest_of_lossy (hPr : N = P * r) (hx : x < 1000 * P) (hlow : 1000 * g < x * r)
    (hhi : x * r < 1000 * g + 1000) : gained r (1000 * P - x) = N - g - 1 := by
  unfold gained
  rw [Nat.sub_mul, Nat.mul_assoc]
  omega

theorem sparse_lossy (hx : 0 < x) (hxW : x < W) (hN : 3 ≤ N) :
    Sparse W N (2 * W :: (List.replicate (N - 2) (2 * W) ++ (List.replicate 1 (W + x) ++
      (List.replicate (N - 1) W ++ (List.replicate 1 x ++ List.replicate (N - 1) 0))))) := by
  intro s
  simp only [within, countP_cons, countP_append, countP_replicate, decide_eq_true_eq]
  split_ifs <;> omega

theorem sparse_remainder (hgN : g + 1 ≤ N) :
    Sparse W N (W :: (List.replicate g W ++ List.replicate N 0)) := by
  intro s
  simp only [within, countP_cons, countP_append, countP_replicate, decide_eq_true_eq]
  split_ifs <;> omega

def RefusesInQuota (config : RateLimitConfig) (N r W : Nat) (ip : String) (s : Watched) : Prop :=
  (∃ calls, run (step N r) (start config 0) calls = some s) ∧
    InQuota N r W 0 ((s.own ip).map Prod.fst) ∧ ∃ p ∈ s.own ip, p.2 = false

theorem exists_refusesInQuota
    (h : ∃ s, (∃ calls, run (step N r) (start config 0) calls = some s) ∧
      s.own ip = (t, false) :: log) (hspa : Sparse W N (t :: log.map Prod.fst))
    (hps : ∀ u ∈ t :: log.map Prod.fst, u ≤ t) (hword : t < Word.size)
    (hrng : t * r + N < Word.size) : ∃ s, RefusesInQuota config N r W ip s := by
  obtain ⟨s, hrch, hown⟩ := h
  refine ⟨s, hrch, ?_, ?_⟩
  · rw [hown]
    refine ⟨hspa, fun u hu => (hps u hu).trans_lt hword, ?_⟩
    intro u hu
    refine lt_of_le_of_lt (Nat.add_le_add_right (Nat.mul_le_mul_right r ?_) N) hrng
    exact (Nat.sub_le u 0).trans (hps u hu)
  · rw [hown]
    exact ⟨_, mem_cons_self, rfl⟩

theorem mul_rate_lt {u : Nat} (hrng : 2001 * N < Word.size) (hPr : P * r ≤ N)
    (hu : u ≤ 2 * (1000 * P)) : u * r + N < Word.size := by
  have hmul : u * r ≤ 2 * (1000 * P) * r := Nat.mul_le_mul_right r hu
  rw [show 2 * (1000 * P) * r = 2000 * (P * r) by ring] at hmul
  omega

theorem exists_refused_of_lossy (config : RateLimitConfig) (ip : String) (hr : 1 ≤ r) (hN : 3 ≤ N)
    (hPr : N = P * r) (hfrac : ¬ 1000 ∣ r) (hrng : 2001 * N < Word.size) :
    ∃ s, RefusesInQuota config N r (1000 * P) ip s := by
  obtain ⟨x, g, hx, hxW, hg, hgN, hlow, hhi⟩ := exists_lossy_instant hr hN hPr hfrac
  have hga := gained_of_lossy hlow hhi
  have hrs := gained_rest_of_lossy hPr hxW hlow hhi
  have hft : ∀ u, u ≤ 2 * (1000 * P) → u * r + N < Word.size :=
    fun u hu => mul_rate_lt hrng hPr.ge hu
  have hPN : P ≤ N := hPr ▸ Nat.le_mul_of_pos_right P hr
  obtain ⟨s₁, h₁⟩ := exists_lone config N r ip (show 1 ≤ N - 1 by omega) (Nat.sub_le N 1)
  obtain ⟨s₂, h₂⟩ := h₁.served (Nat.zero_le x) (by rw [Nat.sub_zero]; exact hga) hg
    (by omega) (hft _ (by omega)) (le_refl 1) (by omega)
  obtain ⟨s₃, h₃⟩ := h₂.served (n := N - 1) hxW.le hrs (by omega) (by omega)
    (hft _ (by omega)) (by omega) (by omega)
  obtain ⟨s₄, h₄⟩ := h₃.served (Nat.le_add_right (1000 * P) x)
    (by rw [Nat.add_sub_cancel_left]; exact hga) hg (by omega) (hft _ (by omega)) (le_refl 1)
    (by omega)
  have haga : gained r (2 * (1000 * P) - (1000 * P + x)) = N - g - 1 := by
    rw [show 2 * (1000 * P) - (1000 * P + x) = 1000 * P - x by omega]
    exact hrs
  obtain ⟨s₅, h₅⟩ := h₄.served (n := N - 2) (show 1000 * P + x ≤ 2 * (1000 * P) by omega) haga
    (by omega) (by omega) (hft _ (le_refl _)) (by omega) (by omega)
  have hemp : N - (N - 1) + g - 1 + (N - g - 1) - (N - 1) + g - 1 + (N - g - 1) - (N - 2) = 0 := by
    omega
  rw [hemp] at h₅
  refine exists_refusesInQuota (h₅.refused (le_refl _) (by simp) (hft _ (le_refl _))) ?_ ?_
    (lt_of_le_of_lt (by omega) hrng) (hft _ (le_refl _))
  · simpa using sparse_lossy hx hxW hN
  · intro u hu
    simp only [mem_cons, map_append, mem_append, map_replicate, mem_replicate] at hu
    omega

theorem exists_refused_of_remainder (config : RateLimitConfig) (ip : String) (hN : 1 ≤ N)
    (hPr : P * r < N) (hrng : 2001 * N < Word.size) (hper : 1000 * P < Word.size) :
    ∃ s, RefusesInQuota config N r (1000 * P) ip s := by
  have hga : gained r (1000 * P) = P * r := by
    unfold gained
    rw [Nat.mul_assoc, Nat.mul_div_cancel_left _ (by decide)]
  have hft : 1000 * P * r + N < Word.size := mul_rate_lt hrng hPr.le (by omega)
  obtain ⟨s₁, h₁⟩ := exists_lone config N r ip hN (le_refl N)
  rw [Nat.sub_self] at h₁
  -- the calls at the end of the window that find a token, and the one that does not
  have hl : ∃ s, (∃ calls, run (step N r) (start config 0) calls = some s) ∧
      s.own ip = (1000 * P, false) ::
        (List.replicate (P * r) (1000 * P, true) ++ List.replicate N (0, true)) := by
    rcases Nat.eq_zero_or_pos (P * r) with hz | hpos
    · rw [hz]
      exact h₁.refused (Nat.zero_le _) (by rw [Nat.sub_zero, hga, hz]) hft
    · obtain ⟨s₂, h₂⟩ := h₁.served (Nat.zero_le (1000 * P))
        (by rw [Nat.sub_zero]; exact hga) hpos (by omega) hft hpos (by omega)
      rw [Nat.zero_add, Nat.sub_self] at h₂
      exact h₂.refused (le_refl _) (by simp) hft
  refine exists_refusesInQuota hl ?_ ?_ hper hft
  · simpa using sparse_remainder hPr
  · intro u hu
    simp only [mem_cons, map_append, mem_append, map_replicate, mem_replicate] at hu
    omega

end Rounding

section Quotas

open Watched

def RateLimitConfig.Exact (c : RateLimitConfig) : Prop :=
  c.ipEnabled = true →
    c.ipPeriodSecs ∣ c.ipRequests ∧ (c.ipRequests ≤ 2 ∨ 1000 ∣ c.ipRequests / c.ipPeriodSecs)

instance RateLimitConfig.decidableExact (c : RateLimitConfig) : Decidable c.Exact :=
  inferInstanceAs (Decidable (c.ipEnabled = true →
    c.ipPeriodSecs ∣ c.ipRequests ∧ (c.ipRequests ≤ 2 ∨ 1000 ∣ c.ipRequests / c.ipPeriodSecs)))

def QuotaKept (config : RateLimitConfig) (begun : Nat) (ip : String) (s : Watched) : Prop :=
  InQuota config.ipRequests config.ipRefillRate (1000 * config.ipPeriodSecs) begun
      ((s.own ip).map Prod.fst) →
    ∀ p ∈ s.own ip, p.2 = true

theorem RateLimitConfig.pos_of_validate (hval : config.validate = .ok ())
    (hip : config.ipEnabled) : 1 ≤ config.ipRequests ∧ 1 ≤ config.ipPeriodSecs := by
  unfold validate at hval
  split_ifs at hval with _ _ hreq hper
  simp only [hip, Bool.true_and, beq_iff_eq] at hreq hper
  omega

theorem visit_eq_step (hglb : config.globalEnabled = false) (hip : config.ipEnabled)
    (s : Watched) (v : Visit) :
    visit config s v = step config.ipRequests config.ipRefillRate s ⟨v.key, v.now⟩ := by
  unfold visit step
  split
  · rfl
  · simp only [Word.checkLimits, hglb, hip, Bool.false_eq_true, if_false, if_true]
    cases (Word.checkIpLimit s.storage v.now v.key config.ipRequests config.ipRefillRate).2 with
    | error err | ok a => rfl

theorem admitted_of_disabled (hglb : config.globalEnabled = false)
    (hip : config.ipEnabled = false) (now : Nat) (visits : List Visit) :
    Throughout (visit config) (fun s => ∀ a ∈ s.log, a.allowed = true) (start config now) visits := by
  refine throughout_invariant _ ?_ (by simp [start]) visits
  intro s v t hs hst
  unfold visit at hst
  split at hst
  · cases hst
  · obtain rfl := Option.some.inj hst
    exact forall_mem_cons.mpr ⟨by simp [Word.checkLimits, hglb, hip, FilterDecision.allow], hs⟩

theorem exists_accounting (hval : config.validate = .ok ()) (hip : config.ipEnabled)
    (hexact : config.Exact) :
    ∃ C, Accounting config.ipRequests config.ipRefillRate (1000 * config.ipPeriodSecs) C := by
  obtain ⟨hN, hP⟩ := pos_of_validate hval hip
  obtain ⟨hdvd, hcs⟩ := hexact hip
  have hrt : config.ipRefillRate = config.ipRequests / config.ipPeriodSecs := if_neg (by omega)
  have hmul : config.ipPeriodSecs * config.ipRefillRate = config.ipRequests := by
    rw [hrt]
    exact Nat.mul_div_cancel' hdvd
  rcases hcs with hfew | hfine
  · refine ⟨_, accounting_few hfew ?_ hN (by omega)⟩
    rw [gained, Nat.mul_assoc, Nat.mul_div_cancel_left _ (by decide), hmul]
  · rw [← hrt] at hfine
    obtain ⟨perMs, hper⟩ := hfine
    refine ⟨_, accounting_fine hper ?_ hN (by omega)⟩
    rw [← hmul, hper]
    ring

def Call.visit (c : Call) : Visit := ⟨c.now, "", some c.ip⟩

theorem map_visit (calls : List Call) :
    (calls.map Call.visit).map (fun v => (⟨v.key, v.now⟩ : Call)) = calls := by
  simp [Function.comp_def, Call.visit, Visit.key]

theorem quota_kept_iff_exact (hvalid : config.validate = .ok ())
    (hglobal : config.globalEnabled = false) :
    (config.Exact → ∀ now visits ip,
        Throughout (visit config) (QuotaKept config now ip) (start config now) visits) ∧
      (2001 * config.ipRequests < Word.size → 1000 * config.ipPeriodSecs < Word.size →
        (∀ now visits ip,
          Throughout (visit config) (QuotaKept config now ip) (start config now) visits) →
        config.Exact) := by
  constructor
  · intro hexact now visits ip
    cases hip : config.ipEnabled with
    | false =>
      refine (admitted_of_disabled hglobal hip now visits).mono _ ?_
      intro s hs _ p hp
      obtain ⟨a, ha, rfl⟩ := mem_map.mp hp
      exact hs a (mem_filter.mp ha).1
    | true =>
      obtain ⟨C, hC⟩ := exists_accounting hvalid hip hexact
      rw [throughout_map _ (visit_eq_step hglobal hip)]
      refine ((hC.invariant (pos_of_validate hvalid hip).1 now ip).throughout ?_ _).mono _ ?_
      · exact ⟨le_refl now, by simp [start, own], fun _ => ⟨by simp [start, own],
          by simp [start, RateLimitStorage.new]⟩⟩
      · intro s hs hin
        exact (hs.2.2 hin).1
  · intro hrng hper hall hip
    obtain ⟨hN, hP⟩ := pos_of_validate hvalid hip
    have hrt : config.ipRefillRate = config.ipRequests / config.ipPeriodSecs := if_neg (by omega)
    by_contra hnot
    have href : ∃ s, RefusesInQuota config config.ipRequests config.ipRefillRate
        (1000 * config.ipPeriodSecs) "" s := by
      by_cases hdvd : config.ipPeriodSecs ∣ config.ipRequests
      · have hmul : config.ipRequests = config.ipPeriodSecs * config.ipRefillRate := by
          rw [hrt]
          exact (Nat.mul_div_cancel' hdvd).symm
        have hpos : 1 ≤ config.ipRefillRate := by
          rcases Nat.eq_zero_or_pos config.ipRefillRate with hz | hpos
          · omega
          · exact hpos
        refine exists_refused_of_lossy config "" hpos ?_ hmul ?_ hrng
        · by_contra hfew
          exact hnot ⟨hdvd, .inl (by omega)⟩
        · rw [hrt]
          exact fun hfine => hnot ⟨hdvd, .inr hfine⟩
      · refine exists_refused_of_remainder config "" hN ?_ hrng hper
        rw [hrt]
        refine lt_of_le_of_ne (Nat.mul_div_le _ _) ?_
        intro heq
        exact hdvd ⟨_, heq.symm⟩
    obtain ⟨s, ⟨calls, hrun⟩, hquo, p, hp, hfal⟩ := href
    have hkp := hall 0 (calls.map Call.visit) ""
    rw [throughout_map _ (visit_eq_step hglobal hip), map_visit] at hkp
    have hadm := hkp.final _ hrun hquo p hp
    rw [hfal] at hadm
    cases hadm

def thousandPerSecond : RateLimitConfig :=
  { RateLimitConfig.new with globalEnabled := false, ipRequests := 1000 }

theorem quota_kept_thousand_per_second :
    thousandPerSecond.validate = .ok () ∧ thousandPerSecond.globalEnabled = false ∧
      ∀ now visits ip, Throughout (visit thousandPerSecond) (QuotaKept thousandPerSecond now ip)
        (start thousandPerSecond now) visits := by
  refine ⟨rfl, rfl, ?_⟩
  exact (quota_kept_iff_exact rfl rfl).1 (by decide)

def hundredPerSecond : RateLimitConfig := { RateLimitConfig.new with globalEnabled := false }

theorem hundred_per_second_refuses :
    hundredPerSecond.validate = .ok () ∧
      ∃ visits s, run (visit hundredPerSecond) (start hundredPerSecond 0) visits = some s ∧
        Sparse 1000 100 ((s.own "203.0.113.7").map Prod.fst) ∧
        ∃ p ∈ s.own "203.0.113.7", p.2 = false := by
  refine ⟨rfl, ?_⟩
  obtain ⟨s, ⟨calls, hrun⟩, hquo, href⟩ :=
    exists_refused_of_lossy (N := 100) (P := 1) (r := 100) hundredPerSecond "203.0.113.7"
      (by decide) (by decide) (by decide) (by decide) (by decide)
  refine ⟨calls.map Call.visit, s, ?_, hquo.sparse, href⟩
  rw [run_map _ (visit_eq_step rfl rfl), map_visit]
  exact hrun

end Quotas

end ETradie.Envoy
