import ETradie.Auth.AttemptLimiter
import ETradie.Kernel.Runs
import ETradie.Kernel.Window

namespace ETradie.Auth

open Kernel List RedisCounter

structure Traffic where
  counter : Option RedisCounter
  clock : Int
  allowed : List Int

variable (scope : String) (start : Int) (s : Traffic) (now : Int)

namespace Traffic

def span : Int := milliseconds rateWindow

def init : Traffic where
  counter := none
  clock := start
  allowed := []

def step : Option Traffic :=
  if now < s.clock then none
  else
    let r := allowRequest scope s.counter now
    some ⟨some r.1, now, if r.2.1 then now :: s.allowed else s.allowed⟩

def Sliding : Prop := Sparse span (rateLimit scope) s.allowed

def counted : ℕ := ((RedisCounter.live s.counter now).map RedisCounter.count).getD 0

def carried : ℕ :=
  match RedisCounter.live s.counter now with
  | some k => recent span now (s.allowed.filter (fun u => u < k.expiresAt - span))
  | none => recent span now s.allowed

def Room : Prop := counted s now < rateLimit scope → carried s now + counted s now < rateLimit scope

structure Opened (limit : ℕ) (k : RedisCounter) (s : Traffic) : Prop where
  begun : k.expiresAt - span ≤ s.clock
  ended : ∀ u ∈ s.allowed, u < k.expiresAt
  own : since (k.expiresAt - span) s.allowed = min k.count limit
  first : s.allowed.countP (fun u => k.expiresAt - span < u) < min k.count limit
  before : recent span (k.expiresAt - span)
    (s.allowed.filter (fun u => u < k.expiresAt - span)) < limit

structure Counts (limit : ℕ) (s : Traffic) : Prop where
  past : ∀ u ∈ s.allowed, u ≤ s.clock
  fresh : s.counter = none → s.allowed = []
  opened : ∀ k, s.counter = some k → Opened limit k s

section Calls

variable {scope} {t : Traffic} {s} {now} {limit : ℕ}

theorem live_cases (s : Traffic) (now : Int) :
    (∃ k, s.counter = some k ∧ now < k.expiresAt ∧ live s.counter now = some k) ∨
      ((∀ k, s.counter = some k → k.expiresAt ≤ now) ∧ live s.counter now = none) := by
  cases s.counter with
  | none => exact .inr ⟨by simp, rfl⟩
  | some k =>
    by_cases h : now < k.expiresAt
    · exact .inl ⟨k, rfl, h, live_of_lt h⟩
    · refine .inr ⟨?_, live_of_le (not_lt.mp h)⟩
      intro _ hk'
      obtain rfl := Option.some.inj hk'
      exact not_lt.mp h

theorem count_rateScript (s : Traffic) (now : Int) :
    (rateScript s.counter now).count = counted s now + 1 := by
  unfold rateScript counted
  cases live s.counter now with
  | none | some k => rfl

theorem step_eq (h : s.clock ≤ now) :
    step scope s now =
      some ⟨some (rateScript s.counter now), now,
        if counted s now < rateLimit scope then now :: s.allowed else s.allowed⟩ := by
  rw [step, if_neg (not_lt.mpr h), allowRequest]
  have hcnt := count_rateScript s now
  by_cases hlt : counted s now < rateLimit scope
  · have hall : ¬ rateLimit scope < (rateScript s.counter now).count := by omega
    simp [hlt, hall]
  · have href : rateLimit scope < (rateScript s.counter now).count := by omega
    simp [hlt, href]

theorem clock_le_of_step (h : step scope s now = some t) : s.clock ≤ now := by
  unfold step at h
  split at h
  · cases h
  · next hlt => exact not_lt.mp hlt

theorem Counts.recent_eq (h : Counts limit s) (now : Int) :
    recent span now s.allowed = carried s now + min (counted s now) limit := by
  rcases live_cases s now with ⟨k, hk, hlt, hlv⟩ | ⟨-, hlv⟩
  · have hown := (h.opened k hk).own
    have hctd : counted s now = k.count := by
      rw [counted, hlv]
      rfl
    have hcar : carried s now =
        recent span now (s.allowed.filter (fun u => u < k.expiresAt - span)) := by
      rw [carried, hlv]
    rw [hctd, hcar, ← hown]
    refine recent_eq_add ?_
    omega
  · rw [counted, carried, hlv]
    simp

theorem Opened.counted_again {k : RedisCounter} (h : Opened limit k s) (hnow : s.clock ≤ now)
    (hlt : now < k.expiresAt) :
    Opened limit { k with count := k.count + 1 }
      ⟨some { k with count := k.count + 1 }, now,
        if k.count < limit then now :: s.allowed else s.allowed⟩ := by
  have hbeg := h.begun
  have hfst := h.first
  have hown := h.own
  split
  · refine ⟨by simp only; omega, forall_mem_cons.mpr ⟨hlt, h.ended⟩, ?_, ?_, ?_⟩
    · rw [since_cons_of_le (by simp only; omega)]
      simp only
      omega
    · rw [countP_cons]
      split
      · simp only
        omega
      · simp only
        omega
    · rw [filter_cons_of_neg (by simp only [decide_eq_true_eq]; omega)]
      exact h.before
  · exact ⟨by simp only; omega, h.ended, by simp only; omega, by simp only; omega, h.before⟩

theorem Counts.recent_lt (h : Counts limit s) (hlim : 0 < limit)
    (hno : ∀ k, s.counter = some k → k.expiresAt ≤ now) : recent span now s.allowed < limit := by
  cases hcou : s.counter with
  | none =>
    rw [h.fresh hcou]
    exact hlim
  | some k =>
    have hfst := (h.opened k hcou).first
    have hend := hno k hcou
    have hle : recent span now s.allowed ≤
        s.allowed.countP (fun u => k.expiresAt - span < u) := by
      refine countP_mono_left ?_
      intro u _ hu
      simp only [decide_eq_true_eq] at hu ⊢
      omega
    omega

theorem Counts.opened_new (h : Counts limit s) (hlim : 0 < limit) (hnow : s.clock ≤ now)
    (hno : ∀ k, s.counter = some k → k.expiresAt ≤ now) :
    Opened limit ⟨1, now + span⟩ ⟨some ⟨1, now + span⟩, now, now :: s.allowed⟩ := by
  have hbef : ∀ u ∈ s.allowed, u < now := by
    intro u hu
    cases hcou : s.counter with
    | none =>
      rw [h.fresh hcou] at hu
      cases hu
    | some k => exact ((h.opened k hcou).ended u hu).trans_le (hno k hcou)
  have hrec := h.recent_lt hlim hno
  have hsta : now + span - span = now := by omega
  have hsp : 0 < span := by decide
  refine ⟨by simp only; omega, ?_, ?_, ?_, ?_⟩
  · intro u hu
    rcases mem_cons.mp hu with rfl | hu
    · simp only
      omega
    · have hu := hbef u hu
      simp only
      omega
  · simp only [hsta]
    rw [since_cons_of_le (le_refl now), since_eq_zero hbef]
    omega
  · simp only [hsta]
    rw [countP_cons_of_neg (by simp), countP_eq_zero.mpr]
    · omega
    · intro u hu
      have hu := hbef u hu
      simp only [decide_eq_true_eq]
      omega
  · simp only [hsta]
    rw [filter_cons_of_neg (by simp), filter_eq_self.mpr]
    · exact hrec
    · intro u hu
      simpa using hbef u hu

theorem Counts.step (h : Counts (rateLimit scope) s) (hst : step scope s now = some t) :
    Counts (rateLimit scope) t := by
  have hnow := clock_le_of_step hst
  rw [step_eq hnow] at hst
  obtain rfl := Option.some.inj hst
  refine ⟨?_, by simp, ?_⟩
  · intro u hu
    simp only at hu
    split at hu
    · rcases mem_cons.mp hu with rfl | hu
      · exact le_refl u
      · exact (h.past u hu).trans hnow
    · exact (h.past u hu).trans hnow
  · intro k' hk'
    obtain rfl := Option.some.inj hk'
    rcases live_cases s now with ⟨k, hk, hlt, hlv⟩ | ⟨hno, hlv⟩
    · have hscr : rateScript s.counter now = { k with count := k.count + 1 } := by
        rw [rateScript, hlv]
      have hctd : counted s now = k.count := by
        rw [counted, hlv]
        rfl
      rw [hscr, hctd]
      exact (h.opened k hk).counted_again hnow hlt
    · have hscr : rateScript s.counter now = ⟨1, now + span⟩ := by
        rw [rateScript, hlv]
        rfl
      have hctd : counted s now = 0 := by
        rw [counted, hlv]
        rfl
      rw [hscr, hctd, if_pos (rateLimit_pos scope)]
      exact h.opened_new (rateLimit_pos scope) hnow hno

theorem counts_init : Counts limit (init start) := ⟨by simp [init], fun _ => rfl, by simp [init]⟩

theorem sliding_init : Sliding scope (init start) := sparse_nil

theorem sliding_step_iff (h : Counts (rateLimit scope) s) (hs : Sliding scope s)
    (hst : step scope s now = some t) : Sliding scope t ↔ Room scope s now := by
  have hnow := clock_le_of_step hst
  have hrec := h.recent_eq now
  have hsp : now < now + span := by
    have hpos : 0 < span := by decide
    omega
  rw [step_eq hnow] at hst
  obtain rfl := Option.some.inj hst
  unfold Sliding Room
  by_cases hrm : counted s now < rateLimit scope
  · simp only [hrm, if_true, forall_const]
    rw [sparse_cons_iff hsp (fun u hu => (h.past u hu).trans hnow) hs, hrec, min_eq_left hrm.le]
  · simp only [hrm, false_imp_iff, iff_true]
    exact hs

theorem sliding_iff_room (scope : String) (start : Int) (calls : List Int) :
    Throughout (step scope) (Sliding scope) (init start) calls ↔
      Along (step scope) (Room scope) (init start) calls :=
  throughout_iff_along (I := Counts (rateLimit scope)) (step scope)
    (fun _ _ _ h ht => h.step ht) (fun _ _ _ h hs ht => sliding_step_iff h hs ht) calls
    (counts_init start) (sliding_init start)

theorem nineteen_logins_in_a_minute :
    (run (step "login") (init 0)
        (0 :: (List.replicate 9 59999 ++ List.replicate 10 60000))).map
      (fun t => (rateLimit "login", within span 1 t.allowed)) = some (10, 19) := by
  decide +kernel

end Calls

end Traffic

end ETradie.Auth
