import Mathlib.Data.Prod.Lex
import ETradie.Kernel.Keyed
import ETradie.Ta.Candidates

/-! # Deduplication of candidates by zone

The midpoint of a zone falls into a bucket two pip tolerances wide, and the best-ranked candidate
of every bucket is kept. -/

namespace ETradie.Ta

open Kernel

def zonePipTolerance : Timeframe → ℚ
  | .m1 => 5
  | .m5 => 5
  | .m15 => 15
  | .m30 => 15
  | _ => 30

namespace SMCCandidate

variable (c : SMCCandidate)

def flagCount : Nat :=
  [c.bmsDetected, c.chochDetected, c.smsDetected, c.liquiditySwept, c.inducementCleared,
    c.ltfConfirmation].count true

def rankKey : ℕ ×ₗ ℕ ×ₗ ℚ :=
  toLex (c.metadata.confluences.getD 0, toLex (c.flagCount, c.entryPrice))

def zone : Option ℚ × Option ℚ :=
  if c.orderBlockLower.isNone || c.orderBlockUpper.isNone then (c.fvgLower, c.fvgUpper)
  else (c.orderBlockLower, c.orderBlockUpper)

def zoneMidpoint : ℚ := (c.zone.1.getD 0 + c.zone.2.getD 0) / 2

end SMCCandidate

def bucketWidth (tf : Timeframe) (symbol : String) : ℚ := 2 * zonePipTolerance tf * pipValue symbol

def zoneBucket (lower upper : Option ℚ) (tf : Timeframe) (symbol : String) : Option Int :=
  match lower, upper with
  | some lower, some upper =>
    if lower ≤ 0 ∨ upper ≤ 0 then none
    else if (lower + upper) / 2 ≤ 0 then none
    else if pipValue symbol ≤ 0 ∨ bucketWidth tf symbol ≤ 0 then none
    else some ⌊(lower + upper) / 2 / bucketWidth tf symbol⌋
  | _, _ => none

section Dedup

variable (symbol : String)

def zoneKey (c : SMCCandidate) : Option (Timeframe × Direction × Int) :=
  (zoneBucket c.zone.1 c.zone.2 c.timeframe symbol).map
    (fun bucket => (c.timeframe, c.direction, bucket))

def dedupeStep (st : Keyed (zoneKey symbol) × List SMCCandidate) (c : SMCCandidate) :
    Keyed (zoneKey symbol) × List SMCCandidate :=
  match zoneKey symbol c with
  | none => (st.1, st.2 ++ [c])
  | some _ => (st.1.keep SMCCandidate.rankKey c, st.2)

def dedupeSmcCandidatesByZone (candidates : List SMCCandidate) : List SMCCandidate :=
  let st := candidates.foldl (dedupeStep symbol) (Keyed.empty, [])
  st.1.rows ++ st.2

variable {symbol} {cs : List SMCCandidate} {c c' : SMCCandidate}

theorem bucketWidth_pos (tf : Timeframe) (symbol : String) : 0 < bucketWidth tf symbol := by
  have hpip := pipValue_pos symbol
  have htol : 0 < zonePipTolerance tf := by
    unfold zonePipTolerance
    split <;> norm_num
  exact mul_pos (mul_pos two_pos htol) hpip

theorem zoneKey_eq (h : (zoneKey symbol c).isSome) :
    zoneKey symbol c = some (c.timeframe, c.direction,
      ⌊c.zoneMidpoint / bucketWidth c.timeframe symbol⌋) := by
  obtain ⟨k, hk⟩ := Option.isSome_iff_exists.mp h
  obtain ⟨bucket, hbkt, rfl⟩ := Option.map_eq_some_iff.mp hk
  rw [hk]
  unfold zoneBucket at hbkt
  split at hbkt
  · next hlo hup =>
    split_ifs at hbkt
    cases hbkt
    rw [SMCCandidate.zoneMidpoint, hlo, hup]
    rfl
  · cases hbkt

theorem foldl_dedupeStep (husa : ∀ c ∈ cs, (zoneKey symbol c).isSome)
    (st : Keyed (zoneKey symbol) × List SMCCandidate) :
    cs.foldl (dedupeStep symbol) st = (cs.foldl (Keyed.keep SMCCandidate.rankKey) st.1, st.2) := by
  induction cs generalizing st with
  | nil => rfl
  | cons c cs ih =>
    obtain ⟨hc, hcs⟩ := List.forall_mem_cons.mp husa
    rw [List.foldl_cons, List.foldl_cons, ih hcs, dedupeStep, zoneKey_eq hc]

theorem dedupe_eq (husa : ∀ c ∈ cs, (zoneKey symbol c).isSome) :
    ∃ t : Keyed (zoneKey symbol), Keyed.Keeps SMCCandidate.rankKey cs t ∧
      dedupeSmcCandidatesByZone symbol cs = t.rows := by
  refine ⟨_, Keyed.keeps_foldl SMCCandidate.rankKey cs, ?_⟩
  rw [dedupeSmcCandidatesByZone, foldl_dedupeStep husa, List.append_nil]

theorem abs_sub_lt_of_key (h : (zoneKey symbol c).isSome)
    (hk : zoneKey symbol c' = zoneKey symbol c) :
    c'.timeframe = c.timeframe ∧ c'.direction = c.direction ∧
      |c'.zoneMidpoint - c.zoneMidpoint| < bucketWidth c.timeframe symbol := by
  have h' : (zoneKey symbol c').isSome := by rwa [hk]
  rw [zoneKey_eq h, zoneKey_eq h', Option.some.injEq, Prod.mk.injEq, Prod.mk.injEq] at hk
  obtain ⟨htf, hdir, hflo⟩ := hk
  have hpos := bucketWidth_pos c.timeframe symbol
  rw [htf] at hflo
  have hlt := Int.abs_sub_lt_one_of_floor_eq_floor hflo
  rw [← sub_div, abs_div, abs_of_pos hpos, div_lt_one hpos] at hlt
  exact ⟨htf, hdir, hlt⟩

/-- Two candidates at most one tolerance apart, with a border of the buckets between them. -/
def Straddles (symbol : String) (c c' : SMCCandidate) : Prop :=
  c.timeframe = c'.timeframe ∧ c.direction = c'.direction ∧
    |c.zoneMidpoint - c'.zoneMidpoint| ≤ zonePipTolerance c.timeframe * pipValue symbol ∧
    zoneKey symbol c ≠ zoneKey symbol c'

instance : Decidable (Straddles symbol c c') := inferInstanceAs (Decidable (_ ∧ _))

/-- The candidate is the first of the highest rank in its bucket. -/
def WinsBucket (symbol : String) (cs : List SMCCandidate) (c : SMCCandidate) : Prop :=
  Keyed.Wins (zoneKey symbol) SMCCandidate.rankKey cs c

/-- Nearer than one tolerance only across timeframes or directions. -/
def Apart (symbol : String) (c c' : SMCCandidate) : Prop :=
  c.timeframe = c'.timeframe → c.direction = c'.direction →
    zonePipTolerance c.timeframe * pipValue symbol < |c.zoneMidpoint - c'.zoneMidpoint|

instance : Std.Symm (Apart symbol) where
  symm c c' h htf hdir := by
    rw [htf, abs_sub_comm]
    exact h htf.symm hdir.symm

theorem apart_iff_not_straddles (hne : zoneKey symbol c ≠ zoneKey symbol c') :
    Apart symbol c c' ↔ ¬ Straddles symbol c c' := by
  simp only [Apart, Straddles, not_and, ← not_lt]
  tauto

theorem pairwise_apart_iff {t : Keyed (zoneKey symbol)}
    (ht : Keyed.Keeps SMCCandidate.rankKey cs t) :
    t.rows.Pairwise (Apart symbol) ↔ ∀ c ∈ cs, ∀ c' ∈ cs, Straddles symbol c c' →
      ¬ WinsBucket symbol cs c ∨ ¬ WinsBucket symbol cs c' := by
  constructor
  · intro hapart c _ c' _ hstr
    by_contra hwin
    obtain ⟨hc, hc'⟩ := not_or.mp hwin
    have hne : c ≠ c' := fun h => hstr.2.2.2 (congrArg _ h)
    have hpair := hapart.forall ((ht.mem_iff c).mpr (not_not.mp hc))
      ((ht.mem_iff c').mpr (not_not.mp hc')) hne
    exact (apart_iff_not_straddles hstr.2.2.2).mp hpair hstr
  · intro hbeaten
    refine (List.pairwise_map.mp t.unique).imp_of_mem fun {c c'} hc hc' hne => ?_
    refine (apart_iff_not_straddles hne).mpr fun hstr => ?_
    have hwin := (ht.mem_iff c).mp hc
    have hwin' := (ht.mem_iff c').mp hc'
    exact (hbeaten c hwin.mem c' hwin'.mem hstr).elim (· hwin) (· hwin')

/-- Every candidate is covered by a kept one of its bucket; the kept ones are a tolerance apart
exactly when every pair astride a border has a member beaten in its own bucket; with distinct
ranks the order of the list does not matter. -/
theorem zone_dedupe (symbol : String) (cs : List SMCCandidate)
    (husable : ∀ c ∈ cs, (zoneKey symbol c).isSome = true) :
    (∀ c ∈ cs, ∃ kept ∈ dedupeSmcCandidatesByZone symbol cs, kept.timeframe = c.timeframe ∧
      kept.direction = c.direction ∧ c.rankKey ≤ kept.rankKey ∧
      |kept.zoneMidpoint - c.zoneMidpoint| < 2 * zonePipTolerance c.timeframe * pipValue symbol) ∧
    ((dedupeSmcCandidatesByZone symbol cs).Pairwise (Apart symbol) ↔
      ∀ c ∈ cs, ∀ c' ∈ cs, Straddles symbol c c' →
        ¬ WinsBucket symbol cs c ∨ ¬ WinsBucket symbol cs c') ∧
    ((cs.map SMCCandidate.rankKey).Nodup → ∀ cs', cs'.Perm cs → ∀ c,
      c ∈ dedupeSmcCandidatesByZone symbol cs' ↔ c ∈ dedupeSmcCandidatesByZone symbol cs) := by
  obtain ⟨t, ht, hrw⟩ := dedupe_eq husable
  refine ⟨?_, ?_, ?_⟩
  · intro c hc
    obtain ⟨kept, hkept, hkey⟩ := ht.seen c hc
    obtain ⟨htf, hdir, hnear⟩ := abs_sub_lt_of_key (husable c hc) hkey
    rw [hrw]
    exact ⟨kept, hkept, htf, hdir, ((ht.mem_iff kept).mp hkept).best hc hkey.symm, hnear⟩
  · rw [hrw]
    exact pairwise_apart_iff ht
  · intro hrank cs' hperm c
    have husable' : ∀ c ∈ cs', (zoneKey symbol c).isSome = true :=
      fun c hc => husable c (hperm.mem_iff.mp hc)
    obtain ⟨t', ht', hrw'⟩ := dedupe_eq husable'
    have hrank' : (cs'.map SMCCandidate.rankKey).Nodup := (hperm.map _).nodup_iff.mpr hrank
    rw [hrw, hrw', ht.mem_iff, ht'.mem_iff, Keyed.wins_iff_of_nodup hrank,
      Keyed.wins_iff_of_nodup hrank']
    simp only [hperm.mem_iff]

end Dedup

def zoneCandidate (middle : ℚ) (h : 1 < middle) : SMCCandidate where
  symbol := "US30"
  timeframe := .h1
  pattern := .shBmsRtoBullish
  direction := .bullish
  timestamp := 0
  entryPrice := middle
  stopLoss := 1
  takeProfit := none
  htfTimeframe := .h4
  ltfTimeframe := .h1
  orderBlockUpper := some (middle + 1)
  orderBlockLower := some (middle - 1)
  prices_pos := ⟨one_pos.trans h, one_pos, nofun⟩

def borderPair : List SMCCandidate :=
  [zoneCandidate 119 (by norm_num), zoneCandidate 121 (by norm_num)]

def beatenAtBorder : List SMCCandidate := borderPair ++ [zoneCandidate 179 (by norm_num)]

theorem zone_dedupe_beatenAtBorder :
    (beatenAtBorder.all fun c => (zoneKey "US30" c).isSome) = true ∧
      (∃ c ∈ beatenAtBorder, ∃ c' ∈ beatenAtBorder, Straddles "US30" c c') ∧
      (dedupeSmcCandidatesByZone "US30" beatenAtBorder).map (·.zoneMidpoint) = [119, 179] ∧
      (dedupeSmcCandidatesByZone "US30" beatenAtBorder).Pairwise (Apart "US30") := by
  refine ⟨by decide +kernel, by decide +kernel, by decide +kernel,
    (zone_dedupe "US30" beatenAtBorder (by decide +kernel)).2.1.mpr ?_⟩
  -- of the only pair astride a border, 121 is beaten by 179
  have hbeaten : ∀ c ∈ beatenAtBorder, ∀ c' ∈ beatenAtBorder, Straddles "US30" c c' →
      (∃ x ∈ beatenAtBorder, zoneKey "US30" x = zoneKey "US30" c ∧ c.rankKey < x.rankKey) ∨
      ∃ x ∈ beatenAtBorder, zoneKey "US30" x = zoneKey "US30" c' ∧ c'.rankKey < x.rankKey := by
    decide +kernel
  intro c hc c' hc' hstr
  refine (hbeaten c hc c' hc' hstr).imp ?_ ?_
  · rintro ⟨x, hx, hkey, hlt⟩ hwin
    exact (hwin.best hx hkey).not_gt hlt
  · rintro ⟨x, hx, hkey, hlt⟩ hwin
    exact (hwin.best hx hkey).not_gt hlt

theorem borderPair_kept :
    (dedupeSmcCandidatesByZone "US30" borderPair).map (fun c =>
      (c.zoneMidpoint, c.direction, zonePipTolerance c.timeframe * pipValue "US30")) =
      [(119, .bullish, 30), (121, .bullish, 30)] := by
  decide +kernel

end ETradie.Ta
