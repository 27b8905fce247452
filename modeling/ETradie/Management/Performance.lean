import ETradie.Kernel.Groups
import ETradie.Kernel.Instant
import ETradie.Management.Trade
import Mathlib.Data.String.Basic

/-!
# Performance figures of closed trades

The aggregator's summary against the metrics service, its breakdowns by a key, and its count of
trades that follow a loss.
-/

namespace ETradie.Management

open Kernel List

structure TradeRow where
  (symbol setupType : String := "")
  (grossPnL rMultiple : ℚ := 0)
  outcome : Option TradeOutcome
  (durationMinutes openedAt closedAt : Int := 0)

def TradeRow.ended (o : TradeOutcome) (t : TradeRow) : Bool := t.outcome = some o

def roundTo (v : ℚ) (places : Nat) : ℚ := roundHalfAway (v * 10 ^ places) / 10 ^ places

theorem roundHalfAway_int (n : Int) : roundHalfAway (n : ℚ) = n := by
  unfold roundHalfAway
  split
  · norm_num
  · rw [← Int.cast_neg, Int.floor_intCast_add]
    norm_num

theorem roundTo_eq_self_iff {v : ℚ} {places : Nat} :
    roundTo v places = v ↔ ∃ n : Int, v * 10 ^ places = n := by
  have hpow : (10 : ℚ) ^ places ≠ 0 := by positivity
  unfold roundTo
  constructor
  · intro h
    exact ⟨_, (div_eq_iff hpow).mp h |>.symm⟩
  · rintro ⟨n, hn⟩
    rw [hn, roundHalfAway_int, div_eq_iff hpow, hn]

theorem roundTo_zero (places : Nat) : roundTo 0 places = 0 := roundTo_eq_self_iff.mpr ⟨0, by simp⟩

structure Streaks where
  (wins losses maxWins maxLosses : Nat := 0)

def Streaks.count (s : Streaks) : TradeOutcome → Streaks
  | .win => { s with wins := s.wins + 1, losses := 0, maxWins := max s.maxWins (s.wins + 1) }
  | .loss =>
    { s with losses := s.losses + 1, wins := 0, maxLosses := max s.maxLosses (s.losses + 1) }
  | .breakeven => { s with wins := 0, losses := 0 }

variable (trades : List TradeRow)

def calculateStreaks : Streaks := trades.foldl (fun s t => s.count (t.outcome.getD .breakeven)) {}

theorem calculateStreaks_eq :
    (calculateStreaks trades).maxWins = (streak (some .win) (trades.map TradeRow.outcome)).2 ∧
      (calculateStreaks trades).maxLosses =
        (streak (some .loss) (trades.map TradeRow.outcome)).2 := by
  have hrun : ∀ s : Streaks,
      let r := trades.foldl (fun s t => s.count (t.outcome.getD .breakeven)) s
      (r.wins, r.maxWins) =
        (trades.map TradeRow.outcome).foldl (streakStep (some .win)) (s.wins, s.maxWins) ∧
      (r.losses, r.maxLosses) =
        (trades.map TradeRow.outcome).foldl (streakStep (some .loss)) (s.losses, s.maxLosses) := by
    induction trades with
    | nil => exact fun _ => ⟨rfl, rfl⟩
    | cons t trades ih =>
      intro s
      have hnx := ih (s.count (t.outcome.getD .breakeven))
      rcases ho : t.outcome with _ | _ | _ | _ <;> rw [ho] at hnx <;>
        simpa [ho, streakStep, Streaks.count] using hnx
  obtain ⟨hwi, hlos⟩ := hrun {}
  exact ⟨congrArg Prod.snd hwi, congrArg Prod.snd hlos⟩

structure Tallies where
  (wins losses breakevens durCount : Nat := 0)
  streaks : Streaks := {}
  (bestR worstR : ℚ)
  (sumR sumWinR sumLossR sumDur grossPnL : ℚ := 0)
  (symbols setups : List String := [])

def Tallies.count (s : Tallies) (t : TradeRow) : Tallies :=
  match t.outcome with
  | none => s
  | some o =>
    let s := { s with streaks := s.streaks.count o }
    match o with
    | .win => { s with wins := s.wins + 1, sumWinR := s.sumWinR + t.rMultiple }
    | .loss => { s with losses := s.losses + 1, sumLossR := s.sumLossR + t.rMultiple }
    | .breakeven => { s with breakevens := s.breakevens + 1 }

def Tallies.add (s : Tallies) (t : TradeRow) : Tallies :=
  { s.count t with
    grossPnL := s.grossPnL + t.grossPnL, sumR := s.sumR + t.rMultiple
    bestR := max s.bestR t.rMultiple, worstR := min s.worstR t.rMultiple
    sumDur := if 0 < t.durationMinutes then s.sumDur + t.durationMinutes else s.sumDur
    durCount := if 0 < t.durationMinutes then s.durCount + 1 else s.durCount
    symbols := if t.symbol = "" then s.symbols else s.symbols.insert t.symbol
    setups := if t.setupType = "" then s.setups else s.setups.insert t.setupType }

structure Summary where
  (totalTrades wins losses breakevens : Nat := 0)
  (winRatePct lossRatePct grossPnL avgRMultiple bestRMultiple worstRMultiple expectancy : ℚ := 0)
  (maxConsecutiveWins maxConsecutiveLosses : Nat := 0)
  avgDurationMinutes : ℚ := 0
  (distinctSymbols distinctSetups : Nat := 0)

def computeSummary : Summary :=
  match trades with
  | [] => {}
  | first :: _ =>
    let n : ℚ := trades.length
    let s := trades.foldl Tallies.add { bestR := first.rMultiple, worstR := first.rMultiple }
    { totalTrades := trades.length, wins := s.wins, losses := s.losses, breakevens := s.breakevens
      winRatePct := roundTo (s.wins / n * 100) 2, lossRatePct := roundTo (s.losses / n * 100) 2
      grossPnL := s.grossPnL, avgRMultiple := roundTo (s.sumR / n) 3
      bestRMultiple := roundTo s.bestR 3, worstRMultiple := roundTo s.worstR 3
      expectancy :=
        if 0 < s.wins ∧ 0 < s.losses then
          roundTo (s.wins / n * (s.sumWinR / s.wins) - s.losses / n * |s.sumLossR / s.losses|) 3
        else 0
      maxConsecutiveWins := s.streaks.maxWins
      maxConsecutiveLosses := s.streaks.maxLosses
      avgDurationMinutes := if 0 < s.durCount then roundTo (s.sumDur / s.durCount) 2 else 0
      distinctSymbols := s.symbols.length
      distinctSetups := s.setups.length }

def TradeRow.multiples (o : TradeOutcome) (trades : List TradeRow) : List ℚ :=
  (trades.filter (TradeRow.ended o)).map TradeRow.rMultiple

theorem foldl_add (trades : List TradeRow) (first : ℚ) :
    let r := trades.foldl Tallies.add { bestR := first, worstR := first }
    r.wins = trades.countP (TradeRow.ended .win) ∧
      r.losses = trades.countP (TradeRow.ended .loss) ∧
      r.sumWinR = (TradeRow.multiples .win trades).sum ∧
      r.sumLossR = (TradeRow.multiples .loss trades).sum ∧
      r.grossPnL = (trades.map TradeRow.grossPnL).sum ∧
      ((∀ t ∈ trades, t.outcome ≠ none) → r.streaks = calculateStreaks trades) := by
  induction trades using List.reverseRecOn with
  | nil => simp [TradeRow.multiples, calculateStreaks]
  | append_singleton trades t ih =>
    rcases ho : t.outcome with _ | _ | _ | _ <;>
      simp_all [Tallies.add, Tallies.count, TradeRow.multiples, TradeRow.ended, calculateStreaks]

structure PerformanceSummary where
  (totalTrades wins losses breakevens : Nat)
  (totalPnL avgRMultiple bestTradeR worstTradeR winRate expectancy : ℚ)
  (maxConsecutiveWins maxConsecutiveLosses : Nat)

def average (xs : List ℚ) : ℚ := xs.sum / xs.length

def calculate : PerformanceSummary :=
  let n : ℚ := trades.length
  let rs := trades.map TradeRow.rMultiple
  let wins := trades.countP (TradeRow.ended .win)
  let losses := trades.countP (TradeRow.ended .loss)
  { totalTrades := trades.length, wins := wins, losses := losses
    breakevens := trades.countP (TradeRow.ended .breakeven)
    totalPnL := (trades.map TradeRow.grossPnL).sum, avgRMultiple := average rs
    bestTradeR := rs.max?.getD 0, worstTradeR := rs.min?.getD 0
    winRate := if 0 < trades.length then wins / n * 100 else 0
    expectancy :=
      if 0 < trades.length then
        wins / n * average (TradeRow.multiples .win trades) -
          losses / n * |average (TradeRow.multiples .loss trades)|
      else 0
    maxConsecutiveWins := (calculateStreaks trades).maxWins
    maxConsecutiveLosses := (calculateStreaks trades).maxLosses }

/-- The figures that the aggregator prints with two and three decimals have no more. -/
def Printed : Prop :=
  let wins := trades.countP (TradeRow.ended .win)
  let gained := (TradeRow.multiples .win trades).sum - |(TradeRow.multiples .loss trades).sum|
  trades.length ∣ 10000 * wins ∧
    if 0 < wins ∧ 0 < trades.countP (TradeRow.ended .loss) then
      ∃ k : Int, 1000 * gained = k * trades.length
    else gained = 0

theorem computeSummary_eq (trades : List TradeRow) :
    let m := calculate trades
    let s := computeSummary trades
    s.totalTrades = trades.length ∧ s.wins = trades.countP (TradeRow.ended .win) ∧
      s.losses = trades.countP (TradeRow.ended .loss) ∧
      s.grossPnL = (trades.map TradeRow.grossPnL).sum ∧ s.winRatePct = roundTo m.winRate 2 ∧
      s.expectancy = (if 0 < m.wins ∧ 0 < m.losses then roundTo m.expectancy 3 else 0) ∧
      ((∀ t ∈ trades, t.outcome ≠ none) → s.maxConsecutiveWins = m.maxConsecutiveWins ∧
        s.maxConsecutiveLosses = m.maxConsecutiveLosses) := by
  cases trades with
  | nil => simp [calculate, computeSummary, calculateStreaks, roundTo_zero]
  | cons t trades =>
    obtain ⟨hwi, hlos, hsmW, hsum, hpnl, hstr⟩ := foldl_add (t :: trades) t.rMultiple
    unfold computeSummary calculate average
    simp only [hwi, hlos, hsmW, hsum, hpnl]
    refine ⟨trivial, trivial, trivial, trivial, ?_, ?_, ?_⟩
    · simp
    · simp [TradeRow.multiples, countP_eq_length_filter]
    · intro hkn
      rw [hstr hkn]
      exact ⟨rfl, rfl⟩

theorem share_mul_average (xs : List ℚ) (n : ℚ) : xs.length / n * average xs = xs.sum / n := by
  cases xs with
  | nil => simp [average]
  | cons x xs =>
    have hlen : ((x :: xs).length : ℚ) ≠ 0 := Nat.cast_ne_zero.mpr (by simp)
    unfold average
    field_simp

theorem winRate_printed_iff :
    roundTo (calculate trades).winRate 2 = (calculate trades).winRate ↔
      trades.length ∣ 10000 * trades.countP (TradeRow.ended .win) := by
  rw [roundTo_eq_self_iff]
  unfold calculate
  dsimp only
  split
  next hpos =>
    have hn : (trades.length : ℚ) ≠ 0 := by positivity
    rw [← Int.natCast_dvd_natCast]
    refine exists_congr fun k => ?_
    rw [← @Int.cast_inj ℚ]
    push_cast
    rw [mul_comm (trades.length : ℚ), ← div_eq_iff hn]
    constructor <;> intro h <;> rw [← h] <;> ring
  next hempty =>
    have hnil : trades = [] := length_eq_zero_iff.mp (by omega)
    exact iff_of_true ⟨0, by simp⟩ (by simp [hnil])

theorem calculate_expectancy : (calculate trades).expectancy =
    ((TradeRow.multiples .win trades).sum - |(TradeRow.multiples .loss trades).sum|) /
      trades.length := by
  have hcount : ∀ o, trades.countP (TradeRow.ended o) = (TradeRow.multiples o trades).length := by
    intro o
    rw [TradeRow.multiples, length_map, countP_eq_length_filter]
  have habs : ∀ xs : List ℚ, xs.length / (trades.length : ℚ) * |average xs| =
      |xs.sum| / trades.length := by
    intro xs
    rw [← abs_of_nonneg (by positivity : (0 : ℚ) ≤ xs.length / trades.length), ← abs_mul,
      share_mul_average, abs_div, Nat.abs_cast]
  unfold calculate
  dsimp only
  split
  next => rw [hcount, hcount, share_mul_average, habs, sub_div]
  next hempty =>
    have hnil : trades = [] := length_eq_zero_iff.mp (by omega)
    simp [hnil, TradeRow.multiples]

theorem expectancy_printed_iff (trades : List TradeRow) :
    let wins := trades.countP (TradeRow.ended .win)
    let losses := trades.countP (TradeRow.ended .loss)
    let gained := (TradeRow.multiples .win trades).sum - |(TradeRow.multiples .loss trades).sum|
    ((if 0 < wins ∧ 0 < losses then roundTo (calculate trades).expectancy 3 else 0) =
      (calculate trades).expectancy) ↔
      if 0 < wins ∧ 0 < losses then ∃ k : Int, 1000 * gained = k * trades.length
      else gained = 0 := by
  intro wins losses gained
  rw [calculate_expectancy]
  have hlen : 0 < trades.length ∨ gained = 0 := by
    rcases trades.length.eq_zero_or_pos with h | h
    · right
      simp [gained, length_eq_zero_iff.mp h, TradeRow.multiples]
    · exact .inl h
  split_ifs with hboth
  · have hpos : 0 < trades.length := hboth.1.trans_le countP_le_length
    have hn : (trades.length : ℚ) ≠ 0 := by positivity
    rw [roundTo_eq_self_iff]
    refine exists_congr fun k => ?_
    rw [← div_eq_iff hn]
    constructor <;> intro h <;> rw [← h] <;> ring
  · rcases hlen with hpos | hzero
    · have hn : (trades.length : ℚ) ≠ 0 := by positivity
      rw [eq_comm, div_eq_iff hn, zero_mul]
    · change 0 = gained / _ ↔ _
      simp [hzero]

variable {ts : List TradeRow}
variable (k : String)

section Breakdown

variable (key : TradeRow → String)

structure DimensionRow where
  key : String
  (trades wins losses : Nat := 0)
  (winRatePct avgR pnl : ℚ := 0)

variable (row : DimensionRow × ℚ) (x : DimensionRow)

def bucketKey (t : TradeRow) : String := if key t = "" then "unspecified" else key t

structure Buckets where
  keys : List String := []
  row : String → DimensionRow × ℚ := fun k => ({ key := k }, 0)

def DimensionRow.add (t : TradeRow) : DimensionRow × ℚ :=
  let r := { row.1 with trades := row.1.trades + 1, pnl := row.1.pnl + t.grossPnL }
  (match t.outcome with
    | some .win => { r with wins := r.wins + 1 }
    | some .loss => { r with losses := r.losses + 1 }
    | _ => r, row.2 + t.rMultiple)

def Buckets.add (b : Buckets) (t : TradeRow) : Buckets :=
  let k := bucketKey key t
  { keys := b.keys.insert k, row := Function.update b.row k (DimensionRow.add (b.row k) t) }

def DimensionRow.finish : DimensionRow :=
  if 0 < row.1.trades then
    { row.1 with
      winRatePct := roundTo (row.1.wins / row.1.trades * 100) 2
      avgR := roundTo (row.2 / row.1.trades) 3, pnl := roundTo row.1.pnl 2 }
  else row.1

def DimensionRow.before (y : DimensionRow) : Bool :=
  if x.trades ≠ y.trades then y.trades < x.trades else x.key ≤ y.key

def dimensionBreakdown (trades : List TradeRow) : List DimensionRow :=
  let b := trades.foldl (Buckets.add key) {}
  (b.keys.map (fun k => DimensionRow.finish (b.row k))).mergeSort DimensionRow.before

variable {key}

def groupRow (k : String) (ts : List TradeRow) : DimensionRow × ℚ :=
  ({ key := k, trades := ts.length, wins := ts.countP (TradeRow.ended .win),
     losses := ts.countP (TradeRow.ended .loss), pnl := (ts.map TradeRow.grossPnL).sum },
   (ts.map TradeRow.rMultiple).sum)

theorem buckets_eq (key : TradeRow → String) (trades : List TradeRow) :
    let b := trades.foldl (Buckets.add key) {}
    b.keys.Nodup ∧ (∀ k, k ∈ b.keys ↔ k ∈ trades.map (bucketKey key)) ∧
      ∀ k, b.row k = groupRow k (trades.filter (fun t => bucketKey key t = k)) := by
  induction trades using List.reverseRecOn with
  | nil => simp [groupRow]
  | append_singleton trades t ih =>
    obtain ⟨hnd, hm, hr⟩ := ih
    rw [foldl_append]
    refine ⟨hnd.insert, ?_, ?_⟩
    · simp [Buckets.add, hm, or_comm]
    · intro k
      by_cases hk : k = bucketKey key t
      · rcases ho : t.outcome with _ | _ | _ | _ <;>
          simp [Buckets.add, hk, hr, groupRow, DimensionRow.add, TradeRow.ended, ho]
      · simp [Buckets.add, hk, Ne.symm hk, hr]

theorem groupRow_perm {ts' : List TradeRow} (h : ts'.Perm ts) :
    groupRow k ts' = groupRow k ts := by
  simp [groupRow, h.length_eq, h.countP_eq, (h.map _).sum_eq]

def bucketPnL (key : TradeRow → String) (trades : List TradeRow) (k : String) : ℚ :=
  ((trades.filter (fun t => bucketKey key t = k)).map TradeRow.grossPnL).sum

theorem finish_groupRow : (DimensionRow.finish (groupRow k ts)).pnl =
    roundTo (ts.map TradeRow.grossPnL).sum 2 := by
  unfold DimensionRow.finish
  split
  · rfl
  · next hempty =>
    have hnil : ts = [] := length_eq_zero_iff.mp (Nat.eq_zero_of_not_pos hempty)
    simp [hnil, groupRow, roundTo_zero]

theorem bucketPnL_cents {key : TradeRow → String}
    (h : ∀ t ∈ ts, ∃ n : Int, t.grossPnL * 10 ^ 2 = n) (k : String) :
    roundTo (bucketPnL key ts k) 2 = bucketPnL key ts k := by
  rw [roundTo_eq_self_iff]
  have hsum : ∀ us : List TradeRow, (∀ t ∈ us, ∃ n : Int, t.grossPnL * 10 ^ 2 = n) →
      ∃ n : Int, (us.map TradeRow.grossPnL).sum * 10 ^ 2 = n := by
    intro us hus
    induction us with
    | nil => exact ⟨0, by simp⟩
    | cons t us ih =>
      obtain ⟨m, hm⟩ := hus t mem_cons_self
      obtain ⟨n, hn⟩ := ih (fun t ht => hus t (mem_cons_of_mem _ ht))
      exact ⟨m + n, by rw [map_cons, sum_cons, add_mul, hm, hn, Int.cast_add]⟩
  exact hsum _ (fun t ht => h t (mem_filter.mp ht).1)

def DimensionRow.rank : ℕᵒᵈ ×ₗ String := toLex (OrderDual.toDual x.trades, x.key)

theorem before_iff (y : DimensionRow) : x.before y ↔ x.rank ≤ y.rank := by
  unfold DimensionRow.before DimensionRow.rank
  rw [Prod.Lex.toLex_le_toLex]
  split
  · next hne => simp [hne]
  · next heq => simp [not_not.mp heq]

theorem pairwise_breakdown (trades : List TradeRow) :
    (dimensionBreakdown key trades).Pairwise (fun x y => x.before y = true) := by
  refine pairwise_mergeSort ?_ ?_ _
  · intro x y z hxy hyz
    rw [before_iff] at hxy hyz ⊢
    exact hxy.trans hyz
  · intro x y
    rw [Bool.or_eq_true, before_iff, before_iff]
    exact le_total _ _

theorem breakdown_perm (key : TradeRow → String) (trades : List TradeRow) :
    ∃ keys : List String, keys.Nodup ∧ (∀ k, k ∈ keys ↔ k ∈ trades.map (bucketKey key)) ∧
      (dimensionBreakdown key trades).Perm (keys.map (fun k =>
        DimensionRow.finish (groupRow k (trades.filter (fun t => bucketKey key t = k))))) := by
  obtain ⟨hnd, hm, hr⟩ := buckets_eq key trades
  refine ⟨_, hnd, hm, ?_⟩
  unfold dimensionBreakdown
  simp only [hr]
  exact mergeSort_perm _ _

end Breakdown

structure Behavior where
  (sameDaySamePairCount afterLossWithinHourCount fridayTrades weekdayTrades : Nat := 0)
  maxTradesInOneDay : Nat := 0

def zeroTime : Int := -62135596800 * 1000000000

def hour : Int := 60 * minuteNanos

def afterLoss (cur : TradeRow) : List TradeRow → Bool
  | [] => false
  | prev :: rest =>
    if prev.closedAt = zeroTime then afterLoss cur rest
    else
      let delta := subTime cur.openedAt prev.closedAt
      if delta < 0 ∨ hour < delta then false
      else if prev.ended .loss then true
      else afterLoss cur rest

def afterLossCount : List TradeRow → List TradeRow → Nat
  | _, [] => 0
  | past, cur :: rest => (afterLoss cur past).toNat + afterLossCount (cur :: past) rest

def computeBehavior : Behavior :=
  let days := trades.map (fun t => nanoDay t.openedAt)
  let pairs := trades.map (fun t => (nanoDay t.openedAt, t.symbol))
  let fridays := days.countP (fun day => weekday day = 4)
  { fridayTrades := fridays, weekdayTrades := days.length - fridays
    maxTradesInOneDay := (days.dedup.map days.count).foldl max 0
    sameDaySamePairCount := (pairs.dedup.map (fun pair => pairs.count pair - 1)).sum
    afterLossWithinHourCount := afterLossCount [] trades }

def SoonAfter (cur prev : TradeRow) : Prop :=
  prev.outcome = some .loss ∧ prev.closedAt ≤ cur.openedAt ∧ cur.openedAt ≤ prev.closedAt + hour

instance (cur prev : TradeRow) : Decidable (SoonAfter cur prev) :=
  inferInstanceAs (Decidable (_ ∧ _))

/-- On the way back from `cur` a loss is reached before a trade that closed after `cur` opened or
more than an hour earlier; trades without a closing time are passed over. -/
def Reached (cur : TradeRow) (past : List TradeRow) : Prop :=
  ∃ between loss older, past = between ++ loss :: older ∧ loss.closedAt ≠ zeroTime ∧
    SoonAfter cur loss ∧ ∀ t ∈ between, t.closedAt ≠ zeroTime →
      t.closedAt ≤ cur.openedAt ∧ cur.openedAt ≤ t.closedAt + hour

/-- Every trade that was opened within an hour of a losing close reaches one. -/
def LossesReached : Prop :=
  ∀ before cur after, trades = before ++ cur :: after → (∃ prev ∈ trades, SoonAfter cur prev) →
    Reached cur before.reverse

section AfterLoss

variable {cur prev : TradeRow} {past : List TradeRow} {trades}

theorem within_hour_iff (t u : Int) :
    ¬ (subTime t u < 0 ∨ hour < subTime t u) ↔ u ≤ t ∧ t ≤ u + hour := by
  rw [not_or, not_lt, not_lt, subTime_nonneg_iff, subTime_le_iff (by decide) (by decide)]

theorem reached_cons : Reached cur (prev :: past) ↔
    (prev.closedAt ≠ zeroTime ∧ SoonAfter cur prev) ∨
      ((prev.closedAt ≠ zeroTime → prev.closedAt ≤ cur.openedAt ∧
        cur.openedAt ≤ prev.closedAt + hour) ∧ Reached cur past) := by
  constructor
  · rintro ⟨_ | ⟨_, between⟩, loss, older, hsplit, hclosed, hsoon, hnear⟩
    · cases hsplit
      exact .inl ⟨hclosed, hsoon⟩
    · cases hsplit
      exact .inr ⟨hnear prev mem_cons_self, between, loss, older, rfl, hclosed, hsoon,
        fun t ht => hnear t (mem_cons_of_mem _ ht)⟩
  · rintro (⟨hclosed, hsoon⟩ | ⟨hprev, between, loss, older, rfl, hclosed, hsoon, hnear⟩)
    · exact ⟨[], prev, past, rfl, hclosed, hsoon, by simp⟩
    · exact ⟨prev :: between, loss, older, rfl, hclosed, hsoon, forall_mem_cons.mpr ⟨hprev, hnear⟩⟩

theorem afterLoss_iff : afterLoss cur past ↔ Reached cur past := by
  induction past with
  | nil => simp [afterLoss, Reached]
  | cons prev past ih =>
    rw [afterLoss, reached_cons]
    split
    next hopen => simp [hopen, ih]
    next hclosed =>
      have hended : prev.ended .loss ↔ prev.outcome = some .loss := by simp [TradeRow.ended]
      have hnear := within_hour_iff cur.openedAt prev.closedAt
      dsimp only
      split
      next hfar =>
        simp only [SoonAfter, Bool.false_eq_true]
        tauto
      next => split <;> simp only [SoonAfter] <;> tauto

theorem Reached.exists_soonAfter (h : Reached cur past) : ∃ prev ∈ past, SoonAfter cur prev := by
  obtain ⟨between, loss, older, rfl, -, hsoon, -⟩ := h
  exact ⟨loss, by simp, hsoon⟩

/-- The loop counts no trade too many, so the counts are equal iff it misses none. -/
theorem afterLossCount_eq_iff (all : List TradeRow) (hpast : ∀ t ∈ past, t ∈ all)
    (hrest : ∀ t ∈ trades, t ∈ all) :
    afterLossCount past trades ≤ trades.countP (fun cur => ∃ prev ∈ all, SoonAfter cur prev) ∧
      (afterLossCount past trades =
          trades.countP (fun cur => ∃ prev ∈ all, SoonAfter cur prev) ↔
        ∀ before cur after, trades = before ++ cur :: after →
          (∃ prev ∈ all, SoonAfter cur prev) → Reached cur (before.reverse ++ past)) := by
  induction trades generalizing past with
  | nil => simp [afterLossCount]
  | cons cur trades ih =>
    obtain ⟨hcur, hrest⟩ := forall_mem_cons.mp hrest
    obtain ⟨hle, hiff⟩ := @ih (cur :: past) (forall_mem_cons.mpr ⟨hcur, hpast⟩) hrest
    have hsplit : (∀ before cur' after, cur :: trades = before ++ cur' :: after →
          (∃ prev ∈ all, SoonAfter cur' prev) → Reached cur' (before.reverse ++ past)) ↔
        ((∃ prev ∈ all, SoonAfter cur prev) → Reached cur past) ∧
          ∀ before cur' after, trades = before ++ cur' :: after →
            (∃ prev ∈ all, SoonAfter cur' prev) → Reached cur' (before.reverse ++ cur :: past) := by
      constructor
      · intro h
        refine ⟨h [] cur trades rfl, ?_⟩
        rintro before cur' after rfl hsoon
        simpa using h (cur :: before) cur' after rfl hsoon
      · rintro ⟨hfirst, hlater⟩ (_ | ⟨_, before⟩) cur' after heq hsoon
        · cases heq
          exact hfirst hsoon
        · cases heq
          simpa using hlater before cur' after rfl hsoon
    rw [hsplit, ← hiff, afterLossCount, countP_cons]
    generalize trades.countP (fun cur => ∃ prev ∈ all, SoonAfter cur prev) = n at hle
    by_cases hreached : Reached cur past
    · obtain ⟨prev, hprev, hsoon⟩ := hreached.exists_soonAfter
      have hsome : ∃ prev ∈ all, SoonAfter cur prev := ⟨prev, hpast prev hprev, hsoon⟩
      simp only [afterLoss_iff.mpr hreached, hsome, hreached, decide_true, if_true,
        Bool.toNat_true, true_implies, true_and]
      omega
    · have hmissed : afterLoss cur past = false := by
        rw [Bool.eq_false_iff, Ne, afterLoss_iff]
        exact hreached
      by_cases hsome : ∃ prev ∈ all, SoonAfter cur prev
      · simp only [hmissed, hsome, hreached, decide_true, if_true, Bool.toNat_false,
          true_implies, false_and, iff_false]
        omega
      · simp only [hmissed, hsome, decide_false, Bool.toNat_false, false_implies, true_and]
        exact ⟨by simpa using hle, by simp⟩

end AfterLoss

/-- The count is exact iff no loss is hidden behind a trade that closed too late. -/
theorem after_loss_count_exact (trades : List TradeRow) :
    (computeBehavior trades).afterLossWithinHourCount =
        trades.countP (fun cur => ∃ prev ∈ trades, SoonAfter cur prev) ↔
      LossesReached trades := by
  simpa only [LossesReached, computeBehavior, append_nil] using
    (afterLossCount_eq_iff trades (forall_mem_nil _) (fun _ ht => ht)).2

theorem overlap_hides_loss :
    let trades : List TradeRow :=
      [{ outcome := some .loss, openedAt := 0, closedAt := 60 * minuteNanos },
      { outcome := some .win, openedAt := 30 * minuteNanos, closedAt := 75 * minuteNanos },
      { outcome := some .win, openedAt := 70 * minuteNanos, closedAt := 90 * minuteNanos }]
    trades.Pairwise (fun t u => t.closedAt ≤ u.closedAt) ∧
      (computeBehavior trades).afterLossWithinHourCount = 0 ∧
      trades.countP (fun cur => ∃ prev ∈ trades, SoonAfter cur prev) = 1 := by
  decide

end ETradie.Management
