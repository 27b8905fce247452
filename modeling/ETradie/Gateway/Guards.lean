import ETradie.Gateway.Decision
import ETradie.Gateway.NewsWindow

namespace ETradie.Gateway

open Kernel List

inductive GuardVerdict where
  | pass | warn | reject
deriving DecidableEq

inductive GuardRule where
  | highImpactEventProximity
  | sessionRestriction
  | counterTrendNoChoch
  | weekendGapRisk
  | lowLiquidityHours
deriving DecidableEq

def GuardRule.id : GuardRule → String
  | .highImpactEventProximity => "MR-REJECT-001"
  | .sessionRestriction => "MR-REJECT-002"
  | .counterTrendNoChoch => "MR-REJECT-006"
  | .weekendGapRisk => "MR-REJECT-008"
  | .lowLiquidityHours => "MR-REJECT-009"

structure GuardCheckResult where
  rule : GuardRule
  verdict : GuardVerdict
  reason : String
  metadata : JsonMap := []

structure GuardEvaluationResult where
  checks : List GuardCheckResult := []
  overallVerdict : GuardVerdict
  blockingRules : List String := []

structure TASymbolResult where
  symbol : String
  htfTimeframes : List String := []
  snapshots : List (String × JsonMap) := []
  overallTrend : String := ""

structure GuardClock where
  (news session weekend liquidity : Int)
deriving DecidableEq

def guardHour (now : Int) : Int := utcHour (now / 1000000000)

def guardWeekday (now : Int) : Int := weekday (nanoDay now)

section Checks

variable (text : CaseMap) (r : Rounding)

def highImpactEventLockoutMinutes : Int := 30

def checkHighImpactEventProximity (ta : TASymbolResult) (calendar : Option JsonMap) (now : Int) :
    GuardCheckResult :=
  if is247Market text ta.symbol then
    { rule := .highImpactEventProximity, verdict := .pass
      reason := "News proximity does not apply to 24/7 markets" }
  else
    let status := evaluateNewsWindow text r calendar ta.symbol now highImpactEventLockoutMinutes
    if status.dataAvailable = false then
      { rule := .highImpactEventProximity, verdict := .reject, reason := status.reason
        metadata := [("data_available", .bool false)] }
    else if status.locked then
      { rule := .highImpactEventProximity, verdict := .reject, reason := status.reason
        metadata :=
          [("event_name", .str status.eventName), ("currency", .str status.currency),
            ("minutes_until", .float status.minutesUntil)] }
    else
      { rule := .highImpactEventProximity, verdict := .pass
        reason := "No high-impact events within lockout window" }

def checkSessionRestriction (ta : TASymbolResult) (now : Int) : GuardCheckResult :=
  if is247Market text ta.symbol then
    { rule := .sessionRestriction, verdict := .pass
      reason := "Session restrictions do not apply to 24/7 markets" }
  else
    let hour := guardHour now
    let isAsian := 0 ≤ hour ∧ hour < 7
    if ¬ isAsian then
      { rule := .sessionRestriction, verdict := .pass
        reason := "Current hour " ++ toString hour ++ " UTC is outside Asian session" }
    else
      let symbol := text.upper ta.symbol
      if containsText symbol "JPY" || containsText symbol "AUD" || containsText symbol "NZD" then
        { rule := .sessionRestriction, verdict := .pass
          reason := ta.symbol ++ " is active during Asian session" }
      else
        { rule := .sessionRestriction, verdict := .reject
          reason := "Asian session restriction: " ++ ta.symbol ++
            " should not be traded 00:00-07:00 UTC"
          metadata := [("hour_utc", .int hour), ("symbol", .str ta.symbol)] }

def floatToInt (x : ℚ) : Int64 :=
  let n := if 0 ≤ x then ⌊x⌋ else -⌊-x⌋
  if -2 ^ 63 ≤ n ∧ n < 2 ^ 63 then Int64.ofInt n else Int64.minValue

def numberCount : Json → Int64
  | .int n => floatToInt n
  | .float q => floatToInt q
  | _ => 0

def chochCount (snapshot : JsonMap) : Int64 :=
  match Json.lookup snapshot "choch_events" with
  | some (.obj fields) =>
    match Json.lookup fields "count" with
    | some count => numberCount count
    | none => 0
  | some (.arr items) => Int64.ofNat items.length
  | some value => numberCount value
  | none => 0

def totalChoch (snapshots : List (String × JsonMap)) : Int64 :=
  snapshots.foldl (fun total s => total + chochCount s.2) 0

def checkCounterTrend (processor : Option ProcessorOutput) (ta : TASymbolResult) :
    GuardCheckResult :=
  let notApplicable : GuardCheckResult :=
    { rule := .counterTrendNoChoch, verdict := .pass
      reason := "Trade not valid, guard not applicable" }
  match processor with
  | none => notApplicable
  | some processor =>
    if processor.tradeValid = false then notApplicable
    else
      let trend := if ta.overallTrend = "" then "NEUTRAL" else ta.overallTrend
      let direction := text.upper processor.direction
      let isCounter :=
        (trend = "BULLISH" ∧ (direction = "SHORT" ∨ direction = "BEARISH" ∨ direction = "SELL")) ∨
          (trend = "BEARISH" ∧ (direction = "LONG" ∨ direction = "BULLISH" ∨ direction = "BUY"))
      if ¬ isCounter then
        { rule := .counterTrendNoChoch, verdict := .pass
          reason := "Trade aligns with overall multi-TF trend" }
      else
        let total := totalChoch ta.snapshots
        if 0 < total then
          { rule := .counterTrendNoChoch, verdict := .warn
            reason := "Counter-trend trade with CHoCH detected across timeframes - " ++
              "proceed with caution"
            metadata := [("total_choch_count", .int total.toInt)] }
        else
          { rule := .counterTrendNoChoch, verdict := .reject
            reason := "Counter-trend trade without any CHoCH across timeframes - " ++
              "rejected per MR-REJECT-006"
            metadata :=
              [("trend", .str trend), ("direction", .str direction),
                ("htf_timeframes", .arr (ta.htfTimeframes.map Json.str))] }

def checkWeekendGapRisk (ta : TASymbolResult) (now : Int) : GuardCheckResult :=
  if is247Market text ta.symbol then
    { rule := .weekendGapRisk, verdict := .pass
      reason := "Weekend gap risk does not apply to 24/7 markets" }
  else if guardWeekday now = 4 ∧ guardHour now ≥ 20 then
    { rule := .weekendGapRisk, verdict := .reject
      reason := "Friday after 20:00 UTC - weekend gap risk"
      metadata := [("day", .str "Friday"), ("hour", .int (guardHour now))] }
  else if guardWeekday now = 5 ∨ guardWeekday now = 6 then
    { rule := .weekendGapRisk, verdict := .reject, reason := "Weekend - market closed"
      metadata := [("day", .str (if guardWeekday now = 5 then "Saturday" else "Sunday"))] }
  else
    { rule := .weekendGapRisk, verdict := .pass, reason := "Not in weekend gap risk window" }

def checkLowLiquidityHours (ta : TASymbolResult) (now : Int) : GuardCheckResult :=
  if is247Market text ta.symbol then
    { rule := .lowLiquidityHours, verdict := .pass
      reason := "Low liquidity hours do not apply to 24/7 markets" }
  else
    let hour := guardHour now
    if hour ≥ 21 ∨ hour < 1 then
      { rule := .lowLiquidityHours, verdict := .warn
        reason := "Low liquidity period: " ++ toString hour ++ ":00 UTC"
        metadata := [("hour_utc", .int hour)] }
    else
      { rule := .lowLiquidityHours, verdict := .pass
        reason := "Normal liquidity hours: " ++ toString hour ++ ":00 UTC" }

end Checks

variable (checks : List GuardCheckResult) (acc : GuardVerdict × List String)

section Evaluation

def aggregateStep (check : GuardCheckResult) :
    GuardVerdict × List String :=
  if check.verdict = .reject then (.reject, acc.2 ++ [check.rule.id])
  else if check.verdict = .warn ∧ acc.1 ≠ .reject then (.warn, acc.2)
  else acc

def aggregate : GuardEvaluationResult :=
  let acc := checks.foldl aggregateStep (.pass, [])
  { checks := checks, overallVerdict := acc.1, blockingRules := acc.2 }

def canonicalRules : List GuardRule :=
  [.highImpactEventProximity, .sessionRestriction, .counterTrendNoChoch, .weekendGapRisk,
    .lowLiquidityHours]

def fileCheck (m : GuardRule → Option GuardCheckResult) (c : GuardCheckResult) :
    GuardRule → Option GuardCheckResult :=
  Function.update m c.rule (some c)

def byRule : GuardRule → Option GuardCheckResult := checks.foldl fileCheck (fun _ => none)

def mergeResults (pre post : Option GuardEvaluationResult) : GuardEvaluationResult :=
  match pre, post with
  | none, none => { overallVerdict := .pass }
  | _, _ =>
    let checks (result : Option GuardEvaluationResult) :=
      (result.map GuardEvaluationResult.checks).getD []
    aggregate (canonicalRules.filterMap (byRule (checks pre ++ checks post)))

variable (text : CaseMap) (r : Rounding)

def evaluatePreLLM (ta : TASymbolResult) (calendar : Option JsonMap) (clock : GuardClock) :
    GuardEvaluationResult :=
  aggregate
    [checkHighImpactEventProximity text r ta calendar clock.news,
      checkSessionRestriction text ta clock.session,
      checkWeekendGapRisk text ta clock.weekend,
      checkLowLiquidityHours text ta clock.liquidity]

def evaluatePostLLM (processor : Option ProcessorOutput) (ta : TASymbolResult) :
    GuardEvaluationResult :=
  aggregate [checkCounterTrend text processor ta]

def evaluate (processor : Option ProcessorOutput) (ta : TASymbolResult)
    (calendar : Option JsonMap) (clock : GuardClock) : GuardEvaluationResult :=
  mergeResults (some (evaluatePreLLM text r ta calendar clock))
    (some (evaluatePostLLM text processor ta))

end Evaluation

def GuardVerdict.worse : GuardVerdict → GuardVerdict → GuardVerdict
  | .reject, _ => .reject
  | _, .reject => .reject
  | .warn, _ => .warn
  | _, .warn => .warn
  | .pass, .pass => .pass

def worst : List GuardCheckResult → GuardVerdict
  | [] => .pass
  | c :: cs => c.verdict.worse (worst cs)

variable (a b : GuardVerdict)

theorem GuardVerdict.worse_assoc (c : GuardVerdict) :
    (a.worse b).worse c = a.worse (b.worse c) := by
  cases a <;> cases b <;> cases c <;> rfl

theorem GuardVerdict.pass_worse : GuardVerdict.pass.worse a = a := by cases a <;> rfl

theorem GuardVerdict.worse_pass : a.worse .pass = a := by cases a <;> rfl

theorem GuardVerdict.worse_eq_reject_iff :
    a.worse b = .reject ↔ a = .reject ∨ b = .reject := by
  cases a <;> cases b <;> decide

theorem GuardVerdict.worse_eq_pass_iff :
    a.worse b = .pass ↔ a = .pass ∧ b = .pass := by
  cases a <;> cases b <;> decide

def rejecting : List GuardCheckResult := checks.filter (·.verdict = .reject)

theorem aggregateStep_verdict (c : GuardCheckResult) :
    (aggregateStep acc c).1 = acc.1.worse c.verdict := by
  obtain ⟨v, -⟩ := acc
  unfold aggregateStep
  cases c.verdict <;> cases v <;> rfl

theorem aggregateStep_rules (c : GuardCheckResult) :
    (aggregateStep acc c).2 = acc.2 ++ (rejecting [c]).map (·.rule.id) := by
  unfold aggregateStep rejecting
  by_cases hrej : c.verdict = .reject
  · simp [hrej]
  · by_cases hwarn : c.verdict = .warn ∧ acc.1 ≠ .reject
    · simp [hwarn]
    · simp [hrej, hwarn]

theorem foldl_aggregateStep :
    checks.foldl aggregateStep acc =
      (acc.1.worse (worst checks), acc.2 ++ (rejecting checks).map (·.rule.id)) := by
  induction checks generalizing acc with
  | nil => simp [worst, rejecting, GuardVerdict.worse_pass]
  | cons c _ ih =>
    rw [foldl_cons, ih, aggregateStep_verdict, aggregateStep_rules,
      GuardVerdict.worse_assoc, append_assoc, ← map_append]
    simp only [worst, rejecting, ← filter_append, singleton_append]

theorem aggregate_eq :
    aggregate checks =
      { checks := checks, overallVerdict := worst checks
        blockingRules := (rejecting checks).map (·.rule.id) } := by
  simp only [aggregate, foldl_aggregateStep, GuardVerdict.pass_worse, nil_append]

theorem worst_eq_reject_iff :
    worst checks = .reject ↔ ∃ c ∈ checks, c.verdict = .reject := by
  induction checks with
  | nil => simp [worst]
  | cons c _ ih => simp [worst, GuardVerdict.worse_eq_reject_iff, ih]

theorem worst_eq_pass_iff :
    worst checks = .pass ↔ ∀ c ∈ checks, c.verdict = .pass := by
  induction checks with
  | nil => simp [worst]
  | cons c _ ih => simp [worst, GuardVerdict.worse_eq_pass_iff, ih]

theorem worst_eq_warn_iff :
    worst checks = .warn ↔
      (∀ c ∈ checks, c.verdict ≠ .reject) ∧ ∃ c ∈ checks, c.verdict = .warn := by
  have hrej := worst_eq_reject_iff checks
  have hpa := worst_eq_pass_iff checks
  constructor
  · intro hwarn
    have hno : ∀ c ∈ checks, c.verdict ≠ .reject := by
      intro c hc hv
      have := hrej.mpr ⟨c, hc, hv⟩
      rw [hwarn] at this
      cases this
    refine ⟨hno, ?_⟩
    by_contra hwar
    have hall : worst checks = .pass := by
      refine hpa.mpr ?_
      intro c hc
      cases hv : c.verdict with
      | pass => rfl
      | warn => exact absurd ⟨c, hc, hv⟩ hwar
      | reject => exact absurd hv (hno c hc)
    rw [hwarn] at hall
    cases hall
  · rintro ⟨hno, c, hc, hv⟩
    cases hw : worst checks with
    | pass =>
      have := hpa.mp hw c hc
      rw [hv] at this
      cases this
    | warn => rfl
    | reject =>
      obtain ⟨d, hd, hrej'⟩ := hrej.mp hw
      exact absurd hrej' (hno d hd)

theorem GuardVerdict.worse_left_comm (c : GuardVerdict) :
    a.worse (b.worse c) = b.worse (a.worse c) := by
  cases a <;> cases b <;> cases c <;> rfl

theorem worst_perm {xs ys : List GuardCheckResult} (h : xs.Perm ys) : worst xs = worst ys := by
  induction h with
  | nil => rfl
  | cons c _ ih => rw [worst, worst, ih]
  | swap c d _ => exact GuardVerdict.worse_left_comm _ _ _
  | trans _ _ ihx ihy => rw [ihx, ihy]

theorem worst_append (xs ys : List GuardCheckResult) :
    worst (xs ++ ys) = (worst xs).worse (worst ys) := by
  induction xs with
  | nil => rw [nil_append, worst, GuardVerdict.pass_worse]
  | cons c _ ih => rw [cons_append, worst, worst, ih, GuardVerdict.worse_assoc]

variable {checks}

section Merging

theorem byRule_foldl_of_absent {rule : GuardRule}
    (m : GuardRule → Option GuardCheckResult) (habs : rule ∉ checks.map GuardCheckResult.rule) :
    checks.foldl fileCheck m rule = m rule := by
  induction checks generalizing m with
  | nil => rfl
  | cons c _ ih =>
    rw [map_cons, mem_cons, not_or] at habs
    rw [foldl_cons, ih _ habs.2, fileCheck, Function.update_of_ne habs.1]

theorem byRule_foldl_of_mem {c : GuardCheckResult}
    (m : GuardRule → Option GuardCheckResult) (hdis : (checks.map GuardCheckResult.rule).Nodup)
    (hm : c ∈ checks) : checks.foldl fileCheck m c.rule = some c := by
  induction checks generalizing m with
  | nil => cases hm
  | cons d _ ih =>
    rw [map_cons, nodup_cons] at hdis
    rw [foldl_cons]
    rcases mem_cons.mp hm with rfl | hm
    · rw [byRule_foldl_of_absent _ hdis.1, fileCheck, Function.update_self]
    · exact ih _ hdis.2 hm

theorem filterMap_byRule {picked : List GuardCheckResult}
    (hdis : (checks.map GuardCheckResult.rule).Nodup) (hpic : ∀ c ∈ picked, c ∈ checks) :
    (picked.map GuardCheckResult.rule).filterMap (byRule checks) = picked := by
  induction picked with
  | nil => rfl
  | cons c _ ih =>
    have hfnd : byRule checks c.rule = some c := byRule_foldl_of_mem _ hdis (hpic c mem_cons_self)
    rw [map_cons, filterMap_cons_some hfnd, ih (fun d hd => hpic d (mem_cons_of_mem c hd))]

variable (text : CaseMap) (r : Rounding)

theorem checkHighImpactEventProximity_rule (ta : TASymbolResult) (calendar : Option JsonMap)
    (now : Int) :
    (checkHighImpactEventProximity text r ta calendar now).rule = .highImpactEventProximity := by
  simp only [checkHighImpactEventProximity]
  split_ifs <;> rfl

theorem checkSessionRestriction_rule (ta : TASymbolResult) (now : Int) :
    (checkSessionRestriction text ta now).rule = .sessionRestriction := by
  simp only [checkSessionRestriction]
  split_ifs <;> rfl

theorem checkCounterTrend_rule (processor : Option ProcessorOutput) (ta : TASymbolResult) :
    (checkCounterTrend text processor ta).rule = .counterTrendNoChoch := by
  cases processor with
  | none => rfl
  | some processor =>
    simp only [checkCounterTrend]
    split_ifs <;> rfl

theorem checkWeekendGapRisk_rule (ta : TASymbolResult) (now : Int) :
    (checkWeekendGapRisk text ta now).rule = .weekendGapRisk := by
  simp only [checkWeekendGapRisk]
  split_ifs <;> rfl

theorem checkLowLiquidityHours_rule (ta : TASymbolResult) (now : Int) :
    (checkLowLiquidityHours text ta now).rule = .lowLiquidityHours := by
  simp only [checkLowLiquidityHours]
  split_ifs <;> rfl

def allChecks (processor : Option ProcessorOutput) (ta : TASymbolResult)
    (calendar : Option JsonMap) (clock : GuardClock) : List GuardCheckResult :=
  [checkHighImpactEventProximity text r ta calendar clock.news,
    checkSessionRestriction text ta clock.session,
    checkCounterTrend text processor ta,
    checkWeekendGapRisk text ta clock.weekend,
    checkLowLiquidityHours text ta clock.liquidity]

variable (processor : Option ProcessorOutput) (ta : TASymbolResult)
variable (calendar : Option JsonMap) (clock : GuardClock)

theorem allChecks_rules :
    (allChecks text r processor ta calendar clock).map GuardCheckResult.rule = canonicalRules := by
  simp only [allChecks, map_cons, map_nil, checkHighImpactEventProximity_rule,
    checkSessionRestriction_rule, checkCounterTrend_rule, checkWeekendGapRisk_rule,
    checkLowLiquidityHours_rule, canonicalRules]

theorem phases_perm_allChecks :
    ((evaluatePreLLM text r ta calendar clock).checks ++
      (evaluatePostLLM text processor ta).checks).Perm
        (allChecks text r processor ta calendar clock) := by
  refine .cons _ (.cons _ ?_)
  -- the check of the second phase moves in front of the last two of the first
  have hl : ([checkWeekendGapRisk text ta clock.weekend,
      checkLowLiquidityHours text ta clock.liquidity] ++ [checkCounterTrend text processor ta]).Perm
        ([checkCounterTrend text processor ta] ++ [checkWeekendGapRisk text ta clock.weekend,
          checkLowLiquidityHours text ta clock.liquidity]) :=
    perm_append_comm
  exact hl

theorem merge_eq_aggregate :
    mergeResults (some (evaluatePreLLM text r ta calendar clock))
        (some (evaluatePostLLM text processor ta)) =
      aggregate (allChecks text r processor ta calendar clock) := by
  have hpm := phases_perm_allChecks text r processor ta calendar clock
  have hrul := allChecks_rules text r processor ta calendar clock
  have hdis : (((evaluatePreLLM text r ta calendar clock).checks ++
      (evaluatePostLLM text processor ta).checks).map GuardCheckResult.rule).Nodup := by
    rw [(hpm.map GuardCheckResult.rule).nodup_iff, hrul]
    decide
  have hpic := filterMap_byRule hdis
    (fun c (hc : c ∈ allChecks text r processor ta calendar clock) => hpm.mem_iff.mpr hc)
  rw [hrul] at hpic
  simp only [mergeResults, Option.map_some, Option.getD_some, hpic]

theorem totalChoch_perm {xs ys : List (String × JsonMap)} (h : xs.Perm ys) :
    totalChoch xs = totalChoch ys := by
  refine h.foldl_eq' ?_ 0
  intro a _ b _ _
  rw [Int64.add_assoc, Int64.add_assoc, Int64.add_comm (chochCount a.2)]

theorem evaluate_perm {snapshots : List (String × JsonMap)} (h : snapshots.Perm ta.snapshots) :
    evaluate text r processor { ta with snapshots := snapshots } calendar clock =
      evaluate text r processor ta calendar clock := by
  have hcou : checkCounterTrend text processor { ta with snapshots := snapshots } =
      checkCounterTrend text processor ta := by
    simp only [checkCounterTrend, totalChoch_perm h]
  unfold evaluate
  rw [merge_eq_aggregate, merge_eq_aggregate]
  simp only [allChecks, hcou]
  rfl

end Merging

theorem split_evaluation_agrees (text : CaseMap) (r : Rounding) (processor : Option ProcessorOutput)
    (ta : TASymbolResult) (calendar : Option JsonMap) (clock : GuardClock) :
    let pre := evaluatePreLLM text r ta calendar clock
    let post := evaluatePostLLM text processor ta
    let merged := mergeResults (some pre) (some post)
    (∀ snapshots, snapshots.Perm ta.snapshots →
        evaluate text r processor { ta with snapshots := snapshots } calendar clock = merged) ∧
      (merged.overallVerdict = .reject ↔ ∃ c ∈ merged.checks, c.verdict = .reject) ∧
      (merged.overallVerdict = .warn ↔
        (∀ c ∈ merged.checks, c.verdict ≠ .reject) ∧ ∃ c ∈ merged.checks, c.verdict = .warn) ∧
      (merged.overallVerdict = .pass ↔ ∀ c ∈ merged.checks, c.verdict = .pass) ∧
      merged.overallVerdict = pre.overallVerdict.worse post.overallVerdict ∧
      merged.blockingRules =
        (merged.checks.filter (fun c => c.verdict = .reject)).map (fun c => c.rule.id) ∧
      merged.checks.map GuardCheckResult.rule = canonicalRules ∧
      merged.checks.Perm (pre.checks ++ post.checks) := by
  intro pre post merged
  have hmer : merged = aggregate (allChecks text r processor ta calendar clock) :=
    merge_eq_aggregate text r processor ta calendar clock
  have hpm := phases_perm_allChecks text r processor ta calendar clock
  rw [aggregate_eq] at hmer
  refine ⟨?_, ?_, ?_, ?_, ?_, ?_, ?_, ?_⟩
  · intro snapshots hsna
    exact evaluate_perm text r processor ta calendar clock hsna
  · rw [hmer]
    exact worst_eq_reject_iff _
  · rw [hmer]
    exact worst_eq_warn_iff _
  · rw [hmer]
    exact worst_eq_pass_iff _
  · rw [hmer, ← worst_perm hpm, worst_append]
    simp only [pre, post, evaluatePreLLM, evaluatePostLLM, aggregate_eq]
  · rw [hmer]
    rfl
  · rw [hmer]
    exact allChecks_rules text r processor ta calendar clock
  · rw [hmer]
    exact hpm.symm

end ETradie.Gateway
