import ETradie.Gateway.Decision

namespace ETradie.Gateway

open Kernel

structure PlanContext where
  py : Processor.PythonText
  coercions : Processor.Coercions
  requireCitations : Bool
  /-- The symbol the analysis was asked for. -/
  symbol : String
  matching : Option CandidateParams
  go : CaseMap
  cfg : Execution.Config
  userId : String
  params : Execution.RuntimeParams
  now : Int
  reads : Execution.ValidationCheck → Execution.CheckReads
  draw : Execution.OrderDraw

inductive PlanFailure where
  | unparsed (failure : Processor.ParseFailure)
  | notValid
  | undecodable
  | invalidRequest (error : String)
  | checkFailed (failure : Execution.ValidationFailure)
  | notSized (error : String)
deriving DecidableEq

structure PlannedOrder where
  analysis : Processor.AnalysisOutput
  request : Execution.ExecuteTradeRequest
  order : Execution.Order
deriving DecidableEq

section Stations

variable (ctx : PlanContext)

def tradeOf (req : Execution.ExecuteTradeRequest) : Execution.TradeRequest :=
  { Execution.parseRequest ctx.go req with userId := ctx.userId }

def orderOf (req : Execution.ExecuteTradeRequest) : Except PlanFailure Execution.Order :=
  match Execution.validateRequest ctx.go req with
  | .error e => .error (.invalidRequest e)
  | .ok () =>
    match Execution.validate ctx.go ctx.cfg (tradeOf ctx req) ctx.params ctx.now ctx.reads with
    | .error failure => .error (.checkFailed failure)
    | .ok () =>
      match Execution.prepareOrder ctx.go ctx.cfg (tradeOf ctx req) ctx.draw with
      | .error e => .error (.notSized e)
      | .ok order => .ok order

def decisionOf (analysis : Processor.AnalysisOutput) : Processor.ProcessorOutput :=
  Processor.mapToProcessorOutput ctx.py { analysis with pair := ctx.symbol }

def orderFromText (text : List Char) : Except PlanFailure PlannedOrder :=
  match Processor.parseLlmResponse ctx.py ctx.coercions ctx.requireCitations text with
  | .error failure => .error (.unparsed failure)
  | .ok (analysis, _) =>
    if (decisionOf ctx analysis).tradeValid then
      match receiveOutput (decisionOf ctx analysis) with
      | none => .error .undecodable
      | some d =>
        let request := buildExecuteRequest (injectCandidate ctx.matching d)
        match orderOf ctx request with
        | .error e => .error e
        | .ok order => .ok ⟨analysis, request, order⟩
    else .error .notValid

end Stations

def SidesSound (direction : String) (low high entry stop rr : ℚ) (targets : List ℚ) : Prop :=
  targets ≠ [] ∧
    ((direction = "LONG" ∧ stop < low ∧ (∀ t ∈ targets, high < t) ∧
        ∃ far ∈ targets, (∀ t ∈ targets, t ≤ far) ∧ rr ≤ (far - entry) / (entry - stop)) ∨
      (direction = "SHORT" ∧ high < stop ∧ (∀ t ∈ targets, t < low) ∧
        ∃ far ∈ targets, (∀ t ∈ targets, far ≤ t) ∧ rr ≤ (entry - far) / (stop - entry)))

def orderTargets (o : Execution.Order) : List ℚ :=
  [o.tp1Price, o.tp2Price, o.tp3Price].filter (fun t => 0 < t)

def OrderSound (p : PlannedOrder) : Prop :=
  SidesSound p.order.direction p.request.entryZoneLow p.request.entryZoneHigh
    p.order.entryPrice p.order.stopLoss p.order.rrRatio (orderTargets p.order)

variable (a : Processor.AnalysisOutput)

def planTargets : List ℚ :=
  ((a.takeProfits.take 3).filterMap Processor.TakeProfitLevel.level).filter (fun t => 0 < t)

def PlanSound : Prop :=
  ∃ low high stop rr,
    a.entryZone = ⟨some low, some high⟩ ∧ a.stopLoss.price = some stop ∧
      a.rrRatio = some rr ∧
      SidesSound a.direction low high ((low + high) / 2) stop rr (planTargets a)

theorem filter_level_getD (tps : List Processor.TakeProfitLevel) :
    (tps.map (·.level.getD 0)).filter (fun t => 0 < t) =
      (tps.filterMap Processor.TakeProfitLevel.level).filter (fun t => 0 < t) := by
  induction tps with
  | nil => rfl
  | cons tp _ ih =>
    cases hlvl : tp.level with
    | none => simp [hlvl, ih]
    | some level =>
      by_cases hpos : 0 < level
      · simp [hlvl, hpos, ih]
      · simp [hlvl, hpos, ih]

theorem filter_targetPrices :
    [(Processor.targetPrice a 0).getD 0, (Processor.targetPrice a 1).getD 0,
        (Processor.targetPrice a 2).getD 0].filter (fun t => 0 < t) =
      planTargets a := by
  unfold planTargets Processor.targetPrice
  rw [← filter_level_getD]
  rcases a.takeProfits with _ | ⟨-, _ | ⟨-, _ | ⟨-, -⟩⟩⟩
  · simp
  · rfl
  · rfl
  · rfl

theorem upper_direction (text : CaseMap) {direction : String}
    (h : direction = "LONG" ∨ direction = "SHORT") :
    text.upper (trimSpace direction) = direction := by
  rcases h with rfl | rfl
  · have htrim : trimSpace "LONG" = "LONG" := by decide
    rw [htrim, text.upper_ascii "LONG" (by decide)]
    decide
  · have htrim : trimSpace "SHORT" = "SHORT" := by decide
    rw [htrim, text.upper_ascii "SHORT" (by decide)]
    decide

variable {text : List Char} {p : PlannedOrder}

section Main

variable {ctx : PlanContext}

theorem orderOf_levels {req : Execution.ExecuteTradeRequest} {order : Execution.Order}
    (h : orderOf ctx req = .ok order) :
    Execution.validateRequest ctx.go req = .ok () ∧
      order.direction = ctx.go.upper req.direction ∧
      order.entryPrice = (req.entryZoneLow + req.entryZoneHigh) / 2 ∧
      order.stopLoss = req.stopLoss ∧ order.rrRatio = req.rrRatio ∧
      orderTargets order = [req.tp1Price, req.tp2Price, req.tp3Price].filter (fun t => 0 < t) := by
  revert h
  fun_cases orderOf ctx req
  all_goals rintro ⟨⟩
  next hval _ hord =>
    obtain ⟨-, hdrc, hent, hsp, htp1, htp2, htp3, hrr⟩ := Execution.prepareOrder_levels hord
    refine ⟨hval, hdrc, hent, hsp, hrr, ?_⟩
    unfold orderTargets
    rw [htp1, htp2, htp3]
    rfl

theorem orderFromText_stations (h : orderFromText ctx text = .ok p) :
    (p.analysis.direction = "LONG" ∨ p.analysis.direction = "SHORT") ∧
      (∃ d, receiveOutput (decisionOf ctx p.analysis) = some d ∧
        p.request = buildExecuteRequest (injectCandidate ctx.matching d)) ∧
      orderOf ctx p.request = .ok p.order := by
  revert h
  fun_cases orderFromText ctx text
  all_goals rintro ⟨⟩
  next analysis _ _ htrd d hrec _ order hord =>
    have hval := (Processor.tradeValid_iff { analysis with pair := ctx.symbol }).mp htrd
    exact ⟨hval.1, ⟨d, hrec, rfl⟩, hord⟩

theorem request_levels (h : orderFromText ctx text = .ok p) :
    ctx.go.upper p.request.direction = p.analysis.direction ∧
      p.request.entryZoneLow = p.analysis.entryZone.low.getD 0 ∧
      p.request.entryZoneHigh = p.analysis.entryZone.high.getD 0 ∧
      p.request.stopLoss = p.analysis.stopLoss.price.getD 0 ∧
      p.request.rrRatio = p.analysis.rrRatio.getD 0 ∧
      [p.request.tp1Price, p.request.tp2Price, p.request.tp3Price].filter (fun t => 0 < t) =
        planTargets p.analysis := by
  obtain ⟨hdrc, ⟨d, hrec, hreq⟩, -⟩ := orderFromText_stations h
  obtain ⟨hdir, hlow, hhi, hsp, htp1, htp2, htp3, hrr⟩ := buildExecuteRequest_levels ctx.matching d
  have hstp : p.analysis.direction ≠ "NO SETUP" := by rcases hdrc with hd | hd <;> simp [hd]
  unfold receiveOutput at hrec
  split_ifs at hrec
  cases hrec
  rw [hreq]
  refine ⟨?_, hlow, hhi, hsp, hrr, ?_⟩
  · rw [hdir]
    simp only [decisionOf, Processor.mapToProcessorOutput, hstp, ne_eq, not_false_eq_true,
      if_true, Option.getD_some]
    exact upper_direction ctx.go hdrc
  · rw [htp1, htp2, htp3]
    exact filter_targetPrices p.analysis

theorem eq_some_of_getD_pos {x : Option ℚ} (h : 0 < x.getD 0) : x = some (x.getD 0) := by
  cases x with
  | none => exact absurd h (lt_irrefl 0)
  | some v => rfl

theorem orderSound_iff_planSound (ctx : PlanContext) (text : List Char) (p : PlannedOrder)
    (h : orderFromText ctx text = .ok p) : OrderSound p ↔ PlanSound p.analysis := by
  obtain ⟨-, -, hblt⟩ := orderFromText_stations h
  obtain ⟨hval, hdrc, hent, hsp, hrr, htar⟩ := orderOf_levels hblt
  obtain ⟨hdir, hlow, hhi, hsto, hrrL, hpl⟩ := request_levels h
  obtain ⟨-, -, hlwP, hord, hstp, -, hrrP⟩ :=
    (Execution.validateRequest_ok_iff ctx.go p.request).mp hval
  have hhig : 0 < p.request.entryZoneHigh := lt_of_lt_of_le hlwP hord
  rw [hlow] at hlwP
  rw [hhi] at hhig
  rw [hsto] at hstp
  rw [hrrL] at hrrP
  have hzn : p.analysis.entryZone =
      ⟨some (p.analysis.entryZone.low.getD 0), some (p.analysis.entryZone.high.getD 0)⟩ := by
    rw [← eq_some_of_getD_pos hlwP, ← eq_some_of_getD_pos hhig]
  have hsm : OrderSound p ↔
      SidesSound p.analysis.direction (p.analysis.entryZone.low.getD 0)
        (p.analysis.entryZone.high.getD 0)
        ((p.analysis.entryZone.low.getD 0 + p.analysis.entryZone.high.getD 0) / 2)
        (p.analysis.stopLoss.price.getD 0) (p.analysis.rrRatio.getD 0)
        (planTargets p.analysis) := by
    unfold OrderSound
    rw [hdrc, hdir, hent, hsp, hrr, htar, hpl, hlow, hhi, hsto, hrrL]
  rw [hsm]
  constructor
  · intro hsid
    exact ⟨_, _, _, _, hzn, eq_some_of_getD_pos hstp, eq_some_of_getD_pos hrrP, hsid⟩
  · rintro ⟨low, high, stop, rr, hz, hs, hr, hsid⟩
    rw [hz, hs, hr]
    exact hsid

end Main

def quoted (s : String) : List Char := ['"'] ++ s.toList ++ ['"']

def member (key : String) (value : List Char) : List Char := quoted key ++ [':'] ++ value

def object (members : List (List Char)) : List Char := ['{'] ++ [','].intercalate members ++ ['}']

def longPlanText (stop target : String) : List Char :=
  object
    [member "analysis_id" (quoted "a1"), member "pair" (quoted "EURUSD"),
     member "timestamp" (quoted "2026-03-16T10:00:00Z"),
     member "trading_style" (quoted "INTRADAY"), member "session" (quoted "LONDON_OPEN"),
     member "macro_bias" (object
      [member "base_currency" (object [member "bias" (quoted "BULLISH")]),
       member "quote_currency" (object [member "bias" (quoted "BEARISH")])]),
     member "dxy_bias" (object [member "direction" (quoted "BEARISH")]),
     member "cot_signal" (object [member "summary" "null".toList]),
     member "htf_bias" (object [member "structure" (quoted "bullish")]),
     member "mtf_bias" (object [member "structure" (quoted "bullish")]),
     member "entry_setup" (object [member "zone_id" (quoted "z1")]),
     member "wyckoff_phase" (object [member "phase" (quoted "markup")]),
     member "confluence_score" (object [member "score" "8".toList]),
     member "setup_grade" (quoted "A"), member "direction" (quoted "LONG"),
     member "entry_zone" (object [member "low" "1.1000".toList, member "high" "1.1010".toList]),
     member "stop_loss" (object [member "price" stop.toList]),
     member "take_profits"
      (['['] ++ object [member "level" target.toList, member "size_pct" "100".toList] ++ [']']),
     member "rr_ratio" "3".toList, member "confidence" (quoted "HIGH"),
     member "proceed_to_module_b" (quoted "YES"),
     member "explainable_reasoning" (quoted "sweep and reclaim"),
     member "rag_sources" (['['] ++ object [member "doc_id" (quoted "d1")] ++ [']'])]

def mondayMorning : PlanContext where
  py := { case := asciiCaseMap, float := fixed 1, set := ", ".intercalate }
  coercions := Processor.nativeCoercions
  requireCitations := true
  symbol := "EURUSD"
  matching := none
  go := asciiCaseMap
  cfg := {}
  userId := "u1"
  params := { maxConcurrentTrades := 3, dailyLossLimitPct := 3, weeklyDrawdownPct := 5 }
  now := 1773655200
  reads := fun _ =>
    { users := fun _ => none
      getInstrumentInfo := fun _ => .ok (Execution.eurusdInfo 0.01) }
  draw := { reads := Execution.eurusdReads 0.01 }

structure PlanLevels where
  direction : String
  entryZone : Processor.EntryZone
  (stopLoss rrRatio : Option ℚ)
  targets : List ℚ
  requestLow : ℚ
  orderDirection : String
  orderStop : ℚ
  orderTargets : List ℚ
deriving DecidableEq

def PlannedOrder.levels (p : PlannedOrder) : PlanLevels where
  direction := p.analysis.direction
  entryZone := p.analysis.entryZone
  stopLoss := p.analysis.stopLoss.price
  rrRatio := p.analysis.rrRatio
  targets := planTargets p.analysis
  requestLow := p.request.entryZoneLow
  orderDirection := p.order.direction
  orderStop := p.order.stopLoss
  orderTargets := orderTargets p.order

theorem exists_order_of_levels {l : PlanLevels}
    (h : (orderFromText mondayMorning text).toOption.map PlannedOrder.levels = some l) :
    ∃ p, orderFromText mondayMorning text = .ok p ∧ p.levels = l := by
  cases hp : orderFromText mondayMorning text with
  | error e =>
    rw [hp] at h
    cases h
  | ok p =>
    rw [hp] at h
    exact ⟨p, rfl, Option.some.inj h⟩

theorem orderSound_upright_plan :
    ∃ p, orderFromText mondayMorning (longPlanText "1.0900" "1.1400") = .ok p ∧ OrderSound p := by
  have hlvls : (orderFromText mondayMorning
      (longPlanText "1.0900" "1.1400")).toOption.map PlannedOrder.levels =
      some ⟨"LONG", ⟨some 1.1, some 1.101⟩, some 1.09, some 3, [1.14], 1.1, "LONG", 1.09,
        [1.14]⟩ := by
    decide +kernel
  obtain ⟨p, hp, hl⟩ := exists_order_of_levels hlvls
  obtain ⟨hdrc, hzn, hsp, hrr, htar, -⟩ := PlanLevels.mk.inj hl
  have hpl : PlanSound p.analysis := by
    refine ⟨1.1, 1.101, 1.09, 3, hzn, hsp, hrr, ?_⟩
    rw [hdrc, htar]
    refine ⟨by simp, .inl ⟨rfl, by norm_num, ?_, 1.14, by simp, ?_, by norm_num⟩⟩
    · intro t ht
      rw [List.mem_singleton.mp ht]
      norm_num
    · intro t ht
      exact le_of_eq (List.mem_singleton.mp ht)
  exact ⟨p, hp, (orderSound_iff_planSound mondayMorning _ p hp).mpr hpl⟩

theorem inverted_plan_becomes_order :
    ∃ p, orderFromText mondayMorning (longPlanText "1.1200" "1.0900") = .ok p ∧
      p.request.entryZoneLow = 1.1 ∧ p.order.direction = "LONG" ∧ p.order.stopLoss = 1.12 ∧
      orderTargets p.order = [1.09] ∧ ¬ OrderSound p := by
  have hlvls : (orderFromText mondayMorning
      (longPlanText "1.1200" "1.0900")).toOption.map PlannedOrder.levels =
      some ⟨"LONG", ⟨some 1.1, some 1.101⟩, some 1.12, some 3, [1.09], 1.1, "LONG", 1.12,
        [1.09]⟩ := by
    decide +kernel
  obtain ⟨p, hp, hl⟩ := exists_order_of_levels hlvls
  obtain ⟨-, -, -, -, -, hlow, hdrc, hsp, htar⟩ := PlanLevels.mk.inj hl
  refine ⟨p, hp, hlow, hdrc, hsp, htar, ?_⟩
  rintro ⟨-, ⟨-, hlo, -⟩ | ⟨hsho, -⟩⟩
  · rw [hsp, hlow] at hlo
    norm_num at hlo
  · rw [hdrc] at hsho
    exact absurd hsho (by decide)

end ETradie.Gateway
