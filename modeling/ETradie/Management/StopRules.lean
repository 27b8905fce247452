import ETradie.Management.Worker

namespace ETradie.Management

open Kernel List Trade Monitored

def trailedSL (checkPrice : ℚ) (t : Trade) : ℚ :=
  t.behind checkPrice
    (t.progress checkPrice * (1 - trailFractionForStyle t.tradingStyle t.tp1Hit))

section Distances

variable (t : Trade) (price x y z : ℚ)

theorem room_behind : t.room price (t.behind price x) = x := by
  unfold room behind
  split <;> ring

theorem room_ahead_entry : t.room price (t.ahead t.entryPrice x) = t.progress price - x := by
  unfold room ahead progress
  split <;> ring

theorem room_behind_entry : t.room price (t.behind t.entryPrice x) = t.progress price + x := by
  unfold room behind progress
  split <;> ring

theorem room_add : t.room x y + t.room y z = t.room x z := by
  unfold room
  split <;> ring

theorem tightens_iff : t.tightens x ↔ 0 < t.room x t.stopLoss := by
  unfold tightens room
  split <;> simp

theorem trailedSL_eq :
    trailedSL price t =
      t.ahead t.entryPrice
        (trailFractionForStyle t.tradingStyle t.tp1Hit * t.progress price) := by
  unfold trailedSL behind ahead progress
  split <;> ring

theorem trailFraction_bounds {style : String} (h : style ∈ trailStyles) (tp1Hit : Bool) :
    0 < trailFractionForStyle style tp1Hit ∧ trailFractionForStyle style tp1Hit < 1 := by
  revert style
  cases tp1Hit <;> decide +kernel

theorem trailFraction_tp1 (style : String) :
    trailFractionForStyle style true = trailFractionForStyle style false + 0.1 :=
  rfl

end Distances

variable {t : Trade} {m : StopMove} {price : ℚ}

theorem evaluateTrailing_eq_some (h : evaluateTrailing price t = some m) :
    0 < t.progress price ∧ t.tradingStyle ∈ trailStyles ∧ m.engine = .trailing ∧
      m.newSL = trailedSL price t ∧ 0 < t.room m.newSL t.stopLoss := by
  obtain ⟨hbet, -⟩ := evaluateTrailing_tightens h
  unfold evaluateTrailing at h
  split_ifs at h with hset hsty
  simp only [onlyTighten] at h
  split_ifs at h with hmv hsend
  cases h
  exact ⟨lt_of_not_ge hmv, hsty, rfl, rfl, (tightens_iff t _).mp hbet⟩

theorem trailedSL_between (hmv : 0 < t.progress price) (hsty : t.tradingStyle ∈ trailStyles) :
    0 < t.room (trailedSL price t) t.entryPrice ∧ 0 < t.room price (trailedSL price t) := by
  obtain ⟨hpos, hlt⟩ := trailFraction_bounds hsty t.tp1Hit
  have hba : t.room price (trailedSL price t) =
      t.progress price * (1 - trailFractionForStyle t.tradingStyle t.tp1Hit) :=
    room_behind t price _
  have hsum : t.room price (trailedSL price t) + t.room (trailedSL price t) t.entryPrice =
      t.progress price :=
    room_add t price _ _
  constructor <;> nlinarith

structure TrailCall where
  draw : StopDraw := {}
  (now price : ℚ)
  hit : Bool := false

structure TrailedStop where
  (newSL price : ℚ)
  (tp1Hit accepted : Bool)
deriving DecidableEq

structure Trailed where
  worker : Monitored
  sent : List TrailedStop := []

namespace Trailed

def trade (s : Trailed) : Trade :=
  s.worker.account.trade

def found (s : Trailed) (c : TrailCall) : Account :=
  { s.worker.account with trade := { s.trade with tp1Hit := s.trade.tp1Hit || c.hit } }

def due (s : Trailed) (c : TrailCall) : Option StopMove :=
  if throttled s.worker.lastTrailing c.now then none
  else evaluateTrailing c.price (s.found c).trade

def evaluate (s : Trailed) (c : TrailCall) : Trailed where
  worker := ({ s.worker with account := s.found c }).trail c.draw c.now c.price
  sent :=
    match s.due c with
    | none => s.sent
    | some m => ⟨m.newSL, c.price, (s.found c).trade.tp1Hit, c.draw.accepted⟩ :: s.sent

end Trailed

structure TrailedStop.Placed (x : TrailedStop) (t : Trade) : Prop where
  pastEntry : 0 < t.room x.newSL t.entryPrice
  shortOfPrice : 0 < t.room x.price x.newSL
  share : x.newSL = t.ahead t.entryPrice
    (trailFractionForStyle t.tradingStyle x.tp1Hit * t.progress x.price)

structure Ratchet (t : Trade) (s : Trailed) : Prop where
  direction : s.trade.direction = t.direction
  entry : s.trade.entryPrice = t.entryPrice
  style : s.trade.tradingStyle = t.tradingStyle
  placed : ∀ x ∈ s.sent, x.Placed t
  held : ∀ y ∈ s.sent, y.accepted = true → 0 ≤ t.room s.trade.stopLoss y.newSL
  tight : s.sent.Pairwise (fun x y => y.accepted = true → 0 < t.room x.newSL y.newSL)

section Trailing

variable {s : Trailed}

theorem StopMove.execute_trade (m : StopMove) (accepted slOk runtimeOk : Bool) (a : Account) :
    (m.execute accepted slOk runtimeOk a).trade =
      if accepted then m.record a.trade else a.trade := by
  unfold StopMove.execute
  split
  next => exact m.persist_trade slOk runtimeOk _
  next => rfl

theorem Trailed.evaluate_cases (s : Trailed) (c : TrailCall) :
    ((s.evaluate c).sent = s.sent ∧ (s.evaluate c).trade = (s.found c).trade) ∨
      ∃ m, evaluateTrailing c.price (s.found c).trade = some m ∧
        (s.evaluate c).sent =
          ⟨m.newSL, c.price, (s.found c).trade.tp1Hit, c.draw.accepted⟩ :: s.sent ∧
        (s.evaluate c).trade =
          if c.draw.accepted then m.record (s.found c).trade else (s.found c).trade := by
  unfold Trailed.evaluate Trailed.due trail runTrailing
  split
  next => exact .inl ⟨rfl, rfl⟩
  next =>
    cases evaluateTrailing c.price (s.found c).trade with
    | none => exact .inl ⟨rfl, rfl⟩
    | some m => exact .inr ⟨m, rfl, rfl, m.execute_trade _ _ _ _⟩

theorem room_congr {u : Trade} (h : u.direction = t.direction) (x y : ℚ) :
    u.room x y = t.room x y := by
  unfold room isLong
  rw [h]

theorem record_trailing (h : m.engine = .trailing) (u : Trade) :
    m.record u =
      { u with stopLoss := m.newSL, slMoves := u.slMoves + 1, status := .trailing } := by
  unfold StopMove.record
  rw [h]

theorem Ratchet.placed_due {c : TrailCall} (h : Ratchet t s)
    (hmv : evaluateTrailing c.price (s.found c).trade = some m) :
    TrailedStop.Placed ⟨m.newSL, c.price, (s.found c).trade.tp1Hit, c.draw.accepted⟩ t ∧
      0 < t.room m.newSL s.trade.stopLoss := by
  obtain ⟨hpro, hsty, -, hn, htgt⟩ := evaluateTrailing_eq_some hmv
  obtain ⟨hent, hpr⟩ := trailedSL_between hpro hsty
  have hsha := hn.trans (trailedSL_eq (s.found c).trade c.price)
  have hsm : (s.found c).trade.direction = t.direction := h.direction
  rw [← hn] at hent hpr
  rw [room_congr hsm] at hent hpr htgt
  refine ⟨⟨?_, hpr, ?_⟩, htgt⟩
  · rw [← h.entry]
    exact hent
  · rw [hsha]
    unfold ahead progress isLong
    rw [hsm, show (s.found c).trade.entryPrice = t.entryPrice from h.entry,
      show (s.found c).trade.tradingStyle = t.tradingStyle from h.style]

theorem ratchet_evaluate (h : Ratchet t s) (c : TrailCall) : Ratchet t (s.evaluate c) := by
  rcases s.evaluate_cases c with ⟨hsn, htrd⟩ | ⟨m, hmv, hsn, htrd⟩
  · exact ⟨by rw [htrd]; exact h.direction, by rw [htrd]; exact h.entry,
      by rw [htrd]; exact h.style, by rw [hsn]; exact h.placed,
      by rw [hsn, htrd]; exact h.held, by rw [hsn]; exact h.tight⟩
  · obtain ⟨hpla, htgt⟩ := h.placed_due hmv
    -- an accepted stop is the one of the trade, or the trade has moved past it
    have hps : ∀ y ∈ s.sent, y.accepted → 0 < t.room m.newSL y.newSL := by
      intro y hy hacc
      rw [← room_add t m.newSL s.trade.stopLoss y.newSL]
      exact add_pos_of_pos_of_nonneg htgt (h.held y hy hacc)
    rw [record_trailing (evaluateTrailing_tightens hmv).2] at htrd
    constructor
    case placed =>
      rw [hsn]
      exact forall_mem_cons.mpr ⟨hpla, h.placed⟩
    case tight =>
      rw [hsn]
      exact pairwise_cons.mpr ⟨hps, h.tight⟩
    case held =>
      rw [hsn, htrd]
      cases c.draw.accepted with
      | false => exact forall_mem_cons.mpr ⟨(nomatch ·), h.held⟩
      | true =>
        refine forall_mem_cons.mpr ⟨fun _ => ?_, fun y hy hy' => (hps y hy hy').le⟩
        simp [room]
    all_goals
      rw [htrd]
      split
    case direction.isTrue | direction.isFalse => exact h.direction
    case entry.isTrue | entry.isFalse => exact h.entry
    case style.isTrue | style.isFalse => exact h.style

theorem ratchet_run (h : Ratchet t s) (calls : List TrailCall) :
    Ratchet t (calls.foldl Trailed.evaluate s) := by
  induction calls generalizing s with
  | nil => exact h
  | cons c calls ih => exact ih (ratchet_evaluate h c)

theorem trailing_ratchet (a : Account) (last : Option ℚ) (calls : List TrailCall) :
    let sent := (calls.foldl Trailed.evaluate
      { worker := { account := a, lastTrailing := last } }).sent
    (∀ x ∈ sent, x.Placed a.trade) ∧
      sent.Pairwise (fun x y => y.accepted = true → 0 < a.trade.room x.newSL y.newSL) ∧
      ∀ (t : Trade) (price : ℚ), 0 < t.progress price →
        0 < t.room (trailedSL price { t with tp1Hit := true })
          (trailedSL price { t with tp1Hit := false }) := by
  have hsta : Ratchet a.trade { worker := { account := a, lastTrailing := last } } :=
    ⟨rfl, rfl, rfl, by simp, by simp, .nil⟩
  have hrun := ratchet_run hsta calls
  refine ⟨hrun.placed, hrun.tight, ?_⟩
  intro t price _
  have hst : t.room (trailedSL price { t with tp1Hit := true })
      (trailedSL price { t with tp1Hit := false }) = 0.1 * t.progress price := by
    unfold trailedSL room behind progress isLong
    simp only [trailFraction_tp1]
    split <;> ring
  rw [hst]
  positivity

end Trailing

def securedTrade : Trade :=
  { eurusdTrade 1.12 with
    tradingStyle := styleIntraday, stopLoss := 1.10025, breakevenSet := true, status := .breakeven }

theorem refused_stop_then_looser :
    (([{ draw := { accepted := false }, now := 0, price := 1.14 }, { now := 15, price := 1.12 }] :
        List TrailCall).foldl Trailed.evaluate { worker := { account := ⟨securedTrade, []⟩ } }).sent =
      [⟨1.11, 1.12, false, true⟩, ⟨1.12, 1.14, false, false⟩] := by
  decide +kernel

theorem onlyTighten_newSL {engine : StopEngine} {newSL newTP : ℚ}
    (h : onlyTighten engine newSL newTP t = some m) : m.newSL = newSL := by
  unfold onlyTighten at h
  split at h
  next =>
    cases h
    rfl
  next => cases h

variable {text : CaseMap}

theorem evaluateBreakeven_newSL {heldFor : ℚ}
    (h : evaluateBreakeven text heldFor price t = some m) :
    m.newSL = if m.engine = .breakeven then breakevenSL text t else timeTightenedSL t := by
  revert h
  fun_cases evaluateBreakeven text heldFor price t
  any_goals rintro ⟨⟩
  · rfl
  · intro h
    rw [onlyTighten_newSL h, (onlyTighten_eq_some h).2]
    rfl

theorem evaluatePreNewsRiskOff_newSL {timeToEvent : ℚ}
    (h : evaluatePreNewsRiskOff timeToEvent price t = some m) : m.newSL = newsSL price t := by
  unfold evaluatePreNewsRiskOff at h
  split_ifs at h
  exact onlyTighten_newSL h

theorem room_halvedSL (price : ℚ) (t : Trade) :
    t.room price (halvedSL price t) = t.room price t.stopLoss * 0.5 :=
  room_behind t price _

theorem room_halvedSL_pos (h : 0 < t.room (halvedSL price t) t.stopLoss) :
    0 < t.room price (halvedSL price t) := by
  have hsum := room_add t price (halvedSL price t) t.stopLoss
  have hhf := room_halvedSL price t
  linarith

theorem stop_behind_market_iff (text : CaseMap) (heldFor timeToEvent price : ℚ) (t : Trade)
    (m : StopMove) :
    (evaluateBreakeven text heldFor price t = some m →
        (0 < t.room price m.newSL ↔
          if m.engine = .breakeven then
            spreadBufferPips * breakevenPipSize text t < t.progress price
          else -(t.room t.entryPrice t.initialSL * intradaySLReductionPct) < t.progress price)) ∧
      (evaluateTrailing price t = some m → 0 < t.room price m.newSL) ∧
      (evaluatePreNewsRiskOff timeToEvent price t = some m →
        (0 < t.room price m.newSL ↔
          (0 < t.progress price → spreadBufferPips * 0.0001 < t.progress price))) := by
  refine ⟨?_, ?_, ?_⟩
  · intro h
    rw [evaluateBreakeven_newSL h]
    split
    next => rw [breakevenSL, room_ahead_entry, sub_pos]
    next => rw [timeTightenedSL, room_behind_entry, neg_lt_iff_pos_add]
  · intro h
    obtain ⟨hmv, hsty, -, hn, -⟩ := evaluateTrailing_eq_some h
    rw [hn]
    exact (trailedSL_between hmv hsty).2
  · intro h
    have htgt := (tightens_iff t _).mp (evaluatePreNewsRiskOff_tightens h).1
    rw [evaluatePreNewsRiskOff_newSL h] at htgt ⊢
    unfold newsSL at htgt ⊢
    split at htgt
    next hpro => rw [if_pos hpro, room_ahead_entry, sub_pos, imp_iff_right hpro]
    next hlo => simp [hlo, room_halvedSL_pos htgt]

def stepTrade : Trade :=
  { eurusdTrade 8003 with
    symbol := "Step Index", point := 0.1, digits := 1, tradingStyle := styleScalping
    entryPrice := 8000, stopLoss := 7998, initialSL := 7998 }

theorem stops_beyond_market :
    (evaluateBreakeven asciiCaseMap 0 8001.8 stepTrade).map StopMove.newSL = some 8002.5 ∧
      (evaluatePreNewsRiskOff 10 1.1001
        { eurusdTrade 1.12 with tradingStyle := styleScalping }).map StopMove.newSL =
        some 1.10025 := by
  decide +kernel

section TwoBreakevens

variable (text : CaseMap)

theorem ahead_injective {x y : ℚ} : t.ahead price x = t.ahead price y ↔ x = y := by
  unfold ahead
  split <;> simp

theorem breakevenPipSize_eq_iff (t : Trade) :
    breakevenPipSize text t = 0.0001 ↔
      isSyntheticSymbol text t.symbol = false ∧
        (t.digits ≤ 2 ∧ t.point = 0.0001 ∨ 2 < t.digits ∧ t.point = 0.00001) := by
  unfold breakevenPipSize pipSize
  cases isSyntheticSymbol text t.symbol with
  | true => norm_num
  | false =>
    by_cases hpt : t.point ≤ 0
    · norm_num [hpt, not_lt.mpr hpt]
      constructor <;> intro _ h <;> norm_num [h] at hpt
    · by_cases hdig : t.digits ≤ 2
      · simp [hpt, hdig]
      · have hten : ¬ t.point * 10 ≤ 0 := by linarith
        simp only [hpt, hdig, hten, if_false, Bool.false_eq_true, not_le.mp hdig]
        constructor
        · intro h
          exact ⟨trivial, .inr ⟨trivial, by linarith⟩⟩
        · rintro ⟨-, ⟨hno, -⟩ | ⟨-, h⟩⟩
          · exact hno.elim
          · rw [h]
            norm_num

theorem healBeforeBreakeven_entry (draw : StopDraw) (a : Account) :
    (healBeforeBreakeven draw a).trade.entryPrice = a.trade.entryPrice ∧
      (healBeforeBreakeven draw a).trade.direction = a.trade.direction := by
  unfold healBeforeBreakeven selfHeal
  split
  · exact ⟨rfl, rfl⟩
  · split
    · exact ⟨rfl, rfl⟩
    · split <;> exact ⟨rfl, rfl⟩

theorem breakeven_stops_agree_iff (draw : StopDraw) (a : Account) (price : ℚ)
    (hprofit : 0 < a.trade.progress price) :
    newsSL price a.trade = breakevenSL text (healBeforeBreakeven draw a).trade ↔
      let t := (healBeforeBreakeven draw a).trade
      isSyntheticSymbol text t.symbol = false ∧
        (t.digits ≤ 2 ∧ t.point = 0.0001 ∨ 2 < t.digits ∧ t.point = 0.00001) := by
  obtain ⟨hent, hdir⟩ := healBeforeBreakeven_entry draw a
  have hahe : breakevenSL text (healBeforeBreakeven draw a).trade =
      a.trade.ahead a.trade.entryPrice
        (spreadBufferPips * breakevenPipSize text (healBeforeBreakeven draw a).trade) := by
    unfold breakevenSL ahead isLong
    rw [hent, hdir]
  have hbuf : spreadBufferPips ≠ 0 := by norm_num [spreadBufferPips]
  rw [newsSL, if_pos hprofit, hahe, ahead_injective, mul_right_inj' hbuf, eq_comm]
  exact breakevenPipSize_eq_iff text _

def goldAccount : Account where
  trade :=
    { eurusdTrade 2410 with
      symbol := "XAUUSD", point := 0.01, digits := 2, entryPrice := 2400, stopLoss := 2390
      initialSL := 2390 }
  journal := []

theorem breakeven_stops_of_gold :
    (breakevenSL asciiCaseMap (healBeforeBreakeven {} goldAccount).trade,
        newsSL 2405 goldAccount.trade) = (2400.025, 2400.00025) := by
  decide +kernel

def pairAccount : Account where
  trade := { eurusdTrade 1.12 with point := 0.00001, digits := 5 }
  journal := []

theorem breakeven_stops_of_pair :
    newsSL 1.11 pairAccount.trade =
      breakevenSL asciiCaseMap (healBeforeBreakeven {} pairAccount).trade :=
  (breakeven_stops_agree_iff asciiCaseMap {} pairAccount 1.11 (by decide +kernel)).mpr
    (by decide +kernel)

end TwoBreakevens

inductive TickEngine where
  | breakeven | trailing
deriving DecidableEq

def TickEngine.last (e : TickEngine) (s : Monitored) : Option ℚ :=
  match e with
  | .breakeven => s.lastBreakeven
  | .trailing => s.lastTrailing

structure EngineCall where
  engine : TickEngine
  now : ℚ
  triggered : Bool
deriving DecidableEq

def Monitored.call (text : CaseMap) (s : Monitored) (a : MonitorAction) : Option EngineCall :=
  match a, s.phase with
  | .breakeven draw now heldFor, .breakeven price =>
    some ⟨.breakeven, now,
      (evaluateBreakeven text heldFor price (healBeforeBreakeven draw s.account).trade).isSome⟩
  | .trailing _ now, .trailing price =>
    some ⟨.trailing, now, (evaluateTrailing price s.account.trade).isSome⟩
  | _, _ => none

def EngineCall.held (c : EngineCall) (s : Monitored) : Bool :=
  throttled (c.engine.last s) c.now

structure Watched where
  worker : Monitored
  clock : ℚ
  calls : List EngineCall := []

namespace Watched

def step (text : CaseMap) (s : Watched) (a : MonitorAction) : Option Watched :=
  match s.worker.step text a with
  | none => none
  | some t =>
    match s.worker.call text a with
    | none => some { s with worker := t }
    | some c =>
      if c.now < s.clock then none
      else
        some
          { worker := t, clock := c.now
            calls := if c.held s.worker then s.calls else c :: s.calls }

def own (s : Watched) (e : TickEngine) : List EngineCall :=
  s.calls.filter (·.engine = e)

def Answers (text : CaseMap) (s : Watched) (a : MonitorAction) : Prop :=
  ∀ c, s.worker.call text a = some c → c.triggered = true →
    (∀ d ∈ s.own c.engine, d.triggered = true → 10 ≤ c.now - d.now) → c.held s.worker = false

def NotAfterIdle (text : CaseMap) (s : Watched) (a : MonitorAction) : Prop :=
  ∀ c, s.worker.call text a = some c → c.triggered = true →
    ∀ d ∈ s.own c.engine, d.triggered = false → 10 ≤ c.now - d.now

structure Recorded (s : Watched) : Prop where
  latest : ∀ e, e.last s.worker = (s.own e).head?.map EngineCall.now
  apart : ∀ e, (s.own e).Pairwise (fun c d => 10 ≤ c.now - d.now)
  past : ∀ c ∈ s.calls, c.now ≤ s.clock

def start (a : Account) (clock : ℚ) : Watched where
  worker := { account := a }
  clock := clock

end Watched

section Throttle

variable {s t : Watched} {a : MonitorAction} {c : EngineCall}

theorem last_call {w w' : Monitored} (h : w.step text a = some w') (e : TickEngine) :
    e.last w' =
      match w.call text a with
      | none => e.last w
      | some c => if c.engine = e ∧ c.held w = false then some c.now else e.last w := by
  revert h
  fun_cases Monitored.step text w a
  any_goals rintro ⟨⟩
  -- only the two engine stages of a tick move an instant
  case case2 quote draw _ => fun_cases w.tick quote draw <;> cases e <;> rfl
  case case3 draw price _ => fun_cases w.takeTarget draw price <;> cases e <;> rfl
  case case4 hph =>
    simp only [call]
    unfold secure EngineCall.held
    split <;> cases e <;> simp_all [TickEngine.last]
  case case5 hph =>
    simp only [call]
    unfold trail EngineCall.held
    split <;> cases e <;> simp_all [TickEngine.last]
  case case6 answer _ => fun_cases w.lookUp answer <;> cases e <;> rfl
  case case10 pos reads answer writeOk =>
    fun_cases w.reconcile pos reads answer writeOk <;> cases e <;> rfl
  all_goals cases e <;> rfl

theorem Watched.step_cases (h : s.step text a = some t) :
    ((∀ c, s.worker.call text a = some c → c.held s.worker) ∧ t.calls = s.calls ∧
        s.clock ≤ t.clock ∧ ∀ e : TickEngine, e.last t.worker = e.last s.worker) ∨
      ∃ c, s.worker.call text a = some c ∧ c.held s.worker = false ∧ s.clock ≤ c.now ∧
        t.calls = c :: s.calls ∧ t.clock = c.now ∧
        ∀ e : TickEngine, e.last t.worker = if c.engine = e then some c.now else e.last s.worker := by
  revert h
  fun_cases Watched.step text s a
  any_goals rintro ⟨⟩
  case case2 w hst hca =>
    refine .inl ⟨by simp [hca], rfl, le_rfl, fun e => ?_⟩
    simpa [hca] using last_call hst e
  case case4 w hst c hca hclk =>
    have hl := last_call hst
    rw [hca] at hl
    cases hhd : c.held s.worker with
    | true =>
      refine .inl ⟨?_, rfl, not_lt.mp hclk, fun e => ?_⟩
      · intro d hd
        cases hca.symm.trans hd
        exact hhd
      · simpa [hhd] using hl e
    | false =>
      refine .inr ⟨c, hca, hhd, not_lt.mp hclk, rfl, rfl, fun e => ?_⟩
      simpa [hhd] using hl e

theorem Watched.Recorded.held_iff (hs : s.Recorded) :
    c.held s.worker ↔
      ∃ d ds, s.own c.engine = d :: ds ∧ c.now - d.now < 10 := by
  unfold EngineCall.held throttled
  rw [hs.latest]
  cases s.own c.engine <;> simp

theorem Watched.Recorded.apart_of_not_held (hs : s.Recorded) (hhd : c.held s.worker = false) :
    ∀ d ∈ s.own c.engine, 10 ≤ c.now - d.now := by
  intro d hd
  obtain ⟨d₀, ds, hown⟩ := exists_cons_of_ne_nil (ne_nil_of_mem hd)
  have hfst : 10 ≤ c.now - d₀.now := by
    by_contra hlt
    exact absurd (hs.held_iff.mpr ⟨d₀, ds, hown, not_le.mp hlt⟩) (by simp [hhd])
  have hapa := hs.apart c.engine
  rw [hown] at hapa hd
  rcases mem_cons.mp hd with rfl | hrs
  · exact hfst
  · linarith [rel_of_pairwise_cons hapa hrs]

theorem recorded_step (hs : s.Recorded) (h : s.step text a = some t) : t.Recorded := by
  rcases Watched.step_cases h with ⟨-, hcal, hclk, hl⟩ |
    ⟨c, -, hhd, hclk, hcal, hnow, hl⟩
  · have hown : ∀ e, t.own e = s.own e := fun e => by rw [Watched.own, hcal]; rfl
    refine ⟨fun e => ?_, fun e => ?_, fun d hd => ?_⟩
    · rw [hl, hs.latest, hown]
    · rw [hown]
      exact hs.apart e
    · rw [hcal] at hd
      exact (hs.past d hd).trans hclk
  · have hown : ∀ e, t.own e = if c.engine = e then c :: s.own e else s.own e := by
      intro e
      simp only [Watched.own, hcal, filter_cons, decide_eq_true_eq]
    refine ⟨fun e => ?_, fun e => ?_, fun d hd => ?_⟩
    · rw [hl, hown]
      split
      next => rfl
      next => exact hs.latest e
    · rw [hown]
      split
      next he =>
        subst he
        exact pairwise_cons.mpr ⟨hs.apart_of_not_held hhd, hs.apart _⟩
      next => exact hs.apart e
    · rw [hcal] at hd
      rw [hnow]
      rcases mem_cons.mp hd with rfl | ho
      · rfl
      · exact (hs.past d ho).trans hclk

theorem answers_iff (hs : s.Recorded) (h : s.step text a = some t) :
    s.Answers text a ↔ s.NotAfterIdle text a := by
  refine forall₃_congr fun c hca _ => ?_
  have hclk : s.clock ≤ c.now := by
    simp only [Watched.step, hca] at h
    split at h
    next => cases h
    next =>
      split at h
      next => cases h
      next hle => exact not_lt.mp hle
  cases hhd : c.held s.worker with
  | false => exact iff_of_true (fun _ => rfl) fun d hd _ => hs.apart_of_not_held hhd d hd
  | true =>
    obtain ⟨d₀, ds, hown, hcl⟩ := hs.held_iff.mp hhd
    have hm : d₀ ∈ s.own c.engine := hown ▸ mem_cons_self
    have hnow : d₀.now ≤ c.now := (hs.past d₀ (mem_of_mem_filter hm)).trans hclk
    have hapa := hs.apart c.engine
    rw [hown] at hapa
    have hrs : ∀ d ∈ s.own c.engine, d = d₀ ∨ 10 ≤ c.now - d.now := by
      intro d hd
      rw [hown] at hd
      refine (mem_cons.mp hd).imp id fun hds => ?_
      linarith [rel_of_pairwise_cons hapa hds]
    cases htrig : d₀.triggered with
    | false =>
      refine iff_of_false (fun hans => ?_) fun hil => absurd (hil d₀ hm htrig) (by linarith)
      refine absurd (hans fun d hd hd' => ?_) (by simp)
      rcases hrs d hd with rfl | hfar
      · rw [htrig] at hd'
        cases hd'
      · exact hfar
    | true =>
      refine iff_of_true (fun hfar => absurd (hfar d₀ hm htrig) (by linarith)) fun d hd hil => ?_
      rcases hrs d hd with rfl | hfar
      · rw [htrig] at hil
        cases hil
      · exact hfar

theorem triggers_answered_iff (text : CaseMap) (a : Account) (clock : ℚ)
    (actions : List MonitorAction) :
    Along (Watched.step text) (Watched.Answers text) (.start a clock) actions ↔
      Along (Watched.step text) (Watched.NotAfterIdle text) (.start a clock) actions := by
  refine along_congr (Watched.step text)
    (fun _ _ _ hs h => recorded_step hs h) (fun _ _ _ hs h => answers_iff hs h) actions ?_
  refine ⟨?_, fun _ => .nil, fun c hc => nomatch hc⟩
  rintro (_ | _) <;> rfl

end Throttle

theorem quiet_tick_hides_trigger :
    (run (Watched.step asciiCaseMap) (.start ⟨eurusdTrade 1.12, []⟩ 0)
        [.tick (some ⟨1.11, 1.1102⟩) ⟨true, [], true⟩, .target {}, .breakeven {} 0 60,
          .trailing {} 0, .tick (some ⟨1.12, 1.1202⟩) ⟨true, [], true⟩,
          .target { closePartial := .error "requote" }]).map
        (fun s => (s.calls, s.worker.call asciiCaseMap (.breakeven {} 3 63),
          EngineCall.held ⟨.breakeven, 3, true⟩ s.worker)) =
      some ([⟨.trailing, 0, false⟩, ⟨.breakeven, 0, false⟩], some ⟨.breakeven, 3, true⟩, true) := by
  decide +kernel

end ETradie.Management
