import ETradie.Kernel.Runs
import ETradie.Management.TakeProfit

/-!
# Stop moves of one trade

The worker, the calendar poll and the alert consumer evaluate a stop move, send it and learn the
broker's answer in steps of their own; reconciler adoptions, take-profit legs and closes come in
between.  The log has the stops that were sent with the stop that stood at that moment.
-/

namespace ETradie.Management

open Kernel

inductive Desk where
  | worker | calendar | alerts
deriving DecidableEq

structure PendingMove where
  move : StopMove
  isLong : Bool
  seen : ℚ
deriving DecidableEq

structure SentStop where
  isLong : Bool
  (current newSL : ℚ)
deriving DecidableEq

def tight (isLong : Bool) (current newSL : ℚ) : Bool :=
  current ≤ 0 || (0 < newSL && if isLong then current ≤ newSL else newSL ≤ current)

variable (text : CaseMap)

/-- The stop of the trade is unset or not beyond entry plus (for a short: minus) the break-even
buffer. -/
def Trade.NotBeyondBreakeven (t : Trade) : Prop :=
  let buffer := spreadBufferPips * breakevenPipSize text t
  t.stopLoss ≤ 0 ∨
    if t.isLong then t.stopLoss ≤ t.entryPrice + buffer
    else 0 < t.entryPrice - buffer ∧ t.entryPrice - buffer ≤ t.stopLoss

structure StopBook where
  account : Account
  pending : Desk → Option PendingMove := fun _ => none
  (lastBreakeven lastTrailing : Option ℚ := none)
  log : List SentStop := []

inductive StopAction where
  | breakeven (draw : StopDraw) (now heldFor checkPrice : ℚ)
  | trailing (now checkPrice : ℚ)
  | correlationShock (groups : List (List String)) (stoppedSymbol : String) (price : ℚ)
  | cotFlip (cotDirection : String) (price : ℚ)
  | preNews (timeToEvent price : ℚ)
  | answer (desk : Desk) (accepted slOk runtimeOk : Bool)
  | adopt (reads : SnapshotReads) (pos : PositionInfo)
  | target (draw : TpDraw) (price : ℚ)
  | close (c : Closure) (writeOk : Bool)

variable (s : StopBook) (desk : Desk) (p : PendingMove)

namespace StopBook

def propose (move : Option StopMove) : StopBook :=
  match move with
  | none => s
  | some m =>
    { s with
      account :=
        if m.engine = .timeTightening then
          { s.account with trade := m.record s.account.trade }
        else s.account
      pending := Function.update s.pending desk
        (some ⟨m, s.account.trade.isLong, s.account.trade.stopLoss⟩) }

def standing : ℚ :=
  if p.move.engine = .timeTightening ∧ s.account.trade.stopLoss = p.move.newSL then p.seen
  else s.account.trade.stopLoss

def accept (slOk runtimeOk : Bool) : StopBook :=
  let moved :=
    if p.move.engine = .timeTightening then s.account
    else { s.account with trade := p.move.record s.account.trade }
  { s with
    account := p.move.persist slOk runtimeOk moved, pending := Function.update s.pending desk none
    log := ⟨p.isLong, s.standing p, p.move.newSL⟩ :: s.log }

def reject : StopBook :=
  let t := s.account.trade
  let restored :=
    if p.move.engine = .timeTightening ∧ t.stopLoss = p.move.newSL then
      { t with
        stopLoss := p.seen
        slMoves := if t.slMoves > 0 then t.slMoves - 1 else t.slMoves }
    else t
  { s with
    account := { s.account with trade := restored }
    pending := Function.update s.pending desk none }

def step : StopAction → Option StopBook
  | .breakeven draw now heldFor checkPrice =>
    if (s.pending .worker).isSome then none
    else if throttled s.lastBreakeven now then some s
    else
      let healed :=
        { s with account := healBeforeBreakeven draw s.account, lastBreakeven := some now }
      some (healed.propose .worker (evaluateBreakeven text heldFor checkPrice healed.account.trade))
  | .trailing now checkPrice =>
    if (s.pending .worker).isSome then none
    else if throttled s.lastTrailing now then some s
    else
      some (propose { s with lastTrailing := some now } .worker
        (evaluateTrailing checkPrice s.account.trade))
  | .correlationShock groups stoppedSymbol price =>
    if (s.pending .alerts).isSome then none
    else
      some (s.propose .alerts (evaluateCorrelationShock groups stoppedSymbol price s.account.trade))
  | .cotFlip cotDirection price =>
    if (s.pending .alerts).isSome then none
    else
      match evaluateCotFlip cotDirection price s.account.trade with
      | .tighten m => some (s.propose .alerts (some m))
      | _ => some s
  | .preNews timeToEvent price =>
    if (s.pending .calendar).isSome ∨ s.account.trade.status ≠ .active then none
    else
      some (s.propose .calendar (evaluatePreNewsRiskOff timeToEvent price s.account.trade))
  | .answer desk accepted slOk runtimeOk =>
    match s.pending desk with
    | none => none
    | some p => some (if accepted then s.accept desk p slOk runtimeOk else s.reject desk p)
  | .adopt reads pos => some { s with account := Management.adopt reads pos s.account }
  | .target draw price => some { s with account := afterTP draw price s.account }
  | .close c writeOk => some { s with account := finalize c writeOk s.account }

def start (o : OpenTrade) : StopBook where
  account := o.account

def NeverWidens : Prop := ∀ e ∈ s.log, tight e.isLong e.current e.newSL = true

/-- What the accepted modification has to meet in the state before it.  The break-even engine
compares nothing, the others have compared with the stop that they saw. -/
def SendsTight : StopAction → Prop
  | .answer desk true _ _ =>
    ∀ p, s.pending desk = some p →
      if p.move.engine = .breakeven then s.account.trade.NotBeyondBreakeven text
      else if s.standing p = p.seen then p.isLong = true ∨ p.seen ≤ 0 ∨ 0 < p.move.newSL
      else tight p.isLong (s.standing p) p.move.newSL = true
  | _ => True

end StopBook

def PendingMove.Improves : Prop := if p.isLong then p.seen < p.move.newSL else p.move.newSL < p.seen

/-- What the break-even stop is computed from. -/
def Trade.scale (t : Trade) : String × ℚ × Int × ℚ × Direction :=
  (t.symbol, t.point, t.digits, t.entryPrice, t.direction)

structure PendingMove.AtBreakeven (text : CaseMap) (p : PendingMove) (t : Trade) : Prop where
  newSL : p.move.newSL = breakevenSL text t
  isLong : p.isLong = t.isLong

structure StopBook.Compared (text : CaseMap) (s : StopBook) : Prop where
  improves : ∀ desk p, s.pending desk = some p → p.move.engine ≠ .breakeven → p.Improves
  breakeven : ∀ desk p, s.pending desk = some p → p.move.engine = .breakeven →
    desk = .worker ∧ p.AtBreakeven text s.account.trade

theorem tight_of_improves_iff {p : PendingMove} (h : p.Improves) :
    tight p.isLong p.seen p.move.newSL ↔ p.isLong ∨ p.seen ≤ 0 ∨ 0 < p.move.newSL := by
  unfold PendingMove.Improves at h
  simp only [tight, Bool.or_eq_true, Bool.and_eq_true]
  cases hlg : p.isLong with
  | true =>
    simp only [hlg] at h
    simp only [if_true, decide_eq_true_eq, true_or, iff_true]
    by_cases hno : p.seen ≤ 0
    · exact .inl hno
    · have hset := not_le.mp hno
      exact .inr ⟨hset.trans h, h.le⟩
  | false =>
    simp only [hlg] at h
    simp only [Bool.false_eq_true, if_false, decide_eq_true_eq, false_or]
    constructor
    · rintro (hno | ⟨hset, -⟩)
      · exact .inl hno
      · exact .inr hset
    · rintro (hno | hset)
      · exact .inl hno
      · exact .inr ⟨hset, h.le⟩

theorem tight_breakeven_iff {text : CaseMap} {p : PendingMove} {t : Trade}
    (h : p.AtBreakeven text t) :
    tight p.isLong t.stopLoss p.move.newSL ↔ t.NotBeyondBreakeven text := by
  rw [h.newSL, h.isLong]
  simp only [tight, Trade.NotBeyondBreakeven, breakevenSL, Trade.ahead, Bool.or_eq_true,
    Bool.and_eq_true, decide_eq_true_eq]
  by_cases hno : t.stopLoss ≤ 0
  · simp [hno]
  · have hset := not_le.mp hno
    by_cases hlong : t.isLong = true
    · simp only [hno, hlong, if_true, decide_eq_true_eq, false_or]
      exact and_iff_right_of_imp hset.trans_le
    · simp [hno, hlong]

variable {text} {t : StopBook} {s} {a : StopAction}

theorem PendingMove.AtBreakeven.of_scale {p : PendingMove} {t t' : Trade}
    (h : p.AtBreakeven text t) (hscale : t'.scale = t.scale) : p.AtBreakeven text t' := by
  simp only [Trade.scale, Prod.mk.injEq] at hscale
  obtain ⟨hsymbol, hpoint, hdigits, hentry, hdirection⟩ := hscale
  have hlong : t'.isLong = t.isLong := by rw [Trade.isLong, hdirection, Trade.isLong]
  refine ⟨h.newSL.trans ?_, h.isLong.trans hlong.symm⟩
  simp only [breakevenSL, Trade.ahead, breakevenPipSize, hlong, hsymbol, hpoint, hdigits, hentry]

/-- Pending moves that stay are judged as before when the trade keeps its scale. -/
theorem StopBook.Compared.keep (h : s.Compared text)
    (hpending : ∀ desk p, t.pending desk = some p → s.pending desk = some p)
    (hscale : t.account.trade.scale = s.account.trade.scale) : t.Compared text where
  improves := fun desk p hp => h.improves desk p (hpending desk p hp)
  breakeven := fun desk p hp heng =>
    (h.breakeven desk p (hpending desk p hp) heng).imp_right (·.of_scale hscale)

theorem update_none_of_some {desk other : Desk} {p : PendingMove}
    (hp : Function.update s.pending desk none other = some p) : s.pending other = some p := by
  by_cases hdesk : other = desk
  · subst hdesk
    rw [Function.update_self] at hp
    cases hp
  · rwa [Function.update_of_ne hdesk] at hp

@[simp] theorem StopMove.record_scale (m : StopMove) (t : Trade) :
    (m.record t).scale = t.scale := by
  unfold StopMove.record
  cases m.engine <;> rfl

theorem accept_scale (s : StopBook) (desk : Desk) (p : PendingMove) (slOk runtimeOk : Bool) :
    (s.accept desk p slOk runtimeOk).account.trade.scale = s.account.trade.scale := by
  simp only [StopBook.accept, StopMove.persist_trade]
  split
  · rfl
  · simp

theorem reject_scale (s : StopBook) (desk : Desk) (p : PendingMove) :
    (s.reject desk p).account.trade.scale = s.account.trade.scale := by
  simp only [StopBook.reject]
  split <;> rfl

theorem adopt_scale (reads : SnapshotReads) (pos : PositionInfo) (a : Account) :
    (adopt reads pos a).trade.scale = a.trade.scale := by
  simp only [adopt, adoptBracket, adoptVolume]
  split_ifs <;> rfl

theorem afterTP_scale (draw : TpDraw) (price : ℚ) (a : Account) :
    (afterTP draw price a).trade.scale = a.trade.scale := by
  unfold afterTP
  rcases evaluateTP_cases draw price a with ⟨-, ⟨e, h⟩ | h⟩ | ⟨level, -, -, h⟩
  · rw [h]
  · rw [h]
  · rw [h]
    simp only [Leg.book_trade, Leg.record]
    cases level <;> split <;> rfl

theorem propose_scale (s : StopBook) (desk : Desk) (move : Option StopMove) :
    (s.propose desk move).account.trade.scale = s.account.trade.scale := by
  unfold StopBook.propose
  cases move with
  | none => rfl
  | some m =>
    dsimp only
    split
    · exact m.record_scale _
    · rfl

@[simp] theorem propose_log (s : StopBook) (desk : Desk) (move : Option StopMove) :
    (s.propose desk move).log = s.log := by
  cases move <;> rfl

inductive StopMove.FoundBy (text : CaseMap) (t : Trade) (m : StopMove) : Desk → Prop
  | breakeven (heldFor checkPrice : ℚ)
      (h : evaluateBreakeven text heldFor checkPrice t = some m) : FoundBy text t m .worker
  | trailing (checkPrice : ℚ)
      (h : evaluateTrailing checkPrice t = some m) : FoundBy text t m .worker
  | correlationShock (groups : List (List String)) (stoppedSymbol : String) (price : ℚ)
      (h : evaluateCorrelationShock groups stoppedSymbol price t = some m) :
      FoundBy text t m .alerts
  | cotFlip (cotDirection : String) (price : ℚ)
      (h : evaluateCotFlip cotDirection price t = .tighten m) : FoundBy text t m .alerts
  | preNews (timeToEvent price : ℚ)
      (h : evaluatePreNewsRiskOff timeToEvent price t = some m) : FoundBy text t m .calendar

/-- Only the worker finds a break-even stop; every other stop tightens the one that was seen. -/
theorem StopMove.FoundBy.cases {t : Trade} {m : StopMove} {desk : Desk}
    (hfound : m.FoundBy text t desk) :
    (m.engine = .breakeven ∧ desk = .worker ∧ m.newSL = breakevenSL text t) ∨
      (m.engine ≠ .breakeven ∧ t.tightens m.newSL) := by
  have hother : ∀ engine, engine ≠ .breakeven → t.tightens m.newSL ∧ m.engine = engine →
      m.engine ≠ .breakeven ∧ t.tightens m.newSL := by
    rintro _ hne ⟨htight, rfl⟩
    exact ⟨hne, htight⟩
  cases hfound with
  | breakeven _ checkPrice h =>
    rcases evaluateBreakeven_cases h with ⟨heng, hnew⟩ | ⟨heng, htight⟩
    · exact .inl ⟨heng, rfl, hnew⟩
    · exact .inr (hother _ (by decide) ⟨htight, heng⟩)
  | trailing _ h => exact .inr (hother _ (by decide) (evaluateTrailing_tightens h))
  | correlationShock _ _ _ h =>
    exact .inr (hother _ (by decide) (evaluateCorrelationShock_tightens h))
  | cotFlip _ _ h => exact .inr (hother _ (by decide) (evaluateCotFlip_tightens h))
  | preNews _ _ h => exact .inr (hother _ (by decide) (evaluatePreNewsRiskOff_tightens h))

theorem compared_propose (h : s.Compared text) (desk : Desk) {move : Option StopMove}
    (hfound : ∀ m, move = some m → m.FoundBy text s.account.trade desk) :
    (s.propose desk move).Compared text := by
  cases move with
  | none => exact h
  | some m =>
    have hscale := propose_scale s desk (some m)
    have hpending : ∀ other p, (s.propose desk (some m)).pending other = some p →
        s.pending other = some p ∨
          other = desk ∧ p = ⟨m, s.account.trade.isLong, s.account.trade.stopLoss⟩ := by
      intro other p hp
      by_cases hother : other = desk
      · subst hother
        simp only [StopBook.propose, Function.update_self, Option.some.injEq] at hp
        exact .inr ⟨rfl, hp.symm⟩
      · simp only [StopBook.propose, Function.update_of_ne hother] at hp
        exact .inl hp
    refine ⟨?_, ?_⟩ <;> intro other p hp heng <;> rcases hpending other p hp with hold | ⟨rfl, rfl⟩
    · exact h.improves other p hold heng
    · have htight := ((hfound m rfl).cases.resolve_left (fun hbe => heng hbe.1)).2
      simp only [Trade.tightens] at htight
      simp only [PendingMove.Improves]
      cases hlong : s.account.trade.isLong with
      | true | false => simpa [hlong] using htight
    · exact (h.breakeven other p hold heng).imp_right (·.of_scale hscale)
    · obtain ⟨-, hdesk, hnew⟩ := (hfound m rfl).cases.resolve_right (fun hne => hne.1 heng)
      have hat : PendingMove.AtBreakeven text
          ⟨m, s.account.trade.isLong, s.account.trade.stopLoss⟩ s.account.trade := ⟨hnew, rfl⟩
      exact ⟨hdesk, hat.of_scale hscale⟩

structure StopBook.ReadyFrom (s ready : StopBook) : Prop where
  pending : ready.pending = s.pending
  log : ready.log = s.log
  account : ready.account = s.account ∨
    s.pending .worker = none ∧ ∃ draw, ready.account = healBeforeBreakeven draw s.account

def StopAction.isAnswer : StopAction → Bool
  | .answer _ _ _ _ => true
  | _ => false

inductive StopBook.Moves (text : CaseMap) (s : StopBook) : StopAction → StopBook → Prop
  | evaluated {a : StopAction} (hasks : a.isAnswer = false)
      (ready : StopBook) (hready : s.ReadyFrom ready) (desk : Desk) (move : Option StopMove)
      (hfound : ∀ m, move = some m → m.FoundBy text ready.account.trade desk) :
      Moves text s a (ready.propose desk move)
  | accepted (desk : Desk) (p : PendingMove) (slOk runtimeOk : Bool)
      (hpending : s.pending desk = some p) :
      Moves text s (.answer desk true slOk runtimeOk) (s.accept desk p slOk runtimeOk)
  | rejected (desk : Desk) (p : PendingMove) (slOk runtimeOk : Bool)
      (hpending : s.pending desk = some p) :
      Moves text s (.answer desk false slOk runtimeOk) (s.reject desk p)
  | adopted (reads : SnapshotReads) (pos : PositionInfo) :
      Moves text s (.adopt reads pos) { s with account := Management.adopt reads pos s.account }
  | executed (draw : TpDraw) (price : ℚ) :
      Moves text s (.target draw price) { s with account := afterTP draw price s.account }
  | closed (c : Closure) (writeOk : Bool) :
      Moves text s (.close c writeOk) { s with account := finalize c writeOk s.account }

theorem StopBook.ReadyFrom.refl (s : StopBook) : s.ReadyFrom s := ⟨rfl, rfl, .inl rfl⟩

theorem StopBook.Moves.idle (text : CaseMap) (s : StopBook) (hasks : a.isAnswer = false) :
    s.Moves text a s :=
  .evaluated hasks s (.refl s) .worker none (by rintro m ⟨⟩)

theorem StopBook.step_moves (hst : s.step text a = some t) : s.Moves text a t := by
  revert hst
  fun_cases StopBook.step text s a
  all_goals rintro ⟨⟩
  · exact .idle text s rfl
  · next draw _ heldFor checkPrice hfree _ healed =>
    have hready : s.ReadyFrom healed :=
      ⟨rfl, rfl, .inr ⟨Option.not_isSome_iff_eq_none.mp hfree, draw, rfl⟩⟩
    refine .evaluated ?_ healed hready .worker _ (fun _ hm => .breakeven heldFor checkPrice hm)
    rfl
  · exact .idle text s rfl
  · next now checkPrice _ _ =>
    have hready : s.ReadyFrom { s with lastTrailing := some now } := ⟨rfl, rfl, .inl rfl⟩
    refine .evaluated ?_ _ hready .worker _ (fun _ hm => .trailing checkPrice hm)
    rfl
  · exact .evaluated rfl s (.refl s) .alerts _ (fun _ hm => .correlationShock _ _ _ hm)
  · next hver =>
    refine .evaluated rfl s (.refl s) .alerts _ ?_
    rintro _ ⟨⟩
    exact .cotFlip _ _ hver
  · exact .idle text s rfl
  · exact .evaluated rfl s (.refl s) .calendar _ (fun _ hm => .preNews _ _ hm)
  · next desk accepted slOk runtimeOk p hpen =>
    cases accepted with
    | true => exact .accepted desk p slOk runtimeOk hpen
    | false => exact .rejected desk p slOk runtimeOk hpen
  · exact .adopted _ _
  · exact .executed _ _
  · exact .closed _ _

theorem StopBook.ReadyFrom.compared {ready : StopBook} (hready : s.ReadyFrom ready)
    (h : s.Compared text) : ready.Compared text := by
  have hpending : ∀ desk p, ready.pending desk = some p → s.pending desk = some p := by
    intro desk p hp
    rwa [hready.pending] at hp
  rcases hready.account with haccount | ⟨hfree, -⟩
  · exact h.keep hpending (by rw [haccount])
  · refine ⟨fun desk p hp => h.improves desk p (hpending desk p hp), ?_⟩
    -- the worker heals the scale only when no break-even stop of its own is pending
    intro desk p hp heng
    have hold := hpending desk p hp
    obtain ⟨rfl, -⟩ := h.breakeven desk p hold heng
    rw [hfree] at hold
    cases hold

theorem compared_step (h : s.Compared text) (hstep : s.step text a = some t) :
    t.Compared text := by
  cases StopBook.step_moves hstep with
  | evaluated _ _ hready desk _ hfound => exact compared_propose (hready.compared h) desk hfound
  | accepted desk p slOk runtimeOk _ =>
    exact h.keep (fun _ _ => update_none_of_some) (accept_scale s desk p slOk runtimeOk)
  | rejected desk p _ _ _ => exact h.keep (fun _ _ => update_none_of_some) (reject_scale s desk p)
  | adopted reads pos => exact h.keep (fun _ _ => id) (adopt_scale reads pos s.account)
  | executed draw price => exact h.keep (fun _ _ => id) (afterTP_scale draw price s.account)
  | closed c writeOk => exact h.keep (fun _ _ => id) rfl

theorem sendsTight_of_not_answer (text : CaseMap) (s : StopBook) (hasks : a.isAnswer = false) :
    s.SendsTight text a := by
  unfold StopBook.SendsTight
  split
  next => cases hasks
  next => exact trivial

theorem log_of_step (hstep : s.step text a = some t) :
    (t.log = s.log ∧ s.SendsTight text a) ∨
      ∃ desk p slOk runtimeOk, a = .answer desk true slOk runtimeOk ∧
        s.pending desk = some p ∧ t = s.accept desk p slOk runtimeOk := by
  cases StopBook.step_moves hstep with
  | evaluated hasks _ hready =>
    exact .inl ⟨by rw [propose_log, hready.log], sendsTight_of_not_answer text s hasks⟩
  | accepted desk p slOk runtimeOk hpending =>
    exact .inr ⟨desk, p, slOk, runtimeOk, rfl, hpending, rfl⟩
  | rejected | adopted | executed | closed => exact .inl ⟨rfl, trivial⟩

theorem neverWidens_step_iff (hcompared : s.Compared text) (hsound : s.NeverWidens)
    (hstep : s.step text a = some t) : t.NeverWidens ↔ s.SendsTight text a := by
  rcases log_of_step hstep with ⟨hlog, hcond⟩ | ⟨desk, p, slOk, runtimeOk, rfl, hpending, rfl⟩
  · refine iff_of_true ?_ hcond
    intro e he
    rw [hlog] at he
    exact hsound e he
  · have hnew : (s.accept desk p slOk runtimeOk).NeverWidens ↔
        tight p.isLong (s.standing p) p.move.newSL := by
      simp only [StopBook.NeverWidens, StopBook.accept, List.forall_mem_cons]
      exact and_iff_left hsound
    rw [hnew]
    simp only [StopBook.SendsTight, hpending, Option.some.injEq, forall_eq']
    split_ifs with heng hseen
    · have hstanding : s.standing p = s.account.trade.stopLoss := by
        simp [StopBook.standing, heng]
      rw [hstanding]
      exact tight_breakeven_iff (hcompared.breakeven desk p hpending heng).2
    · rw [hseen]
      exact tight_of_improves_iff (hcompared.improves desk p hpending heng)
    · exact Iff.rfl

/-- Over any run no accepted stop is wider than the one before it, exactly if each accepted
break-even modification is answered while the stop is not beyond break-even and each accepted
modification of another engine while the stop is the one it was compared with, or a wider one. -/
theorem neverWidens_throughout_iff (text : CaseMap) (o : OpenTrade) (actions : List StopAction) :
    Throughout (StopBook.step text) StopBook.NeverWidens (StopBook.start o) actions ↔
      Along (StopBook.step text) (StopBook.SendsTight text) (StopBook.start o) actions := by
  refine throughout_iff_along (StopBook.step text) (I := StopBook.Compared text) ?_ ?_ actions ?_ ?_
  · intro s a t hcompared hstep
    exact compared_step hcompared hstep
  · intro s a t hcompared hsound hstep
    exact neverWidens_step_iff hcompared hsound hstep
  · exact ⟨nofun, nofun⟩
  · intro e he
    cases he

def pulledUp : PositionInfo := { eurusdPosition with stopLoss := 1.105 }

def scalpOpen : OpenTrade :=
  let trade :=
    { eurusdTrade 1.12 with tradingStyle := styleScalping, point := 0.00001, digits := 5 }
  OpenTrade.register trade [] [trade.record.stored] none (by decide) rfl

theorem breakeven_lowers_manual_stop :
    (run (StopBook.step asciiCaseMap) (StopBook.start scalpOpen)
        [.adopt {} pulledUp, .breakeven {} 0 0 1.14, .answer .worker true true true]).map
        (fun s => s.log) =
      some [⟨true, 1.105, 1.10025⟩] := by
  decide +kernel

end ETradie.Management
