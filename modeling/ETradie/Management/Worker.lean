import ETradie.Kernel.Runs
import ETradie.Management.TakeProfit

namespace ETradie.Management

open Kernel Option Account TradeRecord

structure Quote where
  (bid ask : ℚ)
deriving DecidableEq

structure PositionPoll where
  (swap commission currentPrice : ℚ)
deriving DecidableEq

def polled (pos : PositionPoll) (a : Account) : Account :=
  { a with
    trade :=
      { a.trade with
        swap := pos.swap, commission := pos.commission
        currentPrice := if pos.currentPrice > 0 then pos.currentPrice else a.trade.currentPrice } }

inductive WorkerPhase where
  | idle
  | target (price : ℚ)
  | breakeven (price : ℚ)
  | trailing (price : ℚ)
deriving DecidableEq

structure Monitored where
  account : Account
  phase : WorkerPhase := .idle
  (lastBreakeven lastTrailing : Option ℚ := none)
  managed : Bool := true
  gone : Bool := false

inductive MonitorAction where
  | tick (quote : Option Quote) (draw : CloseDraw)
  | target (draw : TpDraw)
  | breakeven (draw : StopDraw) (now heldFor : ℚ)
  | trailing (draw : StopDraw) (now : ℚ)
  | poll (answer : Except String (Option PositionPoll))
  | forced (path : ForcedClose) (draw : CloseDraw) (price : ℚ)
  | correlationShock (groups : List (List String)) (stoppedSymbol : String) (draw : StopDraw)
      (price : ℚ)
  | preNews (timeToEvent : ℚ) (draw : StopDraw) (price : ℚ)
  | snapshot (pos : Option PositionInfo) (reads : SnapshotReads) (answer : HistoryAnswer)
      (writeOk : Bool)

def MonitorAction.writesOk : MonitorAction → Bool
  | .tick _ draw => draw.writeOk
  | .forced _ draw _ => draw.writeOk
  | .snapshot _ _ _ writeOk => writeOk
  | _ => true

variable (s : Monitored) (quote : Option Quote)

def tickPrice (t : Trade) : Option ℚ :=
  match quote with
  | none => none
  | some q => if t.priceForCheck q.bid q.ask ≤ 0 then none else some (t.priceForCheck q.bid q.ask)

variable (draw : TpDraw) (level : TpLevel)

def leavesNothing (t : Trade) : Bool :=
  match level with
  | .tp1 => level.closeVol t = t.remainingLotSize
  | .tp2 => level.closeVol t = t.remainingLotSize
  | .tp3 =>
    match draw.closePosition with
    | .ok () => true
    | .error _ =>
      match draw.getPosition with
      | .error _ => false
      | .ok _ => true

variable (text : CaseMap)

namespace Monitored

def tick (draw : CloseDraw) : Monitored :=
  if s.account.trade.status = .closed then { s with managed := false }
  else
    match tickPrice quote s.account.trade with
    | none => s
    | some price =>
      if s.account.trade.isSLHit price then
        { s with
          account := handleSLHit draw price (noted price s.account), gone := s.gone || draw.accepted
          managed := false }
      else { s with account := noted price s.account, phase := .target price }

def takeTarget (price : ℚ) : Monitored :=
  match evaluateTP draw price s.account with
  | .error _ => { s with phase := .breakeven price }
  | .ok (none, b) => { s with account := b, phase := .breakeven price }
  | .ok (some level, b) =>
    { s with
      account := b
      phase := if b.trade.status = .closed then .idle else .breakeven price
      gone := s.gone || leavesNothing draw level s.account.trade
      managed := b.trade.status ≠ .closed }

def secure (draw : StopDraw) (now heldFor price : ℚ) : Monitored :=
  if throttled s.lastBreakeven now then { s with phase := .trailing price }
  else
    { s with
      account := runBreakeven text draw heldFor price s.account, phase := .trailing price
      lastBreakeven := some now }

def trail (draw : StopDraw) (now price : ℚ) : Monitored :=
  if throttled s.lastTrailing now then { s with phase := .idle }
  else
    { s with account := runTrailing draw price s.account, phase := .idle, lastTrailing := some now }

def reconcile (pos : Option PositionInfo) (reads : SnapshotReads)
    (answer : HistoryAnswer) (writeOk : Bool) : Monitored :=
  match pos with
  | some p => { s with account := adopt reads p s.account }
  | none =>
    { s with account := externalClose answer writeOk s.account, gone := true, managed := false }

def lookUp (answer : Except String (Option PositionPoll)) : Monitored :=
  match answer with
  | .error _ => s
  | .ok none => { s with gone := true }
  | .ok (some pos) => { s with account := polled pos s.account }

def step (s : Monitored) (a : MonitorAction) : Option Monitored :=
  if s.managed = false then none
  else
    match a, s.phase with
    | .tick quote draw, .idle => some (s.tick quote draw)
    | .target draw, .target price => some (s.takeTarget draw price)
    | .breakeven draw now heldFor, .breakeven price => some (s.secure text draw now heldFor price)
    | .trailing draw now, .trailing price => some (s.trail draw now price)
    | .poll answer, .idle => some (s.lookUp answer)
    | .forced path draw price, _ =>
      some
        { s with
          account := path.run draw price s.account
          gone := s.gone || (path.closure draw price s.account.trade).isSome }
    | .correlationShock groups stoppedSymbol draw price, _ =>
      some { s with account := runCorrelationShock groups stoppedSymbol draw price s.account }
    | .preNews timeToEvent draw price, _ =>
      some { s with account := runPreNewsRiskOff timeToEvent draw price s.account }
    | .snapshot pos reads answer writeOk, _ => some (s.reconcile pos reads answer writeOk)
    | _, _ => none

def writingStep (s : Monitored) (a : MonitorAction) : Option Monitored :=
  if a.writesOk then s.step text a else none

def start (o : OpenTrade) : Monitored where
  account := o.account

def DroppedClosed : Prop := s.managed = false → s.gone = true

def DroppedFiled : Prop := s.managed = false → s.account.row.map TradeRecord.status = some .closed

def stopHit : Bool :=
  s.account.trade.status ≠ .closed &&
    match tickPrice quote s.account.trade with
    | none => false
    | some price => s.account.trade.isSLHit price

def levelDue : Option TpLevel :=
  match s.phase with
  | .target price => dueLevel price s.account.trade
  | _ => none

def Empties (t : Trade) : Prop := t.remainingLotSize - level.closeVol t ≤ dustLot

def ClosesAtBroker : MonitorAction → Prop
  | .tick quote draw => s.stopHit quote = true → draw.accepted = true ∨ s.gone = true
  | .target draw =>
    ∀ level, s.levelDue = some level → closeLeg draw level = .ok () →
      Empties level s.account.trade →
        leavesNothing draw level s.account.trade = true ∨ s.gone = true
  | _ => True

def ClosesRow : MonitorAction → Prop
  | .tick quote draw => s.stopHit quote = true →
      draw.accepted = true ∨ s.account.row.map TradeRecord.status = some .closed
  | .target draw =>
    ∀ level, s.levelDue = some level → closeLeg draw level = .ok () →
      Empties level s.account.trade → s.account.row.map TradeRecord.status = some .closed
  | _ => True

end Monitored

inductive MonitorMoves (s : Monitored) (a : MonitorAction) (t : Monitored) : Prop
  /-- Nothing that closes it. -/
  | quiet (hmanaged : t.managed = true)
      (hquiet : Account.Quiet s.account t.account) (hgone : s.gone = true → t.gone = true)
      (hbroker : s.ClosesAtBroker a) (hrow : s.ClosesRow a)
  /-- A forced close; the worker will find the status. -/
  | forced (c : Closure) (b : Account) (writeOk : Bool)
      (hwrite : a.writesOk = true → writeOk = true) (hmanaged : t.managed = true)
      (hquiet : Account.Quiet s.account b) (haccount : t.account = finalize c writeOk b)
      (hgone : t.gone = true) (hbroker : s.ClosesAtBroker a) (hrow : s.ClosesRow a)
  /-- A leg that leaves something. -/
  | leg (leg : Leg) (partialOk runtimeOk : Bool) (hmanaged : t.managed = true)
      (haccount : t.account = leg.book partialOk runtimeOk s.account)
      (hopen : t.account.trade.status ≠ .closed)
      (hbroker : s.ClosesAtBroker a) (hrow : s.ClosesRow a)
  /-- A trade found closed is dropped, possibly after one more leg. -/
  | leave (hmanaged : t.managed = false)
      (hclosed : s.account.trade.status = .closed) (hgone : s.gone = true → t.gone = true)
      (huser : t.account.trade.userId = s.account.trade.userId)
      (hstatus : t.account.row.map TradeRecord.status = s.account.row.map TradeRecord.status)
      (hbroker : s.ClosesAtBroker a) (hrow : s.ClosesRow a)
  /-- A stop-out. -/
  | stopOut (draw : CloseDraw) (price : ℚ) (b : Account)
      (hwrite : a.writesOk = true → draw.writeOk = true) (hmanaged : t.managed = false)
      (hquiet : Account.Quiet s.account b) (haccount : t.account = handleSLHit draw price b)
      (hgone : t.gone = (s.gone || draw.accepted))
      (hbroker : s.ClosesAtBroker a ↔ draw.accepted = true ∨ s.gone = true)
      (hrow : s.ClosesRow a ↔
        draw.accepted = true ∨ s.account.row.map TradeRecord.status = some .closed)
  /-- A leg that empties the trade. -/
  | lastLeg (leg : Leg) (partialOk runtimeOk nothing : Bool)
      (hmanaged : t.managed = false)
      (haccount : t.account = leg.book partialOk runtimeOk s.account)
      (hgone : t.gone = (s.gone || nothing))
      (hbroker : s.ClosesAtBroker a ↔ nothing = true ∨ s.gone = true)
      (hrow : s.ClosesRow a ↔ s.account.row.map TradeRecord.status = some .closed)
  /-- The position vanished. -/
  | vanished (answer : HistoryAnswer) (writeOk : Bool)
      (hwrite : a.writesOk = true → writeOk = true) (hmanaged : t.managed = false)
      (haccount : t.account = externalClose answer writeOk s.account) (hgone : t.gone = true)
      (hbroker : s.ClosesAtBroker a) (hrow : s.ClosesRow a)

variable {s}

theorem moves_tick (hmgd : s.managed) (quote : Option Quote) (draw : CloseDraw) :
    MonitorMoves s (.tick quote draw) (s.tick quote draw) := by
  unfold Monitored.tick
  split
  next hcls =>
    have hmi : s.stopHit quote = false := by simp [Monitored.stopHit, hcls]
    refine .leave rfl hcls id rfl rfl ?_ ?_
    · simp [Monitored.ClosesAtBroker, hmi]
    · simp [Monitored.ClosesRow, hmi]
  next hop =>
    split
    next hpr =>
      have hmi : s.stopHit quote = false := by simp [Monitored.stopHit, hpr]
      refine .quiet hmgd (Quiet.refl _) id ?_ ?_
      · simp [Monitored.ClosesAtBroker, hmi]
      · simp [Monitored.ClosesRow, hmi]
    next price hpr =>
      split
      next hhit =>
        have hsp : s.stopHit quote := by simp [Monitored.stopHit, hpr, hhit, hop]
        refine .stopOut draw price (noted price s.account) id rfl
          (quiet_noted price s.account) rfl rfl ?_ ?_
        · simp [Monitored.ClosesAtBroker, hsp]
        · simp [Monitored.ClosesRow, hsp]
      next hmis =>
        have hmi : s.stopHit quote = false := by simp [Monitored.stopHit, hpr, hmis]
        refine .quiet hmgd (quiet_noted price s.account) id ?_ ?_
        · simp [Monitored.ClosesAtBroker, hmi]
        · simp [Monitored.ClosesRow, hmi]

theorem book_closed_iff (price : ℚ) (a : Account) :
    (((closedLeg draw level price a.trade).book draw.partialOk draw.runtimeOk a).trade.status =
        .closed) ↔ Monitored.Empties level a.trade ∨ a.trade.status = .closed := by
  rw [Leg.book_trade, Leg.record_status]
  simp only [Monitored.Empties, closedLeg]
  by_cases hlf : a.trade.remainingLotSize - level.closeVol a.trade ≤ dustLot
  · simp [hlf]
  · simp [hlf]

theorem moves_target (hmgd : s.managed) (hu : s.account.trade.userId ≠ "")
    (draw : TpDraw) {price : ℚ} (hph : s.phase = .target price) :
    MonitorMoves s (.target draw) (s.takeTarget draw price) := by
  have hdus : s.levelDue = dueLevel price s.account.trade := by simp only [Monitored.levelDue, hph]
  unfold Monitored.takeTarget
  rcases evaluateTP_cases draw price s.account with ⟨hno, hev⟩ | ⟨level, hdue, hcl, hev⟩
  · -- no leg: neither condition asks for anything
    have hbrk : s.ClosesAtBroker (.target draw) :=
      fun level hlvl hok => absurd hok (hno level (hdus ▸ hlvl))
    have hr : s.ClosesRow (.target draw) :=
      fun level hlvl hok => absurd hok (hno level (hdus ▸ hlvl))
    rcases hev with ⟨e, hev⟩ | hev
    · rw [hev]
      exact .quiet hmgd (Quiet.refl _) id hbrk hr
    · rw [hev]
      exact .quiet hmgd (Quiet.refl _) id hbrk hr
  · -- of the level that is due they ask something only if it empties the trade
    rw [hdue] at hdus
    have hbrk : s.ClosesAtBroker (.target draw) ↔ (Monitored.Empties level s.account.trade →
        leavesNothing draw level s.account.trade ∨ s.gone) := by
      simp [Monitored.ClosesAtBroker, hdus, hcl]
    have hr : s.ClosesRow (.target draw) ↔ (Monitored.Empties level s.account.trade →
        s.account.row.map status = some .closed) := by
      simp [Monitored.ClosesRow, hdus, hcl]
    have hcls := book_closed_iff draw level price s.account
    rw [hev]
    by_cases hemp : Monitored.Empties level s.account.trade
    · rw [forall_prop_of_true hemp] at hbrk hr
      exact .lastLeg _ draw.partialOk draw.runtimeOk _
        (decide_eq_false (not_not.mpr (hcls.mpr (.inl hemp)))) rfl rfl hbrk hr
    · rw [or_iff_right hemp] at hcls
      have hbrk := hbrk.mpr (absurd · hemp)
      have hr := hr.mpr (absurd · hemp)
      by_cases hbef : s.account.trade.status = .closed
      · refine .leave (decide_eq_false (not_not.mpr (hcls.mpr hbef))) hbef ?_ ?_ ?_ hbrk hr
        · intro hgo
          simp [hgo]
        · exact (Leg.book_effect _ draw.partialOk draw.runtimeOk hu).userId
        · exact Leg.book_rowStatus _ draw.partialOk draw.runtimeOk hu
      · have hop := mt hcls.mp hbef
        exact .leg _ draw.partialOk draw.runtimeOk (decide_eq_true hop) rfl hop hbrk hr

variable {text} {t : Monitored} {a : MonitorAction}

theorem moves_of_step (hu : s.account.trade.userId ≠ "") (hst : s.step text a = some t) :
    MonitorMoves s a t := by
  revert hst
  fun_cases Monitored.step text s a
  all_goals rintro ⟨⟩
  all_goals have hmgd : s.managed := by simpa using ‹¬ s.managed = false›
  · exact moves_tick hmgd _ _
  · next hph => exact moves_target hmgd hu _ hph
  · unfold Monitored.secure
    split
    next => exact .quiet hmgd (Quiet.refl _) id trivial trivial
    next => exact .quiet hmgd (quiet_runBreakeven text _ _ _ hu) id trivial trivial
  · unfold Monitored.trail
    split
    next => exact .quiet hmgd (Quiet.refl _) id trivial trivial
    next => exact .quiet hmgd (quiet_executeMove _ _ hu) id trivial trivial
  · unfold Monitored.lookUp
    split
    next => exact .quiet hmgd (Quiet.refl _) id trivial trivial
    next => exact .quiet hmgd (Quiet.refl _) (fun _ => rfl) trivial trivial
    next => exact .quiet hmgd (quiet_memory s.account rfl rfl id) id trivial trivial
  · next path draw price =>
    rcases path.run_cases draw price hu with
      ⟨hno, hqt⟩ | ⟨c, b, hso, hacp, hqt, hrun⟩
    · refine .quiet hmgd hqt ?_ trivial trivial
      intro hgo
      simp [hgo]
    · refine .forced c b draw.writeOk id hmgd hqt hrun ?_ trivial trivial
      simp [hso]
  · exact .quiet hmgd (quiet_executeMove _ _ hu) id trivial trivial
  · exact .quiet hmgd (quiet_runPreNewsRiskOff _ _ _ hu) id trivial trivial
  · unfold Monitored.reconcile
    split
    next => exact .quiet hmgd (quiet_adopt _ _ hu) id trivial trivial
    next => exact .vanished _ _ id rfl rfl rfl trivial trivial

structure Tracked (s : Monitored) : Prop where
  owned : s.account.trade.userId ≠ ""
  gone : s.managed = true → s.account.trade.status = .closed → s.gone = true

variable {b : Account}

theorem finalize_kept (c : Closure) (writeOk : Bool) (hu : b.trade.userId ≠ "") :
    (finalize c writeOk b).trade.userId = b.trade.userId ∧
      (finalize c writeOk b).row.isSome = b.row.isSome := by
  have heff := finalize_effect c writeOk hu
  exact ⟨heff.userId, by rw [heff.row, isSome_map]⟩

theorem Account.Quiet.isSome {c : Account} (h : Account.Quiet b c) :
    c.row.isSome = b.row.isSome := by
  rw [← isSome_map (f := TradeRecord.status), h.status, isSome_map]

theorem kept_of_moves (hu : s.account.trade.userId ≠ "") (hmv : MonitorMoves s a t) :
    t.account.trade.userId = s.account.trade.userId ∧
      t.account.row.isSome = s.account.row.isSome := by
  cases hmv with
  | quiet _ hqt => exact ⟨hqt.userId, hqt.isSome⟩
  | forced c b writeOk _ _ hqt hacc =>
    obtain ⟨howr, hr⟩ := finalize_kept c writeOk (hqt.owned hu)
    rw [hacc]
    exact ⟨howr.trans hqt.userId, hr.trans hqt.isSome⟩
  | leg leg partialOk runtimeOk _ hacc | lastLeg leg partialOk runtimeOk _ _ hacc =>
    have heff := leg.book_effect partialOk runtimeOk hu
    rw [hacc]
    exact ⟨heff.userId, by rw [heff.row, isSome_map]⟩
  | leave _ _ _ howr hsts =>
    refine ⟨howr, ?_⟩
    rw [← isSome_map (f := status), hsts, isSome_map]
  | stopOut draw price b _ _ hqt hacc =>
    rw [hacc, handleSLHit]
    split
    next =>
      obtain ⟨howr, hr⟩ := finalize_kept (stopClosure draw.answers price b.trade)
        draw.writeOk (hqt.owned hu)
      exact ⟨howr.trans hqt.userId, hr.trans hqt.isSome⟩
    next => exact ⟨hqt.userId, hqt.isSome⟩
  | vanished _ writeOk _ _ hacc =>
    rw [hacc]
    exact finalize_kept _ writeOk hu

theorem tracked_step (htra : Tracked s) (hmgd : s.managed)
    (hmv : MonitorMoves s a t) : Tracked t := by
  refine ⟨(kept_of_moves htra.owned hmv).1 ▸ htra.owned, ?_⟩
  intro hstl hcls
  cases hmv with
  | quiet _ hqt hgo => exact hgo (htra.gone hmgd (hqt.closed hcls))
  | forced _ _ _ _ _ _ _ hgo => exact hgo
  | leg _ _ _ _ _ hop => exact absurd hcls hop
  | leave hdrp | stopOut _ _ _ _ hdrp | lastLeg _ _ _ _ hdrp
  | vanished _ _ _ hdrp => rw [hdrp] at hstl; cases hstl

theorem managed_of_step (hst : s.step text a = some t) : s.managed := by
  unfold Monitored.step at hst
  split at hst
  next => cases hst
  next h => simpa using h

theorem droppedClosed_step_iff (htra : Tracked s) (hmgd : s.managed)
    (hmv : MonitorMoves s a t) : t.DroppedClosed ↔ s.ClosesAtBroker a := by
  cases hmv with
  | quiet hsty _ _ hbrk | forced _ _ _ _ hsty _ _ _ hbrk
  | leg _ _ _ hsty _ _ hbrk => exact iff_of_true (fun h => by rw [hsty] at h; cases h) hbrk
  | leave _ hcls hgo _ _ hbrk => exact iff_of_true (fun _ => hgo (htra.gone hmgd hcls)) hbrk
  | stopOut draw _ _ _ hdrp _ _ hgo hbrk
  | lastLeg _ _ _ _ hdrp _ hgo hbrk =>
    rw [hbrk, Monitored.DroppedClosed, hdrp, hgo, Bool.or_eq_true]
    simp only [true_implies]
    exact Or.comm
  | vanished _ _ _ _ _ hgo hbrk => exact iff_of_true (fun _ => hgo) hbrk

structure Filed (s : Monitored) : Prop where
  owned : s.account.trade.userId ≠ ""
  booked : s.account.row.isSome = true
  closed : s.managed = true → s.account.trade.status = .closed →
    s.account.row.map TradeRecord.status = some .closed

theorem finalize_closes_row (c : Closure) (hu : b.trade.userId ≠ "")
    (hbkd : b.row.isSome) :
    (finalize c true b).row.map status = some .closed := by
  obtain ⟨rec, hr⟩ := isSome_iff_exists.mp hbkd
  rw [finalize_rowStatus c hu, hr, map_some]

theorem stopOut_rowStatus {draw : CloseDraw} (hwr : draw.writeOk) (price : ℚ) (hu : b.trade.userId ≠ "") (hbkd : b.row.isSome) :
    (handleSLHit draw price b).row.map status =
      if draw.accepted then some .closed else b.row.map status := by
  unfold handleSLHit
  split
  next =>
    rw [hwr]
    exact finalize_closes_row _ hu hbkd
  next => rfl

theorem filed_step (hfld : Filed s) (hmgd : s.managed) (hwrs : a.writesOk)
    (hmv : MonitorMoves s a t) : Filed t := by
  obtain ⟨howr, hbkd⟩ := kept_of_moves hfld.owned hmv
  refine ⟨howr ▸ hfld.owned, hbkd.trans hfld.booked, ?_⟩
  intro hstl hcls
  cases hmv with
  | quiet _ hqt =>
    rw [hqt.status]
    exact hfld.closed hmgd (hqt.closed hcls)
  | forced c b _ hwr _ hqt hacc =>
    rw [hacc, hwr hwrs]
    exact finalize_closes_row c (hqt.owned hfld.owned) (hqt.isSome.trans hfld.booked)
  | leg _ _ _ _ _ hop => exact absurd hcls hop
  | leave hdrp | stopOut _ _ _ _ hdrp | lastLeg _ _ _ _ hdrp
  | vanished _ _ _ hdrp => rw [hdrp] at hstl; cases hstl

theorem droppedFiled_step_iff (hfld : Filed s) (hmgd : s.managed)
    (hwrs : a.writesOk) (hmv : MonitorMoves s a t) :
    t.DroppedFiled ↔ s.ClosesRow a := by
  cases hmv with
  | quiet hsty _ _ _ hr | forced _ _ _ _ hsty _ _ _ _ hr | leg _ _ _ hsty _ _ _ hr =>
    exact iff_of_true (fun h => by rw [hsty] at h; cases h) hr
  | leave _ hcls _ _ hsts _ hr =>
    refine iff_of_true ?_ hr
    intro _
    rw [hsts]
    exact hfld.closed hmgd hcls
  | stopOut draw price b hwr hdrp hqt hacc _ _ hr =>
    have hsts := stopOut_rowStatus (hwr hwrs) price (hqt.owned hfld.owned)
      (hqt.isSome.trans hfld.booked)
    rw [hr, Monitored.DroppedFiled, hdrp, hacc, hsts, hqt.status]
    cases draw.accepted <;> simp
  | lastLeg leg partialOk runtimeOk _ hdrp hacc _ _ hr =>
    rw [hr, Monitored.DroppedFiled, hdrp, hacc, leg.book_rowStatus partialOk runtimeOk hfld.owned]
    simp
  | vanished _ _ hwr _ hacc _ _ hr =>
    refine iff_of_true ?_ hr
    intro _
    rw [hacc, externalClose, hwr hwrs]
    exact finalize_closes_row _ hfld.owned hfld.booked

def stoppedOpen : OpenTrade :=
  OpenTrade.register (eurusdTrade 1.12) [] [(eurusdTrade 1.12).record.stored] none (by decide) rfl

end ETradie.Management
