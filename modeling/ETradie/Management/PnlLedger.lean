import ETradie.Kernel.Runs
import ETradie.Management.TakeProfit

namespace ETradie.Management

open Kernel

structure Lifecycle where
  account : Account
  legs : List ℚ := []
  finished : Bool := false

inductive LifeEvent where
  | target (draw : TpDraw) (price : ℚ)
  | stopHit (draw : CloseDraw) (price : ℚ)
  | external (answer : HistoryAnswer) (writeOk : Bool)
  | forced (path : ForcedClose) (draw : CloseDraw) (price : ℚ)
  | moveStop (move : StopMove) (draw : StopDraw)
  | adopt (reads : SnapshotReads) (pos : PositionInfo)

def LifeEvent.writesOk : LifeEvent → Bool
  | .target draw _ => draw.partialOk
  | .stopHit draw _ => draw.writeOk
  | .external _ writeOk => writeOk
  | .forced _ draw _ => draw.writeOk
  | .moveStop _ _ => true
  | .adopt _ _ => true

variable (s : Lifecycle)

namespace Lifecycle

def ended (b : Account) (c : Option Closure) : Lifecycle where
  account := b
  legs := (c.map Closure.pnl).toList ++ s.legs
  finished := c.isSome

def closing : LifeEvent → Option Closure
  | .target _ _ => none
  | .stopHit draw price =>
    if draw.accepted then some (stopClosure draw.answers price s.account.trade) else none
  | .external answer _ => some (externalClosure answer s.account.trade)
  | .forced path draw price => path.closure draw price s.account.trade
  | .moveStop _ _ => none
  | .adopt _ _ => none

def after : LifeEvent → Account
  | .target draw price => afterTP draw price s.account
  | .stopHit draw price => handleSLHit draw price s.account
  | .external answer writeOk => externalClose answer writeOk s.account
  | .forced path draw price => path.run draw price s.account
  | .moveStop move draw => executeMove (some move) draw s.account
  | .adopt reads pos => Management.adopt reads pos s.account

def leg (draw : TpDraw) (price : ℚ) : Option Leg :=
  match dueLevel price s.account.trade with
  | none => none
  | some level =>
    match closeLeg draw level with
    | .error _ => none
    | .ok () => some (closedLeg draw level price s.account.trade)

def step (e : LifeEvent) : Option Lifecycle :=
  if s.finished = false ∧ e.writesOk = true then
    match e with
    | .target draw price =>
      some
        { account := s.after e, legs := ((s.leg draw price).map Leg.pnl).toList ++ s.legs
          finished := (s.after e).trade.status = .closed }
    | _ => some (s.ended (s.after e) (s.closing e))
  else none

def start (o : OpenTrade) : Lifecycle where
  account := o.account

def Conserved : Prop := s.account.row.map TradeRecord.grossPnL = some s.legs.sum

def ClosesUntouched (e : LifeEvent) : Prop := (s.closing e).isSome → s.legs.sum = 0

end Lifecycle

section Steps

variable {s} {e : LifeEvent} {t : Lifecycle}

theorem after_cases (hu : s.account.trade.userId ≠ "") (hwrs : e.writesOk)
    (htgt : ∀ draw price, e ≠ .target draw price) :
    (s.closing e = none ∧ Account.Quiet s.account (s.after e)) ∨
      ∃ c a, s.closing e = some c ∧ Account.Quiet s.account a ∧ s.after e = finalize c true a := by
  have hqt := Account.Quiet.refl s.account
  cases e with
  | target draw price => exact absurd rfl (htgt draw price)
  | stopHit draw price =>
    simp only [LifeEvent.writesOk] at hwrs
    simp only [Lifecycle.closing, Lifecycle.after, handleSLHit, hwrs]
    cases draw.accepted with
    | false => exact .inl ⟨rfl, hqt⟩
    | true => exact .inr ⟨_, s.account, rfl, hqt, rfl⟩
  | external _ _ =>
    simp only [LifeEvent.writesOk] at hwrs
    simp only [Lifecycle.after, hwrs]
    exact .inr ⟨_, s.account, rfl, hqt, rfl⟩
  | forced path draw price =>
    simp only [LifeEvent.writesOk] at hwrs
    rcases path.run_cases draw price hu with hno | ⟨c, a, hso, -, hbef, hrun⟩
    · exact .inl hno
    · rw [hwrs] at hrun
      exact .inr ⟨c, a, hso, hbef, hrun⟩
  | moveStop move draw => exact .inl ⟨rfl, quiet_executeMove (some move) draw hu⟩
  | adopt reads pos => exact .inl ⟨rfl, quiet_adopt reads pos hu⟩

theorem after_target_cases (s : Lifecycle) (draw : TpDraw) (price : ℚ) :
    (s.leg draw price = none ∧ s.after (.target draw price) = s.account) ∨
      ∃ leg, s.leg draw price = some leg ∧
        s.after (.target draw price) = leg.book draw.partialOk draw.runtimeOk s.account := by
  simp only [Lifecycle.leg]
  rcases afterTP_cases draw price s.account with ⟨hno, haft⟩ | ⟨level, hdue, hcl, haft⟩
  · refine .inl ⟨?_, haft⟩
    cases hdue : dueLevel price s.account.trade with
    | none => rfl
    | some level =>
      cases hcl : closeLeg draw level with
      | error e => simp only [hcl]
      | ok _ => exact absurd hcl (hno level hdue)
  · simp only [hdue, hcl]
    exact .inr ⟨_, rfl, haft⟩

inductive LifeMoves (s : Lifecycle) (e : LifeEvent) : Lifecycle → Prop
  | quiet (b : Account) (finished : Bool) (hnone : s.closing e = none)
      (hquiet : Account.Quiet s.account b) : LifeMoves s e ⟨b, s.legs, finished⟩
  | leg (leg : Leg) (runtimeOk finished : Bool) (hnone : s.closing e = none) :
      LifeMoves s e ⟨leg.book true runtimeOk s.account, leg.pnl :: s.legs, finished⟩
  | close (c : Closure) (a : Account) (hsome : s.closing e = some c)
      (hquiet : Account.Quiet s.account a) :
      LifeMoves s e ⟨finalize c true a, c.pnl :: s.legs, true⟩

theorem lifeMoves_of_step (hu : s.account.trade.userId ≠ "") (hst : s.step e = some t) :
    LifeMoves s e t := by
  unfold Lifecycle.step at hst
  split at hst
  next hop =>
    split at hst
    next draw price =>
      have hwri : draw.partialOk := hop.2
      rcases after_target_cases s draw price with ⟨hleg, haft⟩ | ⟨leg, hleg, haft⟩
      · cases hst
        simp only [hleg, haft]
        exact .quiet s.account _ rfl (Account.Quiet.refl s.account)
      · cases hst
        simp only [hleg, haft, hwri]
        exact .leg leg draw.runtimeOk _ rfl
    next e htgt =>
      cases hst
      rcases after_cases hu hop.2 htgt with ⟨hno, hqt⟩ | ⟨c, a, hso, hqt, haft⟩
      · simp only [hno]
        exact .quiet (s.after _) _ hno hqt
      · simp only [hso, haft]
        exact .close c a hso hqt
  next => cases hst

theorem step_owned (hu : s.account.trade.userId ≠ "") (hst : s.step e = some t) :
    t.account.trade.userId ≠ "" := by
  cases lifeMoves_of_step hu hst with
  | quiet b finished hno hqt => exact hqt.owned hu
  | leg leg runtimeOk finished hno =>
    rw [(leg.book_effect true runtimeOk hu).userId]
    exact hu
  | close c a _ hqt => exact hqt.owned hu

theorem step_conserved_iff (hu : s.account.trade.userId ≠ "") (hsum : s.Conserved)
    (hst : s.step e = some t) : t.Conserved ↔ s.ClosesUntouched e := by
  unfold Lifecycle.Conserved Lifecycle.ClosesUntouched
  cases lifeMoves_of_step hu hst with
  | quiet b finished hno hqt =>
    rw [hno]
    exact iff_of_true (hqt.grossPnL.trans hsum) (by simp)
  | leg leg runtimeOk finished hno =>
    obtain ⟨rec, hr, hgro⟩ := Option.map_eq_some_iff.mp hsum
    rw [hno]
    refine iff_of_true ?_ (by simp)
    rw [leg.book_grossPnL runtimeOk hu, hr, Option.map_some, hgro, List.sum_cons, add_comm]
  | close c a hso hqt =>
    -- the row survives the quiet changes before the close
    have hbkd : a.row.map TradeRecord.grossPnL = some s.legs.sum := hqt.grossPnL.trans hsum
    obtain ⟨rec, hr, -⟩ := Option.map_eq_some_iff.mp hbkd
    rw [finalize_grossPnL c (hqt.owned hu), hr, hso]
    simp

end Steps

theorem grossPnL_conserved_iff (o : OpenTrade) (events : List LifeEvent) :
    Throughout Lifecycle.step Lifecycle.Conserved (Lifecycle.start o) events ↔
      Along Lifecycle.step Lifecycle.ClosesUntouched (Lifecycle.start o) events := by
  refine throughout_iff_along Lifecycle.step
    (I := fun s => s.account.trade.userId ≠ "") ?_ ?_ events ?_ ?_
  · intro s e t hu hst
    exact step_owned hu hst
  · intro s e t hu hsum hst
    exact step_conserved_iff hu hsum hst
  · exact o.owned
  · simp only [Lifecycle.Conserved, Lifecycle.start, o.booked, Option.map_some, o.unrealized,
      List.sum_nil]

def bankedTrade : Trade :=
  { eurusdTrade 1.12 with tp1Pct := 40, tp2Pct := 30, tp3Pct := 30, riskAmount := 100 }

def bankedOpen : OpenTrade :=
  OpenTrade.register bankedTrade [] [bankedTrade.record.stored] none (by decide) rfl

theorem stop_forgets_first_target :
    (run Lifecycle.step (Lifecycle.start bankedOpen)
        [.target {} 1.12, .stopHit { accepted := true } 1.09]).map
        (fun s => (s.account.row.map TradeRecord.grossPnL, s.legs.sum)) =
      some (some (-100), -20) := by
  decide +kernel

end ETradie.Management
