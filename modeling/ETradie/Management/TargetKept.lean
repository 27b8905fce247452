import ETradie.Management.StopMoves

namespace ETradie.Management

open Kernel StopBook

def StopEngine.keepsTarget : StopEngine → Bool
  | .breakeven => true
  | .timeTightening => true
  | .trailing => true
  | .correlationShock => false
  | .newsRiskOff => false
  | .cotFlip => false

structure SentTarget where
  (argument target : ℚ)
deriving DecidableEq

structure TargetBook where
  book : StopBook
  held : ℚ
  sent : List SentTarget := []

structure LadderedTrade extends OpenTrade where
  laddered : 0 < account.trade.tp1Price ∨ 0 < account.trade.tp2Price ∨ 0 < account.trade.tp3Price

namespace TargetBook

def trade (s : TargetBook) : Trade := s.book.account.trade

def step (text : CaseMap) (s : TargetBook) (a : StopAction) : Option TargetBook :=
  match a with
  | .adopt reads pos =>
    if pos.takeProfit = s.held then
      (s.book.step text (.adopt reads pos)).map (fun b => { s with book := b })
    else none
  | .answer desk true slOk runtimeOk =>
    match s.book.pending desk with
    | none => none
    | some p =>
      (s.book.step text (.answer desk true slOk runtimeOk)).map (fun b =>
        { book := b, held := p.move.newTP
          sent := ⟨p.move.newTP, s.trade.brokerTakeProfit⟩ :: s.sent })
  | other => (s.book.step text other).map (fun b => { s with book := b })

def start (o : LadderedTrade) : TargetBook where
  book := StopBook.start o.toOpenTrade
  held := o.account.trade.brokerTakeProfit

def KeepsTarget (s : TargetBook) : Prop :=
  (∀ e ∈ s.sent, e.argument = e.target) ∧ s.held = s.trade.brokerTakeProfit

def SendsTarget (s : TargetBook) : StopAction → Prop
  | .answer desk true _ _ => ∀ p, s.book.pending desk = some p → p.move.engine.keepsTarget = true
  | _ => True

end TargetBook

section Targets

def Trade.targets (t : Trade) : ℚ × ℚ × ℚ := (t.tp1Price, t.tp2Price, t.tp3Price)

theorem brokerTakeProfit_of_targets {t t' : Trade} (h : t'.targets = t.targets) :
    t'.brokerTakeProfit = t.brokerTakeProfit := by
  simp only [Trade.targets, Prod.mk.injEq] at h
  obtain ⟨h1, h2, h3⟩ := h
  simp only [Trade.brokerTakeProfit, h1, h2, h3]

theorem LadderedTrade.brokerTakeProfit_pos (o : LadderedTrade) :
    0 < o.account.trade.brokerTakeProfit := by
  unfold Trade.brokerTakeProfit
  split_ifs with h3 h2
  · exact h3
  · exact h2
  · rcases o.laddered with h | h | h
    · exact h
    · exact absurd h h2
    · exact absurd h h3

@[simp] theorem StopMove.record_targets (m : StopMove) (t : Trade) :
    (m.record t).targets = t.targets := by
  unfold StopMove.record
  cases m.engine <;> rfl

@[simp] theorem Leg.record_targets (leg : Leg) (t : Trade) :
    (leg.record t).targets = t.targets := by
  unfold Leg.record
  cases leg.level <;> simp only <;> split_ifs <;> rfl

theorem healBeforeBreakeven_targets (draw : StopDraw) (a : Account) :
    (healBeforeBreakeven draw a).trade.targets = a.trade.targets := by
  unfold healBeforeBreakeven selfHeal
  split
  next => rfl
  next =>
    split
    next => rfl
    next =>
      split
      next => rfl
      next => rfl

theorem afterTP_targets (draw : TpDraw) (price : ℚ) (a : Account) :
    (afterTP draw price a).trade.targets = a.trade.targets := by
  rcases afterTP_cases draw price a with ⟨-, hsm⟩ | ⟨level, -, -, hbk⟩
  · rw [hsm]
  · rw [hbk, Leg.book_trade, Leg.record_targets]

theorem adopt_brokerTakeProfit (reads : SnapshotReads) {pos : PositionInfo} {a : Account}
    (h : pos.takeProfit = a.trade.brokerTakeProfit) :
    (adopt reads pos a).trade.brokerTakeProfit = a.trade.brokerTakeProfit := by
  have hvol : (adoptVolume pos a.trade).targets = a.trade.targets := by
    unfold adoptVolume
    split <;> rfl
  rw [← brokerTakeProfit_of_targets hvol] at h ⊢
  simp only [adopt, adoptBracket]
  split
  next =>
    simp only [Trade.brokerTakeProfit] at h ⊢
    split_ifs at h ⊢
    · rfl
    · rfl
    · exact h
  next => rfl

end Targets

section Arguments

variable {m : StopMove} {t : Trade} {price checkPrice : ℚ}

def StopMove.Addressed (m : StopMove) (t : Trade) : Prop :=
  m.newTP = if m.engine.keepsTarget then t.brokerTakeProfit else 0

theorem StopMove.Addressed.congr {t' : Trade} (h : m.Addressed t)
    (hsm : t'.brokerTakeProfit = t.brokerTakeProfit) : m.Addressed t' := by
  unfold StopMove.Addressed at h ⊢
  rw [hsm]
  exact h

theorem onlyTighten_addressed {engine : StopEngine} {newSL newTP : ℚ}
    (h : onlyTighten engine newSL newTP t = some m)
    (heng : newTP = if engine.keepsTarget then t.brokerTakeProfit else 0) : m.Addressed t := by
  unfold onlyTighten at h
  split at h
  next =>
    cases h
    exact heng
  next => cases h

theorem evaluateBreakeven_addressed {text : CaseMap} {heldFor : ℚ}
    (h : evaluateBreakeven text heldFor checkPrice t = some m) : m.Addressed t := by
  unfold evaluateBreakeven at h
  split_ifs at h
  · cases h
    rfl
  · exact onlyTighten_addressed h rfl

theorem evaluateTrailing_addressed (h : evaluateTrailing checkPrice t = some m) :
    m.Addressed t := by
  unfold evaluateTrailing at h
  split_ifs at h
  simp only at h
  split at h
  next => cases h
  next => exact onlyTighten_addressed h rfl

theorem evaluateCorrelationShock_addressed {groups : List (List String)} {stoppedSymbol : String}
    (h : evaluateCorrelationShock groups stoppedSymbol price t = some m) : m.Addressed t := by
  unfold evaluateCorrelationShock at h
  split_ifs at h
  exact onlyTighten_addressed h rfl

theorem evaluatePreNewsRiskOff_addressed {timeToEvent : ℚ}
    (h : evaluatePreNewsRiskOff timeToEvent price t = some m) : m.Addressed t := by
  unfold evaluatePreNewsRiskOff at h
  split_ifs at h
  exact onlyTighten_addressed h rfl

theorem evaluateCotFlip_addressed {cotDirection : String}
    (h : evaluateCotFlip cotDirection price t = .tighten m) : m.Addressed t := by
  unfold evaluateCotFlip at h
  split_ifs at h
  split at h
  next => cases h
  next _ hmv =>
    cases h
    exact onlyTighten_addressed hmv rfl

end Arguments

section Steps

variable {m : StopMove} {b : StopBook}

def StopBook.Addressed (s : StopBook) : Prop :=
  ∀ desk p, s.pending desk = some p → p.move.Addressed s.account.trade

structure KeepsFinal (s t : StopBook) : Prop where
  target : t.account.trade.brokerTakeProfit = s.account.trade.brokerTakeProfit
  addressed : s.Addressed → t.Addressed

theorem keepsFinal_of_pending {s t : StopBook}
    (htgt : t.account.trade.brokerTakeProfit = s.account.trade.brokerTakeProfit)
    (hpen : t.pending = s.pending) : KeepsFinal s t where
  target := htgt
  addressed := by
    intro hadd desk p hp
    rw [hpen] at hp
    exact (hadd desk p hp).congr htgt

theorem KeepsFinal.trans {s t u : StopBook} (hst : KeepsFinal s t) (htu : KeepsFinal t u) :
    KeepsFinal s u where
  target := htu.target.trans hst.target
  addressed := fun h => htu.addressed (hst.addressed h)

theorem keepsFinal_settle {s t : StopBook} (desk : Desk)
    (htar : t.account.trade.targets = s.account.trade.targets)
    (hpen : t.pending = Function.update s.pending desk none) : KeepsFinal s t where
  target := brokerTakeProfit_of_targets htar
  addressed := by
    intro hadd other p hp
    rw [hpen] at hp
    by_cases hdk : other = desk
    · subst hdk
      rw [Function.update_self] at hp
      cases hp
    · rw [Function.update_of_ne hdk] at hp
      exact (hadd other p hp).congr (brokerTakeProfit_of_targets htar)

theorem keepsFinal_propose (s : StopBook) (desk : Desk) {move : Option StopMove}
    (hmv : ∀ m, move = some m → m.Addressed s.account.trade) :
    KeepsFinal s (s.propose desk move) := by
  cases move with
  | none => exact keepsFinal_of_pending rfl rfl
  | some m =>
    have htar : (s.propose desk (some m)).account.trade.targets =
        s.account.trade.targets := by
      simp only [propose]
      split
      next => exact m.record_targets s.account.trade
      next => rfl
    have htgt := brokerTakeProfit_of_targets htar
    refine ⟨htgt, ?_⟩
    intro hadd other p hp
    simp only [propose] at hp
    by_cases hdk : other = desk
    · subst hdk
      rw [Function.update_self, Option.some.injEq] at hp
      subst hp
      exact (hmv m rfl).congr htgt
    · rw [Function.update_of_ne hdk] at hp
      exact (hadd other p hp).congr htgt

theorem keepsFinal_accept (s : StopBook) (desk : Desk) (p : PendingMove) (slOk runtimeOk : Bool) :
    KeepsFinal s (s.accept desk p slOk runtimeOk) := by
  refine keepsFinal_settle desk ?_ rfl
  simp only [accept, StopMove.persist_trade]
  split
  next => rfl
  next => exact p.move.record_targets s.account.trade

theorem keepsFinal_reject (s : StopBook) (desk : Desk) (p : PendingMove) :
    KeepsFinal s (s.reject desk p) := by
  refine keepsFinal_settle desk ?_ rfl
  simp only [reject]
  split
  next => rfl
  next => rfl

variable {text : CaseMap} {s t : TargetBook} {a : StopAction}

inductive TargetSteps (s : TargetBook) (a : StopAction) (t : TargetBook) : Prop
  | silent (hheld : t.held = s.held) (hsent : t.sent = s.sent)
      (hkeeps : s.held = s.trade.brokerTakeProfit → KeepsFinal s.book t.book)
      (hcond : s.SendsTarget a)
  | sent (desk : Desk) (p : PendingMove) (slOk runtimeOk : Bool)
      (haction : a = .answer desk true slOk runtimeOk) (hpending : s.book.pending desk = some p)
      (hheld : t.held = p.move.newTP)
      (hsent : t.sent = ⟨p.move.newTP, s.trade.brokerTakeProfit⟩ :: s.sent)
      (hkeeps : KeepsFinal s.book t.book)

theorem StopMove.FoundBy.addressed {t : Trade} {desk : Desk} (hfnd : m.FoundBy text t desk) :
    m.Addressed t := by
  cases hfnd with
  | breakeven _ checkPrice h => exact evaluateBreakeven_addressed h
  | trailing checkPrice h => exact evaluateTrailing_addressed h
  | correlationShock _ _ price h => exact evaluateCorrelationShock_addressed h
  | cotFlip _ price h => exact evaluateCotFlip_addressed h
  | preNews _ price h => exact evaluatePreNewsRiskOff_addressed h

theorem StopBook.ReadyFrom.keepsFinal {ready : StopBook} (hrdy : b.ReadyFrom ready) :
    KeepsFinal b ready := by
  refine keepsFinal_of_pending (brokerTakeProfit_of_targets ?_) hrdy.pending
  rcases hrdy.account with hsm | ⟨-, draw, hhea⟩
  · rw [hsm]
  · rw [hhea]
    exact healBeforeBreakeven_targets draw b.account

theorem keepsFinal_of_step {c : StopBook}
    (hado : ∀ reads pos, a = .adopt reads pos → pos.takeProfit = b.account.trade.brokerTakeProfit)
    (hst : b.step text a = some c) : KeepsFinal b c := by
  cases step_moves hst with
  | evaluated _ ready hrdy desk _ hfnd =>
    refine hrdy.keepsFinal.trans (keepsFinal_propose ready desk ?_)
    intro m hm
    exact (hfnd m hm).addressed
  | accepted desk p slOk runtimeOk hpen => exact keepsFinal_accept b desk p slOk runtimeOk
  | rejected desk p slOk runtimeOk hpen => exact keepsFinal_reject b desk p
  | adopted reads pos =>
    exact keepsFinal_of_pending (adopt_brokerTakeProfit reads (hado reads pos rfl)) rfl
  | executed draw price =>
    exact keepsFinal_of_pending
      (brokerTakeProfit_of_targets (afterTP_targets draw price b.account)) rfl
  | closed c _ => exact keepsFinal_of_pending rfl rfl

theorem targetSteps_of_step (hst : s.step text a = some t) : TargetSteps s a t := by
  unfold TargetBook.step at hst
  split at hst
  next reads pos =>
    split at hst
    next hsho =>
      obtain ⟨b, hb, rfl⟩ := Option.map_eq_some_iff.mp hst
      refine .silent rfl rfl ?_ trivial
      intro hhd
      refine keepsFinal_of_step ?_ hb
      intro _ _ hact
      cases hact
      exact hsho.trans hhd
    next => cases hst
  next desk slOk runtimeOk =>
    split at hst
    next => cases hst
    next p hpen =>
      obtain ⟨b, hb, rfl⟩ := Option.map_eq_some_iff.mp hst
      refine .sent desk p slOk runtimeOk rfl hpen rfl rfl (keepsFinal_of_step ?_ hb)
      intro reads pos hact
      cases hact
  next hado hans =>
    obtain ⟨b, hb, rfl⟩ := Option.map_eq_some_iff.mp hst
    refine .silent rfl rfl ?_ ?_
    · intro _
      refine keepsFinal_of_step ?_ hb
      intro reads pos hact
      exact absurd hact (hado reads pos)
    · unfold TargetBook.SendsTarget
      split
      next desk slOk runtimeOk => exact absurd rfl (hans desk slOk runtimeOk)
      next => exact trivial

def TargetBook.Aimed (s : TargetBook) : Prop := 0 < s.trade.brokerTakeProfit ∧ s.book.Addressed

theorem KeepsFinal.aimed (hkp : KeepsFinal s.book t.book) (haim : s.Aimed) : t.Aimed := by
  refine ⟨?_, hkp.addressed haim.2⟩
  rw [TargetBook.trade, hkp.target]
  exact haim.1

theorem aimed_step (haim : s.Aimed) (hsnd : s.KeepsTarget) (hst : s.step text a = some t) :
    t.Aimed := by
  cases targetSteps_of_step hst with
  | silent _ _ hkp _ => exact (hkp hsnd.2).aimed haim
  | sent _ p _ _ _ _ _ _ hkp => exact hkp.aimed haim

theorem StopMove.Addressed.eq_target_iff {t : Trade} (h : m.Addressed t)
    (hset : 0 < t.brokerTakeProfit) :
    m.newTP = t.brokerTakeProfit ↔ m.engine.keepsTarget := by
  rw [h]
  split
  next hkp => exact iff_of_true rfl hkp
  next hcle => exact iff_of_false hset.ne hcle

theorem keepsTarget_step_iff (haim : s.Aimed) (hsnd : s.KeepsTarget)
    (hst : s.step text a = some t) : t.KeepsTarget ↔ s.SendsTarget a := by
  cases targetSteps_of_step hst with
  | silent hhd hsn hkp hcd =>
    refine iff_of_true ⟨?_, ?_⟩ hcd
    · rw [hsn]
      exact hsnd.1
    · rw [hhd, hsnd.2]
      exact (hkp hsnd.2).target.symm
  | sent desk p slOk runtimeOk hact hpen hhd hsn hkp =>
    subst hact
    have htgt : t.trade.brokerTakeProfit = s.trade.brokerTakeProfit := hkp.target
    have harg := (haim.2 desk p hpen).eq_target_iff haim.1
    have hcd : s.SendsTarget (.answer desk true slOk runtimeOk) ↔
        p.move.engine.keepsTarget := by
      simp only [TargetBook.SendsTarget, hpen, Option.some.injEq, forall_eq']
    rw [hcd, ← harg, TargetBook.KeepsTarget, hsn, hhd, htgt]
    constructor
    · rintro ⟨-, hn⟩
      exact hn
    · intro hn
      exact ⟨List.forall_mem_cons.mpr ⟨hn, hsnd.1⟩, hn⟩

end Steps

theorem keepsTarget_throughout_iff (text : CaseMap) (o : LadderedTrade)
    (actions : List StopAction) :
    Throughout (TargetBook.step text) TargetBook.KeepsTarget (TargetBook.start o) actions ↔
      Along (TargetBook.step text) TargetBook.SendsTarget (TargetBook.start o) actions := by
  refine throughout_iff_along_while (TargetBook.step text) (I := TargetBook.Aimed) ?_ ?_ actions
    ?_ ?_
  · intro s a t haim hsnd _ hst
    exact aimed_step haim hsnd hst
  · intro s a t haim hsnd hst
    exact keepsTarget_step_iff haim hsnd hst
  · refine ⟨o.brokerTakeProfit_pos, ?_⟩
    intro _ p hp
    cases hp
  · refine ⟨?_, rfl⟩
    intro e he
    cases he

theorem eurusd_running : (eurusdTrade 1.12).status ≠ .closed := by decide

theorem eurusd_inserted :
    Journal.insertTrade [] none (eurusdTrade 1.12).record =
      .ok [(eurusdTrade 1.12).record.stored] := rfl

def ladderOpen : LadderedTrade where
  toOpenTrade :=
    OpenTrade.register (eurusdTrade 1.12) [] [(eurusdTrade 1.12).record.stored] none
      eurusd_running eurusd_inserted
  laddered := .inl (by decide +kernel)

theorem correlationShock_clears_target :
    (run (TargetBook.step asciiCaseMap) (TargetBook.start ladderOpen)
        [.correlationShock [["EURUSD", "GBPUSD"]] "GBPUSD" 1.11,
          .answer .alerts true true true]).map
        (fun s => (s.held, s.trade.brokerTakeProfit, s.sent)) =
      some (0, 1.16, [⟨0, 1.16⟩]) := by
  decide +kernel

end ETradie.Management
