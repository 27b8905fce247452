import ETradie.Management.Closing

namespace ETradie.Management

inductive TpLevel where
  | tp1 | tp2 | tp3
deriving DecidableEq

namespace TpLevel

def label : TpLevel → String
  | .tp1 => "TP1"
  | .tp2 => "TP2"
  | .tp3 => "TP3"

def mark (level : TpLevel) (t : Trade) : Trade :=
  match level with
  | .tp1 => { t with tp1Hit := true }
  | .tp2 => { t with tp2Hit := true }
  | .tp3 => { t with tp3Hit := true }

def share (pct : Int) (t : Trade) : ℚ :=
  let closeVol := t.totalLotSize * pct / 100
  if closeVol > t.remainingLotSize then t.remainingLotSize else closeVol

def closeVol (level : TpLevel) (t : Trade) : ℚ :=
  match level with
  | .tp1 => share t.tp1Pct t
  | .tp2 => share t.tp2Pct t
  | .tp3 => t.remainingLotSize

end TpLevel

def dueLevel (checkPrice : ℚ) (t : Trade) : Option TpLevel :=
  if !t.tp3Hit && t.tp2Hit && t.isTargetHit t.tp3Price checkPrice then some .tp3
  else if !t.tp2Hit && t.tp1Hit && t.isTargetHit t.tp2Price checkPrice then some .tp2
  else if !t.tp1Hit && t.isTargetHit t.tp1Price checkPrice then some .tp1
  else none

structure TpDraw where
  (closePosition closePartial : Except String Unit := .ok ())
  getPosition : Except String (Option ℚ) := .ok none
  answers : List HistoryAnswer := []
  (partialOk runtimeOk : Bool := true)

def seemsGone (getPosition : Except String (Option ℚ)) : Bool :=
  match getPosition with
  | .error _ => true
  | .ok none => true
  | .ok (some volume) => volume ≤ 0

def closeLeg (draw : TpDraw) (level : TpLevel) : Except String Unit :=
  match level with
  | .tp3 =>
    match draw.closePosition with
    | .ok () => .ok ()
    | .error e => if seemsGone draw.getPosition then .ok () else .error e
  | .tp1 => draw.closePartial
  | .tp2 => draw.closePartial

structure Leg where
  level : TpLevel
  (volume pnl : ℚ)
deriving DecidableEq

def legPnL (answers : List HistoryAnswer) (volume closePrice : ℚ) (t : Trade) : ℚ :=
  (pollClosedDealProfit (fetchLegProfit t.brokerOrderId t.symbol volume) answers).getD
    (estimatedPnL closePrice t * (volume / t.totalLotSize))

def closedLeg (draw : TpDraw) (level : TpLevel) (closePrice : ℚ) (t : Trade) : Leg where
  level := level
  volume := level.closeVol t
  pnl := legPnL draw.answers (level.closeVol t) closePrice t

def dustLot : ℚ := 1 / 1000

theorem dustLot_pos : 0 < dustLot := by norm_num [dustLot]

def Leg.record (leg : Leg) (t : Trade) : Trade :=
  let left := t.remainingLotSize - leg.volume
  let updated :=
    { leg.level.mark t with
      remainingLotSize := left, realizedPnL := t.realizedPnL + leg.pnl, partials := t.partials + 1 }
  if left ≤ dustLot then { updated with remainingLotSize := 0, status := .closed } else updated

def Leg.book (leg : Leg) (partialOk runtimeOk : Bool) (a : Account) : Account :=
  (({ a with trade := leg.record a.trade } : Account).write partialOk
    (partialRow leg.pnl)).write runtimeOk (runtimeRow (leg.record a.trade))

def executeTP (draw : TpDraw) (level : TpLevel) (closePrice : ℚ) (a : Account) :
    Except String Account :=
  match closeLeg draw level with
  | .error e => .error (level.label ++ " close: " ++ e)
  | .ok () => .ok ((closedLeg draw level closePrice a.trade).book draw.partialOk draw.runtimeOk a)

def evaluateTP (draw : TpDraw) (checkPrice : ℚ) (a : Account) :
    Except String (Option TpLevel × Account) :=
  match dueLevel checkPrice a.trade with
  | none => .ok (none, a)
  | some level =>
    match executeTP draw level checkPrice a with
    | .error e => .error e
    | .ok b => .ok (some level, b)

def afterTP (draw : TpDraw) (checkPrice : ℚ) (a : Account) : Account :=
  match evaluateTP draw checkPrice a with
  | .error _ => a
  | .ok (_, b) => b

section Evaluation

theorem evaluateTP_cases (draw : TpDraw) (checkPrice : ℚ) (a : Account) :
    ((∀ level, dueLevel checkPrice a.trade = some level → closeLeg draw level ≠ .ok ()) ∧
        ((∃ e, evaluateTP draw checkPrice a = .error e) ∨
          evaluateTP draw checkPrice a = .ok (none, a))) ∨
      ∃ level, dueLevel checkPrice a.trade = some level ∧ closeLeg draw level = .ok () ∧
        evaluateTP draw checkPrice a =
          .ok (some level,
            (closedLeg draw level checkPrice a.trade).book draw.partialOk draw.runtimeOk a) := by
  unfold evaluateTP executeTP
  cases dueLevel checkPrice a.trade with
  | none =>
    refine .inl ⟨?_, .inr rfl⟩
    intro level hlvl
    cases hlvl
  | some level =>
    cases hcl : closeLeg draw level with
    | error e =>
      refine .inl ⟨?_, .inl ⟨level.label ++ " close: " ++ e, by simp only [hcl]⟩⟩
      intro _ hoth
      cases hoth
      rw [hcl]
      intro hok
      cases hok
    | ok _ => exact .inr ⟨level, rfl, hcl, by simp only [hcl]⟩

theorem afterTP_cases (draw : TpDraw) (checkPrice : ℚ) (a : Account) :
    ((∀ level, dueLevel checkPrice a.trade = some level → closeLeg draw level ≠ .ok ()) ∧
        afterTP draw checkPrice a = a) ∨
      ∃ level, dueLevel checkPrice a.trade = some level ∧ closeLeg draw level = .ok () ∧
        afterTP draw checkPrice a =
          (closedLeg draw level checkPrice a.trade).book draw.partialOk draw.runtimeOk a := by
  rcases evaluateTP_cases draw checkPrice a with
    ⟨hno, ⟨e, hev⟩ | hev⟩ | ⟨level, hdue, hcl, hev⟩
  · exact .inl ⟨hno, by rw [afterTP, hev]⟩
  · exact .inl ⟨hno, by rw [afterTP, hev]⟩
  · exact .inr ⟨level, hdue, hcl, by rw [afterTP, hev]⟩

theorem Leg.record_key (leg : Leg) (t : Trade) :
    (leg.record t).userId = t.userId ∧ (leg.record t).tradeId = t.tradeId := by
  unfold Leg.record
  cases leg.level <;> simp only <;> split_ifs <;> exact ⟨rfl, rfl⟩

theorem Leg.record_status (leg : Leg) (t : Trade) :
    (leg.record t).status =
      if t.remainingLotSize - leg.volume ≤ dustLot then .closed else t.status := by
  unfold Leg.record
  cases leg.level <;> simp only <;> split_ifs <;> rfl

theorem Leg.record_remaining (leg : Leg) (t : Trade) :
    (leg.record t).remainingLotSize =
      if t.remainingLotSize - leg.volume ≤ dustLot then 0
      else t.remainingLotSize - leg.volume := by
  unfold Leg.record
  cases leg.level <;> simp only <;> split_ifs <;> rfl

end Evaluation

section Effects

variable (leg : Leg) (partialOk runtimeOk : Bool) {a : Account}

@[simp] theorem Leg.book_trade (a : Account) :
    (leg.book partialOk runtimeOk a).trade = leg.record a.trade := rfl

theorem Leg.book_effect (hu : a.trade.userId ≠ "") :
    Account.Effect a (leg.book partialOk runtimeOk a)
      (attempt runtimeOk (runtimeRow (leg.record a.trade)) ∘
        attempt partialOk (partialRow leg.pnl)) := by
  obtain ⟨howr, hid⟩ := leg.record_key a.trade
  have hbkd := Account.effect_amend hu howr hid (Journal.keepsKey_partialRow leg.pnl) partialOk
  have hown : ((({ a with trade := leg.record a.trade } : Account).write partialOk
      (partialRow leg.pnl))).trade.userId ≠ "" := by
    rw [hbkd.userId]
    exact hu
  exact hbkd.trans (Account.effect_write hown
    (Journal.quietRow_runtime (leg.record a.trade)).keepsKey runtimeOk)

theorem Leg.book_grossPnL (hu : a.trade.userId ≠ "") :
    (leg.book true runtimeOk a).row.map TradeRecord.grossPnL =
      a.row.map (·.grossPnL + leg.pnl) := by
  rw [(leg.book_effect true runtimeOk hu).row, Option.map_map]
  congr 1
  funext rec
  exact attempt_column (Journal.quietRow_runtime _).grossPnL runtimeOk (partialRow leg.pnl rec)

theorem Leg.book_rowStatus (hu : a.trade.userId ≠ "") :
    (leg.book partialOk runtimeOk a).row.map TradeRecord.status = a.row.map TradeRecord.status := by
  refine (leg.book_effect partialOk runtimeOk hu).column ?_
  intro rec
  have hrun := attempt_column (Journal.quietRow_runtime (leg.record a.trade)).status runtimeOk
    (attempt partialOk (partialRow leg.pnl) rec)
  have hkp : (attempt partialOk (partialRow leg.pnl) rec).status = rec.status :=
    attempt_column (f := partialRow leg.pnl) (fun _ => rfl) partialOk rec
  exact hrun.trans hkp

end Effects

end ETradie.Management
