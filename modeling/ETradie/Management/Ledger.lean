import ETradie.Management.Reconciler

namespace ETradie.Management

def closeRow (exitPrice grossPnL rMultiple : ℚ) (outcome : TradeOutcome)
    (slAdjustments partialCloses : Int) (rec : TradeRecord) : TradeRecord :=
  { rec with
    exitPrice := exitPrice, grossPnL := grossPnL, rMultiple := rMultiple, outcome := some outcome
    status := .closed, remainingLotSize := 0, slAdjustments := slAdjustments
    partialCloses := partialCloses }

def partialRow (realizedPnL : ℚ) (rec : TradeRecord) : TradeRecord :=
  { rec with grossPnL := rec.grossPnL + realizedPnL, partialCloses := rec.partialCloses + 1 }

variable (reads : SnapshotReads) (pos : PositionInfo) (t : Trade) (rec : TradeRecord)

def runtimeRow : TradeRecord :=
  { rec with
    remainingLotSize := t.remainingLotSize, stopLoss := t.stopLoss, tp1Hit := t.tp1Hit
    tp2Hit := t.tp2Hit, tp3Hit := t.tp3Hit, breakevenSet := t.breakevenSet }

def stopRow (newSL : ℚ) (rec : TradeRecord) : TradeRecord :=
  { rec with stopLoss := newSL, slAdjustments := rec.slAdjustments + 1 }

def pointRow (point : ℚ) (digits : Int) (rec : TradeRecord) : TradeRecord :=
  { rec with point := point, digits := digits }

def attempt (writeOk : Bool) (f : TradeRecord → TradeRecord) : TradeRecord → TradeRecord :=
  if writeOk then f else id

variable (f : TradeRecord → TradeRecord)

@[simp] theorem attempt_true : attempt true f = f := rfl

@[simp] theorem attempt_false : attempt false f = id := rfl

variable {α : Type} {f}

theorem attempt_column {col : TradeRecord → α} (hf : ∀ rec, col (f rec) = col rec) (writeOk : Bool)
    (rec : TradeRecord) : col (attempt writeOk f rec) = col rec := by
  cases writeOk with
  | false => rfl
  | true => exact hf rec

namespace Journal

def row (j : Journal) (userId tradeId : String) : Option TradeRecord :=
  j.find? (fun rec => rec.tradeId = tradeId ∧ rec.userId = userId)

def KeepsKey (f : TradeRecord → TradeRecord) : Prop :=
  ∀ rec, (f rec).tradeId = rec.tradeId ∧ (f rec).userId = rec.userId

theorem keepsKey_close (exitPrice grossPnL rMultiple : ℚ) (outcome : TradeOutcome)
    (slAdjustments partialCloses : Int) :
    KeepsKey (closeRow exitPrice grossPnL rMultiple outcome slAdjustments partialCloses) :=
  fun _ => ⟨rfl, rfl⟩

theorem keepsKey_partialRow (realizedPnL : ℚ) : KeepsKey (partialRow realizedPnL) :=
  fun _ => ⟨rfl, rfl⟩

structure QuietRow (f : TradeRecord → TradeRecord) : Prop where
  keepsKey : KeepsKey f
  grossPnL : ∀ rec, (f rec).grossPnL = rec.grossPnL
  status : ∀ rec, (f rec).status = rec.status

theorem quietRow_runtime : QuietRow (runtimeRow t) :=
  ⟨fun _ => ⟨rfl, rfl⟩, fun _ => rfl, fun _ => rfl⟩

theorem quietRow_stop (newSL : ℚ) : QuietRow (stopRow newSL) :=
  ⟨fun _ => ⟨rfl, rfl⟩, fun _ => rfl, fun _ => rfl⟩

theorem quietRow_point (point : ℚ) (digits : Int) : QuietRow (pointRow point digits) :=
  ⟨fun _ => ⟨rfl, rfl⟩, fun _ => rfl, fun _ => rfl⟩

theorem row_update (j : Journal) (writeOk : Bool) {userId : String} (tradeId : String) (hu : userId ≠ "") (hf : KeepsKey f) :
    (j.update writeOk userId tradeId f).row userId tradeId =
      (j.row userId tradeId).map (attempt writeOk f) := by
  cases writeOk with
  | false => simp [update]
  | true =>
    rw [update, if_neg (by simp [hu])]
    -- the search stops at the same entry, which the statement has rewritten
    induction j with
    | nil => rfl
    | cons rec _ ih =>
      by_cases hk : rec.tradeId = tradeId ∧ rec.userId = userId
      · obtain ⟨hid, howr⟩ := hf rec
        simp [row, hk, hid, howr]
      · rw [List.map_cons, if_neg hk]
        simp only [row, List.find?_cons, hk]
        exact ih

end Journal

structure Account where
  trade : Trade
  journal : Journal

variable {a : Account}

namespace Account

def row (a : Account) : Option TradeRecord := a.journal.row a.trade.userId a.trade.tradeId

def write (a : Account) (writeOk : Bool) (f : TradeRecord → TradeRecord) : Account :=
  { a with journal := a.journal.update writeOk a.trade.userId a.trade.tradeId f }

structure Effect (a b : Account) (f : TradeRecord → TradeRecord) : Prop where
  userId : b.trade.userId = a.trade.userId
  tradeId : b.trade.tradeId = a.trade.tradeId
  row : b.row = a.row.map f

variable {b c : Account}

theorem Effect.trans {g : TradeRecord → TradeRecord} (hab : Effect a b f) (hbc : Effect b c g) :
    Effect a c (g ∘ f) where
  userId := hbc.userId.trans hab.userId
  tradeId := hbc.tradeId.trans hab.tradeId
  row := by rw [hbc.row, hab.row, Option.map_map]

variable {t}

theorem effect_memory (a : Account) (hu : t.userId = a.trade.userId)
    (hid : t.tradeId = a.trade.tradeId) : Effect a { a with trade := t } id where
  userId := hu
  tradeId := hid
  row := by rw [row, row, hu, hid, Option.map_id_fun, id]

theorem effect_write (hu : a.trade.userId ≠ "") (hf : Journal.KeepsKey f) (writeOk : Bool) :
    Effect a (a.write writeOk f) (attempt writeOk f) where
  userId := rfl
  tradeId := rfl
  row := Journal.row_update a.journal writeOk a.trade.tradeId hu hf

theorem effect_amend (hown : a.trade.userId ≠ "") (hu : t.userId = a.trade.userId)
    (hid : t.tradeId = a.trade.tradeId) (hf : Journal.KeepsKey f) (writeOk : Bool) :
    Effect a (({ a with trade := t } : Account).write writeOk f) (attempt writeOk f) := by
  have howr : ({ a with trade := t } : Account).trade.userId ≠ "" := by
    rw [hu]
    exact hown
  exact (effect_memory a hu hid).trans (effect_write howr hf writeOk)

theorem Effect.column {col : TradeRecord → α} (h : Effect a b f)
    (hf : ∀ rec, col (f rec) = col rec) : b.row.map col = a.row.map col := by
  have hcol : col ∘ f = col := funext hf
  rw [h.row, Option.map_map, hcol]

structure Quiet (a b : Account) : Prop where
  userId : b.trade.userId = a.trade.userId
  tradeId : b.trade.tradeId = a.trade.tradeId
  closed : b.trade.status = .closed → a.trade.status = .closed
  grossPnL : b.row.map TradeRecord.grossPnL = a.row.map TradeRecord.grossPnL
  status : b.row.map TradeRecord.status = a.row.map TradeRecord.status

theorem Effect.quiet (h : Effect a b f)
    (hcls : b.trade.status = .closed → a.trade.status = .closed)
    (hgro : ∀ rec, (f rec).grossPnL = rec.grossPnL)
    (hsts : ∀ rec, (f rec).status = rec.status) : Quiet a b where
  userId := h.userId
  tradeId := h.tradeId
  closed := hcls
  grossPnL := h.column hgro
  status := h.column hsts

theorem Quiet.trans (hab : Quiet a b) (hbc : Quiet b c) : Quiet a c where
  userId := hbc.userId.trans hab.userId
  tradeId := hbc.tradeId.trans hab.tradeId
  closed := fun h => hab.closed (hbc.closed h)
  grossPnL := hbc.grossPnL.trans hab.grossPnL
  status := hbc.status.trans hab.status

theorem Quiet.owned (h : Quiet a b) (hu : a.trade.userId ≠ "") : b.trade.userId ≠ "" := by
  rw [h.userId]
  exact hu

theorem Quiet.refl (a : Account) : Quiet a a := ⟨rfl, rfl, id, rfl, rfl⟩

theorem quiet_memory (a : Account) (hu : t.userId = a.trade.userId)
    (hid : t.tradeId = a.trade.tradeId) (hcls : t.status = .closed → a.trade.status = .closed) :
    Quiet a { a with trade := t } :=
  (effect_memory a hu hid).quiet hcls (fun _ => rfl) (fun _ => rfl)

theorem quiet_write (hu : a.trade.userId ≠ "") (hf : Journal.QuietRow f) (writeOk : Bool) :
    Quiet a (a.write writeOk f) :=
  (effect_write hu hf.keepsKey writeOk).quiet id (attempt_column hf.grossPnL writeOk)
    (attempt_column hf.status writeOk)

end Account

def adopt (a : Account) : Account where
  trade := adoptBracket reads pos (adoptVolume pos a.trade)
  journal := journalAdoption reads a.trade.userId pos a.trade a.journal

theorem adoptVolume_key :
    (adoptVolume pos t).userId = t.userId ∧ (adoptVolume pos t).tradeId = t.tradeId ∧
      (adoptVolume pos t).status = t.status := by
  unfold adoptVolume
  split <;> exact ⟨rfl, rfl, rfl⟩

theorem adoptBracket_key :
    (adoptBracket reads pos t).userId = t.userId ∧
      (adoptBracket reads pos t).tradeId = t.tradeId ∧
      (adoptBracket reads pos t).status = t.status := by
  unfold adoptBracket
  split <;> exact ⟨rfl, rfl, rfl⟩

theorem adopt_key (a : Account) :
    (adopt reads pos a).trade.userId = a.trade.userId ∧
      (adopt reads pos a).trade.tradeId = a.trade.tradeId ∧
      (adopt reads pos a).trade.status = a.trade.status := by
  obtain ⟨hu, hid, hsts⟩ := adoptBracket_key reads pos (adoptVolume pos a.trade)
  obtain ⟨hu', hid', hsts'⟩ := adoptVolume_key pos a.trade
  exact ⟨hu.trans hu', hid.trans hid', hsts.trans hsts'⟩

def volumeRow : TradeRecord :=
  { rec with
    remainingLotSize := pos.volume, stopLoss := pos.stopLoss, tp1Hit := t.tp1Hit, tp2Hit := t.tp2Hit
    tp3Hit := t.tp3Hit, breakevenSet := t.breakevenSet }

def bracketRow :
    TradeRecord :=
  { rec with
    stopLoss := pos.stopLoss, tp1Price := pos.takeProfit
    rrRatio := plannedRR t.entryPrice pos.stopLoss pos.takeProfit
    riskAmount := (adoptedRisk reads pos t).1, riskPercent := (adoptedRisk reads pos t).2
    slAdjustments := rec.slAdjustments + 1 }

theorem quietRow_volume : Journal.QuietRow (volumeRow pos t) :=
  ⟨fun _ => ⟨rfl, rfl⟩, fun _ => rfl, fun _ => rfl⟩

theorem quietRow_bracket :
    Journal.QuietRow (bracketRow reads pos t) :=
  ⟨fun _ => ⟨rfl, rfl⟩, fun _ => rfl, fun _ => rfl⟩

theorem adopt_journal (a : Account) :
    (⟨a.trade, (adopt reads pos a).journal⟩ : Account) =
      let volumeWritten :=
        if volumeDrifted pos a.trade then
          a.write (reads.writeOk a.trade.tradeId) (volumeRow pos a.trade)
        else a
      if bracketMoved pos a.trade then
        volumeWritten.write (reads.writeOk a.trade.tradeId) (bracketRow reads pos a.trade)
      else volumeWritten := by
  simp only [adopt, journalAdoption]
  split_ifs <;> rfl

theorem quiet_adopt
    (hu : a.trade.userId ≠ "") : Account.Quiet a (adopt reads pos a) := by
  have hvol : Account.Quiet a
      (if volumeDrifted pos a.trade then
        a.write (reads.writeOk a.trade.tradeId) (volumeRow pos a.trade)
      else a) := by
    split
    next => exact Account.quiet_write hu (quietRow_volume pos a.trade) _
    next => exact Account.Quiet.refl a
  -- first the statements, with the trade as it was, then the trade in memory
  have hjrn : Account.Quiet a ⟨a.trade, (adopt reads pos a).journal⟩ := by
    rw [adopt_journal]
    simp only
    split
    next =>
      exact hvol.trans (Account.quiet_write (hvol.owned hu) (quietRow_bracket reads pos a.trade) _)
    next => exact hvol
  obtain ⟨howr, hid, hsts⟩ := adopt_key reads pos a
  exact hjrn.trans (Account.quiet_memory _ howr hid hsts.symm.trans)

structure OpenTrade where
  account : Account
  record : TradeRecord
  owned : account.trade.userId ≠ ""
  booked : account.row = some record
  unrealized : record.grossPnL = 0
  running : account.trade.status ≠ .closed
  listed : record.status ≠ .closed

def OpenTrade.register (j j' : Journal) (dbError : Option String)
    (hrunning : t.status ≠ .closed) (h : j.insertTrade dbError t.record = .ok j') : OpenTrade where
  account := ⟨t, j'⟩
  record := t.record.stored
  owned := by
    intro hempty
    have hrefused : t.record.userId = "" := hempty
    unfold Journal.insertTrade at h
    rw [if_pos hrefused] at h
    cases h
  booked := by
    obtain ⟨hfree, rfl⟩ := insertTrade_ok h
    have hnone : j.find? (fun rec => rec.tradeId = t.tradeId ∧ rec.userId = t.userId) = none := by
      rw [List.find?_eq_none]
      intro rec hrec hkey
      exact hfree rec hrec (of_decide_eq_true hkey).1
    simp only [Account.row, Journal.row, List.find?_append, hnone, Option.none_or]
    simp [TradeRecord.stored, Trade.record]
  unrealized := rfl
  running := hrunning
  listed := hrunning

end ETradie.Management
