import ETradie.Kernel.Keyed
import ETradie.Management.Worker

namespace ETradie.Management

open Kernel List Journal Monitored MonitorAction

variable (rec : TradeRecord)

def gradeStartsWith (start : String) : Bool := start.toList.isPrefixOf rec.grade.toList

def originManualRestored : String := "MANUAL_RESTORED"

def backfillOrigin : TradeRecord :=
  if rec.origin = originSystem ∧ gradeStartsWith rec "MANUAL/" then
    { rec with
      origin :=
        if gradeStartsWith rec "MANUAL/RECONCILED" then originManualReconciled
        else if gradeStartsWith rec "MANUAL/RESTORED" then originManualRestored
        else originSystem }
  else rec

def backfillVolume : TradeRecord :=
  if rec.status ≠ .closed ∧ rec.remainingLotSize = 0 ∧ rec.totalLotSize > 0 then
    { rec with remainingLotSize := rec.totalLotSize }
  else rec

variable (j : Journal)

def migrate : Journal := j.map (fun rec => backfillVolume (backfillOrigin rec))

def getAllActiveTrades : List TradeRecord := j.filter (·.status ≠ .closed)

def restoreTradeFromRecord : Trade := { rec with }

def registerRecord (m : Registry String Trade) (rec : TradeRecord) : Registry String Trade :=
  m.register rec.tradeId (restoreTradeFromRecord rec)

def restoreManager : Registry String Trade :=
  (getAllActiveTrades (migrate j)).foldl registerRecord Registry.empty

structure SameRuntime (t u : Trade) : Prop where
  stopLoss : t.stopLoss = u.stopLoss
  remainingLotSize : t.remainingLotSize = u.remainingLotSize
  tp1Hit : t.tp1Hit = u.tp1Hit
  tp2Hit : t.tp2Hit = u.tp2Hit
  tp3Hit : t.tp3Hit = u.tp3Hit
  breakevenSet : t.breakevenSet = u.breakevenSet
  realizedPnL : t.realizedPnL = u.realizedPnL

def StopDraw.stored (draw : StopDraw) : Bool := draw.pointOk && draw.slOk && draw.runtimeOk

def MonitorAction.stored (tradeId : String) : MonitorAction → Bool
  | .tick _ draw => draw.writeOk
  | .target draw => draw.partialOk && draw.runtimeOk
  | .breakeven draw _ _ => draw.stored
  | .trailing draw _ => draw.stored
  | .poll _ => true
  | .forced (.cotFlip _ stop) draw _ => stop.stored && draw.writeOk
  | .forced _ draw _ => draw.writeOk
  | .correlationShock _ _ draw _ => draw.stored
  | .preNews _ draw _ => draw.stored
  | .snapshot _ reads _ writeOk => reads.writeOk tradeId && writeOk

namespace Monitored

def storedStep (text : CaseMap) (s : Monitored) (a : MonitorAction) : Option Monitored :=
  if a.stored s.account.trade.tradeId then s.step text a else none

def RestartTransparent (s : Monitored) : Prop :=
  match (restoreManager s.account.journal).get? s.account.trade.tradeId with
  | none => s.managed = false
  | some t => s.managed = true ∧ SameRuntime t s.account.trade

def KeepsRestart (s : Monitored) : MonitorAction → Prop
  | .tick quote draw => s.stopHit quote = true → draw.accepted = true
  | .target draw =>
    ∀ price level, s.phase = .target price → dueLevel price s.account.trade = some level →
      closeLeg draw level = .ok () → ¬ Empties level s.account.trade ∧
        legPnL draw.answers (level.closeVol s.account.trade) price s.account.trade = 0
  | .forced path draw price => path.closure draw price s.account.trade = none
  | _ => True

end Monitored

variable {tradeId : String}

theorem get?_foldl_registerRecord {rows : List TradeRecord} (m : Registry String Trade)
    (hdis : (rows.map TradeRecord.tradeId).Nodup) :
    (rows.foldl registerRecord m).get? tradeId =
      ((rows.find? (·.tradeId = tradeId)).map restoreTradeFromRecord).or (m.get? tradeId) := by
  induction rows generalizing m with
  | nil => rfl
  | cons rec rest ih =>
    rw [map_cons, nodup_cons] at hdis
    rw [foldl_cons, ih _ hdis.2]
    by_cases hid : rec.tradeId = tradeId
    · have hrs : rest.find? (·.tradeId = tradeId) = none := by
        rw [find?_eq_none]
        intro other hoth hsm
        refine hdis.1 (mem_map.mpr ⟨other, hoth, ?_⟩)
        rw [of_decide_eq_true hsm, hid]
      rw [hrs, find?_cons_of_pos (by simpa using hid), ← hid, registerRecord,
        Registry.get?_register_self]
      rfl
    · rw [find?_cons_of_neg (by simpa using hid), registerRecord,
        Registry.get?_register_of_ne m (fun h => hid h.symm)]

theorem backfill_key :
    (backfillVolume (backfillOrigin rec)).tradeId = rec.tradeId ∧
      (backfillVolume (backfillOrigin rec)).status = rec.status := by
  unfold backfillVolume backfillOrigin
  split_ifs <;> exact ⟨rfl, rfl⟩

variable {rec}

theorem get?_restoreManager {j : Journal} {userId : String}
    (hdis : (j.map TradeRecord.tradeId).Nodup) (hr : j.row userId tradeId = some rec) :
    (restoreManager j).get? tradeId =
      if rec.status = .closed then none
      else some (restoreTradeFromRecord (backfillVolume (backfillOrigin rec))) := by
  -- the journal as a table under its IDs, after the schema statements, without the closed rows
  let active := ((⟨j, hdis⟩ : Keyed TradeRecord.tradeId).updateWhere (fun _ => true) _
    fun rec => (backfill_key rec).1).retain (·.status ≠ .closed)
  have hrw : getAllActiveTrades (migrate j) = active.rows := rfl
  have hg : (⟨j, hdis⟩ : Keyed TradeRecord.tradeId).get tradeId = some rec := by
    have hk := find?_some hr
    simp only [decide_eq_true_eq] at hk
    exact Keyed.get_eq_some_iff.mpr ⟨mem_of_find?_eq_some hr, hk.1⟩
  have hfnd : active.rows.find? (·.tradeId = tradeId) = active.get tradeId := rfl
  have hemp : (Registry.empty : Registry String Trade).get? tradeId = none := rfl
  unfold restoreManager
  rw [hrw, get?_foldl_registerRecord _ active.unique, hfnd, Keyed.get_retain,
    Keyed.get_updateWhere, hg, hemp]
  by_cases hcls : rec.status = .closed <;> simp [(backfill_key rec).2, hcls]

structure Retains (rec : TradeRecord) (t : Trade) : Prop where
  stopLoss : rec.stopLoss = t.stopLoss
  remainingLotSize : rec.remainingLotSize = t.remainingLotSize
  tp1Hit : rec.tp1Hit = t.tp1Hit
  tp2Hit : rec.tp2Hit = t.tp2Hit
  tp3Hit : rec.tp3Hit = t.tp3Hit
  breakevenSet : rec.breakevenSet = t.breakevenSet

def Filled (rec : TradeRecord) : Prop := rec.totalLotSize > 0 → rec.remainingLotSize ≠ 0

structure Booked (a : Account) (rec : TradeRecord) : Prop where
  distinct : (a.journal.map TradeRecord.tradeId).Nodup
  row : a.row = some rec

structure Standing (a : Account) (rec : TradeRecord) : Prop extends Booked a rec where
  owned : a.trade.userId ≠ ""
  running : a.trade.status ≠ .closed
  listed : rec.status ≠ .closed
  retains : Retains rec a.trade
  filled : Filled rec
  unrealized : a.trade.realizedPnL = 0

theorem retains_runtimeRow (t : Trade) (rec : TradeRecord) : Retains (runtimeRow t rec) t :=
  ⟨rfl, rfl, rfl, rfl, rfl, rfl⟩

variable {t : Trade}

theorem sameRuntime_restored_iff (hret : Retains rec t) (hfil : Filled rec) :
    SameRuntime (restoreTradeFromRecord (backfillVolume (backfillOrigin rec))) t ↔
      t.realizedPnL = 0 := by
  have horg : ∃ origin, backfillOrigin rec = { rec with origin := origin } := by
    unfold backfillOrigin
    split
    next => exact ⟨_, rfl⟩
    next => exact ⟨rec.origin, rfl⟩
  obtain ⟨origin, horg⟩ := horg
  have hvol : backfillVolume { rec with origin := origin } = { rec with origin := origin } := by
    unfold backfillVolume
    rw [if_neg]
    rintro ⟨-, hz, htot⟩
    exact hfil htot hz
  rw [horg, hvol]
  constructor
  · intro h
    exact h.realizedPnL.symm
  · intro h
    exact ⟨hret.stopLoss, hret.remainingLotSize, hret.tp1Hit, hret.tp2Hit,
      hret.tp3Hit, hret.breakevenSet, h.symm⟩

variable {s : Monitored}

theorem transparent_of_closed_row (hbkd : Booked s.account rec)
    (hcls : rec.status = .closed) : s.RestartTransparent ↔ s.managed = false := by
  unfold Monitored.RestartTransparent
  rw [get?_restoreManager hbkd.distinct hbkd.row, if_pos hcls]

theorem transparent_of_open_row (hbkd : Booked s.account rec) (hop : rec.status ≠ .closed) :
    s.RestartTransparent ↔ s.managed ∧
      SameRuntime (restoreTradeFromRecord (backfillVolume (backfillOrigin rec)))
        s.account.trade := by
  unfold Monitored.RestartTransparent
  rw [get?_restoreManager hbkd.distinct hbkd.row, if_neg hop]

theorem Standing.transparent (h : Standing s.account rec) (hmgd : s.managed) :
    s.RestartTransparent :=
  (transparent_of_open_row h.toBooked h.listed).mpr
    ⟨hmgd, (sameRuntime_restored_iff h.retains h.filled).mpr h.unrealized⟩

variable {a b c : Account} {f : TradeRecord → TradeRecord}
variable (m : StopMove)

section Steadiness

variable {draw : StopDraw} {reads : SnapshotReads}
variable {pos : PositionInfo}

theorem ids_update (userId tradeId : String) (hf : KeepsKey f) :
    (j.update true userId tradeId f).map TradeRecord.tradeId = j.map TradeRecord.tradeId := by
  unfold update
  split
  next => rfl
  next =>
    rw [map_map]
    refine map_congr_left ?_
    intro rec _
    simp only [Function.comp_apply]
    split
    next => exact (hf rec).1
    next => rfl

structure Rewrites (a b : Account) (f : TradeRecord → TradeRecord) : Prop
    extends Account.Effect a b f where
  ids : b.journal.map TradeRecord.tradeId = a.journal.map TradeRecord.tradeId

theorem Rewrites.trans {g : TradeRecord → TradeRecord} (hab : Rewrites a b f)
    (hbc : Rewrites b c g) : Rewrites a c (g ∘ f) :=
  ⟨hab.toEffect.trans hbc.toEffect, hbc.ids.trans hab.ids⟩

theorem rewrites_memory (a : Account) (hu : t.userId = a.trade.userId)
    (hid : t.tradeId = a.trade.tradeId) : Rewrites a { a with trade := t } id :=
  ⟨Account.effect_memory a hu hid, rfl⟩

theorem rewrites_write (hu : a.trade.userId ≠ "") (hf : KeepsKey f) :
    Rewrites a (a.write true f) f :=
  ⟨Account.effect_write hu hf true, ids_update _ _ _ hf⟩

theorem rewrites_amend (hown : a.trade.userId ≠ "") (hu : t.userId = a.trade.userId)
    (hid : t.tradeId = a.trade.tradeId) (hf : KeepsKey f) :
    Rewrites a (({ a with trade := t } : Account).write true f) f :=
  ⟨Account.effect_amend hown hu hid hf true, ids_update _ _ _ hf⟩

structure Steady (a b : Account) : Prop where
  userId : b.trade.userId = a.trade.userId
  running : b.trade.status = .closed → a.trade.status = .closed
  realizedPnL : b.trade.realizedPnL = a.trade.realizedPnL
  ids : b.journal.map TradeRecord.tradeId = a.journal.map TradeRecord.tradeId
  row : ∀ rec, a.row = some rec → Retains rec a.trade → ∃ rec', b.row = some rec' ∧
    rec'.status = rec.status ∧ Retains rec' b.trade ∧ (Filled rec → Filled rec')

theorem Steady.refl (a : Account) : Steady a a :=
  ⟨rfl, id, rfl, rfl, fun rec hr hret => ⟨rec, hr, rfl, hret, id⟩⟩

theorem Steady.trans (hab : Steady a b) (hbc : Steady b c) : Steady a c where
  userId := hbc.userId.trans hab.userId
  running := fun h => hab.running (hbc.running h)
  realizedPnL := hbc.realizedPnL.trans hab.realizedPnL
  ids := hbc.ids.trans hab.ids
  row := by
    intro rec hr hret
    obtain ⟨rec', hr', hsts, hret', hfil⟩ := hab.row rec hr hret
    obtain ⟨rec'', hr'', hsts', hret'', hfil'⟩ := hbc.row rec' hr' hret'
    exact ⟨rec'', hr'', hsts'.trans hsts, hret'', fun h => hfil' (hfil h)⟩

theorem Steady.standing (h : Steady a b) (hstd : Standing a rec) :
    ∃ rec', Standing b rec' := by
  obtain ⟨rec', hr, hsts, hret, hfil⟩ := h.row rec hstd.row hstd.retains
  exact ⟨rec',
    { distinct := h.ids ▸ hstd.distinct, row := hr, owned := h.userId ▸ hstd.owned
      running := fun hcls => hstd.running (h.running hcls)
      listed := hsts ▸ hstd.listed
      retains := hret
      filled := hfil hstd.filled
      unrealized := h.realizedPnL.trans hstd.unrealized }⟩

theorem Rewrites.steady (h : Rewrites a b f)
    (hrun : b.trade.status = .closed → a.trade.status = .closed)
    (hrea : b.trade.realizedPnL = a.trade.realizedPnL)
    (hr : ∀ rec, Retains rec a.trade →
      (f rec).status = rec.status ∧ Retains (f rec) b.trade ∧ (Filled rec → Filled (f rec))) :
    Steady a b where
  userId := h.userId
  running := hrun
  realizedPnL := hrea
  ids := h.ids
  row := by
    intro rec hbef hret
    obtain ⟨hsts, hret', hfil⟩ := hr rec hret
    exact ⟨f rec, by rw [h.row, hbef, Option.map_some], hsts, hret', hfil⟩

theorem steady_memory (a : Account) (hu : t.userId = a.trade.userId)
    (hid : t.tradeId = a.trade.tradeId) (hrun : t.status = .closed → a.trade.status = .closed)
    (hrea : t.realizedPnL = a.trade.realizedPnL)
    (hret : ∀ rec, Retains rec a.trade → Retains rec t) : Steady a { a with trade := t } :=
  (rewrites_memory a hu hid).steady hrun hrea (fun rec h => ⟨rfl, hret rec h, id⟩)

theorem steady_noted (price : ℚ) (a : Account) : Steady a (noted price a) :=
  steady_memory a rfl rfl id rfl (fun _ h => ⟨h.1, h.2, h.3, h.4, h.5, h.6⟩)

theorem steady_polled (pos : PositionPoll) (a : Account) : Steady a (polled pos a) :=
  steady_memory a rfl rfl id rfl (fun _ h => ⟨h.1, h.2, h.3, h.4, h.5, h.6⟩)

theorem steady_selfHeal (info : Option SymbolScale) (hu : a.trade.userId ≠ "") :
    Steady a (selfHeal info true a) := by
  unfold selfHeal
  split
  next => exact Steady.refl a
  next si =>
    split
    next =>
      refine (rewrites_amend (t := si.heal a.trade) hu rfl rfl
        (quietRow_point si.point si.digits).keepsKey).steady id rfl ?_
      intro _ h
      exact ⟨rfl, ⟨h.1, h.2, h.3, h.4, h.5, h.6⟩, id⟩
    next => exact Steady.refl a

def StopMove.columns (t : Trade) : TradeRecord → TradeRecord :=
  match m.engine with
  | .breakeven => runtimeRow (m.record t) ∘ stopRow m.newSL
  | _ => stopRow m.newSL

theorem StopMove.rewrites_persist (hu : a.trade.userId ≠ "") :
    Rewrites a (m.persist true true { a with trade := m.record a.trade }) (m.columns a.trade) := by
  obtain ⟨howr, hid⟩ := m.record_key a.trade
  have hsp := rewrites_amend hu howr hid (quietRow_stop m.newSL).keepsKey
  unfold StopMove.persist StopMove.columns
  cases m.engine with
  | breakeven =>
    exact hsp.trans (rewrites_write (hsp.userId ▸ hu)
      (quietRow_runtime (m.record a.trade)).keepsKey)
  | timeTightening | trailing | correlationShock | newsRiskOff | cotFlip => exact hsp

theorem StopMove.columns_retains (h : Retains rec t) :
    (m.columns t rec).status = rec.status ∧ Retains (m.columns t rec) (m.record t) ∧
      (Filled rec → Filled (m.columns t rec)) := by
  have hfil : Filled rec → ∀ rec' : TradeRecord, rec'.totalLotSize = rec.totalLotSize →
      rec'.remainingLotSize = t.remainingLotSize → Filled rec' := by
    intro hbef rec' htot hvol
    unfold Filled at hbef ⊢
    rw [htot, hvol, ← h.remainingLotSize]
    exact hbef
  unfold StopMove.columns StopMove.record
  cases m.engine with
  | breakeven => exact ⟨rfl, ⟨rfl, rfl, rfl, rfl, rfl, rfl⟩, fun hbef => hfil hbef _ rfl rfl⟩
  | timeTightening | trailing | correlationShock | newsRiskOff | cotFlip =>
    exact ⟨rfl, ⟨rfl, h.2, h.3, h.4, h.5, h.6⟩, fun hbef => hfil hbef _ rfl h.2⟩

theorem StopMove.record_realizedPnL (t : Trade) :
    (m.record t).realizedPnL = t.realizedPnL := by
  unfold StopMove.record
  cases m.engine <;> rfl

theorem steady_executeMove (move : Option StopMove) (hsto : draw.stored)
    (hu : a.trade.userId ≠ "") : Steady a (executeMove move draw a) := by
  simp only [StopDraw.stored, Bool.and_eq_true] at hsto
  cases move with
  | none => exact Steady.refl a
  | some m =>
    simp only [executeMove, StopMove.execute, hsto.1.2, hsto.2]
    split
    next =>
      refine (m.rewrites_persist hu).steady ?_ ?_ ?_
      · rw [m.persist_trade]
        exact m.record_closed
      · rw [m.persist_trade]
        exact m.record_realizedPnL a.trade
      · intro _ h
        rw [m.persist_trade]
        exact m.columns_retains h
    next => exact Steady.refl a

theorem steady_runBreakeven (text : CaseMap) (hsto : draw.stored) (heldFor checkPrice : ℚ)
    (hu : a.trade.userId ≠ "") : Steady a (runBreakeven text draw heldFor checkPrice a) := by
  have hheal : Steady a (healBeforeBreakeven draw a) := by
    have hpt : draw.pointOk := by
      simp only [StopDraw.stored, Bool.and_eq_true] at hsto
      exact hsto.1.1
    unfold healBeforeBreakeven
    split
    next => exact Steady.refl a
    next =>
      rw [hpt]
      exact steady_selfHeal draw.info hu
  exact hheal.trans (steady_executeMove _ hsto (hheal.userId ▸ hu))

theorem steady_runPreNewsRiskOff (timeToEvent : ℚ) (hsto : draw.stored) (price : ℚ)
    (hu : a.trade.userId ≠ "") : Steady a (runPreNewsRiskOff timeToEvent draw price a) := by
  unfold runPreNewsRiskOff
  split
  next => exact steady_executeMove _ hsto hu
  next => exact Steady.refl a

theorem stop_of_not_bracketMoved (h : ¬ bracketMoved pos t) : t.stopLoss = pos.stopLoss := by
  simp only [bracketMoved, Bool.or_eq_true, decide_eq_true_eq, not_or, not_not] at h
  exact h.1.symm

def adoptRow (reads : SnapshotReads) (pos : PositionInfo) (t : Trade) (rec : TradeRecord) :
    TradeRecord :=
  let rec' := if volumeDrifted pos t then volumeRow pos t rec else rec
  if bracketMoved pos t then bracketRow reads pos t rec' else rec'

theorem rewrites_adopt (pos : PositionInfo) (hwr : reads.writeOk a.trade.tradeId)
    (hu : a.trade.userId ≠ "") :
    Rewrites a (adopt reads pos a) (adoptRow reads pos a.trade) := by
  have hvol : Rewrites a
      (if volumeDrifted pos a.trade then a.write true (volumeRow pos a.trade) else a)
      (fun rec => if volumeDrifted pos a.trade then volumeRow pos a.trade rec else rec) := by
    split
    next => exact rewrites_write hu (quietRow_volume pos a.trade).keepsKey
    next => exact rewrites_memory a rfl rfl
  -- first the statements, with the trade as it was, then the trade in memory
  have hjrn : Rewrites a ⟨a.trade, (adopt reads pos a).journal⟩
      (adoptRow reads pos a.trade) := by
    rw [adopt_journal, hwr]
    unfold adoptRow
    dsimp only
    split
    next =>
      exact hvol.trans (rewrites_write (hvol.userId ▸ hu)
        (quietRow_bracket reads pos a.trade).keepsKey)
    next => exact hvol
  obtain ⟨howr, hid, -⟩ := adopt_key reads pos a
  exact hjrn.trans (rewrites_memory _ howr hid)

theorem adoptRow_retains (h : Retains rec a.trade) :
    (adoptRow reads pos a.trade rec).status = rec.status ∧
      Retains (adoptRow reads pos a.trade rec) (adopt reads pos a).trade ∧
      (Filled rec → Filled (adoptRow reads pos a.trade rec)) := by
  have hbra : bracketMoved pos (adoptVolume pos a.trade) = bracketMoved pos a.trade := by
    unfold adoptVolume
    split <;> rfl
  simp only [adoptRow, adopt, adoptBracket, hbra]
  by_cases hdri : volumeDrifted pos a.trade = true
  · simp only [adoptVolume, if_pos hdri]
    simp only [volumeDrifted, Bool.and_eq_true, decide_eq_true_eq] at hdri
    split
    next => exact ⟨rfl, ⟨rfl, rfl, rfl, rfl, rfl, rfl⟩, fun _ _ => hdri.1.ne'⟩
    next hsty =>
      exact ⟨rfl, ⟨(stop_of_not_bracketMoved hsty).symm, rfl, rfl, rfl, rfl, rfl⟩,
        fun _ _ => hdri.1.ne'⟩
  · simp only [adoptVolume]
    split
    next => exact ⟨rfl, ⟨rfl, h.2, h.3, h.4, h.5, h.6⟩, id⟩
    next => exact ⟨rfl, ⟨h.1, h.2, h.3, h.4, h.5, h.6⟩, id⟩

theorem steady_adopt (pos : PositionInfo) (hwr : reads.writeOk a.trade.tradeId)
    (hu : a.trade.userId ≠ "") : Steady a (adopt reads pos a) := by
  refine (rewrites_adopt pos hwr hu).steady ?_ ?_ (fun _ h => adoptRow_retains h)
  · rw [(adopt_key reads pos a).2.2]
    exact id
  · simp only [adopt, adoptBracket, adoptVolume]
    split <;> split <;> rfl

end Steadiness

theorem Booked.rewritten (hbkd : Booked a rec) (h : Rewrites a b f) : Booked b (f rec) where
  distinct := h.ids ▸ hbkd.distinct
  row := by rw [h.row, hbkd.row, Option.map_some]

theorem finalize_booked (c : Closure) (hbkd : Booked a rec) (hu : a.trade.userId ≠ "") :
    ∃ rec', Booked (finalize c true a) rec' ∧ rec'.status = .closed :=
  ⟨_, hbkd.rewritten ⟨finalize_effect c true hu,
    ids_update _ _ _ (keepsKey_close _ _ _ _ _ _)⟩, rfl⟩

variable (leg : Leg)

theorem Leg.book_booked (hbkd : Booked a rec) (hu : a.trade.userId ≠ "") :
    Booked (leg.book true true a) (runtimeRow (leg.record a.trade) (partialRow leg.pnl rec)) :=
  hbkd.rewritten ⟨leg.book_effect true true hu,
    (ids_update _ _ _ (quietRow_runtime _).keepsKey).trans
      (ids_update _ _ _ (keepsKey_partialRow leg.pnl))⟩

theorem Leg.record_realizedPnL (t : Trade) :
    (leg.record t).realizedPnL = t.realizedPnL + leg.pnl := by
  unfold Leg.record
  cases leg.level <;> simp only <;> split_ifs <;> rfl

variable {draw : CloseDraw}

theorem ForcedClose.run_steady_cases (path : ForcedClose) (price : ℚ)
    (hsto : ∀ direction stop, path = .cotFlip direction stop → stop.stored)
    (hu : a.trade.userId ≠ "") :
    (path.closure draw price a.trade = none ∧ Steady a (path.run draw price a)) ∨
      ∃ c b, path.closure draw price a.trade = some c ∧ Steady a b ∧
        path.run draw price a = finalize c draw.writeOk b := by
  cases path with
  | endOfDay now heldFor =>
    simp only [closure, run, runEodCheck]
    cases eodDue now heldFor price a.trade && draw.accepted with
    | false => exact .inl ⟨rfl, Steady.refl a⟩
    | true => exact .inr ⟨_, noted price a, rfl, steady_noted price a, rfl⟩
  | structuralBreak breakDirection =>
    simp only [closure, run, evaluateStructuralBreak]
    cases structuralDue breakDirection a.trade && draw.accepted with
    | false => exact .inl ⟨rfl, Steady.refl a⟩
    | true => exact .inr ⟨_, noted price a, rfl, steady_noted price a, rfl⟩
  | cotFlip cotDirection stop =>
    simp only [closure, run, handleCotFlip]
    cases evaluateCotFlip cotDirection price a.trade with
    | ignore => exact .inl ⟨rfl, Steady.refl a⟩
    | tighten move =>
      exact .inl ⟨rfl, steady_executeMove (some move) (hsto cotDirection stop rfl) hu⟩
    | close =>
      cases draw.accepted with
      | false => exact .inl ⟨rfl, Steady.refl a⟩
      | true => exact .inr ⟨_, a, rfl, Steady.refl a, rfl⟩

section Transparency

variable {price : ℚ}

inductive RestartMoves (s : Monitored) (a : MonitorAction) (t : Monitored) : Prop
  | steady (hmanaged : t.managed = true) (hsteady : Steady s.account t.account)
      (hkeeps : s.KeepsRestart a)
  /-- Closed in the journal and dropped. -/
  | filed (rec : TradeRecord) (hmanaged : t.managed = false) (hbooked : Booked t.account rec)
      (hclosed : rec.status = .closed) (hkeeps : s.KeepsRestart a)
  /-- Closed in the journal and still held, until the worker looks at the status. -/
  | held (rec : TradeRecord) (hmanaged : t.managed = true) (hbooked : Booked t.account rec)
      (hclosed : rec.status = .closed) (hkeeps : ¬ s.KeepsRestart a)
  /-- Dropped with an open row. -/
  | lost (rec : TradeRecord) (hmanaged : t.managed = false) (hbooked : Booked t.account rec)
      (hopen : rec.status ≠ .closed) (hkeeps : ¬ s.KeepsRestart a)
  /-- A leg that leaves something. -/
  | leg (leg : Leg) (hmanaged : t.managed = true)
      (haccount : t.account = leg.book true true s.account)
      (hleft : ¬ s.account.trade.remainingLotSize - leg.volume ≤ dustLot)
      (hkeeps : s.KeepsRestart a ↔ leg.pnl = 0)

variable {text : CaseMap} {t : Monitored} {a : MonitorAction}

theorem restartMoves_tick (hstd : Standing s.account rec) (hmgd : s.managed)
    (quote : Option Quote) (hwr : draw.writeOk) :
    RestartMoves s (.tick quote draw) (s.tick quote draw) := by
  unfold Monitored.tick
  rw [if_neg hstd.running]
  split
  next hpr =>
    have hmi : s.stopHit quote = false := by simp [Monitored.stopHit, hpr]
    exact .steady hmgd (Steady.refl _) (by simp [Monitored.KeepsRestart, hmi])
  next price hpr =>
    split
    next hhit =>
      have hsp : s.stopHit quote := by simp [Monitored.stopHit, hpr, hhit, hstd.running]
      obtain ⟨rec', hnot⟩ := (steady_noted price s.account).standing hstd
      unfold handleSLHit
      split
      next hacp =>
        rw [hwr]
        obtain ⟨rec'', hbkd, hcls⟩ :=
          finalize_booked (stopClosure draw.answers price (noted price s.account).trade)
            hnot.toBooked hnot.owned
        exact .filed rec'' rfl hbkd hcls (fun _ => hacp)
      next href => exact .lost rec' rfl hnot.toBooked hnot.listed (fun h => href (h hsp))
    next hmis =>
      have hmi : s.stopHit quote = false := by simp [Monitored.stopHit, hpr, hmis]
      exact .steady hmgd (steady_noted price s.account) (by simp [Monitored.KeepsRestart, hmi])

theorem restartMoves_target (hstd : Standing s.account rec) (hmgd : s.managed)
    {draw : TpDraw} (hpt : draw.partialOk) (hrun : draw.runtimeOk)
    (hph : s.phase = .target price) :
    RestartMoves s (.target draw) (s.takeTarget draw price) := by
  unfold takeTarget
  rcases evaluateTP_cases draw price s.account with ⟨hno, hev⟩ | ⟨level, hdue, hcl, hev⟩
  · have hkp : s.KeepsRestart (.target draw) := by
      intro price' level hph' hlvl hok
      rw [hph] at hph'
      cases hph'
      exact absurd hok (hno level hlvl)
    rcases hev with ⟨e, hev⟩ | hev
    · rw [hev]
      exact .steady hmgd (Steady.refl _) hkp
    · rw [hev]
      exact .steady hmgd (Steady.refl _) hkp
  · -- The leg that is due is the only one the condition speaks about.
    have hkp : s.KeepsRestart (.target draw) ↔ ¬ Monitored.Empties level s.account.trade ∧
        legPnL draw.answers (level.closeVol s.account.trade) price s.account.trade = 0 := by
      refine ⟨fun h => h price level hph hdue hcl, ?_⟩
      intro h price' _ hph' hdue' _
      rw [hph] at hph'
      cases hph'
      rw [hdue] at hdue'
      cases hdue'
      exact h
    have hcls := book_closed_iff draw level price s.account
    have hbkd := (closedLeg draw level price s.account.trade).book_booked hstd.toBooked hstd.owned
    rw [hrun, or_iff_left hstd.running] at hcls
    rw [hev, hpt, hrun]
    by_cases hemp : Monitored.Empties level s.account.trade
    · exact .lost _ (decide_eq_false (not_not.mpr (hcls.mpr hemp))) hbkd hstd.listed
        (fun h => (hkp.mp h).1 hemp)
    · exact .leg _ (decide_eq_true (mt hcls.mp hemp)) rfl hemp (hkp.trans (and_iff_right hemp))

theorem stored_forced {path : ForcedClose}
    (h : (forced path draw price).stored tradeId) :
    draw.writeOk ∧ ∀ direction stop, path = .cotFlip direction stop → stop.stored := by
  cases path with
  | endOfDay now heldFor | structuralBreak breakDirection =>
    exact ⟨h, fun _ _ hpath => (by cases hpath)⟩
  | cotFlip _ stop =>
    simp only [stored, Bool.and_eq_true] at h
    refine ⟨h.2, ?_⟩
    intro direction _ hpath
    cases hpath
    exact h.1

theorem restartMoves_of_step (hstd : Standing s.account rec) (hmgd : s.managed)
    (hsto : a.stored s.account.trade.tradeId) (hst : s.step text a = some t) :
    RestartMoves s a t := by
  have hu := hstd.owned
  revert hst
  fun_cases Monitored.step text s a
  all_goals rintro ⟨⟩
  · exact restartMoves_tick hstd hmgd _ hsto
  · next hph =>
    simp only [stored, Bool.and_eq_true] at hsto
    exact restartMoves_target hstd hmgd hsto.1 hsto.2 hph
  · unfold secure
    split
    next => exact .steady hmgd (Steady.refl _) trivial
    next => exact .steady hmgd (steady_runBreakeven text hsto _ _ hu) trivial
  · unfold trail
    split
    next => exact .steady hmgd (Steady.refl _) trivial
    next => exact .steady hmgd (steady_executeMove _ hsto hu) trivial
  · unfold lookUp
    split
    next => exact .steady hmgd (Steady.refl _) trivial
    next => exact .steady hmgd (Steady.refl _) trivial
    next pos => exact .steady hmgd (steady_polled pos s.account) trivial
  · next path _ price =>
    obtain ⟨hwr, hstp⟩ := stored_forced hsto
    rcases path.run_steady_cases price hstp hu with
      ⟨hno, hste⟩ | ⟨c, b, hso, hste, hrun⟩
    · exact .steady hmgd hste hno
    · obtain ⟨rec', hb⟩ := hste.standing hstd
      obtain ⟨rec'', hbkd, hcls⟩ := finalize_booked c hb.toBooked hb.owned
      refine .held rec'' hmgd ?_ hcls ?_
      · simp only [hrun, hwr]
        exact hbkd
      · intro hkp
        rw [Monitored.KeepsRestart, hso] at hkp
        cases hkp
  · exact .steady hmgd (steady_executeMove _ hsto hu) trivial
  · exact .steady hmgd (steady_runPreNewsRiskOff _ hsto _ hu) trivial
  · next answer _ =>
    simp only [stored, Bool.and_eq_true] at hsto
    unfold reconcile
    split
    next p => exact .steady hmgd (steady_adopt p hsto.1 hu) trivial
    next =>
      obtain ⟨rec', hbkd, hcls⟩ :=
        finalize_booked (externalClosure answer s.account.trade) hstd.toBooked hu
      refine .filed rec' rfl ?_ hcls trivial
      simp only [hsto.2]
      exact hbkd

theorem leg_retained (hstd : Standing s.account rec)
    (hlf : ¬ s.account.trade.remainingLotSize - leg.volume ≤ dustLot) :
    (leg.record s.account.trade).status ≠ .closed ∧
      Filled (runtimeRow (leg.record s.account.trade) (partialRow leg.pnl rec)) ∧
      (leg.record s.account.trade).realizedPnL = leg.pnl := by
  refine ⟨?_, ?_, ?_⟩
  · rw [leg.record_status, if_neg hlf]
    exact hstd.running
  · intro _
    change (leg.record s.account.trade).remainingLotSize ≠ 0
    rw [leg.record_remaining, if_neg hlf]
    have := dustLot_pos
    intro hz
    exact hlf (hz.trans_le this.le)
  · rw [leg.record_realizedPnL, hstd.unrealized, zero_add]

theorem transparent_step_iff (hstd : Standing s.account rec) (hmv : RestartMoves s a t) :
    t.RestartTransparent ↔ s.KeepsRestart a := by
  cases hmv with
  | steady hmgd hste hkp =>
    obtain ⟨rec', hnx⟩ := hste.standing hstd
    exact iff_of_true (hnx.transparent hmgd) hkp
  | filed rec' hmgd hbkd hcls hkp =>
    exact iff_of_true ((transparent_of_closed_row hbkd hcls).mpr hmgd) hkp
  | held rec' hmgd hbkd hcls hkp =>
    refine iff_of_false ?_ hkp
    rw [transparent_of_closed_row hbkd hcls, hmgd]
    simp
  | lost rec' hmgd hbkd hop hkp =>
    refine iff_of_false ?_ hkp
    rw [transparent_of_open_row hbkd hop, hmgd]
    simp
  | leg leg hmgd hacc hlf hkp =>
    obtain ⟨-, hfil, hrea⟩ := leg_retained leg hstd hlf
    have hbkd := leg.book_booked hstd.toBooked hstd.owned
    rw [← hacc] at hbkd
    rw [hkp, transparent_of_open_row hbkd hstd.listed, hacc, Leg.book_trade,
      sameRuntime_restored_iff (retains_runtimeRow _ _) hfil, hrea]
    exact and_iff_right hmgd

theorem standing_step (hstd : Standing s.account rec) (hmv : RestartMoves s a t)
    (htra : t.RestartTransparent) (hmgd : t.managed) :
    ∃ rec', Standing t.account rec' := by
  have hkept := (transparent_step_iff hstd hmv).mp htra
  cases hmv with
  | steady _ hste _ => exact hste.standing hstd
  | filed _ hdrp =>
    rw [hdrp] at hmgd
    cases hmgd
  | held _ _ _ _ hkp | lost _ _ _ _ hkp => exact absurd hkept hkp
  | leg leg _ hacc hlf hkp =>
    obtain ⟨hrun, hfil, hrea⟩ := leg_retained leg hstd hlf
    have hbkd := leg.book_booked hstd.toBooked hstd.owned
    rw [hacc]
    exact ⟨_,
      { hbkd with
        owned := by
          rw [Leg.book_trade, (leg.record_key s.account.trade).1]
          exact hstd.owned
        running := hrun
        listed := hstd.listed
        retains := retains_runtimeRow _ _
        filled := hfil
        unrealized := hrea.trans (hkp.mp hkept) }⟩

end Transparency

structure JournaledTrade extends OpenTrade where
  distinct : (account.journal.map TradeRecord.tradeId).Nodup
  retains : Retains record account.trade
  filled : Filled record
  fresh : account.trade.realizedPnL = 0

theorem JournaledTrade.standing (o : JournaledTrade) : Standing o.account o.record where
  distinct := o.distinct
  row := o.booked
  owned := o.owned
  running := o.running
  listed := o.listed
  retains := o.retains
  filled := o.filled
  unrealized := o.fresh

theorem restart_transparent_iff (text : CaseMap) (o : JournaledTrade)
    (actions : List MonitorAction) :
    Throughout (Monitored.storedStep text) Monitored.RestartTransparent
        (Monitored.start o.toOpenTrade) actions ↔
      Along (Monitored.storedStep text) Monitored.KeepsRestart
        (Monitored.start o.toOpenTrade) actions := by
  have hste : ∀ s a t, Monitored.storedStep text s a = some t →
      s.managed = true ∧ ∀ rec, Standing s.account rec → RestartMoves s a t := by
    intro s a t hst
    unfold Monitored.storedStep at hst
    split at hst
    next hsto =>
      have hmgd := managed_of_step hst
      exact ⟨hmgd, fun rec hstd => restartMoves_of_step hstd hmgd hsto hst⟩
    next => cases hst
  refine throughout_iff_along_while (Monitored.storedStep text)
    (I := fun s => s.managed = true → ∃ rec, Standing s.account rec) ?_ ?_ actions ?_ ?_
  · intro s a t hsta _ htra hst hmgd
    obtain ⟨hbef, hmov⟩ := hste s a t hst
    obtain ⟨rec, hstd⟩ := hsta hbef
    exact standing_step hstd (hmov rec hstd) htra hmgd
  · intro s a t hsta _ hst
    obtain ⟨hbef, hmov⟩ := hste s a t hst
    obtain ⟨rec, hstd⟩ := hsta hbef
    exact transparent_step_iff hstd (hmov rec hstd)
  · intro _
    exact ⟨o.record, o.standing⟩
  · exact Standing.transparent o.standing rfl

def ladderTrade : Trade := { eurusdTrade 1.12 with tp1Pct := 40, tp2Pct := 30, tp3Pct := 30 }

def ladderJournaled : JournaledTrade where
  toOpenTrade := OpenTrade.register ladderTrade [] [ladderTrade.record.stored] none (by decide) rfl
  distinct := by decide +kernel
  retains := ⟨rfl, rfl, rfl, rfl, rfl, rfl⟩
  filled := by
    intro _
    decide +kernel
  fresh := rfl

def quietTick (price : ℚ) : List MonitorAction :=
  [.tick (some ⟨price, price⟩) { accepted := true }, .target {},
    .breakeven { accepted := false } 0 0, .trailing { accepted := false } 0]

theorem closed_trade_restored :
    (run (Monitored.storedStep asciiCaseMap) (Monitored.start ladderJournaled.toOpenTrade)
        (quietTick 1.12 ++ quietTick 1.14 ++
          [.tick (some ⟨1.16, 1.16⟩) { accepted := true }, .target {}])).map
        (fun s => (s.managed, s.account.trade.status,
          ((restoreManager s.account.journal).get? "TMG-1").map (fun t =>
            (t.status, t.remainingLotSize, t.tp3Hit)))) =
      some (false, .closed, some (.active, 0.3, true)) := by
  decide +kernel

end ETradie.Management
