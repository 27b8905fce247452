import ETradie.Management.Registration

namespace ETradie.Management

open Kernel Registry

structure PositionInfo where
  (symbol direction : String)
  (entryPrice stopLoss takeProfit volume : ℚ)
  (commission swap : ℚ := 0)
  ticket : String
deriving DecidableEq

structure TickInfo where
  (tradeTickValue tradeTickSize : ℚ)
deriving DecidableEq

structure SnapshotReads where
  symbolInfo : String → Option TickInfo := fun _ => none
  (balance closedDealProfit : String → Option ℚ := fun _ => none)
  writeOk : String → Bool := fun _ => true
  importDraw : Nat → RegisterDraw := fun i => { tradeId := "TMG-" ++ toString i }
  hour : Nat := 0

def plannedRR (entry sl tp : ℚ) : ℚ :=
  if entry ≤ 0 ∨ sl ≤ 0 ∨ tp ≤ 0 then 0
  else
    let risk := |entry - sl|
    let reward := |tp - entry|
    if risk ≤ 0 then 0
    else if reward ≤ 0 then 0
    else reward / risk

def toCents (x : ℚ) : ℚ := roundHalfAway (x * 100) / 100

def stopRisk (reads : SnapshotReads) (ticket : String) (entry sl volume : ℚ) : Option (ℚ × ℚ) :=
  if sl > 0 ∧ entry > 0 then
    match reads.symbolInfo ticket with
    | none => none
    | some info =>
      if info.tradeTickSize > 0 ∧ info.tradeTickValue > 0 then
        let amount := |entry - sl| / info.tradeTickSize * info.tradeTickValue * volume
        match reads.balance ticket with
        | none => none
        | some balance =>
          if balance > 0 then some (toCents amount, toCents (amount / balance * 100))
          else none
      else none
  else none

def lotEpsilon : ℚ := 9 / 10000

variable (pos : PositionInfo)

def volumeDrifted (t : Trade) : Bool :=
  pos.volume > 0 && |t.remainingLotSize - pos.volume| > lotEpsilon

def adoptVolume (t : Trade) : Trade :=
  if volumeDrifted pos t then { t with remainingLotSize := pos.volume } else t

def bracketMoved (t : Trade) : Bool := pos.stopLoss ≠ t.stopLoss || pos.takeProfit ≠ t.tp1Price

def adoptedRisk (reads : SnapshotReads) (pos : PositionInfo) (t : Trade) : ℚ × ℚ :=
  (stopRisk reads t.brokerOrderId t.entryPrice pos.stopLoss t.totalLotSize).getD
    (t.riskAmount, t.riskPercent)

def adoptBracket (reads : SnapshotReads) (pos : PositionInfo) (t : Trade) : Trade :=
  if bracketMoved pos t then
    { t with
      stopLoss := pos.stopLoss, swap := pos.swap, commission := pos.commission
      tp1Price := pos.takeProfit, rrRatio := plannedRR t.entryPrice pos.stopLoss pos.takeProfit
      riskAmount := (adoptedRisk reads pos t).1, riskPercent := (adoptedRisk reads pos t).2 }
  else
    { t with swap := pos.swap, commission := pos.commission }

def journalAdoption (reads : SnapshotReads) (userId : String) (pos : PositionInfo) (t : Trade)
    (j : Journal) : Journal :=
  let volumeWritten :=
    if volumeDrifted pos t then
      j.update (reads.writeOk t.tradeId) userId t.tradeId (fun rec =>
        { rec with
          remainingLotSize := pos.volume, stopLoss := pos.stopLoss, tp1Hit := t.tp1Hit
          tp2Hit := t.tp2Hit, tp3Hit := t.tp3Hit, breakevenSet := t.breakevenSet })
    else j
  if bracketMoved pos t then
    volumeWritten.update (reads.writeOk t.tradeId) userId t.tradeId (fun rec =>
      { rec with
        stopLoss := pos.stopLoss, tp1Price := pos.takeProfit
        rrRatio := plannedRR t.entryPrice pos.stopLoss pos.takeProfit
        riskAmount := (adoptedRisk reads pos t).1, riskPercent := (adoptedRisk reads pos t).2
        slAdjustments := rec.slAdjustments + 1 })
  else volumeWritten

variable (t : Trade)

def closeRMultiple : ℚ :=
  let priceDist := if t.isLong then t.currentPrice - t.entryPrice else t.entryPrice - t.currentPrice
  if t.slDistanceFromEntry > 0 then priceDist / t.slDistanceFromEntry else 0

def closePnL (reads : SnapshotReads) (t : Trade) : ℚ :=
  match reads.closedDealProfit t.brokerOrderId with
  | some profit => profit
  | none =>
    if t.slDistanceFromEntry > 0 ∧ t.riskAmount > 0 then closeRMultiple t * t.riskAmount else 0

def closeOutcome (pnl : ℚ) : TradeOutcome :=
  if pnl > 0 then .win else if pnl < 0 then .loss else .breakeven

def handleExternalClose (reads : SnapshotReads) (p : Nat) (s : State) : State where
  manager := s.manager.modify p (fun t =>
    { t with status := .closed, realizedPnL := t.realizedPnL + closePnL reads t })
  journal :=
    let t := s.manager.object p
    s.journal.update (reads.writeOk t.tradeId) t.userId t.tradeId (fun rec =>
      { rec with
        exitPrice := t.currentPrice, grossPnL := closePnL reads t, rMultiple := closeRMultiple t
        outcome := some (closeOutcome (closePnL reads t)), status := .closed, remainingLotSize := 0
        slAdjustments := t.slMoves, partialCloses := t.partials })

def adoptPosition (reads : SnapshotReads) (userId : String) (pos : PositionInfo) (p : Nat)
    (s : State) : State where
  manager := s.manager.modify p (fun t => adoptBracket reads pos (adoptVolume pos t))
  journal := journalAdoption reads userId pos (s.manager.object p) s.journal

def brokerPosition (positions : List PositionInfo) (ticket : String) : Option PositionInfo :=
  positions.reverse.find? (·.ticket = ticket)

def reconciles (userId : String) (t : Trade) : Bool := t.userId = userId && t.brokerOrderId ≠ ""

def reconcileTrade (reads : SnapshotReads) (userId : String) (positions : List PositionInfo)
    (s : State) (entry : String × Nat) : State :=
  let p := entry.2
  let t := s.manager.object p
  if reconciles userId t = false then s
  else
    match brokerPosition positions t.brokerOrderId with
    | none => (handleExternalClose reads p s).removeTrade t.tradeId
    | some pos => adoptPosition reads userId pos p s

def activeSession (hour : Nat) : String :=
  if hour ≥ 7 ∧ hour < 13 then "LONDON_OPEN"
  else if hour ≥ 13 ∧ hour < 17 then "LONDON_NY_OVERLAP"
  else if hour ≥ 17 ∧ hour < 22 then "NEW_YORK"
  else "ASIAN"

def recoveredTrade (userId : String) (pos : PositionInfo) (rec : TradeRecord) : Trade :=
  { rec with
    userId := userId
    remainingLotSize :=
      if pos.volume > 0 ∧ pos.volume ≠ rec.remainingLotSize then pos.volume else rec.remainingLotSize
    status := if rec.status = .closed then .active else rec.status }

def importedTrade (reads : SnapshotReads) (userId tradeId : String) (pos : PositionInfo) :
    Trade where
  tradeId := tradeId
  symbol := pos.symbol
  direction := pos.direction
  brokerOrderId := pos.ticket
  userId := userId
  tradingStyle := styleManualDefault
  grade := "MANUAL/RECONCILED"
  origin := originManualReconciled
  session := activeSession reads.hour
  entryPrice := pos.entryPrice
  stopLoss := pos.stopLoss
  initialSL := pos.stopLoss
  tp1Price := pos.takeProfit
  rrRatio := plannedRR pos.entryPrice pos.stopLoss pos.takeProfit
  totalLotSize := pos.volume
  remainingLotSize := pos.volume
  riskAmount := ((stopRisk reads pos.ticket pos.entryPrice pos.stopLoss pos.volume).getD (0, 0)).1
  riskPercent := ((stopRisk reads pos.ticket pos.entryPrice pos.stopLoss pos.volume).getD (0, 0)).2

def buildReconciledTrade (reads : SnapshotReads) (userId : String) (i : Nat)
    (pos : PositionInfo) (j : Journal) : Except String (Trade × Journal) :=
  let draw := reads.importDraw i
  match j.getTradeByBrokerOrderId draw.queryFails userId pos.ticket with
  | some rec =>
    let resurrected :=
      if rec.status = .closed then
        j.update (reads.writeOk rec.tradeId) userId rec.tradeId (fun rec =>
          { rec with
            status := .active, remainingLotSize := pos.volume, exitPrice := 0, grossPnL := 0
            outcome := none })
      else j
    .ok (recoveredTrade userId pos rec, resurrected)
  | none =>
    let trade := importedTrade reads userId draw.tradeId pos
    match j.insertTrade draw.dbError trade.record with
    | .error e => .error e
    | .ok j' => .ok (trade, j')

def reconcileOrphan (reads : SnapshotReads) (userId : String) (known : List String)
    (s : State) (entry : PositionInfo × Nat) : State :=
  if known.contains entry.1.ticket then s
  else
    match buildReconciledTrade reads userId entry.2 entry.1 s.journal with
    | .error _ => s
    | .ok (trade, j) => { s with journal := j }.registerTrade trade

def knownTickets (userId : String) (s : State) : List String :=
  (s.manager.index.map (fun entry => s.manager.object entry.2)).filterMap (fun t =>
    if reconciles userId t then some t.brokerOrderId else none)

def processPositionUpdate (reads : SnapshotReads) (userId : String)
    (positions : List PositionInfo) (s : State) : State :=
  let known := knownTickets userId s
  let reconciled := s.manager.index.foldl (reconcileTrade reads userId positions) s
  positions.zipIdx.foldl (reconcileOrphan reads userId known) reconciled

def repeatSnapshot (reads : Nat → SnapshotReads) (userId : String)
    (positions : List PositionInfo) (s : State) : Nat → State
  | 0 => s
  | n + 1 => processPositionUpdate (reads n) userId positions
      (repeatSnapshot reads userId positions s n)

structure Plan where
  (stopLoss tp1Price tp2Price tp3Price remainingLotSize : ℚ)
  (tp1Hit tp2Hit tp3Hit : Bool)
deriving DecidableEq

def Trade.plan : Plan := { t with }

def Mirrors (positions : List PositionInfo) (t : Trade) : Prop :=
  ∃ pos, brokerPosition positions t.brokerOrderId = some pos ∧
    pos.stopLoss = t.stopLoss ∧ pos.takeProfit = t.brokerTakeProfit ∧
    pos.volume = t.remainingLotSize

structure SameTrade (t t' : Trade) : Prop where
  userId : t'.userId = t.userId
  ticket : t'.brokerOrderId = t.brokerOrderId
  plan : t'.plan = t.plan

theorem SameTrade.refl : SameTrade t t := ⟨rfl, rfl, rfl⟩

variable {t}
variable {t' : Trade}

theorem SameTrade.trans {t'' : Trade} (h : SameTrade t t') (h' : SameTrade t' t'') :
    SameTrade t t'' :=
  ⟨h'.userId.trans h.userId, h'.ticket.trans h.ticket, h'.plan.trans h.plan⟩

theorem SameTrade.brokerTakeProfit (h : SameTrade t t') :
    t'.brokerTakeProfit = t.brokerTakeProfit := by
  have hpl := h.plan
  simp only [Trade.plan, Plan.mk.injEq] at hpl
  simp [Trade.brokerTakeProfit, hpl]

theorem SameTrade.mirrors {positions : List PositionInfo} (h : SameTrade t t')
    (hmir : Mirrors positions t) : Mirrors positions t' := by
  obtain ⟨pos, hpos, hsp, htgt, hvol⟩ := hmir
  have hpl := h.plan
  simp only [Trade.plan, Plan.mk.injEq] at hpl
  obtain ⟨hsl, -, -, -, hlot, -⟩ := hpl
  refine ⟨pos, ?_, hsp.trans hsl.symm, ?_, hvol.trans hlot.symm⟩
  · rw [h.ticket]
    exact hpos
  · rw [h.brokerTakeProfit]
    exact htgt

def Undisturbed (userId : String) (t : Trade) : Prop :=
  t.userId ≠ userId ∨ t.brokerOrderId = "" ∨ t.brokerTakeProfit = t.tp1Price

theorem Undisturbed.congr {userId : String} (h : SameTrade t t') (hqt : Undisturbed userId t) :
    Undisturbed userId t' := by
  have htp1 : t'.tp1Price = t.tp1Price := congrArg Plan.tp1Price h.plan
  unfold Undisturbed
  rw [h.userId, h.ticket, h.brokerTakeProfit, htp1]
  exact hqt

variable {pos} {entry : String × Nat} {p : Nat}

section Steps

variable (reads : SnapshotReads) (userId : String) (positions : List PositionInfo)
theorem adoptVolume_of_eq (hvol : pos.volume = t.remainingLotSize) : adoptVolume pos t = t := by
  have hdri : volumeDrifted pos t = false := by
    have hz : ¬ |t.remainingLotSize - pos.volume| > lotEpsilon := by
      rw [hvol, sub_self]
      norm_num [lotEpsilon]
    simp [volumeDrifted, hz]
  simp [adoptVolume, hdri]

theorem sameTrade_adoptBracket (hsp : pos.stopLoss = t.stopLoss)
    (htgt : pos.takeProfit = t.tp1Price) : SameTrade t (adoptBracket reads pos t) := by
  have hmvd : bracketMoved pos t = false := by simp [bracketMoved, hsp, htgt]
  rw [adoptBracket, hmvd]
  exact ⟨rfl, rfl, rfl⟩

theorem adoptBracket_target (pos : PositionInfo) (t : Trade) :
    (adoptBracket reads pos (adoptVolume pos t)).tp1Price = pos.takeProfit ∧
      (adoptBracket reads pos (adoptVolume pos t)).userId = t.userId ∧
      (adoptBracket reads pos (adoptVolume pos t)).brokerOrderId = t.brokerOrderId := by
  have hvol : (adoptVolume pos t).userId = t.userId ∧
      (adoptVolume pos t).brokerOrderId = t.brokerOrderId := by
    unfold adoptVolume
    split_ifs
    all_goals exact ⟨rfl, rfl⟩
  unfold adoptBracket
  split_ifs with hmvd
  · exact ⟨rfl, hvol⟩
  · have htgt : pos.takeProfit = (adoptVolume pos t).tp1Price := by
      by_contra hne
      exact hmvd (by simp [bracketMoved, hne])
    exact ⟨htgt.symm, hvol⟩

theorem next_reconcileTrade (s : State) (entry : String × Nat) :
    (reconcileTrade reads userId positions s entry).manager.next = s.manager.next := by
  unfold reconcileTrade
  dsimp only
  split_ifs
  · rfl
  · split
    · rfl
    · rfl

theorem object_reconcileTrade_of_ne (s : State) (hne : p ≠ entry.2) :
    (reconcileTrade reads userId positions s entry).manager.object p = s.manager.object p := by
  unfold reconcileTrade
  dsimp only
  split_ifs
  · rfl
  · split
    · rw [State.removeTrade, object_remove, handleExternalClose, object_modify_of_ne _ hne]
    · rw [adoptPosition, object_modify_of_ne _ hne]

theorem object_reconcileTrade_skipped (s : State)
    (hskip : reconciles userId (s.manager.object entry.2) = false) :
    (reconcileTrade reads userId positions s entry).manager.object entry.2 =
      s.manager.object entry.2 := by
  rw [reconcileTrade, if_pos hskip]

theorem object_reconcileTrade_self (s : State)
    (hours : reconciles userId (s.manager.object entry.2))
    (hpos : brokerPosition positions (s.manager.object entry.2).brokerOrderId = some pos) :
    (reconcileTrade reads userId positions s entry).manager.object entry.2 =
      adoptBracket reads pos (adoptVolume pos (s.manager.object entry.2)) := by
  rw [reconcileTrade, if_neg (by simp [hours]), hpos]
  dsimp only
  rw [adoptPosition, object_modify_self]

theorem sameTrade_reconcileTrade (s : State) (entry : String × Nat) (p : Nat)
    (hmir : Mirrors positions (s.manager.object p))
    (hqt : Undisturbed userId (s.manager.object p)) :
    SameTrade (s.manager.object p)
      ((reconcileTrade reads userId positions s entry).manager.object p) := by
  by_cases hp : p = entry.2
  · subst hp
    cases hours : reconciles userId (s.manager.object entry.2) with
    | false =>
      rw [object_reconcileTrade_skipped reads userId positions s hours]
      exact SameTrade.refl _
    | true =>
      obtain ⟨pos, hpos, hsp, htgt, hvol⟩ := hmir
      rw [object_reconcileTrade_self reads userId positions s hours hpos, adoptVolume_of_eq hvol]
      have howr : (s.manager.object entry.2).userId = userId ∧
          (s.manager.object entry.2).brokerOrderId ≠ "" := by
        simpa [reconciles] using hours
      rcases hqt with hu | htkt | hsm
      · exact absurd howr.1 hu
      · exact absurd htkt howr.2
      · exact sameTrade_adoptBracket reads hsp (htgt.trans hsm)
  · rw [object_reconcileTrade_of_ne reads userId positions s hp]
    exact SameTrade.refl _

theorem sameTrade_foldl_reconcileTrade (entries : List (String × Nat)) (s : State) (p : Nat)
    (hmir : Mirrors positions (s.manager.object p))
    (hqt : Undisturbed userId (s.manager.object p)) :
    SameTrade (s.manager.object p)
      ((entries.foldl (reconcileTrade reads userId positions) s).manager.object p) := by
  induction entries generalizing s with
  | nil => exact SameTrade.refl _
  | cons entry _ ih =>
    have hst : SameTrade (s.manager.object p)
        ((reconcileTrade reads userId positions s entry).manager.object p) :=
      sameTrade_reconcileTrade reads userId positions s entry p hmir hqt
    exact hst.trans (ih _ (hst.mirrors hmir) (hqt.congr hst))

theorem next_foldl_reconcileTrade (entries : List (String × Nat)) (s : State) :
    (entries.foldl (reconcileTrade reads userId positions) s).manager.next = s.manager.next := by
  induction entries generalizing s with
  | nil => rfl
  | cons _ _ ih => rw [List.foldl_cons, ih, next_reconcileTrade]

theorem foldl_reconcileTrade_target (entries : List (String × Nat)) (s : State) (p : Nat)
    (pos : PositionInfo) (hours : reconciles userId (s.manager.object p))
    (hpos : brokerPosition positions (s.manager.object p).brokerOrderId = some pos)
    (hvis : (∃ entry ∈ entries, entry.2 = p) ∨ (s.manager.object p).tp1Price = pos.takeProfit) :
    ((entries.foldl (reconcileTrade reads userId positions) s).manager.object p).tp1Price =
      pos.takeProfit := by
  induction entries generalizing s with
  | nil =>
    rcases hvis with ⟨entry, hent, -⟩ | hdo
    · cases hent
    · exact hdo
  | cons entry _ ih =>
    by_cases hp : p = entry.2
    · subst hp
      have hobj := object_reconcileTrade_self reads userId positions s hours hpos
      obtain ⟨htgt, hu, htkt⟩ := adoptBracket_target reads pos (s.manager.object entry.2)
      rw [← hobj] at htgt hu htkt
      refine ih _ ?_ ?_ (.inr htgt)
      · simpa [reconciles, hu, htkt] using hours
      · rw [htkt]
        exact hpos
    · have hobj := object_reconcileTrade_of_ne reads userId positions s hp
      refine ih _ ?_ ?_ ?_
      · rw [hobj]
        exact hours
      · rw [hobj]
        exact hpos
      · rcases hvis with ⟨other, hoth, rfl⟩ | hdo
        · rcases List.mem_cons.mp hoth with rfl | hrs
          · exact absurd rfl hp
          · exact .inl ⟨other, hrs, rfl⟩
        · rw [hobj]
          exact .inr hdo

theorem reconcileOrphan_frame (known : List String) (s : State) (entry : PositionInfo × Nat) (hp : p < s.manager.next) :
    (reconcileOrphan reads userId known s entry).manager.object p = s.manager.object p ∧
      p < (reconcileOrphan reads userId known s entry).manager.next := by
  unfold reconcileOrphan
  split_ifs
  · exact ⟨rfl, hp⟩
  · split
    · exact ⟨rfl, hp⟩
    · exact ⟨object_register_of_lt _ hp _ _, hp.trans (Nat.lt_succ_self _)⟩

theorem foldl_reconcileOrphan_frame (known : List String) (entries : List (PositionInfo × Nat))
    (s : State) (hp : p < s.manager.next) :
    (entries.foldl (reconcileOrphan reads userId known) s).manager.object p =
        s.manager.object p ∧
      p < (entries.foldl (reconcileOrphan reads userId known) s).manager.next := by
  induction entries generalizing s with
  | nil => exact ⟨rfl, hp⟩
  | cons entry _ ih =>
    obtain ⟨hobj, hnx⟩ := reconcileOrphan_frame reads userId known s entry hp
    obtain ⟨hrs, hl⟩ := ih _ hnx
    exact ⟨hrs.trans hobj, hl⟩

theorem object_processPositionUpdate (s : State) (hp : p < s.manager.next) :
    (processPositionUpdate reads userId positions s).manager.object p =
        (s.manager.index.foldl (reconcileTrade reads userId positions) s).manager.object p ∧
      p < (processPositionUpdate reads userId positions s).manager.next := by
  have hloop : p < (s.manager.index.foldl
      (reconcileTrade reads userId positions) s).manager.next := by
    rw [next_foldl_reconcileTrade]
    exact hp
  exact foldl_reconcileOrphan_frame reads userId _ _ _ hloop

end Steps

theorem sameTrade_repeatSnapshot (reads : Nat → SnapshotReads) (userId : String)
    (positions : List PositionInfo) (s : State) (hp : p < s.manager.next)
    (hmir : Mirrors positions (s.manager.object p))
    (hqt : Undisturbed userId (s.manager.object p)) (n : Nat) :
    SameTrade (s.manager.object p)
        ((repeatSnapshot reads userId positions s n).manager.object p) ∧
      p < (repeatSnapshot reads userId positions s n).manager.next := by
  induction n with
  | zero => exact ⟨SameTrade.refl _, hp⟩
  | succ n ih =>
    obtain ⟨hsm, hlt⟩ := ih
    obtain ⟨hobj, hnx⟩ := object_processPositionUpdate (reads n) userId positions _ hlt
    refine ⟨hsm.trans ?_, hnx⟩
    rw [repeatSnapshot, hobj]
    exact sameTrade_foldl_reconcileTrade _ _ _ _ _ p (hsm.mirrors hmir) (hqt.congr hsm)

def eurusdPosition : PositionInfo where
  symbol := "EURUSD"
  direction := "BUY"
  entryPrice := 1.1
  stopLoss := 1.09
  takeProfit := 1.16
  volume := 0.3
  ticket := "1001"

def eurusdTrade (tp1Price : ℚ) : Trade where
  tradeId := "TMG-1"
  symbol := "EURUSD"
  direction := "BUY"
  brokerOrderId := "1001"
  userId := "u1"
  entryPrice := 1.1
  stopLoss := 1.09
  initialSL := 1.09
  tp1Price := tp1Price
  tp2Price := 1.14
  tp3Price := 1.16
  totalLotSize := 0.3
  remainingLotSize := 0.3

def managing (t : Trade) : State := State.init.registerTrade t

theorem mirrors_eurusd (tp1Price : ℚ) : Mirrors [eurusdPosition] (eurusdTrade tp1Price) := by
  refine ⟨eurusdPosition, rfl, rfl, ?_, rfl⟩
  have hset : (1.16 : ℚ) > 0 := by norm_num
  simp [Trade.brokerTakeProfit, eurusdTrade, eurusdPosition, hset]

theorem repeatSnapshot_plan_iff (reads : Nat → SnapshotReads) (userId : String)
    (positions : List PositionInfo) (s : State) (entry : String × Nat)
    (hentry : entry ∈ s.manager.index) (hmirror : Mirrors positions (s.manager.object entry.2)) :
    (∀ n, ((repeatSnapshot reads userId positions s n).manager.object entry.2).plan =
        (s.manager.object entry.2).plan) ↔
      (s.manager.object entry.2).userId ≠ userId ∨
        (s.manager.object entry.2).brokerOrderId = "" ∨
        (s.manager.object entry.2).brokerTakeProfit = (s.manager.object entry.2).tp1Price := by
  have hp : entry.2 < s.manager.next := s.manager.index_lt entry hentry
  constructor
  · intro hpl
    by_contra hhan
    push Not at hhan
    obtain ⟨hu, htkt, htgt⟩ := hhan
    obtain ⟨pos, hpos, -, hbrk, -⟩ := hmirror
    have hours : reconciles userId (s.manager.object entry.2) = true := by
      simp [reconciles, hu, htkt]
    have hado := foldl_reconcileTrade_target (reads 0) userId positions s.manager.index s
      entry.2 pos hours hpos (.inl ⟨entry, hentry, rfl⟩)
    rw [← (object_processPositionUpdate (reads 0) userId positions s hp).1, hbrk] at hado
    have hkp := congrArg Plan.tp1Price (hpl 1)
    exact htgt (hado.symm.trans hkp)
  · intro hqt n
    exact (sameTrade_repeatSnapshot reads userId positions s hp hmirror hqt n).1.plan

theorem repeatSnapshot_plan_eurusd :
    ((repeatSnapshot (fun _ => {}) "u1" [eurusdPosition]
        (managing (eurusdTrade 1.16)) 3).manager.object 0).plan = (eurusdTrade 1.16).plan := by
  have hent : ("TMG-1", 0) ∈ (managing (eurusdTrade 1.16)).manager.index := List.mem_cons_self
  have hl : (eurusdTrade 1.16).brokerTakeProfit = (eurusdTrade 1.16).tp1Price := by decide +kernel
  exact (repeatSnapshot_plan_iff (fun _ => {}) "u1" [eurusdPosition]
    (managing (eurusdTrade 1.16)) ("TMG-1", 0) hent (mirrors_eurusd 1.16)).mpr
    (.inr (.inr hl)) 3

theorem mirror_rewrites_first_target :
    Mirrors [eurusdPosition] (eurusdTrade 1.12) ∧
      ((processPositionUpdate {} "u1" [eurusdPosition]
        (managing (eurusdTrade 1.12))).manager.object 0).tp1Price = 1.16 :=
  ⟨mirrors_eurusd 1.12, by decide +kernel⟩

end ETradie.Management
