import ETradie.Kernel.Keyed
import ETradie.Management.Trade

/-!
# Rebuilding journal rows from the broker's history

The sync writes a row for each deal under an id of its own, with the columns of `InsertTrade`,
which leave out the profit and the time of the close.
-/

namespace ETradie.Management.HistorySync

open Kernel

structure HistoryDealInfo where
  (ticket positionId symbol direction : String)
  (volume profit : ℚ)
  time : Int

structure JournalRow extends TradeRecord where
  openedAt : Int
  closedAt : Option Int := none
  durationMinutes : Int := 0

abbrev Rows := Keyed (fun row : JournalRow => row.tradeId)

def JournalRow.inserted (row : JournalRow) : JournalRow :=
  { row with
    toTradeRecord := { row.toTradeRecord.stored with
      exitPrice := 0, grossPnL := 0, rMultiple := 0, outcome := none
      slAdjustments := 0, partialCloses := 0 }
    closedAt := none
    durationMinutes := 0 }

def insertTrade (rows : Rows) (dbOk : Bool) (row : JournalRow) : Option Rows :=
  if row.userId = "" ∨ dbOk = false ∨ (rows.get row.tradeId).isSome then none
  else some (rows.put row.inserted)

variable (userId : String) (deal : HistoryDealInfo)

def historyId : String := "TMG-HIST-" ++ deal.ticket

def historyRow : JournalRow where
  userId := userId
  tradeId := historyId deal
  symbol := deal.symbol
  direction := deal.direction
  brokerOrderId := deal.ticket
  tradingStyle := "INTRADAY"
  grade := "MANUAL/RESTORED"
  origin := "MANUAL_RESTORED"
  entryPrice := 0
  stopLoss := 0
  initialSL := 0
  totalLotSize := deal.volume
  remainingLotSize := 0
  status := .closed
  openedAt := deal.time - 3600
  closedAt := some deal.time
  grossPnL := deal.profit
  outcome := some (if 0 < deal.profit then .win else if deal.profit < 0 then .loss else .breakeven)
  durationMinutes := 60

variable (dbOk : String → Bool)

def syncDeal (rows : Rows) (deal : HistoryDealInfo) :
    Rows :=
  if deal.ticket = "" then rows
  else (insertTrade rows (dbOk (historyId deal)) (historyRow userId deal)).getD rows

def historySync (history : List HistoryDealInfo)
    (rows : Rows) : Rows :=
  history.foldl (syncDeal userId dbOk) rows

section Promise

variable {userId} {dbOk} {history : List HistoryDealInfo} {rows : Rows}

def Concerns (history : List HistoryDealInfo) (position : String) (row : JournalRow) : Prop :=
  row.brokerOrderId = position ∨
    ∃ deal ∈ history, deal.positionId = position ∧ row.tradeId = historyId deal

structure Faithful (userId : String) (history : List HistoryDealInfo) (rows : Rows) : Prop where
  single : ∀ deal ∈ history, deal.positionId ≠ "" → ∀ row ∈ rows.rows, ∀ row' ∈ rows.rows,
    row.userId = userId → row'.userId = userId → Concerns history deal.positionId row →
      Concerns history deal.positionId row' → row = row'
  stored : ∀ deal ∈ history, ∀ row ∈ rows.rows, row.tradeId = historyId deal →
    row.grossPnL = deal.profit ∧ row.closedAt = some deal.time

/-- The sync has nothing to write for the deal, or cannot write it. -/
def Skipped (userId : String) (dbOk : String → Bool) (rows : Rows) (deal : HistoryDealInfo) :
    Prop :=
  deal.ticket = "" ∨ userId = "" ∨ dbOk (historyId deal) = false ∨
    (rows.get (historyId deal)).isSome = true

theorem syncDeal_of_skipped {deal : HistoryDealInfo} (h : Skipped userId dbOk rows deal) :
    syncDeal userId dbOk rows deal = rows := by
  unfold syncDeal insertTrade
  split
  · rfl
  · next hticket => exact congrArg (Option.getD · rows) (if_pos (h.resolve_left hticket))

theorem syncDeal_of_not_skipped {deal : HistoryDealInfo} (h : ¬ Skipped userId dbOk rows deal) :
    syncDeal userId dbOk rows deal = rows.put (historyRow userId deal).inserted := by
  obtain ⟨hticket, hwritten⟩ := not_or.mp h
  unfold syncDeal insertTrade
  rw [if_neg hticket]
  exact congrArg (Option.getD · rows) (if_neg hwritten)

theorem mem_historySync {row : JournalRow} (h : row ∈ rows.rows) :
    row ∈ (historySync userId dbOk history rows).rows := by
  induction history generalizing rows with
  | nil => exact h
  | cons deal history ih =>
    refine ih ?_
    by_cases hskip : Skipped userId dbOk rows deal
    · rwa [syncDeal_of_skipped hskip]
    · rw [syncDeal_of_not_skipped hskip, Keyed.mem_put]
      refine .inr ⟨h, ?_⟩
      intro hkey
      refine hskip (.inr (.inr (.inr ?_)))
      have hget : rows.get (historyId deal) = some row := Keyed.get_eq_some_iff.mpr ⟨h, hkey⟩
      rw [hget]
      rfl

theorem historySync_of_skipped (h : ∀ deal ∈ history, Skipped userId dbOk rows deal) :
    historySync userId dbOk history rows = rows := by
  induction history with
  | nil => rfl
  | cons deal history ih =>
    obtain ⟨hskip, hrest⟩ := List.forall_mem_cons.mp h
    change historySync userId dbOk history (syncDeal userId dbOk rows deal) = rows
    rw [syncDeal_of_skipped hskip, ih hrest]

/-- What the first deal that is not skipped writes is still there at the end. -/
theorem exists_written (h : ¬ ∀ deal ∈ history, Skipped userId dbOk rows deal) :
    ∃ deal ∈ history, (historyRow userId deal).inserted ∈
      (historySync userId dbOk history rows).rows := by
  induction history with
  | nil => simp at h
  | cons deal history ih =>
    by_cases hskip : Skipped userId dbOk rows deal
    · obtain ⟨later, hlater, hrow⟩ := ih fun hrest => h (List.forall_mem_cons.mpr ⟨hskip, hrest⟩)
      refine ⟨later, List.mem_cons_of_mem _ hlater, ?_⟩
      change _ ∈ (historySync userId dbOk history (syncDeal userId dbOk rows deal)).rows
      rwa [syncDeal_of_skipped hskip]
    · refine ⟨deal, List.mem_cons_self, ?_⟩
      change _ ∈ (historySync userId dbOk history (syncDeal userId dbOk rows deal)).rows
      rw [syncDeal_of_not_skipped hskip]
      exact mem_historySync (Keyed.mem_put.mpr (.inl rfl))

/-- Every row that the sync writes lacks the time of the close, so the promise holds after a sync
iff it held before and no deal gets a row. -/
theorem history_sync_faithful_iff (userId : String) (dbOk : String → Bool)
    (history : List HistoryDealInfo) (rows : Rows) :
    Faithful userId history (historySync userId dbOk history rows) ↔
      Faithful userId history rows ∧ ∀ deal ∈ history, deal.ticket = "" ∨ userId = "" ∨
        dbOk (historyId deal) = false ∨ (rows.get (historyId deal)).isSome = true := by
  constructor
  · intro h
    by_cases hskip : ∀ deal ∈ history, Skipped userId dbOk rows deal
    · rw [historySync_of_skipped hskip] at h
      exact ⟨h, hskip⟩
    · obtain ⟨deal, hdeal, hrow⟩ := exists_written hskip
      cases (h.stored deal hdeal _ hrow rfl).2
  · rintro ⟨h, hskip⟩
    rwa [historySync_of_skipped hskip]

theorem history_sync_duplicates :
    let live : JournalRow := { historyRow "u" ⟨"7", "7", "EURUSD", "BUY", 1, 20, 5000⟩ with
      tradeId := "TMG-1" }
    let deal : HistoryDealInfo := ⟨"9", "7", "EURUSD", "BUY", 1, 20, 5000⟩
    (historySync "u" (fun _ => true) [deal] ⟨[live], by simp⟩).rows.map (fun row =>
      (row.tradeId, row.grossPnL, row.closedAt)) =
        [("TMG-1", 20, some 5000), ("TMG-HIST-9", 0, none)] := by
  decide +kernel

end Promise

end ETradie.Management.HistorySync
