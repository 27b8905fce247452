import ETradie.Execution.Intake

namespace ETradie.Execution

open Kernel

structure PendingWatcherRecord where
  (watcherId orderId userId symbol direction executionMode : String)
  (entryPrice stopLoss tp1Price : ℚ)
  tp1Pct : Int
  tp2Price : ℚ
  tp2Pct : Int
  tp3Price : ℚ
  tp3Pct : Int
  (lotSize riskPercent riskAmount rrRatio accountBalance slDistancePips pipValue : ℚ)
  overshootTolerance : ℚ
  ltfConfirmed : Bool
  (analysisId tradingStyle session grade : String)
  (confluence confidence : ℚ)
  (setupType brokerOrderId : String)
  createdAt : Int
deriving DecidableEq

variable (order : Order)

def PendingWatcherRecord.ofOrder : PendingWatcherRecord :=
  { order with executionMode := order.executionMode.text }

structure WatcherTable where
  rows : List PendingWatcherRecord
  unique : (rows.map PendingWatcherRecord.watcherId).Nodup

def WatcherTable.empty : WatcherTable where
  rows := []
  unique := List.nodup_nil

variable (table : WatcherTable) (watcherId : String)

def WatcherTable.has : Bool := table.rows.any (·.watcherId = watcherId)

theorem WatcherTable.has_eq_true :
    table.has watcherId ↔ watcherId ∈ table.rows.map PendingWatcherRecord.watcherId := by
  simp [WatcherTable.has]

variable (r : PendingWatcherRecord)

def WatcherTable.insertRow : WatcherTable :=
  if h : table.has r.watcherId = true then table
  else
    { rows := table.rows ++ [r]
      unique := by
        have hnew : r.watcherId ∉ table.rows.map PendingWatcherRecord.watcherId := by
          rwa [WatcherTable.has_eq_true] at h
        rw [List.map_append, List.map_singleton]
        exact List.Nodup.append table.unique (List.nodup_singleton _)
          (List.disjoint_singleton.mpr hnew) }

def WatcherTable.insert (table : WatcherTable) (exec : Except String Unit) (order : Order) :
    Except String WatcherTable :=
  if order.userId = "" then
    .error ("insert watcher " ++ order.watcherId ++ ": user_id must not be empty")
  else
    match exec with
    | .error e => .error ("insert watcher " ++ order.watcherId ++ ": " ++ e)
    | .ok () => .ok (table.insertRow (PendingWatcherRecord.ofOrder order))

def WatcherTable.delete : WatcherTable where
  rows := table.rows.filter (·.watcherId ≠ watcherId)
  unique := (List.filter_sublist.map PendingWatcherRecord.watcherId).nodup table.unique

def WatcherTable.getAllPending : List PendingWatcherRecord :=
  table.rows.insertionSort (fun a b => a.createdAt ≤ b.createdAt)

structure AuthUser where
  (username role tier status : String)
  active : Bool
deriving DecidableEq

variable (authToken : String) (user : Option AuthUser)

def restoreOrderFromRecord : Order :=
  { r with
    executionMode := ExecutionMode.ofText r.executionMode
    username := (user.map AuthUser.username).getD "", role := (user.map AuthUser.role).getD ""
    tier := (user.map AuthUser.tier).getD "", statusJwt := (user.map AuthUser.status).getD ""
    authToken := authToken }

structure WatcherReads where
  (orderId watcherId userId brokerOrderId symbol : String)
  direction : Direction
  executionMode : String
  (entryPrice stopLoss overshootTolerance lotSize riskPercent riskAmount rrRatio : ℚ)
  ltfConfirmed : Bool
  idempotencyKey : String
  (obUpper obLower : ℚ)
  (ltfTimeframe htfTimeframe : String)
  tp1Price : ℚ
  tp1Pct : Int
  tp2Price : ℚ
  tp2Pct : Int
  tp3Price : ℚ
  tp3Pct : Int
  ttlCandles : Nat
  analysisId : String
  tradingStyle : TradingStyle
  (session grade : String)
  (confluence confidence : ℚ)
  setupType : String
  createdAt : Int
deriving DecidableEq

def Order.watcherReads : WatcherReads := { order with executionMode := order.executionMode.text }

variable {r}

section Table

variable {table' : WatcherTable} {table}
variable {order}

theorem mem_insertRow {x : PendingWatcherRecord} (hn : table.has r.watcherId = false) :
    x ∈ (table.insertRow r).rows ↔ x ∈ table.rows ∨ x = r := by
  simp [WatcherTable.insertRow, hn]

@[simp] theorem mem_getAllPending : r ∈ table.getAllPending ↔ r ∈ table.rows := by
  simp [WatcherTable.getAllPending]

theorem record_of_insert {exec : Except String Unit}
    (hins : table.insert exec order = .ok table') (hn : table.has order.watcherId = false)
    (hrd : r ∈ table'.getAllPending) (hid : r.watcherId = order.watcherId) :
    r = PendingWatcherRecord.ofOrder order := by
  unfold WatcherTable.insert at hins
  by_cases hu : order.userId = ""
  · rw [if_pos hu] at hins
    cases hins
  · rw [if_neg hu] at hins
    cases exec with
    | error e => cases hins
    | ok u =>
      have htbl := Except.ok.inj hins
      rw [mem_getAllPending, ← htbl] at hrd
      have hfr : table.has (PendingWatcherRecord.ofOrder order).watcherId = false := hn
      rcases (mem_insertRow hfr).mp hrd with ho | hwri
      · have hkn : table.has order.watcherId := by
          rw [WatcherTable.has_eq_true, ← hid]
          exact List.mem_map_of_mem ho
        rw [hkn] at hn
        cases hn
      · exact hwri

end Table

@[simp] theorem ExecutionMode.text_ofText (s : String) : (ExecutionMode.ofText s).text = s := by
  unfold ExecutionMode.ofText
  split_ifs with hlim hins hauto
  · exact hlim.symm
  · exact hins.symm
  · exact hauto.symm
  · rfl

theorem watcherReads_restore :
    (restoreOrderFromRecord (PendingWatcherRecord.ofOrder order) authToken user).watcherReads =
      { order.watcherReads with
        idempotencyKey := "", obUpper := 0, obLower := 0, ltfTimeframe := "", htfTimeframe := ""
        ttlCandles := 0 } := by
  simp [Order.watcherReads, restoreOrderFromRecord, PendingWatcherRecord.ofOrder]

theorem restore_agrees_iff :
    (restoreOrderFromRecord (PendingWatcherRecord.ofOrder order) authToken user).watcherReads =
        order.watcherReads ↔
      order.idempotencyKey = "" ∧ order.ttlCandles = 0 ∧ order.obUpper = 0 ∧
        order.obLower = 0 ∧ order.ltfTimeframe = "" ∧ order.htfTimeframe = "" := by
  rw [watcherReads_restore]
  constructor
  · intro h
    have hk := congrArg WatcherReads.idempotencyKey h
    have hcan := congrArg WatcherReads.ttlCandles h
    have hup := congrArg WatcherReads.obUpper h
    have hlo := congrArg WatcherReads.obLower h
    have hltf := congrArg WatcherReads.ltfTimeframe h
    have hhtf := congrArg WatcherReads.htfTimeframe h
    exact ⟨hk.symm, hcan.symm, hup.symm, hlo.symm, hltf.symm, hhtf.symm⟩
  · rintro ⟨hk, hcan, hup, hlo, hltf, hhtf⟩
    simp [Order.watcherReads, hk, hcan, hup, hlo, hltf, hhtf]

theorem limitTtlCandles_pos (style : TradingStyle) : 0 < limitTtlCandles style := by
  unfold limitTtlCandles
  split_ifs <;> decide

theorem buildWithMode_dropped_iff (req : TradeRequest) (sizing : SizingResult) (cfg : Config)
    (mode : ExecutionMode) (orderId : String) (createdAt : Int) :
    ((buildWithMode req sizing cfg mode orderId createdAt).ttlCandles = 0 ∧
      (buildWithMode req sizing cfg mode orderId createdAt).obUpper = 0 ∧
      (buildWithMode req sizing cfg mode orderId createdAt).obLower = 0 ∧
      (buildWithMode req sizing cfg mode orderId createdAt).ltfTimeframe = "" ∧
      (buildWithMode req sizing cfg mode orderId createdAt).htfTimeframe = "") ↔
      mode ≠ .limit ∧ (mode = .instant →
        req.obUpper = 0 ∧ req.obLower = 0 ∧ req.ltfTimeframe = "" ∧ req.htfTimeframe = "") := by
  have hpos := limitTtlCandles_pos req.tradingStyle
  cases mode with
  | limit =>
    simp only [buildWithMode, ne_eq, not_true_eq_false, false_and, iff_false]
    omega
  | instant | auto | other mode => simp [buildWithMode]

theorem restored_order_agrees_iff {text : CaseMap} {cfg : Config} {req : TradeRequest}
    {draw : OrderDraw} {built : Order} {table table' : WatcherTable} {exec : Except String Unit}
    {r : PendingWatcherRecord} (hbuilt : prepareOrder text cfg req draw = .ok built)
    (brokerOrderId : String)
    (hinsert : table.insert exec { built with brokerOrderId := brokerOrderId } = .ok table')
    (hnew : table.has built.watcherId = false) (hread : r ∈ table'.getAllPending)
    (hid : r.watcherId = built.watcherId) (authToken : String) (user : Option AuthUser) :
    (restoreOrderFromRecord r authToken user).watcherReads =
        ({ built with brokerOrderId := brokerOrderId } : Order).watcherReads ↔
      trimSpace draw.idempotencyKey = "" ∧
        chooseMode text cfg draw.settings req ≠ .limit ∧
        (chooseMode text cfg draw.settings req = .instant →
          req.obUpper = 0 ∧ req.obLower = 0 ∧ req.ltfTimeframe = "" ∧ req.htfTimeframe = "") := by
  rw [record_of_insert hinsert hnew hread hid, restore_agrees_iff]
  unfold prepareOrder at hbuilt
  cases hsz : calculate cfg draw.reads req with
  | error e =>
    rw [hsz] at hbuilt
    cases hbuilt
  | ok sizing =>
    rw [hsz] at hbuilt
    rw [← Except.ok.inj hbuilt]
    exact and_congr_right' (buildWithMode_dropped_iff req sizing cfg _ _ _)

def instantRequest (upper lower : ℚ) (ltf htf : String) : TradeRequest :=
  { eurusdRequest with
    userId := "trader", obUpper := upper, obLower := lower, ltfTimeframe := ltf
    htfTimeframe := htf }

def instantDraw (key : String) : OrderDraw where
  reads := eurusdReads (1 / 100)
  settings := { executionMode := some "INSTANT" }
  stamp := "20260316"
  nonce := "4f2a"
  createdAt := 1773662400
  idempotencyKey := key

def instantOrder (upper lower : ℚ) (ltf htf key : String) : Order where
  orderId := "ORD_EURUSD_20260316_4f2a"
  watcherId := "GRT_EURUSD_EURUSD_20260316_4f2a"
  symbol := "EURUSD"
  direction := directionLong
  executionMode := .instant
  idempotencyKey := key
  entryPrice := 11 / 10
  stopLoss := 1.09697
  lotSize := 33 / 100
  riskPercent := 1
  riskAmount := 100
  rrRatio := 3
  accountBalance := 10000
  slDistancePips := 30.3
  pipValue := 10
  obUpper := upper
  obLower := lower
  ltfTimeframe := ltf
  htfTimeframe := htf
  createdAt := 1773662400
  userId := "trader"

theorem restored_order_agrees_plain :
    prepareOrder asciiCaseMap {} (instantRequest 0 0 "" "") (instantDraw "") =
        .ok (instantOrder 0 0 "" "" "") ∧
      (restoreOrderFromRecord (PendingWatcherRecord.ofOrder (instantOrder 0 0 "" "" ""))
          "service-token" none).watcherReads =
        (instantOrder 0 0 "" "" "").watcherReads := by
  have hblt : prepareOrder asciiCaseMap {} (instantRequest 0 0 "" "") (instantDraw "") =
      .ok (instantOrder 0 0 "" "" "") := by
    decide +kernel
  have hins : WatcherTable.empty.insert (.ok ())
      { instantOrder 0 0 "" "" "" with brokerOrderId := "" } =
      .ok (WatcherTable.empty.insertRow
        (PendingWatcherRecord.ofOrder (instantOrder 0 0 "" "" ""))) := by
    rfl
  refine ⟨hblt, (restored_order_agrees_iff hblt "" hins rfl ?_ rfl "service-token" none).mpr ?_⟩
  · rw [mem_getAllPending]
    exact (mem_insertRow rfl).mpr (.inr rfl)
  · decide +kernel

def confirmationFields : String × ℚ × ℚ × String × String :=
  (order.idempotencyKey, order.obUpper, order.obLower, order.ltfTimeframe, order.htfTimeframe)

theorem restored_order_loses_block :
    prepareOrder asciiCaseMap {} (instantRequest 1.101 1.099 "M15" "H4") (instantDraw "key-1") =
        .ok (instantOrder 1.101 1.099 "M15" "H4" "key-1") ∧
      (WatcherTable.empty.insert (.ok ()) (instantOrder 1.101 1.099 "M15" "H4" "key-1")).map
          (fun table => table.getAllPending.map
            (fun r => confirmationFields (restoreOrderFromRecord r "service-token" none))) =
        .ok [("", 0, 0, "", "")] ∧
      confirmationFields (instantOrder 1.101 1.099 "M15" "H4" "key-1") =
        ("key-1", 1.101, 1.099, "M15", "H4") := by
  refine ⟨by decide +kernel, by decide +kernel, by decide +kernel⟩

end ETradie.Execution
