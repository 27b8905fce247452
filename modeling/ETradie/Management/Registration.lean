import ETradie.Management.Trade
import ETradie.Kernel.Retry
import ETradie.Rpc

namespace ETradie.Management

open Kernel Registry

structure RegisterFilledTradeRequest where
  (symbol direction brokerOrderId : String)
  (fillPrice stopLoss tp1Price : ℚ)
  tp1Pct : Int
  tp2Price : ℚ
  tp2Pct : Int
  tp3Price : ℚ
  tp3Pct : Int
  (lotSize riskAmount riskPercent rrRatio : ℚ)
  (grade tradingStyle session setupType executionMode : String)
  (confluenceScore slippage : ℚ)
  (analysisId traceId : String)
  point : ℚ
  digits : Int
deriving DecidableEq

structure RegisterFilledTradeResponse where
  success : Bool
  (tradeId message : String)
deriving DecidableEq

structure RegisterDraw where
  tradeId : String
  queryFails : Bool := false
  dbError : Option String := none
deriving DecidableEq

def newTrade (userId tradeId : String) (req : RegisterFilledTradeRequest) : Trade :=
  { req with
    tradeId := tradeId, origin := originSystem, userId := userId, entryPrice := req.fillPrice
    initialSL := req.stopLoss, totalLotSize := req.lotSize, remainingLotSize := req.lotSize
    status := .active }

def Trade.record (t : Trade) : TradeRecord :=
  { t with tp1Hit := false, tp2Hit := false, tp3Hit := false, breakevenSet := false }

variable (claims : Option Claims) (req : RegisterFilledTradeRequest)

def authorizeRegister :
    Except RpcError String :=
  match claims with
  | none => .error ⟨.unauthenticated, "missing claims in context"⟩
  | some c =>
    if c.userId = "" then .error ⟨.unauthenticated, "user_id not found in context"⟩
    else if c.role ≠ roleAdmin ∧ c.tier = "free" then
      .error ⟨.permissionDenied, "trade management is restricted to Pro users"⟩
    else if req.symbol = "" ∨ req.brokerOrderId = "" then
      .error ⟨.invalidArgument, "symbol and broker_order_id are required"⟩
    else if req.fillPrice ≤ 0 then .error ⟨.invalidArgument, "fill_price must be positive"⟩
    else if req.stopLoss ≤ 0 then .error ⟨.invalidArgument, "stop_loss must be positive"⟩
    else if req.lotSize ≤ 0 then .error ⟨.invalidArgument, "lot_size must be positive"⟩
    else .ok c.userId

def registerFilledTrade
    (draw : RegisterDraw) (s : State) : Except RpcError RegisterFilledTradeResponse × State :=
  match authorizeRegister claims req with
  | .error e => (.error e, s)
  | .ok userId =>
    match s.journal.getTradeByBrokerOrderId draw.queryFails userId req.brokerOrderId with
    | some existing =>
      (.ok ⟨true, existing.tradeId, "Trade already registered (idempotent). Monitoring active."⟩, s)
    | none =>
      let trade := newTrade userId draw.tradeId req
      match s.journal.insertTrade draw.dbError trade.record with
      | .error e => (.error ⟨.internal, "journal insert failed: " ++ e⟩, s)
      | .ok journal =>
        (.ok ⟨true, draw.tradeId, "Trade " ++ draw.tradeId ++
          " registered. Monitoring active."⟩,
          { s with journal := journal }.registerTrade trade)

structure Attempt where
  (arrives answered : Bool := true)
  lost : RpcError := ⟨.unavailable, ""⟩
  draw : RegisterDraw
deriving DecidableEq

def attemptRegister
    (a : Attempt) (s : State) : Except RpcError RegisterFilledTradeResponse × State :=
  if a.arrives = false then (.error a.lost, s)
  else
    let (answer, s') := registerFilledTrade claims req a.draw s
    if a.answered then (answer, s') else (.error a.lost, s')

def isRetryable (e : RpcError) : Bool :=
  e.code = .unavailable || e.code = .deadlineExceeded || e.code = .internal

def maxRetries : Nat := 3

def clientRegisterFilledTrade
    (first : Attempt) (further : List (Option Attempt)) (s : State) :
    Except String String × State :=
  match retry isRetryable ⟨.canceled, "context canceled"⟩ (attemptRegister claims req)
      first (further.take maxRetries) s with
  | (.error e, s') => (.error ("management register trade: " ++ e.message), s')
  | (.ok resp, s') =>
    if resp.success then (.ok resp.tradeId, s')
    else (.error ("management register trade: " ++ resp.message), s')

structure OwnsTicket
    (userId : String) (req : RegisterFilledTradeRequest) (s : State) : Prop where
  managed : ∀ rec ∈ s.journal, rec.brokerOrderId = req.brokerOrderId → rec.userId = userId →
    ∃ t, s.manager.get? rec.tradeId = some t ∧ t.brokerOrderId = req.brokerOrderId ∧
      t.userId = userId
  faithful : ∀ id t, s.manager.get? id = some t → t.brokerOrderId = req.brokerOrderId →
    t.userId = userId → t = newTrade userId id req ∧ 0 < req.stopLoss

def Managed (userId ticket : String) (s : State) : Prop :=
  ∃ id t, s.manager.get? id = some t ∧ t.brokerOrderId = ticket ∧ t.userId = userId

variable {userId : String} {req}

theorem authorizeRegister_ok {claims : Claims}
    (h : authorizeRegister (some claims) req = .ok userId) :
    userId = claims.userId ∧ 0 < req.stopLoss := by
  simp only [authorizeRegister] at h
  split_ifs at h with hu hti hfie hfi hsp hlot
  cases h
  exact ⟨rfl, not_le.mp hsp⟩

variable {j : Journal} {rec : TradeRecord}

theorem insertTrade_ok {j' : Journal} {dbError : Option String}
    (h : j.insertTrade dbError rec = .ok j') :
    (∀ other ∈ j, other.tradeId ≠ rec.tradeId) ∧ j' = j ++ [rec.stored] := by
  unfold Journal.insertTrade at h
  cases dbError with
  | some e => split_ifs at h
  | none =>
    split_ifs at h with hu htkn
    cases h
    refine ⟨?_, rfl⟩
    intro other hoth heq
    apply htkn
    exact List.any_eq_true.mpr ⟨other, hoth, by simpa using heq⟩

theorem getTradeByBrokerOrderId_some {queryFails : Bool} {ticket : String}
    (h : j.getTradeByBrokerOrderId queryFails userId ticket = some rec) :
    rec ∈ j ∧ rec.brokerOrderId = ticket ∧ rec.userId = userId := by
  unfold Journal.getTradeByBrokerOrderId at h
  split_ifs at h
  have hpred := List.find?_some h
  exact ⟨List.mem_of_find?_eq_some h, by simpa using hpred⟩

theorem registerFilledTrade_cases (claims : Claims) (req : RegisterFilledTradeRequest)
    (draw : RegisterDraw) (s : State) :
    (∃ e, registerFilledTrade (some claims) req draw s = (.error e, s)) ∨
    (∃ resp rec, registerFilledTrade (some claims) req draw s = (.ok resp, s) ∧
      rec ∈ s.journal ∧ rec.brokerOrderId = req.brokerOrderId ∧ rec.userId = claims.userId) ∨
    (∃ resp s', registerFilledTrade (some claims) req draw s = (.ok resp, s') ∧
      0 < req.stopLoss ∧ (∀ rec ∈ s.journal, rec.tradeId ≠ draw.tradeId) ∧
      s'.journal = s.journal ++ [(newTrade claims.userId draw.tradeId req).record.stored] ∧
      s'.manager = s.manager.register draw.tradeId (newTrade claims.userId draw.tradeId req)) := by
  unfold registerFilledTrade
  cases hauth : authorizeRegister (some claims) req with
  | error e => exact .inl ⟨e, rfl⟩
  | ok userId =>
    obtain ⟨rfl, hsp⟩ := authorizeRegister_ok hauth
    dsimp only
    cases hf : s.journal.getTradeByBrokerOrderId draw.queryFails claims.userId
        req.brokerOrderId with
    | some existing => exact .inr (.inl ⟨_, existing, rfl, getTradeByBrokerOrderId_some hf⟩)
    | none =>
      cases hins : s.journal.insertTrade draw.dbError
          (newTrade claims.userId draw.tradeId req).record with
      | error e => exact .inl ⟨_, rfl⟩
      | ok journal =>
        obtain ⟨hfr, hjrn⟩ := insertTrade_ok hins
        exact .inr (.inr ⟨_, _, rfl, hsp, hfr, hjrn, rfl⟩)

variable {s' : State} {tradeId : String}

theorem ownsTicket_register {s : State} (hsp : 0 < req.stopLoss)
    (hfr : ∀ rec ∈ s.journal, rec.tradeId ≠ tradeId)
    (hjrn : s'.journal = s.journal ++ [(newTrade userId tradeId req).record.stored])
    (hmgr : s'.manager = s.manager.register tradeId (newTrade userId tradeId req))
    (hs : OwnsTicket userId req s) : OwnsTicket userId req s' := by
  constructor
  · intro rec hrec htkt hu
    rw [hjrn] at hrec
    rw [hmgr]
    rcases List.mem_append.mp hrec with ho | hn
    · obtain ⟨t, ht, hpro⟩ := hs.managed rec ho htkt hu
      refine ⟨t, ?_, hpro⟩
      rw [get?_register_of_ne _ (hfr rec ho)]
      exact ht
    · obtain rfl := List.mem_singleton.mp hn
      exact ⟨_, get?_register_self _ _ _, rfl, rfl⟩
  · intro id t ht htkt hu
    rw [hmgr] at ht
    by_cases hid : id = tradeId
    · subst hid
      rw [get?_register_self] at ht
      exact ⟨(Option.some.inj ht).symm, hsp⟩
    · rw [get?_register_of_ne _ hid] at ht
      exact hs.faithful id t ht htkt hu

theorem registerFilledTrade_spec (claims : Claims) (req : RegisterFilledTradeRequest)
    (draw : RegisterDraw) (s : State) (hs : OwnsTicket claims.userId req s) :
    OwnsTicket claims.userId req (registerFilledTrade (some claims) req draw s).2 ∧
      ∀ resp, (registerFilledTrade (some claims) req draw s).1 = .ok resp →
        Managed claims.userId req.brokerOrderId
          (registerFilledTrade (some claims) req draw s).2 := by
  rcases registerFilledTrade_cases claims req draw s with
    ⟨e, h⟩ | ⟨resp, rec, h, hrec, htkt, hu⟩ | ⟨resp, s', h, hsp, hfr, hjrn, hmgr⟩
  · rw [h]
    exact ⟨hs, by simp⟩
  · rw [h]
    obtain ⟨t, ht, hpro⟩ := hs.managed rec hrec htkt hu
    exact ⟨hs, fun _ _ => ⟨rec.tradeId, t, ht, hpro⟩⟩
  · rw [h]
    refine ⟨ownsTicket_register hsp hfr hjrn hmgr hs, fun _ _ => ?_⟩
    refine ⟨draw.tradeId, newTrade claims.userId draw.tradeId req, ?_, rfl, rfl⟩
    rw [hmgr, get?_register_self]

theorem attemptRegister_spec (claims : Claims) (req : RegisterFilledTradeRequest) (a : Attempt)
    (s : State) (hs : OwnsTicket claims.userId req s) :
    OwnsTicket claims.userId req (attemptRegister (some claims) req a s).2 ∧
      ∀ resp, (attemptRegister (some claims) req a s).1 = .ok resp →
        Managed claims.userId req.brokerOrderId (attemptRegister (some claims) req a s).2 := by
  have hca := registerFilledTrade_spec claims req a.draw s hs
  unfold attemptRegister
  split_ifs with harr hans
  · exact ⟨hs, by simp⟩
  · exact hca
  · exact ⟨hca.1, by simp⟩

theorem clientRegisterFilledTrade_spec (claims : Claims) (req : RegisterFilledTradeRequest)
    (first : Attempt) (further : List (Option Attempt)) (s : State)
    (hs : OwnsTicket claims.userId req s)
    (h : clientRegisterFilledTrade (some claims) req first further s = (.ok tradeId, s')) :
    OwnsTicket claims.userId req s' ∧ Managed claims.userId req.brokerOrderId s' := by
  obtain ⟨hI, hQ⟩ := retry_spec isRetryable ⟨.canceled, "context canceled"⟩
    (OwnsTicket claims.userId req) (fun _ => Managed claims.userId req.brokerOrderId)
    (attemptRegister_spec claims req) first (further.take maxRetries) s hs
  unfold clientRegisterFilledTrade at h
  rcases hret : retry isRetryable ⟨.canceled, "context canceled"⟩
      (attemptRegister (some claims) req) first (further.take maxRetries) s with ⟨e | resp, s₁⟩
  · rw [hret] at h
    cases h
  · rw [hret] at h hI hQ
    dsimp only at h
    split_ifs at h
    · cases h
      exact ⟨hI, hQ resp rfl⟩
    · cases h

end ETradie.Management
