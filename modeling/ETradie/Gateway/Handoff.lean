import ETradie.Execution.Models
import ETradie.Management.Registration

namespace ETradie.Gateway

open Management Trade

structure NotifyExecutionCompletedRequest where
  (symbol brokerOrderId : String)
  (fillPrice slippage lotSize : ℚ)
  (analysisId traceId direction : String)
  (stopLoss tp1Price : ℚ)
  tp1Pct : Int
  tp2Price : ℚ
  tp2Pct : Int
  tp3Price : ℚ
  tp3Pct : Int
  (riskAmount riskPercent rrRatio : ℚ)
  (grade tradingStyle session : String)
  confluenceScore : ℚ
  (executionMode setupType : String)
deriving DecidableEq

structure NotifyExecutionCompletedResponse where
  success : Bool
  managementTradeId : String := ""
deriving DecidableEq

structure SymbolInfo where
  (point digits : Option ℚ)
deriving DecidableEq

structure HandoffContext where
  claims : Option Claims
  managementConfigured : Bool := true
  symbolInfo : Option SymbolInfo := none
  first : Attempt
  further : List (Option Attempt) := []

def truncate (x : ℚ) : Int := if 0 ≤ x then ⌊x⌋ else -⌊-x⌋

def registerRequest (info : Option SymbolInfo) (req : NotifyExecutionCompletedRequest) :
    RegisterFilledTradeRequest :=
  { req with
    point := (info.bind SymbolInfo.point).getD 0
    digits := ((info.bind SymbolInfo.digits).map truncate).getD 0 }

def handleExecutionCompleted (ctx : HandoffContext) (req : NotifyExecutionCompletedRequest)
    (s : State) : Except RpcError NotifyExecutionCompletedResponse × State :=
  if ctx.managementConfigured = false then
    (.ok { success := true }, s)
  else
    match clientRegisterFilledTrade ctx.claims (registerRequest ctx.symbolInfo req)
        ctx.first ctx.further s with
    | (.error e, s') => (.error ⟨.internal, "failed to handoff to management: " ++ e⟩, s')
    | (.ok tradeId, s') => (.ok { success := true, managementTradeId := tradeId }, s')

variable (order : Execution.Order)

def executionCompletedRequest (brokerOrderId : String)
    (fillPrice slippage : ℚ) : NotifyExecutionCompletedRequest :=
  { order with
    brokerOrderId := brokerOrderId, fillPrice := fillPrice, slippage := slippage
    traceId := order.watcherId, confluenceScore := order.confluence
    executionMode := order.executionMode.text }

def notifyExecutionCompleted (ctx : HandoffContext) (order : Execution.Order)
    (brokerOrderId : String) (fillPrice slippage : ℚ) (s : State) : Except String Unit × State :=
  match handleExecutionCompleted ctx
      (executionCompletedRequest order brokerOrderId fillPrice slippage) s with
  | (.error e, s') => (.error ("gateway notify execution: " ++ e.message), s')
  | (.ok _, s') => (.ok (), s')

def OnLossSide (fillPrice : ℚ) : Prop :=
  (order.direction = Execution.directionLong ∧ order.stopLoss < fillPrice) ∨
    (order.direction = Execution.directionShort ∧ fillPrice < order.stopLoss)

def StrictlyBetween (a b x : ℚ) : Prop := min a b < x ∧ x < max a b

def KeepsSide (fillPrice : ℚ) (t : Trade) : Prop :=
  (t.isLong = true ↔ order.direction = Execution.directionLong) ∧
    (OnLossSide order fillPrice →
      ∀ bid ask, StrictlyBetween order.stopLoss order.tp1Price bid →
        StrictlyBetween order.stopLoss order.tp1Price ask →
        t.isSLHit (t.priceForCheck bid ask) = false ∧ t.isTP1Hit (t.priceForCheck bid ask) = false)

theorem isLong_eq_false {order : Execution.Order} {t : Trade}
    (hdir : order.direction = Execution.directionLong ∨ order.direction = Execution.directionShort)
    (hdrc : t.direction = order.direction) : t.isLong = false := by
  unfold isLong
  rcases hdir with hlg | hshr
  · rw [hdrc, hlg]
    decide
  · rw [hdrc, hshr]
    decide

theorem keepsSide_iff {order : Execution.Order} {t : Trade}
    (hdir : order.direction = Execution.directionLong ∨ order.direction = Execution.directionShort)
    (hdrc : t.direction = order.direction) (hsp : t.stopLoss = order.stopLoss)
    (htp1 : t.tp1Price = order.tp1Price) (hpos : 0 < order.stopLoss) (fillPrice : ℚ) :
    KeepsSide order fillPrice t ↔
      order.direction = Execution.directionShort ∧
        ¬ (fillPrice < order.stopLoss ∧ order.stopLoss < order.tp1Price) := by
  have hsho : t.isLong = false := isLong_eq_false hdir hdrc
  constructor
  · rintro ⟨hsi, hqt⟩
    have hshr : order.direction = Execution.directionShort := by
      rcases hdir with hlg | hshr
      · have hcon := hsi.mpr hlg
        rw [hsho] at hcon
        cases hcon
      · exact hshr
    refine ⟨hshr, ?_⟩
    rintro ⟨hlo, hinv⟩
    -- the midpoint is above the stop, where a short trade counts as stopped out
    have hmid : StrictlyBetween order.stopLoss order.tp1Price
        ((order.stopLoss + order.tp1Price) / 2) := by
      rw [StrictlyBetween, min_eq_left hinv.le, max_eq_right hinv.le]
      constructor
      · linarith
      · linarith
    obtain ⟨hnoh, -⟩ := hqt (.inr ⟨hshr, hlo⟩) _ _ hmid hmid
    have hbel : ¬ order.stopLoss ≤ (order.stopLoss + order.tp1Price) / 2 := by
      simpa [isSLHit, priceForCheck, hsho, hsp, not_le.mpr hpos] using hnoh
    exact hbel (by linarith)
  · rintro ⟨hshr, hpl⟩
    refine ⟨?_, ?_⟩
    · rw [hsho, hshr]
      decide
    · rintro hlo bid ask - hask
      have hfi : fillPrice < order.stopLoss := by
        rcases hlo with ⟨hlg, -⟩ | ⟨-, hfi⟩
        · rw [hshr] at hlg
          exact absurd hlg (by decide)
        · exact hfi
      have htgt : order.tp1Price ≤ order.stopLoss := by
        by_contra hlt
        exact hpl ⟨hfi, not_le.mp hlt⟩
      rw [StrictlyBetween, min_eq_right htgt, max_eq_left htgt] at hask
      constructor
      · simp [isSLHit, priceForCheck, hsho, hsp, hask.2]
      · simp [isTP1Hit, isTargetHit, priceForCheck, hsho, htp1, hask.1]

def UnknownTicket (userId ticket : String) (s : State) : Prop :=
  (∀ rec ∈ s.journal, ¬ (rec.brokerOrderId = ticket ∧ rec.userId = userId)) ∧
    ∀ id t, s.manager.get? id = some t → ¬ (t.brokerOrderId = ticket ∧ t.userId = userId)

theorem UnknownTicket.ownsTicket {userId : String} {req : RegisterFilledTradeRequest} {s : State}
    (h : UnknownTicket userId req.brokerOrderId s) : OwnsTicket userId req s where
  managed := fun rec hrec htkt hu => absurd ⟨htkt, hu⟩ (h.1 rec hrec)
  faithful := fun id t ht htkt hu => absurd ⟨htkt, hu⟩ (h.2 id t ht)

theorem handoff_managed {ctx : HandoffContext} {claims : Claims} {order : Execution.Order}
    {brokerOrderId : String} {fillPrice slippage : ℚ} {s s' : State}
    (hclms : ctx.claims = some claims) (hcon : ctx.managementConfigured)
    (hunk : UnknownTicket claims.userId brokerOrderId s)
    (hrun : notifyExecutionCompleted ctx order brokerOrderId fillPrice slippage s = (.ok (), s')) :
    let req := registerRequest ctx.symbolInfo
      (executionCompletedRequest order brokerOrderId fillPrice slippage)
    OwnsTicket claims.userId req s' ∧ Managed claims.userId req.brokerOrderId s' := by
  intro req
  unfold notifyExecutionCompleted handleExecutionCompleted at hrun
  rw [if_neg (by simp [hcon]), hclms] at hrun
  rcases hcli : clientRegisterFilledTrade (some claims) req ctx.first ctx.further s with
    ⟨e | tradeId, s₁⟩
  · rw [hcli] at hrun
    cases hrun
  · rw [hcli] at hrun
    cases hrun
    have howns : OwnsTicket claims.userId req s := UnknownTicket.ownsTicket hunk
    exact clientRegisterFilledTrade_spec claims req ctx.first ctx.further s howns hcli

def quietContext : HandoffContext where
  claims := some { userId := "u1", tier := "pro_byok" }
  first := { draw := { tradeId := "TMG-1" } }

def eurusdOrder (direction : String) (stopLoss tp1Price : ℚ) : Execution.Order where
  orderId := "ORD_1"
  symbol := "EURUSD"
  direction := direction
  executionMode := .instant
  entryPrice := 1.1
  stopLoss := stopLoss
  tp1Price := tp1Price
  lotSize := 0.33

theorem unknownTicket_init (userId ticket : String) : UnknownTicket userId ticket State.init := by
  refine ⟨?_, ?_⟩
  · intro _ hrec
    cases hrec
  · intro _ t ht
    cases ht

def handedOver : State := (notifyExecutionCompleted quietContext order "1001" 1.1 0 State.init).2

theorem notifyExecutionCompleted_keepsSide_iff (ctx : HandoffContext) (claims : Claims)
    (order : Execution.Order) (brokerOrderId : String) (fillPrice slippage : ℚ) (s s' : State)
    (hclaims : ctx.claims = some claims) (hconfigured : ctx.managementConfigured = true)
    (hdir : order.direction = Execution.directionLong ∨ order.direction = Execution.directionShort)
    (hunknown : UnknownTicket claims.userId brokerOrderId s)
    (hrun : notifyExecutionCompleted ctx order brokerOrderId fillPrice slippage s = (.ok (), s')) :
    Managed claims.userId brokerOrderId s' ∧
      ∀ id t, s'.manager.get? id = some t → t.brokerOrderId = brokerOrderId →
        t.userId = claims.userId →
        (KeepsSide order fillPrice t ↔
          order.direction = Execution.directionShort ∧
            ¬ (fillPrice < order.stopLoss ∧ order.stopLoss < order.tp1Price)) := by
  obtain ⟨howns, hmgd⟩ := handoff_managed hclaims hconfigured hunknown hrun
  refine ⟨hmgd, ?_⟩
  intro id t ht htkt hu
  obtain ⟨rfl, hpos⟩ := howns.faithful id t ht htkt hu
  exact keepsSide_iff hdir rfl rfl rfl hpos fillPrice

theorem keepsSide_eurusd_short :
    ∃ t, (handedOver (eurusdOrder "SHORT" 1.11 1.07)).manager.get? "TMG-1" = some t ∧
      KeepsSide (eurusdOrder "SHORT" 1.11 1.07) 1.1 t := by
  have hok : (notifyExecutionCompleted quietContext (eurusdOrder "SHORT" 1.11 1.07) "1001" 1.1 0
      State.init).1 = .ok () := by
    decide +kernel
  have htrd : (handedOver (eurusdOrder "SHORT" 1.11 1.07)).manager.get? "TMG-1" =
      some (newTrade "u1" "TMG-1" (registerRequest none
        (executionCompletedRequest (eurusdOrder "SHORT" 1.11 1.07) "1001" 1.1 0))) := by
    decide +kernel
  obtain ⟨-, hiff⟩ := notifyExecutionCompleted_keepsSide_iff quietContext
    { userId := "u1", tier := "pro_byok" } (eurusdOrder "SHORT" 1.11 1.07) "1001" 1.1 0
    State.init _ rfl rfl (.inr rfl) (unknownTicket_init _ _) (Prod.ext hok rfl)
  refine ⟨_, htrd, (hiff _ _ htrd rfl rfl).mpr ⟨rfl, ?_⟩⟩
  rintro ⟨-, hinv⟩
  exact absurd hinv (by decide +kernel)

theorem long_handoff_stops_out :
    ∃ t, (handedOver (eurusdOrder "LONG" 1.09 1.12)).manager.get? "TMG-1" = some t ∧
      t.isLong = false ∧ OnLossSide (eurusdOrder "LONG" 1.09 1.12) 1.1 ∧
      StrictlyBetween t.stopLoss t.tp1Price 1.1 ∧
      t.isSLHit (t.priceForCheck 1.1 1.1) = true := by
  refine ⟨newTrade "u1" "TMG-1" (registerRequest none
    (executionCompletedRequest (eurusdOrder "LONG" 1.09 1.12) "1001" 1.1 0)), ?_, ?_, ?_, ?_, ?_⟩
  · decide +kernel
  · decide +kernel
  · exact .inl ⟨rfl, by decide +kernel⟩
  · exact ⟨by decide +kernel, by decide +kernel⟩
  · decide +kernel

end ETradie.Gateway
