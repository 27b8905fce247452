import ETradie.Execution.Intake
import ETradie.Processor.Mapping

namespace ETradie.Gateway

open Kernel

structure ProcessorOutput where
  tradeValid : Bool
  (direction symbol : String)
  confidence : ℚ
  grade : String
  (riskPercentage stopLoss entryZoneLow entryZoneHigh tp1Price : Option ℚ)
  tp1Pct : Int
  tp2Price : Option ℚ
  tp2Pct : Int
  tp3Price : Option ℚ
  tp3Pct : Int
  (tradingStyle session : String)
  rrRatio : Option ℚ
  confluenceScore : ℚ
  (analysisId executionMode : String)
  ltfConfirmed : Bool
  setupType : String
  (obUpper obLower : ℚ := 0)
  (ltfTimeframe htfTimeframe : String := "")
deriving DecidableEq

def fitsInt (n : Int) : Bool := -2 ^ 63 ≤ n && n < 2 ^ 63

def receiveOutput (p : Processor.ProcessorOutput) : Option ProcessorOutput :=
  if fitsInt p.tp1Pct && fitsInt p.tp2Pct && fitsInt p.tp3Pct then
    some
      { p with
        direction := p.direction.getD "", symbol := p.symbol.getD "", grade := p.grade.getD ""
        tradingStyle := p.tradingStyle.getD "", session := p.session.getD ""
        analysisId := p.analysisId.getD "", executionMode := p.executionMode.getD ""
        setupType := p.setupType.getD "" }
  else none

structure CandidateParams where
  (ltfTimeframe htfTimeframe : String)
  (obUpper obLower : ℚ)
deriving DecidableEq

def injectCandidate (matching : Option CandidateParams) (d : ProcessorOutput) : ProcessorOutput :=
  if d.tradeValid && d.analysisId ≠ "" then
    match matching with
    | some c =>
      { d with
        ltfTimeframe := c.ltfTimeframe, htfTimeframe := c.htfTimeframe, obUpper := c.obUpper
        obLower := c.obLower }
    | none => d
  else d

def toInt32 (n : Int) : Int := n.bmod (2 ^ 32)

def buildExecuteRequest (d : ProcessorOutput) : Execution.ExecuteTradeRequest :=
  { d with
    entryZoneLow := d.entryZoneLow.getD 0, entryZoneHigh := d.entryZoneHigh.getD 0
    stopLoss := d.stopLoss.getD 0, tp1Price := d.tp1Price.getD 0, tp1Pct := toInt32 d.tp1Pct
    tp2Price := d.tp2Price.getD 0, tp2Pct := toInt32 d.tp2Pct, tp3Price := d.tp3Price.getD 0
    tp3Pct := toInt32 d.tp3Pct, rrRatio := d.rrRatio.getD 0
    riskPercentage := d.riskPercentage.getD 0, traceId := d.analysisId }

theorem buildExecuteRequest_levels (matching : Option CandidateParams) (d : ProcessorOutput) :
    let req := buildExecuteRequest (injectCandidate matching d)
    req.direction = d.direction ∧ req.entryZoneLow = d.entryZoneLow.getD 0 ∧
      req.entryZoneHigh = d.entryZoneHigh.getD 0 ∧ req.stopLoss = d.stopLoss.getD 0 ∧
      req.tp1Price = d.tp1Price.getD 0 ∧ req.tp2Price = d.tp2Price.getD 0 ∧
      req.tp3Price = d.tp3Price.getD 0 ∧ req.rrRatio = d.rrRatio.getD 0 := by
  unfold injectCandidate
  split
  · cases matching with
    | none | some c => exact ⟨rfl, rfl, rfl, rfl, rfl, rfl, rfl, rfl⟩
  · exact ⟨rfl, rfl, rfl, rfl, rfl, rfl, rfl, rfl⟩

end ETradie.Gateway
