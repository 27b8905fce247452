import ETradie.Processor.Parsing

namespace ETradie.Processor

open Kernel

structure ProcessorOutput where
  tradeValid : Bool
  (direction symbol : Option String)
  confidence : ℚ
  grade : Option String
  riskPercentage : Option ℚ
  reasoning : String
  (entryPrice stopLoss takeProfit : Option ℚ)
  rejectionRules : List String
  (entryZoneLow entryZoneHigh tp1Price : Option ℚ)
  tp1Pct : Int
  tp2Price : Option ℚ
  tp2Pct : Int
  tp3Price : Option ℚ
  tp3Pct : Int
  (tradingStyle session : Option String)
  rrRatio : Option ℚ
  confluenceScore : ℚ
  (analysisId executionMode : Option String)
  ltfConfirmed : Bool
  setupType : Option String
deriving DecidableEq

def confidenceToFloat (py : PythonText) (confidence : String) : ℚ :=
  let level := py.case.upper confidence
  if level = "HIGH" then 85 / 100
  else if level = "MEDIUM" then 60 / 100
  else if level = "LOW" then 35 / 100
  else 0

def gradeToRiskPercent (grade : String) : ℚ :=
  if grade = "A+" then 1
  else if grade = "A" then 1
  else if grade = "B" then 1 / 2
  else 0

variable (a : AnalysisOutput)

def tradeValid : Bool :=
  isTrade a && ["A+", "A", "B"].contains a.setupGrade && a.proceedToModuleB = "YES"

def targetPrice (i : Nat) : Option ℚ := a.takeProfits[i]?.bind TakeProfitLevel.level

def targetPct (i : Nat) : Int := (a.takeProfits[i]?.map TakeProfitLevel.sizePct).getD 0

def outputAnalysisId : String :=
  match a.entrySetup.zoneId with
  | some zone => if zone = "" then a.analysisId else zone
  | none => a.analysisId

def mapToProcessorOutput (py : PythonText) (a : AnalysisOutput) : ProcessorOutput where
  tradeValid := tradeValid a
  direction := if a.direction ≠ "NO SETUP" then some (trimSpace a.direction) else none
  symbol := some (trimSpace a.pair)
  confidence := confidenceToFloat py a.confidence
  grade := some (trimSpace a.setupGrade)
  riskPercentage := if tradeValid a then some (gradeToRiskPercent a.setupGrade) else none
  reasoning := trimSpace a.explainableReasoning
  entryPrice :=
    match a.entryZone.low, a.entryZone.high with
    | some low, some high => some ((low + high) / 2)
    | _, _ => none
  stopLoss := a.stopLoss.price
  takeProfit := a.takeProfits.getLast?.bind TakeProfitLevel.level
  rejectionRules :=
    if !tradeValid a && a.direction = "NO SETUP" then
      (a.confluenceScore.factors.filter (fun f => !f.present && f.value = 0)).map
        (fun f => trimSpace ("missing_" ++ f.name))
    else []
  entryZoneLow := a.entryZone.low
  entryZoneHigh := a.entryZone.high
  tp1Price := targetPrice a 0
  tp1Pct := targetPct a 0
  tp2Price := targetPrice a 1
  tp2Pct := targetPct a 1
  tp3Price := targetPrice a 2
  tp3Pct := targetPct a 2
  tradingStyle := some (trimSpace a.tradingStyle)
  session := some (trimSpace a.session)
  rrRatio := a.rrRatio
  confluenceScore := a.confluenceScore.score
  analysisId := some (trimSpace (outputAnalysisId a))
  executionMode := a.executionMode.map trimSpace
  ltfConfirmed := a.ltfConfirmed
  setupType := a.entrySetup.type.map trimSpace

theorem tradeValid_iff :
    tradeValid a ↔
      (a.direction = "LONG" ∨ a.direction = "SHORT") ∧
        (a.setupGrade = "A+" ∨ a.setupGrade = "A" ∨ a.setupGrade = "B") ∧
        a.proceedToModuleB = "YES" := by
  simp [tradeValid, isTrade, and_assoc]

end ETradie.Processor
