import ETradie.Execution.Models
import ETradie.Management.StopLoss

namespace ETradie.Execution

open Kernel

structure SymbolInfoResponse where
  symbol : String
  point : ℚ
  digits : Int
  spread : Int := 0
  (contractSize volumeMin volumeMax volumeStep tickValue tickSize : ℚ := 0)

namespace SymbolInfoResponse

variable (text : CaseMap) (resp : SymbolInfoResponse)

def isSynthetic : Bool :=
  let upperSym := text.upper resp.symbol
  containsText upperSym "VOLATILITY" || containsText upperSym "BOOM" ||
    containsText upperSym "CRASH" || containsText upperSym "STEP" ||
    containsText upperSym "JUMP" || containsText upperSym "V75" ||
    containsText upperSym "DEX" || containsText upperSym "RANGE"

def pipPointRatio : ℚ := if resp.digits ≤ 2 || resp.isSynthetic text then 1 else 10

def pipSize : ℚ := if resp.isSynthetic text then 1 else resp.point * resp.pipPointRatio text

def pipValue : ℚ :=
  let pipSize := resp.pipSize text
  if 0 < resp.tickValue ∧ 0 < resp.tickSize then resp.tickValue * (pipSize / resp.tickSize)
  else if 0 < resp.tickValue then resp.tickValue * (pipSize / resp.point)
  else if pipSize * resp.contractSize < 0.01 then 10
  else pipSize * resp.contractSize

end SymbolInfoResponse

def getInstrumentInfo (text : CaseMap) (symbol : String)
    (answer : Except String SymbolInfoResponse) : Except String InstrumentInfo :=
  match answer with
  | .error e => .error ("get instrument info for " ++ symbol ++ ": " ++ e)
  | .ok resp =>
    .ok
      { pipSize := resp.pipSize text, pipValue := resp.pipValue text, minLotSize := resp.volumeMin
        maxLotSize := resp.volumeMax, lotStep := resp.volumeStep, spread := resp.spread * resp.point
        avgSpread := resp.spread * resp.point }

theorem isSynthetic_eq (text : CaseMap) (resp : SymbolInfoResponse) :
    resp.isSynthetic text = Management.isSyntheticSymbol text resp.symbol := by
  simp [SymbolInfoResponse.isSynthetic, Management.isSyntheticSymbol,
    Management.syntheticSymbolMarkers, Bool.or_assoc]

theorem pip_models_agree (text : CaseMap) (symbol : String) (resp : SymbolInfoResponse)
    (hpoint : 0 < resp.point) :
    (getInstrumentInfo text symbol (.ok resp)).map InstrumentInfo.pipSize =
      .ok (Management.pipSize text resp.symbol resp.point resp.digits) := by
  change Except.ok (resp.pipSize text) = _
  unfold SymbolInfoResponse.pipSize SymbolInfoResponse.pipPointRatio Management.pipSize
  rw [isSynthetic_eq, if_neg (not_le.mpr hpoint)]
  cases Management.isSyntheticSymbol text resp.symbol with
  | true => rfl
  | false =>
    by_cases hdig : resp.digits ≤ 2
    · simp
    · simp

theorem pip_models_agree_gold :
    (getInstrumentInfo asciiCaseMap "XAUUSD"
      (.ok { symbol := "XAUUSD", point := 0.01, digits := 2 })).map InstrumentInfo.pipSize =
      .ok (Management.pipSize asciiCaseMap "XAUUSD" 0.01 2) :=
  pip_models_agree asciiCaseMap "XAUUSD" { symbol := "XAUUSD", point := 0.01, digits := 2 }
    (by norm_num)

end ETradie.Execution
