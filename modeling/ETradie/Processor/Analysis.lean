import ETradie.Kernel.Json

namespace ETradie.Processor

open Kernel

structure Coercions where
  float : Json → Except String ℚ
  int : Json → Except String Int
  bool : Json → Except String Bool
  (datetime uuid : Json → Except String Unit)
  float_int : ∀ n, float (.int n) = .ok n
  float_float : ∀ q, float (.float q) = .ok q
  int_int : ∀ n, int (.int n) = .ok n
  bool_bool : ∀ b, bool (.bool b) = .ok b

structure ConfluenceFactor where
  name : String
  present : Bool
  value : ℚ
deriving DecidableEq

structure ConfluenceScoreOutput where
  score : ℚ
  factors : List ConfluenceFactor
deriving DecidableEq

structure SetupZone where
  (type zoneId : Option String)
deriving DecidableEq

structure EntryZone where
  (low high : Option ℚ)
deriving DecidableEq

structure StopLossOutput where
  price : Option ℚ
deriving DecidableEq

structure TakeProfitLevel where
  level : Option ℚ
  sizePct : Int
deriving DecidableEq

structure AnalysisOutput where
  (analysisId pair tradingStyle session : String)
  entrySetup : SetupZone
  confluenceScore : ConfluenceScoreOutput
  (setupGrade direction : String)
  entryZone : EntryZone
  stopLoss : StopLossOutput
  takeProfits : List TakeProfitLevel
  rrRatio : Option ℚ
  (confidence proceedToModuleB : String)
  executionMode : Option String
  ltfConfirmed : Bool
  explainableReasoning : String
  /-- Number of cited sources. -/
  ragSources : Nat
deriving DecidableEq

section Fields

variable (py : Coercions)

def decodeFloat : Decoder ℚ := fun j => decodeExcept (py.float j)

def decodeInt : Decoder Int := fun j => decodeExcept (py.int j)

def decodeBool : Decoder Bool := fun j => decodeExcept (py.bool j)

def decodeStrOrEmpty : Decoder String
  | .null => .ok ""
  | j => decodeStr j

def optText (key : String) : List (String × Json) → Decoded (Option String) :=
  optionalField key (decodeOptional decodeStr) none

def optNumber (key : String) : List (String × Json) → Decoded (Option ℚ) :=
  optionalField key (decodeOptional (decodeFloat py)) none

def listOf {α : Type} (key : String) (d : Decoder α) : List (String × Json) → Decoded (List α) :=
  optionalField key (decodeList d) []

def decodeWithin (low high : ℚ) : Decoder ℚ :=
  fun j =>
    match py.float j with
    | .error msg => complain msg
    | .ok q =>
      if q < low then complain ("Input should be greater than or equal to " ++ fixed 0 low)
      else if high < q then complain ("Input should be less than or equal to " ++ fixed 0 high)
      else .ok q

end Fields

section Models

variable (py : Coercions)

def decodeEvidenceItem : Decoder Unit :=
  decodeModel "EvidenceItem" (fun fs =>
    optText "doc_id" fs *> optText "chunk_id" fs *> optText "section" fs *>
      optText "rule_id" fs *> optText "content_preview" fs *> pure ())

def evidence : List (String × Json) → Decoded (List Unit) := listOf "evidence" decodeEvidenceItem

def decodeCurrencyBias : Decoder Unit :=
  decodeModel "CurrencyBias" (fun fs => requiredField "bias" decodeStr fs *> evidence fs *> pure ())

def decodeMacroBias : Decoder Unit :=
  decodeModel "MacroBiasOutput" (fun fs =>
    requiredField "base_currency" decodeCurrencyBias fs *>
      requiredField "quote_currency" decodeCurrencyBias fs)

def decodeDxyBias : Decoder Unit :=
  decodeModel "DXYBiasOutput" (fun fs =>
    requiredField "direction" decodeStr fs *> evidence fs *> pure ())

def decodeCotSignal : Decoder Unit :=
  decodeModel "COTSignalOutput" (fun fs =>
    requiredField "summary" decodeStrOrEmpty fs *> optText "week_over_week" fs *>
      optionalField "extreme_flag" (decodeBool py) false fs *> evidence fs *> pure ())

def decodeEventRiskItem : Decoder Unit :=
  decodeModel "EventRiskItem" (fun fs =>
    requiredField "event" decodeStr fs *> optText "time" fs *>
      optionalField "impact" decodeStr "HIGH" fs *> optText "currency" fs *> pure ())

def decodeTimeframeBias : Decoder Unit :=
  decodeModel "TimeframeBias" (fun fs =>
    requiredField "structure" decodeStr fs *> listOf "key_levels" (decodeFloat py) fs *>
      optionalField "notes" decodeStr "" fs *> pure ())

def decodeSetupZone : Decoder SetupZone :=
  decodeModel "SetupZone" (fun fs =>
    SetupZone.mk <$> optText "type" fs <*> optText "zone_id" fs
      <* optText "quality" fs <* listOf "bounds" (decodeFloat py) fs <* evidence fs)

def decodeWyckoffPhase : Decoder Unit :=
  decodeModel "WyckoffPhaseOutput" (fun fs =>
    requiredField "phase" decodeStr fs *> evidence fs *> pure ())

def decodeConfluenceFactor : Decoder ConfluenceFactor :=
  decodeModel "ConfluenceFactor" (fun fs =>
    ConfluenceFactor.mk <$> requiredField "name" decodeStr fs
      <*> optionalField "present" (decodeBool py) false fs
      <*> optionalField "value" (decodeFloat py) 0 fs
      <* optionalField "notes" decodeStr "" fs)

def decodeConfluenceScore : Decoder ConfluenceScoreOutput :=
  decodeModel "ConfluenceScoreOutput" (fun fs =>
    ConfluenceScoreOutput.mk <$> requiredField "score" (decodeWithin py 0 10) fs
      <*> listOf "factors" (decodeConfluenceFactor py) fs)

def decodeEntryZone : Decoder EntryZone :=
  decodeModel "EntryZone" (fun fs =>
    EntryZone.mk <$> optNumber py "low" fs <*> optNumber py "high" fs)

def decodeStopLoss : Decoder StopLossOutput :=
  decodeModel "StopLossOutput" (fun fs =>
    StopLossOutput.mk <$> optNumber py "price" fs
      <* optionalField "reason" decodeStrOrEmpty "" fs <* evidence fs)

def decodeTakeProfitLevel : Decoder TakeProfitLevel :=
  decodeModel "TakeProfitLevel" (fun fs =>
    TakeProfitLevel.mk <$> optNumber py "level" fs <*> optionalField "size_pct" (decodeInt py) 0 fs
      <* optionalField "basis" decodeStrOrEmpty "" fs)

def decodeRagSourceCitation : Decoder Unit :=
  decodeModel "RAGSourceCitation" (fun fs =>
    optText "doc_id" fs *> optText "chunk_id" fs *> optText "section" fs *>
      optNumber py "relevance_score" fs *> pure ())

def decodeRetrievalAudit : Decoder Unit :=
  decodeModel "RetrievalAudit" (fun fs =>
    optionalField "query_summary" decodeStr "" fs *> optText "strategy_used" fs *>
      optionalField "top_k" (decodeInt py) 0 fs *>
      listOf "chunks_returned" (decodeRagSourceCitation py) fs *> pure ())

def decodeAnalysisAudit : Decoder Unit :=
  decodeModel "AnalysisAudit" (fun fs =>
    optionalField "retrieval" (decodeRetrievalAudit py) () fs *>
      listOf "citations" (decodeRagSourceCitation py) fs *> pure ())

def decodeHeader (fs : List (String × Json)) : Decoded (String × String × String × String) :=
  (fun analysisId pair style session => (analysisId, pair, style, session))
    <$> (optionalField "id" (fun j => decodeExcept (py.uuid j)) () fs *>
      optionalField "created_at" (fun j => decodeExcept (py.datetime j)) () fs *>
      requiredField "analysis_id" decodeStr fs)
    <*> requiredField "pair" decodeStr fs
    <*> (requiredField "timestamp" (fun j => decodeExcept (py.datetime j)) fs *>
      requiredField "trading_style" decodeStr fs)
    <*> requiredField "session" decodeStr fs

def decodeAssessments (fs : List (String × Json)) : Decoded Unit :=
  requiredField "macro_bias" decodeMacroBias fs *> requiredField "dxy_bias" decodeDxyBias fs *>
    requiredField "cot_signal" (decodeCotSignal py) fs *>
    listOf "event_risk" decodeEventRiskItem fs *>
    requiredField "htf_bias" (decodeTimeframeBias py) fs *>
    requiredField "mtf_bias" (decodeTimeframeBias py) fs

def decodeAnalysis : Decoder AnalysisOutput :=
  decodeModel "AnalysisOutput" (fun fs =>
    (fun (header : String × String × String × String) entrySetup score grade direction entryZone
        stopLoss takeProfits rrRatio confidence proceed mode confirmed reasoning sources =>
      { analysisId := header.1, pair := header.2.1, tradingStyle := header.2.2.1
        session := header.2.2.2, entrySetup := entrySetup, confluenceScore := score
        setupGrade := grade, direction := direction, entryZone := entryZone, stopLoss := stopLoss
        takeProfits := takeProfits, rrRatio := rrRatio, confidence := confidence
        proceedToModuleB := proceed, executionMode := mode, ltfConfirmed := confirmed
        explainableReasoning := reasoning, ragSources := sources.length })
      <$> (decodeHeader py fs <* decodeAssessments py fs)
      <*> requiredField "entry_setup" (decodeSetupZone py) fs
      <*> (requiredField "wyckoff_phase" decodeWyckoffPhase fs *>
        requiredField "confluence_score" (decodeConfluenceScore py) fs)
      <*> requiredField "setup_grade" decodeStr fs
      <*> requiredField "direction" decodeStr fs
      <*> requiredField "entry_zone" (decodeEntryZone py) fs
      <*> requiredField "stop_loss" (decodeStopLoss py) fs
      <*> listOf "take_profits" (decodeTakeProfitLevel py) fs
      <*> optNumber py "rr_ratio" fs
      <*> requiredField "confidence" decodeStr fs
      <*> requiredField "proceed_to_module_b" decodeStr fs
      <*> optText "execution_mode" fs
      <*> optionalField "ltf_confirmed" (decodeBool py) false fs
      <*> optionalField "explainable_reasoning" decodeStr "" fs
      <*> (listOf "rag_sources" (decodeRagSourceCitation py) fs <*
        optionalField "audit" (decodeAnalysisAudit py) () fs))

end Models

def nativeCoercions : Coercions where
  float
    | .int n => .ok n
    | .float q => .ok q
    | _ => .error "Input should be a valid number"
  int
    | .int n => .ok n
    | _ => .error "Input should be a valid integer"
  bool
    | .bool b => .ok b
    | _ => .error "Input should be a valid boolean"
  datetime
    | .str s =>
      let shape := "0000-00-00T00:00:00Z".toList
      let fits := s.toList.length = shape.length &&
        (s.toList.zip shape).all (fun p => if p.2 = '0' then p.1.isDigit else p.1 = p.2)
      if fits then .ok () else .error "Input should be a valid datetime"
    | _ => .error "Input should be a valid datetime"
  uuid := fun _ => .error "UUID input should be a string, bytes or UUID object"
  float_int := fun _ => rfl
  float_float := fun _ => rfl
  int_int := fun _ => rfl
  bool_bool := fun _ => rfl

end ETradie.Processor
