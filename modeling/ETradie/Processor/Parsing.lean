import ETradie.Processor.Analysis

namespace ETradie.Processor

open Kernel

structure PythonText where
  case : CaseMap
  float : ℚ → String
  set : List String → String

def upToFence : List Char → Option (List Char)
  | [] => none
  | c :: rest =>
    if c = '}' ∧ "```".toList.isPrefixOf (rest.dropWhile isPythonSpace) then some [c]
    else (upToFence rest).map (c :: ·)

variable (cs : List Char)

def fencedBlockAt : Option (List Char) :=
  if "```".toList.isPrefixOf cs then
    let body := cs.drop 3
    let body := if "json".toList.isPrefixOf body then body.drop 4 else body
    match body.dropWhile isPythonSpace with
    | '{' :: rest => (upToFence rest).map ('{' :: ·)
    | _ => none
  else none

def fencedBlock : Option (List Char) := cs.tails.findSome? fencedBlockAt

def bracedSpan : Option (List Char) :=
  let span := ((cs.dropWhile (· ≠ '{')).reverse.dropWhile (· ≠ '}')).reverse
  if span.isEmpty then none else some span

def extractJson (rawText : List Char) : List Char :=
  let stripped := trimChars isPythonSpace rawText
  if stripped.head? = some '{' ∧ stripped.getLast? = some '}' then stripped
  else
    match fencedBlock stripped with
    | some block => trimChars isPythonSpace block
    | none =>
      match bracedSpan stripped with
      | some span => trimChars isPythonSpace span
      | none => stripped

def nullableListPaths : List (List String) :=
  [["event_risk"], ["take_profits"], ["rag_sources"], ["audit", "citations"],
   ["audit", "retrieval", "chunks_returned"], ["htf_bias", "key_levels"],
   ["mtf_bias", "key_levels"], ["entry_setup", "bounds"], ["entry_setup", "evidence"],
   ["stop_loss", "evidence"], ["wyckoff_phase", "evidence"], ["dxy_bias", "evidence"],
   ["cot_signal", "evidence"], ["macro_bias", "base_currency", "evidence"],
   ["macro_bias", "quote_currency", "evidence"], ["confluence_score", "factors"]]

def coerceNullAt : List String → Json → Json
  | [leaf], .obj fs =>
    match Json.lookup fs leaf with
    | some .null => .obj (fs ++ [(leaf, .arr [])])
    | _ => .obj fs
  | key :: rest, .obj fs =>
    match Json.lookup fs key with
    | some child => .obj (fs ++ [(key, coerceNullAt rest child)])
    | none => .obj fs
  | _, j => j

def coerceNullCollections (raw : Json) : Json :=
  nullableListPaths.foldl (fun j path => coerceNullAt path j) raw

section Rules

variable (py : PythonText) (o : AnalysisOutput)

def isTrade : Bool := o.direction = "LONG" || o.direction = "SHORT"

def note (condition : Bool) (error : String) : List String := if condition then [error] else []

def validateIdentity : List String :=
  note (o.analysisId = "") "analysis_id is empty" ++
    note (o.pair = "") "pair is empty" ++
    note (o.tradingStyle = "") "trading_style is empty"

def validateDirectionConsistency : List String :=
  let valid := ["LONG", "SHORT", "NO SETUP"]
  note (!valid.contains o.direction)
      ("direction '" ++ o.direction ++ "' not in " ++ py.set valid) ++
    (if o.direction = "NO SETUP" then
      note (o.setupGrade ≠ "REJECT")
          ("direction is NO SETUP but setup_grade is '" ++ o.setupGrade ++ "' (expected REJECT)") ++
        note (o.proceedToModuleB = "YES") "direction is NO SETUP but proceed_to_module_b is YES"
    else [])

def validateConfluenceScore : List String :=
  let score := o.confluenceScore.score
  note (score < 0 || 10 < score)
    ("confluence_score " ++ py.float score ++ " outside bounds [" ++ py.float 0 ++ ", " ++
      py.float 10 ++ "]")

def validateGradeConsistency : List String :=
  let valid := ["A+", "A", "B", "REJECT"]
  let score := o.confluenceScore.score
  note (!valid.contains o.setupGrade)
      ("setup_grade '" ++ o.setupGrade ++ "' not in " ++ py.set valid) ++
    note (score < 5 && o.setupGrade ≠ "REJECT")
      ("confluence_score " ++ py.float score ++ " < " ++ py.float 5 ++ " but grade is '" ++
        o.setupGrade ++ "' (expected REJECT)")

def validateTradeConstruction : List String :=
  if isTrade o then
    note (o.entryZone.low.isNone || o.entryZone.high.isNone)
        "trade approved but entry_zone has null bounds" ++
      note o.stopLoss.price.isNone "trade approved but stop_loss.price is null" ++
      note o.takeProfits.isEmpty "trade approved but take_profits is empty" ++
      (match o.entryZone.low, o.entryZone.high with
        | some low, some high =>
          note (high < low)
              ("entry_zone.low (" ++ py.float low ++ ") > entry_zone.high (" ++
                py.float high ++ ")") ++
            note (low ≤ 0) ("entry_zone.low (" ++ py.float low ++ ") must be positive")
        | _, _ => []) ++
      (match o.stopLoss.price with
        | some price =>
          note (price ≤ 0) ("stop_loss.price (" ++ py.float price ++ ") must be positive")
        | none => [])
  else []

def styleMinTpRr (style : String) : Option ℚ :=
  let name := py.case.upper (pythonStrip style)
  if name = "SCALPING" then some 2
  else if name = "INTRADAY" then some 3
  else if name = "SWING" then some 3
  else if name = "POSITIONAL" then some 5
  else none

def validateRrRatio : List String :=
  if isTrade o then
    match o.rrRatio with
    | none => ["trade approved but rr_ratio is null"]
    | some rr =>
      if rr ≤ 0 then ["rr_ratio (" ++ py.float rr ++ ") must be positive"]
      else
        let style := py.case.upper o.tradingStyle
        let minRr := (styleMinTpRr py style).getD 3
        note (rr < minRr)
          ("rr_ratio " ++ py.float rr ++ " below minimum " ++ py.float minRr ++
            " for style " ++ style)
  else []

def validateProceedConsistency : List String :=
  if o.proceedToModuleB = "YES" then
    note (!(["A+", "A", "B"].contains o.setupGrade))
        ("proceed_to_module_b is YES but grade is '" ++ o.setupGrade ++
          "' (requires A+, A, or B)") ++
      note (o.direction = "NO SETUP") "proceed_to_module_b is YES but direction is NO SETUP"
  else []

def validateReasoning : List String :=
  if o.explainableReasoning = "" then ["explainable_reasoning is empty"]
  else note (8192 < o.explainableReasoning.length) "explainable_reasoning exceeds 8192 chars"

def validateTpStructure : List String :=
  if isTrade o then
    let total := (o.takeProfits.map TakeProfitLevel.sizePct).sum
    note (3 < o.takeProfits.length)
        ("take_profits has " ++ toString o.takeProfits.length ++ " levels (max 3)") ++
      note (!o.takeProfits.isEmpty && total ≠ 100)
        ("take_profits size_pct sum is " ++ toString total ++ " (expected 100)") ++
      o.takeProfits.zipIdx.flatMap (fun p =>
        match p.1.level with
        | some level =>
          note (level ≤ 0)
            ("take_profits[" ++ toString p.2 ++ "].level (" ++ py.float level ++
              ") must be positive")
        | none => [])
  else []

def validateCitations : List String :=
  note (o.ragSources = 0) "rag_sources is empty (citations required)" ++
    note (30 < o.ragSources) ("rag_sources has " ++ toString o.ragSources ++ " items (max 30)")

def validateAnalysisOutput (requireCitations : Bool) : List String :=
  validateIdentity o ++ validateDirectionConsistency py o ++ validateConfluenceScore py o ++
    validateGradeConsistency py o ++ validateTradeConstruction py o ++ validateRrRatio py o ++
    validateProceedConsistency o ++ validateReasoning o ++ validateTpStructure py o ++
    (if requireCitations then validateCitations o else [])

end Rules

def isNonFatalWarning (py : PythonText) (error : String) : Bool :=
  let lower := py.case.lower error
  containsText lower "explainable_reasoning" || containsText lower "rag_sources" ||
    containsText lower "take_profits size_pct sum"

inductive ParseFailure where
  | processorError (message : String)
  | schemaViolation (message : String) (validationErrors : List String)
deriving DecidableEq

def errorDetail (e : FieldError) : String := ".".intercalate e.loc ++ ": " ++ e.msg

def applyRules (py : PythonText) (requireCitations : Bool) (output : AnalysisOutput) :
    Except ParseFailure (AnalysisOutput × List String) :=
  let errors := validateAnalysisOutput py output requireCitations
  let fatal := errors.filter (fun e => !isNonFatalWarning py e)
  if fatal.isEmpty then .ok (output, errors.filter (isNonFatalWarning py))
  else
    .error (.processorError
      ("Analysis output failed validation: " ++ "; ".intercalate (fatal.take 5)))

def parseLlmResponse (py : PythonText) (coercions : Coercions) (requireCitations : Bool)
    (rawText : List Char) : Except ParseFailure (AnalysisOutput × List String) :=
  if (trimChars isPythonSpace rawText).isEmpty then
    .error (.processorError "LLM returned empty response")
  else if 65536 < rawText.length then
    .error (.processorError
      ("LLM response exceeds 65536 chars (" ++ toString rawText.length ++ ")"))
  else
    match parseJson (extractJson rawText) with
    | .error e => .error (.processorError ("Failed to parse LLM JSON: " ++ e))
    | .ok (.obj fs) =>
      match decodeAnalysis coercions (coerceNullCollections (.obj fs)) with
      | .errors es =>
        let details := es.map errorDetail
        .error (.schemaViolation
          ("LLM response failed schema validation: " ++ "; ".intercalate (details.take 5))
          details)
      | .ok output => applyRules py requireCitations output
    | .ok j =>
      .error (.processorError ("LLM response is not a JSON object (got " ++ j.pythonType ++ ")"))

end ETradie.Processor
