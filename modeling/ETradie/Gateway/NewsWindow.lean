import ETradie.Kernel.Instant

namespace ETradie.Gateway

open Kernel

abbrev JsonMap := List (String × Json)

def getStrDefault (m : JsonMap) (key dflt : String) : String :=
  match Json.lookup m key with
  | some (.str s) => s
  | _ => dflt

def getSliceOfMaps (m : JsonMap) (key : String) : List JsonMap :=
  match Json.lookup m key with
  | some (.arr items) =>
    items.filterMap (fun item =>
      match item with
      | .obj fields => some fields
      | _ => none)
  | _ => []

def markets247 : List String := ["CRASH", "BOOM", "VOLATILITY", "STEP", "JUMP", "BTC", "ETH"]

def is247Market (text : CaseMap) (symbol : String) : Bool :=
  markets247.any (containsText (text.upper symbol))

def utf8 (s : String) : List UInt8 := s.toByteArray.data.toList

def cleanSymbol (text : CaseMap) (symbol : String) : String :=
  String.ofList (((text.upper (trimSpace symbol)).toList.filter (fun c => c ≠ '/')).filter
    (fun c => c ≠ '_'))

def isMetal (s : List UInt8) : Bool := (utf8 "XAU").isPrefixOf s || (utf8 "XAG").isPrefixOf s

def parseSymbolCurrencies (text : CaseMap) (symbol : String) : List (List UInt8) :=
  if is247Market text symbol then []
  else
    let s := utf8 (cleanSymbol text symbol)
    if s.length = 6 ∨ (s.length = 7 ∧ isMetal s) then
      let base := s.take 3
      let quote := s.drop 3
      -- With seven characters the quote has four, so the metals' layout ends here.
      if quote.length ≠ 3 then []
      else if base = quote then [base]
      else [base, quote]
    else []

structure NewsWindowStatus where
  (locked dataAvailable : Bool)
  reason : String
  (eventName currency : String := "")
  minutesUntil : ℚ := 0
deriving DecidableEq

def parseEventTime (s : String) : Option Int :=
  (parseLayout true s.toList).or (parseLayout false s.toList)

section Window

variable (text : CaseMap) (r : Rounding)

def lockedBy (currencies : List (List UInt8)) (now lockoutMinutes : Int) (event : JsonMap) :
    Option NewsWindowStatus :=
  if text.upper (getStrDefault event "impact" "") ≠ "HIGH" then none
  else
    let eventCurrency := text.upper (getStrDefault event "currency" "")
    if utf8 eventCurrency ∉ currencies then none
    else
      let eventTimeStr := getStrDefault event "event_time" ""
      if eventTimeStr = "" then none
      else
        match parseEventTime eventTimeStr with
        | none => none
        | some eventTime =>
          let minutesUntil := minutes r (subTime eventTime now)
          if 0 ≤ minutesUntil ∧ minutesUntil ≤ r.round lockoutMinutes then
            let eventName := getStrDefault event "event_name" "unknown"
            some
              { locked := true, dataAvailable := true, eventName := eventName
                currency := eventCurrency, minutesUntil := minutesUntil
                reason := "High-impact " ++ eventCurrency ++ " event '" ++ eventName ++ "' in " ++
                  toString ⌊minutesUntil⌋ ++ " minutes (lockout: " ++ toString lockoutMinutes ++
                  "min)" }
          else none

def evaluateNewsWindow (calendar : Option JsonMap) (symbol : String) (now lockoutMinutes : Int) :
    NewsWindowStatus :=
  let currencies := parseSymbolCurrencies text symbol
  if currencies = [] then
    { locked := false, dataAvailable := true, reason := "Symbol has no fiat calendar exposure" }
  else
    match calendar with
    | none =>
      { locked := true, dataAvailable := false
        reason :=
          "Economic-calendar data unavailable; failing closed to avoid trading blind into news" }
    | some calendar =>
      ((getSliceOfMaps calendar "events").findSome?
          (lockedBy text r currencies now lockoutMinutes)).getD
        { locked := false, dataAvailable := true
          reason := "No high-impact events within lockout window" }

end Window

variable {now lockoutMinutes : Int}

section Exactness

variable {text : CaseMap} {r : Rounding} {symbol : String}

end Exactness

end ETradie.Gateway
