import ETradie.Kernel.Text

namespace ETradie.Kernel

inductive Json where
  | null
  | bool (b : Bool)
  | int (n : Int)
  | float (q : ℚ)
  | str (s : String)
  | arr (items : List Json)
  | obj (fields : List (String × Json))

namespace Json

def pythonType : Json → String
  | .null => "NoneType"
  | .bool _ => "bool"
  | .int _ => "int"
  | .float _ => "float"
  | .str _ => "str"
  | .arr _ => "list"
  | .obj _ => "dict"

def lookup (fields : List (String × Json)) (key : String) : Option Json :=
  (fields.reverse.find? (·.1 = key)).map Prod.snd

end Json

def isJsonSpace (c : Char) : Bool := c = ' ' || c = '\t' || c = '\n' || c = '\r'

variable (cs : List Char)

def skipSpace : List Char := cs.dropWhile isJsonSpace

def digitValue (c : Char) : Nat := c.toNat - '0'.toNat

def digitsValue : Nat := cs.foldl (fun n c => 10 * n + digitValue c) 0

def hexValue (c : Char) : Option Nat :=
  if c.isDigit then some (digitValue c)
  else if 'a' ≤ c ∧ c ≤ 'f' then some (c.toNat - 'a'.toNat + 10)
  else if 'A' ≤ c ∧ c ≤ 'F' then some (c.toNat - 'A'.toNat + 10)
  else none

def scanHex : Option (Nat × List Char) :=
  match (cs.take 4).mapM hexValue with
  | some [a, b, c, d] => some (((16 * a + b) * 16 + c) * 16 + d, cs.drop 4)
  | _ => none

def scanUnicode : Option (Char × List Char) :=
  match scanHex cs with
  | none => none
  | some (hi, rest) =>
    if 0xD800 ≤ hi ∧ hi < 0xDC00 then
      match rest with
      | '\\' :: 'u' :: more =>
        match scanHex more with
        | some (lo, rest') =>
          if 0xDC00 ≤ lo ∧ lo < 0xE000 then
            some (Char.ofNat (0x10000 + (hi - 0xD800) * 0x400 + (lo - 0xDC00)), rest')
          else none
        | none => none
      | _ => none
    else if 0xDC00 ≤ hi ∧ hi < 0xE000 then none
    else some (Char.ofNat hi, rest)

def scanEscape : Option (Char × List Char) :=
  match cs with
  | [] => none
  | c :: rest =>
    if c = 'u' then scanUnicode rest
    else
      let simple : List (Char × Char) :=
        [('"', '"'), ('\\', '\\'), ('/', '/'), ('b', '\x08'), ('f', '\x0c'),
         ('n', '\n'), ('r', '\r'), ('t', '\t')]
      (simple.find? (·.1 = c)).map (fun p => (p.2, rest))

def scanString : Nat → List Char → Option (List Char × List Char)
  | 0, _ => none
  | _ + 1, [] => none
  | fuel + 1, c :: rest =>
    if c = '"' then some ([], rest)
    else if c = '\\' then
      match scanEscape rest with
      | none => none
      | some (ch, rest') => (scanString fuel rest').map (fun r => (ch :: r.1, r.2))
    else if c.toNat < 32 then none
    else (scanString fuel rest).map (fun r => (c :: r.1, r.2))

def scanFraction : Option (Option ℚ × List Char) :=
  match cs with
  | '.' :: rest =>
    let digits := rest.takeWhile Char.isDigit
    if digits.isEmpty then none
    else some (some (digitsValue digits / 10 ^ digits.length), rest.dropWhile Char.isDigit)
  | _ => some (none, cs)

def scanExponent : Option (Option Int × List Char) :=
  match cs with
  | c :: rest =>
    if c = 'e' ∨ c = 'E' then
      let (negative, rest) :=
        match rest with
        | '-' :: more => (true, more)
        | '+' :: more => (false, more)
        | _ => (false, rest)
      let digits := rest.takeWhile Char.isDigit
      if digits.isEmpty then none
      else
        let n : Int := digitsValue digits
        some (some (if negative then -n else n), rest.dropWhile Char.isDigit)
    else some (none, cs)
  | [] => some (none, cs)

def scanNumber : Option (Json × List Char) :=
  let (negative, body) :=
    match cs with
    | '-' :: more => (true, more)
    | _ => (false, cs)
  let whole := body.takeWhile Char.isDigit
  -- No leading zeros.
  if whole.isEmpty ∨ (1 < whole.length ∧ whole.head? = some '0') then none
  else
    match scanFraction (body.dropWhile Char.isDigit) with
    | none => none
    | some (fraction, rest) =>
      match scanExponent rest with
      | none => none
      | some (exponent, rest') =>
        let n : Int := digitsValue whole
        let signed := if negative then -n else n
        match fraction, exponent with
        | none, none =>
          if -2 ^ 63 ≤ signed ∧ signed < 2 ^ 64 then some (.int signed, rest')
          else some (.float signed, rest')
        | _, _ =>
          let magnitude := (n + fraction.getD 0) * (10 : ℚ) ^ exponent.getD 0
          some (.float (if negative then -magnitude else magnitude), rest')

def parseItems (value : List Char → Option (Json × List Char)) :
    Nat → List Char → Option (List Json × List Char)
  | 0, _ => none
  | fuel + 1, cs =>
    match value cs with
    | none => none
    | some (item, rest) =>
      match skipSpace rest with
      | ',' :: more => (parseItems value fuel more).map (fun r => (item :: r.1, r.2))
      | ']' :: more => some ([item], more)
      | _ => none

def parseFields (value : List Char → Option (Json × List Char)) :
    Nat → List Char → Option (List (String × Json) × List Char)
  | 0, _ => none
  | fuel + 1, cs =>
    match skipSpace cs with
    | '"' :: more =>
      match scanString (more.length + 1) more with
      | none => none
      | some (key, rest) =>
        match skipSpace rest with
        | ':' :: more' =>
          match value more' with
          | none => none
          | some (item, rest') =>
            let field := (String.ofList key, item)
            match skipSpace rest' with
            | ',' :: next => (parseFields value fuel next).map (fun r => (field :: r.1, r.2))
            | '}' :: next => some ([field], next)
            | _ => none
        | _ => none
    | _ => none

def parseWord (word : String) (value : Json) (cs : List Char) : Option (Json × List Char) :=
  if word.toList.isPrefixOf cs then some (value, cs.drop word.length) else none

def parseValue : Nat → List Char → Option (Json × List Char)
  | 0, _ => none
  | fuel + 1, cs =>
    match skipSpace cs with
    | [] => none
    | c :: rest =>
      if c = '{' then
        match skipSpace rest with
        | '}' :: more => some (.obj [], more)
        | _ => (parseFields (parseValue fuel) rest.length rest).map (fun r => (.obj r.1, r.2))
      else if c = '[' then
        match skipSpace rest with
        | ']' :: more => some (.arr [], more)
        | _ => (parseItems (parseValue fuel) rest.length rest).map (fun r => (.arr r.1, r.2))
      else if c = '"' then
        (scanString (rest.length + 1) rest).map (fun r => (.str (String.ofList r.1), r.2))
      else if c = 'n' then parseWord "null" .null (c :: rest)
      else if c = 't' then parseWord "true" (.bool true) (c :: rest)
      else if c = 'f' then parseWord "false" (.bool false) (c :: rest)
      else scanNumber (c :: rest)

def parseJson (text : List Char) : Except String Json :=
  match parseValue 1024 text with
  | some (value, rest) =>
    if (skipSpace rest).isEmpty then .ok value else .error "unexpected content after document"
  | none => .error "malformed JSON"

structure FieldError where
  loc : List String
  msg : String
deriving DecidableEq

inductive Decoded (α : Type) where
  | ok (a : α)
  | errors (es : List FieldError)

instance : Applicative Decoded where
  pure := .ok
  seq f x :=
    match f, x () with
    | .ok g, .ok a => .ok (g a)
    | .ok _, .errors es => .errors es
    | .errors es, .ok _ => .errors es
    | .errors es, .errors es' => .errors (es ++ es')

abbrev Decoder (α : Type) := Json → Decoded α

def complain {α : Type} (msg : String) : Decoded α := .errors [⟨[], msg⟩]

def Decoded.under {α : Type} (key : String) : Decoded α → Decoded α
  | .ok a => .ok a
  | .errors es => .errors (es.map (fun e => { e with loc := key :: e.loc }))

def decodeExcept {α : Type} : Except String α → Decoded α
  | .ok a => .ok a
  | .error msg => complain msg

def decodeStr : Decoder String
  | .str s => .ok (trimSpace s)
  | _ => complain "Input should be a valid string"

def decodeOptional {α : Type} (d : Decoder α) : Decoder (Option α)
  | .null => .ok none
  | j => some <$> d j

def decodeItems {α : Type} (d : Decoder α) : Nat → List Json → Decoded (List α)
  | _, [] => .ok []
  | i, j :: rest => List.cons <$> (d j).under (toString i) <*> decodeItems d (i + 1) rest

def decodeList {α : Type} (d : Decoder α) : Decoder (List α)
  | .arr items => decodeItems d 0 items
  | _ => complain "Input should be a valid list"

def decodeModel {α : Type} (name : String) (fields : List (String × Json) → Decoded α) :
    Decoder α
  | .obj fs => fields fs
  | _ => complain ("Input should be a valid dictionary or instance of " ++ name)

def requiredField {α : Type} (key : String) (d : Decoder α) (fs : List (String × Json)) :
    Decoded α :=
  match Json.lookup fs key with
  | some j => (d j).under key
  | none => (complain "Field required").under key

def optionalField {α : Type} (key : String) (d : Decoder α) (default : α)
    (fs : List (String × Json)) : Decoded α :=
  match Json.lookup fs key with
  | some j => (d j).under key
  | none => .ok default

end ETradie.Kernel
