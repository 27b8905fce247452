import Mathlib.Data.Rat.Floor
import Mathlib.Tactic

namespace ETradie.Kernel

variable (s : String)

def isAscii : Bool := s.toList.all (·.toNat < 128)

def asciiUpper : String := String.ofList (s.toList.map Char.toUpper)

def asciiLower : String := String.ofList (s.toList.map Char.toLower)

structure CaseMap where
  (upper lower : String → String)
  upper_ascii : ∀ s, isAscii s = true → upper s = asciiUpper s
  lower_ascii : ∀ s, isAscii s = true → lower s = asciiLower s

def asciiCaseMap : CaseMap where
  upper := asciiUpper
  lower := asciiLower
  upper_ascii := fun _ _ => rfl
  lower_ascii := fun _ _ => rfl

def containsText (sub : String) : Bool :=
  s.toList.tails.any (fun rest => sub.toList.isPrefixOf rest)

def isUnicodeSpace (c : Char) : Bool :=
  let n := c.toNat
  (9 ≤ n && n ≤ 13) || n == 32 || n == 133 || n == 160 || n == 5760 ||
    (8192 ≤ n && n ≤ 8202) || n == 8232 || n == 8233 || n == 8239 || n == 8287 || n == 12288

def isPythonSpace (c : Char) : Bool := isUnicodeSpace c || (28 ≤ c.toNat && c.toNat ≤ 31)

def trimChars (space : Char → Bool) (cs : List Char) : List Char :=
  ((cs.dropWhile space).reverse.dropWhile space).reverse

def trimSpace : String := String.ofList (trimChars isUnicodeSpace s.toList)

def pythonStrip : String := String.ofList (trimChars isPythonSpace s.toList)

def goQuoteChar (c : Char) : List Char :=
  match c.toNat with
  | 7 => ['\\', 'a']
  | 8 => ['\\', 'b']
  | 9 => ['\\', 't']
  | 10 => ['\\', 'n']
  | 11 => ['\\', 'v']
  | 12 => ['\\', 'f']
  | 13 => ['\\', 'r']
  | 34 => ['\\', c]
  | 92 => ['\\', c]
  | n =>
    if n < 32 ∨ n = 127 then
      ['\\', 'x', Nat.digitChar (n / 16), Nat.digitChar (n % 16)]
    else [c]

def goQuote : String := String.ofList (['"'] ++ s.toList.flatMap goQuoteChar ++ ['"'])

def roundHalfEven (x : ℚ) : Int :=
  let f := ⌊x⌋
  if x - f < 1 / 2 then f
  else if 1 / 2 < x - f then f + 1
  else if f % 2 = 0 then f else f + 1

def roundHalfAway (x : ℚ) : Int := if 0 ≤ x then ⌊x + 1 / 2⌋ else -⌊-x + 1 / 2⌋

def fixed (n : Nat) (x : ℚ) : String :=
  let scaled := (roundHalfEven (|x| * 10 ^ n)).toNat
  let whole := toString (scaled / 10 ^ n)
  let digits := toString (scaled % 10 ^ n)
  let sign := if x < 0 then "-" else ""
  if n = 0 then sign ++ whole
  else sign ++ whole ++ "." ++ String.ofList (List.replicate (n - digits.length) '0') ++ digits

example : fixed 2 (-7 / 3) = "-2.33" := by decide +kernel

end ETradie.Kernel
