import ETradie.Kernel.Calendar
import ETradie.Kernel.Float64
import ETradie.Kernel.Json

/-!
# Instants and durations of Go's `time` package

Durations saturate at 64 bits, `Duration.Minutes` goes through float64, and `parseLayout` reads the
two RFC 3339 layouts.
-/

namespace ETradie.Kernel

def maxDuration : Int := 2 ^ 63 - 1
def minDuration : Int := -2 ^ 63

def subTime (t u : Int) : Int := max minDuration (min maxDuration (t - u))

def negDuration (d : Int) : Int := if d = minDuration then minDuration else -d

def minuteNanos : Int := 60000000000

theorem subTime_nonneg_iff (t u : Int) : 0 ≤ subTime t u ↔ u ≤ t := by
  unfold subTime minDuration maxDuration
  omega

variable {bound : Int}

theorem subTime_le_iff {t u : Int} (hlow : minDuration ≤ bound)
    (hhi : bound < maxDuration) : subTime t u ≤ bound ↔ t ≤ u + bound := by
  unfold subTime
  omega

section Rounding

variable {d : Int}

variable (r : Rounding)

def minutes (d : Int) : ℚ :=
  r.round ((d.tdiv minuteNanos : Int) + r.round ((d.tmod minuteNanos : Int) / (minuteNanos : ℚ)))

namespace Rounding

variable {k : Int}

variable {n : Int}

end Rounding

open Rounding

end Rounding

def getNum (fixed : Bool) : List Char → Option (Nat × List Char)
  | [] => none
  | [a] => if a.isDigit && !fixed then some (digitValue a, []) else none
  | a :: b :: rest =>
    if a.isDigit then
      if b.isDigit then some (10 * digitValue a + digitValue b, rest)
      else if fixed then none
      else some (digitValue a, b :: rest)
    else none

def scanYear (cs : List Char) : Option (Nat × List Char) :=
  let digits := cs.take 4
  if digits.length = 4 ∧ digits.all Char.isDigit then some (digitsValue digits, cs.drop 4)
  else none

def scanChar (c : Char) : List Char → Option (List Char)
  | [] => none
  | a :: rest => if a = c then some rest else none

def scanNanoseconds (cs : List Char) : Nat × List Char :=
  match cs with
  | point :: digit :: rest =>
    if (point = '.' ∨ point = ',') ∧ digit.isDigit then
      let digits := (digit :: rest).takeWhile Char.isDigit
      let kept := digits.take 9
      (digitsValue (kept ++ List.replicate (9 - kept.length) '0'),
        (digit :: rest).dropWhile Char.isDigit)
    else (0, cs)
  | _ => (0, cs)

def scanZone : List Char → Option (Int × List Char)
  | 'Z' :: rest => some (0, rest)
  | sign :: h :: h' :: colon :: m :: m' :: rest => do
      if colon ≠ ':' then none
      let (hours, _) ← getNum true [h, h']
      let (mins, _) ← getNum true [m, m']
      if 24 < hours ∨ 60 < mins then none
      let offset : Int := (hours * 60 + mins) * 60
      if sign = '+' then some (offset, rest)
      else if sign = '-' then some (-offset, rest)
      else none
  | _ => none

def daysIn (year : Int) (month : Nat) : Int :=
  if month = 2 then (if isLeap year then 29 else 28)
  else if month = 4 ∨ month = 6 ∨ month = 9 ∨ month = 11 then 30
  else 31

def parseLayout (zone : Bool) (cs : List Char) : Option Int := do
  let (year, cs) ← scanYear cs
  let cs ← scanChar '-' cs
  let (month, cs) ← getNum true cs
  if month < 1 ∨ 12 < month then none
  let cs ← scanChar '-' cs
  let (day, cs) ← getNum true cs
  let cs ← scanChar 'T' cs
  let (hour, cs) ← getNum false cs
  if 24 ≤ hour then none
  let cs ← scanChar ':' cs
  let (minute, cs) ← getNum true cs
  if 60 ≤ minute then none
  let cs ← scanChar ':' cs
  let (second, cs) ← getNum true cs
  if 60 ≤ second then none
  let (nanos, cs) := scanNanoseconds cs
  let (offset, cs) ← if zone then scanZone cs else some (0, cs)
  if cs ≠ [] then none
  if (day : Int) < 1 ∨ daysIn year month < day then none
  let seconds := ((hour * 60 + minute) * 60 + second : Int) - offset
  some (dayNumber ⟨year, month, day⟩ * dayNanos + seconds * 1000000000 + nanos)

example : parseLayout true "2026-03-15T11:23:45.12Z".toList = some 1773573825120000000 := by
  decide +kernel

end ETradie.Kernel
