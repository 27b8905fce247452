import ETradie.Kernel.Json

namespace ETradie.Kernel

def splitText (sep : Char) (s : String) : List String := (s.toList.splitOn sep).map String.ofList

variable {sep : Char} {s : String}

theorem splitText_of_notMem (h : sep ∉ s.toList) : splitText sep s = [s] := by
  rw [splitText, List.splitOn_eq_singleton h]
  simp

theorem splitText_append {t : String} (h : sep ∉ t.toList) :
    splitText sep (s ++ String.singleton sep ++ t) = splitText sep s ++ [t] := by
  have hcha : (s ++ String.singleton sep ++ t).toList = s.toList ++ sep :: t.toList := by simp
  rw [splitText, hcha, List.splitOn_append_cons_self, List.splitOn_eq_singleton h, splitText]
  simp

abbrev IP := List UInt8

def isHexDigit (c : Char) : Bool := (hexValue c).isSome

def hexDigitsValue (cs : List Char) : Nat := cs.foldl (fun n c => 16 * n + (hexValue c).getD 0) 0

def parseOctet (cs : List Char) : Option UInt8 :=
  if cs.isEmpty || !cs.all Char.isDigit || (cs.length ≠ 1 && cs.head? == some '0') then none
  else if digitsValue cs ≤ 255 then
    some (UInt8.ofNat (digitsValue cs))
  else none

def parseIPv4Fields (s : List Char) : Option IP :=
  if (s.splitOn '.').length = 4 then (s.splitOn '.').mapM parseOctet else none

def parseGroups : (left : Nat) → IP → Option Nat → List Char → Option (IP × Option Nat)
  | 0, ip, ellipsis, s => if s.isEmpty then some (ip, ellipsis) else none
  | left + 1, ip, ellipsis, s =>
    let digits := s.takeWhile isHexDigit
    let rest := s.dropWhile isHexDigit
    let group := hexDigitsValue digits
    let ip' := ip ++ [UInt8.ofNat (group / 256), UInt8.ofNat group]
    if digits.isEmpty || 4 < digits.length then none
    else
      match rest with
      | [] => some (ip', ellipsis)
      | '.' :: _ =>
        -- dotted decimals take the place of the last two groups
        if (ellipsis.isNone && ip.length ≠ 12) || 16 < ip.length + 4 then none
        else (parseIPv4Fields s).map (fun four => (ip ++ four, ellipsis))
      | [':'] => none
      | ':' :: ':' :: s' =>
        if ellipsis.isSome then none
        else if s'.isEmpty then some (ip', some ip'.length)
        else parseGroups left ip' (some ip'.length) s'
      | ':' :: s' => parseGroups left ip' ellipsis s'
      | _ => none

def expandEllipsis : IP × Option Nat → Option IP
  | (ip, some place) =>
    if ip.length < 16 then
      some (ip.take place ++ List.replicate (16 - ip.length) 0 ++ ip.drop place)
    else none
  | (ip, none) => if ip.length < 16 then none else some ip

def parseIPv6 (s : List Char) : Option IP :=
  match s with
  | [':', ':'] => some (List.replicate 16 0)
  | ':' :: ':' :: rest => (parseGroups 8 [] (some 0) rest).bind expandEllipsis
  | _ => (parseGroups 8 [] none s).bind expandEllipsis

def parseAddr (s : List Char) : Option IP :=
  match s.find? (fun c => c == '.' || c == ':' || c == '%') with
  | some '.' => parseIPv4Fields s
  | some ':' => parseIPv6 s
  | _ => none

variable (ip : IP)

def to16 : IP := if ip.length = 4 then List.replicate 10 0 ++ [255, 255] ++ ip else ip

def netParseIP (s : String) : Option IP := (parseAddr s.toList).map to16

def to4 : Option IP :=
  if ip.length = 4 then some ip
  else if ip.length = 16 ∧ ip.take 12 = List.replicate 10 0 ++ [255, 255] then some (ip.drop 12)
  else none

def groups : IP → List Nat
  | hi :: lo :: rest => (hi.toNat * 256 + lo.toNat) :: groups rest
  | _ => []

def longestZeros (gs : List Nat) : Nat × Nat :=
  (List.range gs.length).foldl (fun best i =>
    let len := ((gs.drop i).takeWhile (fun g => g = 0)).length
    if 2 ≤ len ∧ best.2 < len then (i, len) else best) (0, 0)

def hexGroup (g : Nat) : String := String.ofList (Nat.toDigits 16 g)

def colonJoined (gs : List Nat) : String := String.intercalate ":" (gs.map hexGroup)

def dotted : String :=
  String.intercalate "." (ip.map (fun b => String.ofList (Nat.toDigits 10 b.toNat)))

def ipString : String :=
  match to4 ip with
  | some four => dotted four
  | none =>
    let gs := groups ip
    let zeros := longestZeros gs
    if zeros.2 = 0 then colonJoined gs
    else colonJoined (gs.take zeros.1) ++ "::" ++ colonJoined (gs.drop (zeros.1 + zeros.2))

structure IPNet where
  (ip mask : IP)
deriving DecidableEq

def maskBytes (m ip : IP) : IP := List.zipWith (fun a b => a &&& b) ip m

def IPNet.numberAndMask (n : IPNet) : Option (IP × IP) :=
  let number := (to4 n.ip).getD n.ip
  if number.length = 4 then
    if n.mask.length = 4 then some (number, n.mask)
    else if n.mask.length = 16 then some (number, n.mask.drop 12)
    else none
  else if number.length = 16 ∧ n.mask.length = 16 then some (number, n.mask)
  else none

def IPNet.contains (n : IPNet) (ip : IP) : Bool :=
  match n.numberAndMask with
  | none => false
  | some (number, m) =>
    let ip := (to4 ip).getD ip
    ip.length == number.length && maskBytes m number == maskBytes m ip

def cidrMask : (ones bytes : Nat) → IP
  | _, 0 => []
  | ones, bytes + 1 => UInt8.ofNat (256 - 2 ^ (8 - min ones 8)) :: cidrMask (ones - 8) bytes

def parseCIDR (s : String) : Option IPNet :=
  match splitText '/' s with
  | addr :: mask :: rest =>
    -- the text is cut at the first slash
    let digits := (String.intercalate "/" (mask :: rest)).toList
    match parseAddr addr.toList with
    | none => none
    | some ip =>
      let ones := digitsValue digits
      if digits.isEmpty || !digits.all Char.isDigit || 8 * ip.length < ones then none
      else
        let m := cidrMask ones ip.length
        some ⟨maskBytes m ip, m⟩
  | _ => none

def splitHost (s : List Char) : Option (List Char) :=
  match s.reverse.dropWhile (· ≠ ':') with
  | [] => none
  | _ :: before =>
    -- `before` is what precedes the last colon, from its end
    let host := before.reverse
    match s with
    | '[' :: inner =>
      let bracketed := inner.takeWhile (· ≠ ']')
      if host = '[' :: bracketed ++ [']'] ∧ '[' ∉ inner ∧ ']' ∉ s.drop (host.length) then
        some bracketed
      else none
    | _ => if ':' ∈ host ∨ '[' ∈ s ∨ ']' ∈ s then none else some host

end ETradie.Kernel
