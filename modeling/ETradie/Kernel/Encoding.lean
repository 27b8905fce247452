import Mathlib.Data.List.TakeWhile
import Mathlib.Data.Nat.Digits.Lemmas
import ETradie.Kernel.Calendar
import ETradie.Kernel.Json

namespace ETradie.Kernel

open List

universe u

section Joining

variable {α : Type u} [DecidableEq α] {sep : α}

variable {parts : List (List α)} {a b : List α}

theorem split_first {a' b' : List α} (ha : sep ∉ a) (ha' : sep ∉ a')
    (h : a ++ sep :: b = a' ++ sep :: b') : a = a' ∧ b = b' := by
  have hpt : ∀ {x y : List α}, sep ∉ x →
      (x ++ sep :: y).takeWhile (fun c => c ≠ sep) = x := by
    intro x y hx
    rw [takeWhile_append_of_pos, takeWhile_cons_of_neg (by simp), append_nil]
    intro c hc
    simpa using ne_of_mem_of_not_mem hc hx
  have hfst := congrArg (List.takeWhile (fun c => c ≠ sep)) h
  rw [hpt ha, hpt ha'] at hfst
  subst hfst
  exact ⟨rfl, (List.cons.inj (append_cancel_left h)).2⟩

theorem count_intercalate (sep : α) (h : parts ≠ []) :
    (List.intercalate [sep] parts).count sep + 1 =
      (parts.map (List.count sep)).sum + parts.length := by
  induction parts with
  | nil => exact absurd rfl h
  | cons p rest ih =>
    cases rest with
    | nil => simp
    | cons q rest =>
      have hrs := ih (cons_ne_nil q rest)
      rw [intercalate_cons_cons, count_append, count_append, count_singleton_self]
      simp only [map_cons, sum_cons, length_cons] at hrs ⊢
      omega

omit [DecidableEq α] in
theorem join_dirty {p q : List α} {rest : List (List α)} (h : p = a ++ sep :: b) :
    List.intercalate [sep] (a :: (b ++ sep :: q) :: rest) =
      List.intercalate [sep] (p :: q :: rest) := by
  subst h
  cases rest with
  | nil | cons r rest => simp

theorem join_injective {parts' : List (List α)} (hcle : ∀ p ∈ parts, sep ∉ p)
    (hlng : parts'.length = parts.length)
    (h : List.intercalate [sep] parts' = List.intercalate [sep] parts) : parts' = parts := by
  cases parts with
  | nil => exact length_eq_zero_iff.mp hlng
  | cons p rest =>
    have hne : parts' ≠ [] := by
      rintro rfl
      simp at hlng
    have hcnt := count_intercalate sep hne
    rw [h, count_intercalate sep (cons_ne_nil p rest)] at hcnt
    have hz : ((p :: rest).map (List.count sep)).sum = 0 := by
      refine sum_eq_zero ?_
      intro n hn
      obtain ⟨q, hq, rfl⟩ := mem_map.mp hn
      exact count_eq_zero.mpr (hcle q hq)
    -- no separator is left for the other parts either
    have hcle' : ∀ q ∈ parts', sep ∉ q := by
      intro q hq
      have hsum : (parts'.map (List.count sep)).sum = 0 := by omega
      exact count_eq_zero.mp (sum_eq_zero_iff.mp hsum _ (mem_map_of_mem hq))
    rw [← splitOn_intercalate sep hcle' hne, h, splitOn_intercalate sep hcle (cons_ne_nil p rest)]

omit [DecidableEq α] in
theorem join_collides (hlng : 2 ≤ parts.length) (hdir : ∃ p ∈ parts, sep ∈ p) :
    ∃ parts' : List (List α), parts'.length = parts.length ∧
      List.intercalate [sep] parts' = List.intercalate [sep] parts ∧ parts' ≠ parts := by
  induction parts with
  | nil => simp at hlng
  | cons p rest ih =>
    cases rest with
    | nil => simp at hlng
    | cons q rest =>
      by_cases hp : sep ∈ p
      · obtain ⟨a, b, hspl⟩ := mem_iff_append.mp hp
        refine ⟨a :: (b ++ sep :: q) :: rest, rfl, join_dirty hspl, ?_⟩
        intro hsm
        have hlen := congrArg List.length ((List.cons.inj hsm).1.symm.trans rfl)
        rw [hspl] at hlen
        simp at hlen
      · have hrs : ∃ r ∈ q :: rest, sep ∈ r := by
          obtain ⟨r, hr, hsep⟩ := hdir
          rcases mem_cons.mp hr with rfl | hm
          · exact absurd hsep hp
          · exact ⟨r, hm, hsep⟩
        cases rest with
        | nil =>
          -- the last part: its beginning moves to the part before
          obtain ⟨r, hr, hsep⟩ := hrs
          rw [mem_singleton] at hr
          subst hr
          obtain ⟨a, b, rfl⟩ := mem_iff_append.mp hsep
          refine ⟨[p ++ sep :: a, b], rfl, by simp, ?_⟩
          intro hsm
          have hlen := congrArg List.length (List.cons.inj hsm).1
          simp at hlen
        | cons r rest =>
          obtain ⟨parts', hlen, hjo, hoth⟩ := ih (by simp) hrs
          cases parts' with
          | nil => simp at hlen
          | cons x xs =>
            refine ⟨p :: x :: xs, by simpa using hlen, ?_, ?_⟩
            · rw [intercalate_cons_cons, intercalate_cons_cons, hjo]
            · intro hsm
              exact hoth (List.cons.inj hsm).2

theorem join_determines_iff (hlng : 2 ≤ parts.length) :
    (∀ parts' : List (List α), parts'.length = parts.length →
        List.intercalate [sep] parts' = List.intercalate [sep] parts → parts' = parts) ↔
      ∀ p ∈ parts, sep ∉ p := by
  constructor
  · intro hdet p hp hsep
    obtain ⟨parts', hlen, hjo, hoth⟩ := join_collides hlng ⟨p, hp, hsep⟩
    exact hoth (hdet parts' hlen hjo)
  · intro hcle parts' hlen hjo
    exact join_injective hcle hlen hjo

end Joining

section Decimals

variable {width n : Nat} {c : Char}

def paddedDigits (width n : Nat) : List Nat :=
  Nat.digits 10 n ++ List.replicate (width - (Nat.digits 10 n).length) 0

def decimal (width n : Nat) : List Char := ((paddedDigits width n).map Nat.digitChar).reverse

def decimalValue (cs : List Char) : Nat := Nat.ofDigits 10 (cs.reverse.map digitValue)

theorem paddedDigits_lt {d : Nat} (h : d ∈ paddedDigits width n) : d < 10 := by
  rcases mem_append.mp h with hdig | hz
  · exact Nat.digits_lt_base (by decide) hdig
  · rw [eq_of_mem_replicate hz]
    decide

theorem digitValue_digitChar : ∀ d : Fin 10, digitValue (Nat.digitChar d) = d := by decide

theorem digitChar_range : ∀ d : Fin 10, (Nat.digitChar d).isDigit := by decide

theorem decimalValue_decimal (width n : Nat) : decimalValue (decimal width n) = n := by
  unfold decimalValue decimal
  rw [reverse_reverse, map_map]
  have hsm : (paddedDigits width n).map (digitValue ∘ Nat.digitChar) =
      (paddedDigits width n).map id := by
    refine map_congr_left ?_
    intro d hd
    exact digitValue_digitChar ⟨d, paddedDigits_lt hd⟩
  rw [hsm, map_id, paddedDigits, Nat.ofDigits_append_replicate_zero, Nat.ofDigits_digits]

theorem decimal_injective (width : Nat) : Function.Injective (decimal width) :=
  Function.LeftInverse.injective (decimalValue_decimal width)

theorem length_decimal (h : n < 10 ^ width) : (decimal width n).length = width := by
  have hle := (Nat.digits_length_le_iff (by decide) n).mpr h
  simp only [decimal, paddedDigits, length_reverse, length_map, length_append, length_replicate]
  omega

theorem two_append_inj {m : Nat} {x y : List Char} (hm : m < 100) (hn : n < 100)
    (h : decimal 2 m ++ x = decimal 2 n ++ y) : m = n ∧ x = y := by
  obtain ⟨htwo, hrs⟩ := append_inj h ((length_decimal hm).trans (length_decimal hn).symm)
  exact ⟨decimal_injective 2 htwo, hrs⟩

theorem isDigit_of_mem_decimal (h : c ∈ decimal width n) : c.isDigit := by
  rw [decimal, mem_reverse] at h
  obtain ⟨d, hd, rfl⟩ := mem_map.mp h
  exact digitChar_range ⟨d, paddedDigits_lt hd⟩

theorem notMem_decimal (h : c.isDigit = false) (width n : Nat) : c ∉ decimal width n := by
  intro hm
  rw [isDigit_of_mem_decimal hm] at h
  cases h

end Decimals

section Timestamps

variable {c : Char} {m n : Nat}

def yearText (year : Int) : List Char :=
  if year < 0 then '-' :: decimal 4 year.natAbs else decimal 4 year.natAbs

def dateText (day : Int) : List Char :=
  let d := civil day
  yearText d.year ++ ('-' :: decimal 2 d.month ++ '-' :: decimal 2 d.day.toNat)

def fractionText (nanos : Nat) : List Char :=
  if nanos = 0 then []
  else '.' :: ((decimal 9 nanos).reverse.dropWhile (fun c => c == '0')).reverse

def clockText (nanos : Nat) : List Char :=
  let secs := nanos / 1000000000
  (decimal 2 (secs / 3600) ++ ':' :: decimal 2 (secs / 60 % 60) ++ ':' :: decimal 2 (secs % 60)) ++
    (fractionText (nanos % 1000000000) ++ ['Z'])

def rfc3339Nano (t : Int) : List Char :=
  dateText (nanoDay t) ++ 'T' :: clockText (t % dayNanos).toNat

example : String.ofList (rfc3339Nano 1773573825120000000) = "2026-03-15T11:23:45.12Z" := by
  decide +kernel

theorem yearText_injective : Function.Injective yearText := by
  intro y z h
  have hmns : ∀ n : Nat, '-' ∉ decimal 4 n := notMem_decimal (by decide) 4
  unfold yearText at h
  split at h
  next hy =>
    split at h
    next hz =>
      have habs := decimal_injective 4 (List.cons.inj h).2
      omega
    next hz => exact absurd (h ▸ mem_cons_self) (hmns z.natAbs)
  next hy =>
    split at h
    next hz => exact absurd (h ▸ mem_cons_self) (hmns y.natAbs)
    next hz =>
      have habs := decimal_injective 4 h
      omega

theorem dateText_injective : Function.Injective dateText := by
  intro a b h
  obtain ⟨-, hma', -, hda'⟩ := civil_bounds a
  obtain ⟨-, hmb', hdb, hdb'⟩ := civil_bounds b
  have htwo : ∀ n : Nat, n < 100 → (decimal 2 n).length = 2 := fun n _ => length_decimal (by omega)
  -- the part after the year has six characters
  obtain ⟨hyear, hrs⟩ := append_inj' h (by
    simp only [length_append, length_cons]
    rw [htwo _ (by omega), htwo _ (by omega), htwo _ (by omega), htwo _ (by omega)])
  have hy := yearText_injective hyear
  obtain ⟨hm, hday⟩ := two_append_inj (by omega) (by omega) (List.cons.inj hrs).2
  have hd := decimal_injective 2 (List.cons.inj hday).2
  refine civil_injective ?_
  have hd' : (civil a).day = (civil b).day := by omega
  cases ha : civil a
  cases hb : civil b
  simp only [ha, hb] at hy hm hd'
  rw [hy, hm, hd']

theorem dropWhile_injective {l l' : List Char} (hlng : l.length = l'.length)
    (h : l.dropWhile (fun x => x == c) = l'.dropWhile (fun x => x == c)) : l = l' := by
  have hall : ∀ k : List Char, k.takeWhile (fun x => x == c) =
      List.replicate (k.takeWhile (fun x => x == c)).length c := by
    intro k
    refine eq_replicate_iff.mpr ⟨rfl, ?_⟩
    intro x hx
    have hte := mem_takeWhile_imp hx
    exact beq_iff_eq.mp hte
  have hl := takeWhile_append_dropWhile (p := fun x => x == c) (l := l)
  have hl' := takeWhile_append_dropWhile (p := fun x => x == c) (l := l')
  have hcnt : (l.takeWhile (fun x => x == c)).length =
      (l'.takeWhile (fun x => x == c)).length := by
    have hsum := congrArg List.length hl
    have hsum' := congrArg List.length hl'
    rw [length_append] at hsum hsum'
    rw [h] at hsum
    omega
  rw [← hl, ← hl', h, hall l, hall l', hcnt]

theorem fractionText_injective (hm : m < 1000000000) (hn : n < 1000000000)
    (h : fractionText m = fractionText n) : m = n := by
  unfold fractionText at h
  split at h
  next hz =>
    split at h
    next hz' => exact hz.trans hz'.symm
    next => cases h
  next =>
    split at h
    next => cases h
    next =>
      have hrs := reverse_injective (List.cons.inj h).2
      have hdgt := dropWhile_injective (by
        rw [length_reverse, length_reverse, length_decimal hm, length_decimal hn]) hrs
      exact decimal_injective 9 (reverse_injective hdgt)

theorem clockText_injective (hm : m < 86400 * 1000000000) (hn : n < 86400 * 1000000000)
    (h : clockText m = clockText n) : m = n := by
  unfold clockText at h
  simp only [append_assoc] at h
  obtain ⟨hhou, hrs⟩ := two_append_inj (by omega) (by omega) h
  obtain ⟨hmin, hrs⟩ := two_append_inj (by omega) (by omega) (List.cons.inj hrs).2
  obtain ⟨hsec, hrs⟩ := two_append_inj (by omega) (by omega) (List.cons.inj hrs).2
  have hnan := fractionText_injective (Nat.mod_lt m (by decide)) (Nat.mod_lt n (by decide))
    (append_cancel_right hrs)
  omega

theorem notMem_yearText (hdig : c.isDigit = false) (hmns : c ≠ '-') (year : Int) :
    c ∉ yearText year := by
  unfold yearText
  split
  next =>
    intro hm
    rcases mem_cons.mp hm with hsign | hrs
    · exact hmns hsign
    · exact notMem_decimal hdig 4 _ hrs
  next => exact notMem_decimal hdig 4 _

theorem notMem_dateText (hdig : c.isDigit = false) (hmns : c ≠ '-') (day : Int) :
    c ∉ dateText day := by
  unfold dateText
  simp only [mem_append, mem_cons, not_or]
  exact ⟨notMem_yearText hdig hmns _, ⟨hmns, notMem_decimal hdig 2 _⟩, hmns,
    notMem_decimal hdig 2 _⟩

theorem rfc3339Nano_injective : Function.Injective rfc3339Nano := by
  intro s t h
  have hT : ∀ day, 'T' ∉ dateText day := notMem_dateText (by decide) (by decide)
  obtain ⟨hdate, hclk⟩ := split_first (hT _) (hT _) h
  have hday := dateText_injective hdate
  unfold nanoDay dayNanos at hday
  unfold dayNanos at hclk
  have hnan := clockText_injective (by omega) (by omega) hclk
  omega

theorem notMem_fractionText (hdig : c.isDigit = false) (hdot : c ≠ '.') (nanos : Nat) :
    c ∉ fractionText nanos := by
  unfold fractionText
  split
  next => exact not_mem_nil
  next =>
    intro hm
    rcases mem_cons.mp hm with hhe | hrs
    · exact hdot hhe
    · rw [mem_reverse] at hrs
      have hdgt := (dropWhile_sublist _).subset hrs
      exact notMem_decimal hdig 9 _ (mem_reverse.mp hdgt)

theorem newline_notMem_rfc3339Nano (t : Int) : '\n' ∉ rfc3339Nano t := by
  have hdig : ('\n' : Char).isDigit = false := by decide
  unfold rfc3339Nano clockText
  simp only [mem_append, mem_cons, not_or]
  refine ⟨notMem_dateText hdig (by decide) _, by decide, ?_, ?_, by decide⟩
  · exact ⟨⟨notMem_decimal hdig 2 _, by decide, notMem_decimal hdig 2 _⟩, by decide,
      notMem_decimal hdig 2 _⟩
  · exact notMem_fractionText hdig (by decide) _

end Timestamps

variable (bytes : List UInt8)

section Hexadecimal

def hexEncode : List Char :=
  bytes.flatMap (fun b => [Nat.digitChar (b.toNat / 16), Nat.digitChar (b.toNat % 16)])

def hexDecode : List Char → Option (List UInt8)
  | [] => some []
  | [_] => none
  | hi :: lo :: rest =>
    (hexValue hi).bind (fun h => (hexValue lo).bind (fun l =>
      (hexDecode rest).map (fun bytes => UInt8.ofNat (16 * h + l) :: bytes)))

theorem hexValue_digitChar : ∀ d : Fin 16, hexValue (Nat.digitChar d) = some (d : Nat) := by decide

theorem hexDecode_hexEncode : hexDecode (hexEncode bytes) = some bytes := by
  induction bytes with
  | nil => rfl
  | cons b _ ih =>
    have hlt : b.toNat < 256 := b.toNat_lt
    have hhi := hexValue_digitChar ⟨b.toNat / 16, by omega⟩
    have hlo := hexValue_digitChar ⟨b.toNat % 16, by omega⟩
    have hbyte : 16 * (b.toNat / 16) + b.toNat % 16 = b.toNat := by omega
    simp only [hexEncode] at ih
    simp only [hexEncode, flatMap_cons, cons_append, nil_append, hexDecode, hhi,
      hlo, Option.bind_some, ih, Option.map_some, hbyte, UInt8.ofNat_toNat]

theorem hexEncode_injective : Function.Injective hexEncode := by
  intro a b h
  have hdec := congrArg hexDecode h
  rw [hexDecode_hexEncode, hexDecode_hexEncode] at hdec
  exact Option.some.inj hdec

theorem hexDigit_notSpace : ∀ d : Fin 16, isUnicodeSpace (Nat.digitChar d) = false := by decide

theorem trimSpace_hexEncode :
    trimSpace (String.ofList (hexEncode bytes)) = String.ofList (hexEncode bytes) := by
  have hno : ∀ c ∈ hexEncode bytes, isUnicodeSpace c = false := by
    intro c hc
    obtain ⟨b, -, hm⟩ := mem_flatMap.mp hc
    have hlt : b.toNat < 256 := b.toNat_lt
    simp only [mem_cons, not_mem_nil, or_false] at hm
    rcases hm with rfl | rfl
    · exact hexDigit_notSpace ⟨b.toNat / 16, by omega⟩
    · exact hexDigit_notSpace ⟨b.toNat % 16, by omega⟩
  have hdr : ∀ l : List Char, (∀ c ∈ l, isUnicodeSpace c = false) →
      l.dropWhile isUnicodeSpace = l := by
    intro l hl
    cases l with
    | nil => rfl
    | cons c _ => rw [dropWhile_cons, hl c mem_cons_self]; rfl
  unfold trimSpace trimChars
  rw [String.toList_ofList, hdr _ hno, hdr _ ?_, reverse_reverse]
  intro c hc
  exact hno c (mem_reverse.mp hc)

end Hexadecimal

end ETradie.Kernel
