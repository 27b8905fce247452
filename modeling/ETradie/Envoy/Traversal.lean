import ETradie.Envoy.Validators
import Mathlib.Data.List.Infix
import Mathlib.Data.List.TakeWhile

/-!
# Path traversal in accepted targets

`validate` looks for two dots and for NUL in the raw target.  Decoding and normalising it afterwards
can produce both from percent escapes.
-/

namespace ETradie.Envoy

open Kernel List

variable (path : List Char)

section Decoding

def hexDigit (c : Char) : Option Nat :=
  let n := c.toNat
  if 48 ≤ n ∧ n ≤ 57 then some (n - 48)
  else if 97 ≤ n ∧ n ≤ 102 then some (n - 87)
  else if 65 ≤ n ∧ n ≤ 70 then some (n - 55)
  else none

def hexByte (hex1 hex2 : Char) : Option Nat :=
  if hex1 = '+' then hexDigit hex2
  else (hexDigit hex1).bind (fun high => (hexDigit hex2).map (fun low => 16 * high + low))

def percentTokens : List Char → Except String (List (Char × Bool))
  | [] => .ok []
  | c :: rest =>
    if c = '%' then
      match rest with
      | hex1 :: hex2 :: rest =>
        match hexByte hex1 hex2 with
        | some byte => (percentTokens rest).map (fun ts => (Char.ofNat byte, true) :: ts)
        | none => .error "Invalid hex in percent encoding"
      | _ => .error "Incomplete percent encoding"
    else if c = '+' then (percentTokens rest).map (fun ts => (' ', false) :: ts)
    else (percentTokens rest).map (fun ts => (c, false) :: ts)

def extractPathWithoutQuery : List Char := path.takeWhile (fun c => c ≠ '?')

def normalizePath : List Char :=
  let segments := ((extractPathWithoutQuery path).splitOn '/').filter
    (fun segment => segment ≠ [] ∧ segment ≠ ['.'])
  '/' :: ['/'].intercalate segments ++ path.dropWhile (fun c => c ≠ '?')

end Decoding

def Harmless : Prop := ['.', '.'] ∉ (extractPathWithoutQuery path).splitOn '/' ∧ '\x00' ∉ path

instance (path : List Char) : Decidable (Harmless path) := inferInstanceAs (Decidable (_ ∧ _))

variable (ts : List (Char × Bool))

/-- The decoded path's segments, with the mark of each character. -/
def tokenSegments : List (List (Char × Bool)) :=
  (ts.takeWhile (fun token => token.1 ≠ '?')).splitOnP (fun token => token.1 == '/')

/-- No segment is two dots of which one is escaped, and no NUL is escaped. -/
def PlainDots : Prop :=
  (∀ segment ∈ tokenSegments ts, segment.map Prod.fst = ['.', '.'] →
    ∀ token ∈ segment, token.2 = false) ∧ ('\x00', true) ∉ ts

instance (ts : List (Char × Bool)) : Decidable (PlainDots ts) := inferInstanceAs (Decidable (_ ∧ _))

section Segments

variable {α : Type*} {sep l : List α} {ls : List (List α)}

theorem infix_intercalate (h : l ∈ ls) : l <:+: sep.intercalate ls := by
  induction ls with
  | nil => cases h
  | cons _ ls ih =>
    cases ls with
    | nil => rw [mem_singleton.mp h, intercalate_singleton]
    | cons l'' ls =>
      rw [intercalate_cons_cons]
      rcases mem_cons.mp h with rfl | hrs
      · exact ⟨[], sep ++ sep.intercalate (l'' :: ls), by simp⟩
      · exact (ih hrs).trans (suffix_append _ _).isInfix

theorem mem_of_mem_intercalate {c : α} (h : c ∈ sep.intercalate ls) :
    c ∈ sep ∨ ∃ l ∈ ls, c ∈ l := by
  induction ls with
  | nil => simp at h
  | cons l' ls ih =>
    cases ls with
    | nil =>
      rw [intercalate_singleton] at h
      exact .inr ⟨l', mem_cons_self, h⟩
    | cons _ ls =>
      rw [intercalate_cons_cons, mem_append, mem_append] at h
      rcases h with (hfst | hsep) | hrs
      · exact .inr ⟨l', mem_cons_self, hfst⟩
      · exact .inl hsep
      · rcases ih hrs with hsep | ⟨l, hl, hc⟩
        · exact .inl hsep
        · exact .inr ⟨l, mem_cons_of_mem l' hl, hc⟩

variable {xs : List α} {p : α → Bool}

theorem splitOnP_head (p : α → Bool) (xs : List α) :
    ∃ hd tl, xs.splitOnP p = hd :: tl ∧ hd <+: xs ∧ ∀ l ∈ tl, l <:+: xs := by
  induction xs with
  | nil => exact ⟨[], [], splitOnP_nil, nil_prefix, by simp⟩
  | cons a xs ih =>
    obtain ⟨hd, tl, hsplit, hhead, htail⟩ := ih
    have hin : ∀ l ∈ tl, l <:+: a :: xs := fun l hl => (htail l hl).trans (suffix_cons a xs).isInfix
    rw [splitOnP_cons_eq_if_modifyHead, hsplit]
    split
    · refine ⟨[], hd :: tl, rfl, nil_prefix, forall_mem_cons.mpr ⟨?_, hin⟩⟩
      exact hhead.isInfix.trans (suffix_cons a xs).isInfix
    · exact ⟨a :: hd, tl, rfl, (prefix_cons_inj a).mpr hhead, hin⟩

theorem infix_of_mem_splitOnP (h : l ∈ xs.splitOnP p) : l <:+: xs := by
  obtain ⟨hd, tl, hsplit, hhead, htail⟩ := splitOnP_head p xs
  rw [hsplit] at h
  rcases mem_cons.mp h with rfl | hl
  · exact hhead.isInfix
  · exact htail l hl

theorem splitOnP_map {β : Type*} (f : β → α) (ys : List β) :
    (ys.map f).splitOnP p = (ys.splitOnP (fun y => p (f y))).map (List.map f) := by
  induction ys with
  | nil => simp
  | cons y ys ih =>
    rw [map_cons, splitOnP_cons_eq_if_modifyHead, splitOnP_cons_eq_if_modifyHead, ih]
    split
    · simp
    · cases ys.splitOnP (fun y => p (f y)) <;> simp

variable [DecidableEq α] {x : α}

theorem notMem_of_mem_splitOn (h : l ∈ xs.splitOn x) : x ∉ l := by
  induction xs generalizing l with
  | nil =>
    rw [splitOn_nil, mem_singleton] at h
    rw [h]
    exact not_mem_nil
  | cons a xs ih =>
    rw [List.splitOn, splitOnP_cons_eq_if_modifyHead] at h
    split_ifs at h with hsep
    · rcases mem_cons.mp h with rfl | hrs
      · exact not_mem_nil
      · exact ih hrs
    · cases hspl : xs.splitOnP (fun y => y == x) with
      | nil => exact absurd hspl (splitOnP_ne_nil _ _)
      | cons l' _ =>
        rw [hspl, modifyHead_cons] at h
        rcases mem_cons.mp h with rfl | hrs
        · rw [mem_cons, not_or]
          refine ⟨fun hx => hsep (by simp [hx]), ih (l := l') ?_⟩
          rw [List.splitOn, hspl]
          exact mem_cons_self
        · refine ih ?_
          rw [List.splitOn, hspl]
          exact mem_cons_of_mem l' hrs

end Segments

section Traversal

variable {cs word : List Char} {ts}

theorem splitOn_normalizePath {segment : List Char} (hne : segment ≠ [])
    (hdot : segment ≠ ['.']) :
    segment ∈ (extractPathWithoutQuery (normalizePath cs)).splitOn '/' ↔
      segment ∈ (extractPathWithoutQuery cs).splitOn '/' := by
  unfold normalizePath
  have hmem : segment ∈ (extractPathWithoutQuery cs).splitOn '/' ↔
      segment ∈ ((extractPathWithoutQuery cs).splitOn '/').filter
        (fun segment => segment ≠ [] ∧ segment ≠ ['.']) := by
    simp [hne, hdot]
  have hkept : ∀ s ∈ ((extractPathWithoutQuery cs).splitOn '/').filter
      (fun segment => segment ≠ [] ∧ segment ≠ ['.']),
      s <:+: extractPathWithoutQuery cs ∧ '/' ∉ s := fun s hs =>
    ⟨infix_of_mem_splitOnP (mem_of_mem_filter hs), notMem_of_mem_splitOn (mem_of_mem_filter hs)⟩
  rw [hmem]
  generalize ((extractPathWithoutQuery cs).splitOn '/').filter
    (fun segment => segment ≠ [] ∧ segment ≠ ['.']) = segments at hkept ⊢
  have hquery : ∀ c ∈ '/' :: ['/'].intercalate segments, decide (c ≠ '?') := by
    refine forall_mem_cons.mpr ⟨by decide, ?_⟩
    intro c hc
    rcases mem_of_mem_intercalate hc with hslash | ⟨s, hs, hcs⟩
    · rw [mem_singleton.mp hslash]
      decide
    · exact mem_takeWhile_imp (p := fun c => decide (c ≠ '?')) ((hkept s hs).1.subset hcs)
  have hrest : (cs.dropWhile (fun c => c ≠ '?')).takeWhile (fun c => c ≠ '?') = [] :=
    takeWhile_eq_nil_iff.mpr (fun hlen => dropWhile_get_zero_not _ _ hlen)
  rw [extractPathWithoutQuery, takeWhile_append_of_pos hquery, hrest, append_nil,
    List.splitOn, splitOnP_cons_eq_if_modifyHead, if_pos (by decide), mem_cons]
  simp only [hne, false_or]
  cases segments with
  | nil => simp [hne]
  | cons s segments =>
    have hsplit := splitOn_intercalate '/' (fun l hl => (hkept l hl).2) (cons_ne_nil s segments)
    rw [List.splitOn] at hsplit
    rw [hsplit]

theorem mem_normalizePath_iff {c : Char} (hslash : c ≠ '/') (hdot : c ≠ '.') :
    c ∈ normalizePath cs ↔ c ∈ cs := by
  have hpath : c ∈ '/' :: ['/'].intercalate (((extractPathWithoutQuery cs).splitOn '/').filter
      (fun segment => segment ≠ [] ∧ segment ≠ ['.'])) ↔ c ∈ extractPathWithoutQuery cs := by
    constructor
    · intro h
      rcases mem_of_mem_intercalate ((mem_cons.mp h).resolve_left hslash) with hsep | ⟨s, hs, hc⟩
      · exact absurd (mem_singleton.mp hsep) hslash
      · exact (infix_of_mem_splitOnP (mem_of_mem_filter hs)).subset hc
    · intro h
      rw [← (intercalate_splitOn '/' : _ = extractPathWithoutQuery cs)] at h
      rcases mem_of_mem_intercalate h with hsep | ⟨s, hs, hc⟩
      · exact absurd (mem_singleton.mp hsep) hslash
      · refine mem_cons_of_mem _ ((infix_intercalate (mem_filter.mpr ⟨hs, ?_⟩)).subset hc)
        simp only [decide_eq_true_eq]
        exact ⟨ne_nil_of_mem hc, fun h => hdot (by simpa [h] using hc)⟩
  rw [normalizePath, mem_append, hpath, ← mem_append, extractPathWithoutQuery,
    takeWhile_append_dropWhile]

theorem harmless_normalizePath_iff :
    Harmless (normalizePath cs) ↔
      ['.', '.'] ∉ (extractPathWithoutQuery cs).splitOn '/' ∧ '\x00' ∉ cs := by
  rw [Harmless, splitOn_normalizePath (by decide) (by decide),
    mem_normalizePath_iff (by decide) (by decide)]

theorem splitOn_extractPath (ts : List (Char × Bool)) :
    (extractPathWithoutQuery (ts.map Prod.fst)).splitOn '/' =
      (tokenSegments ts).map (List.map Prod.fst) := by
  rw [extractPathWithoutQuery, takeWhile_map, List.splitOn, splitOnP_map]
  rfl

theorem percentTokens_cons {token : Char × Bool} (h : percentTokens cs = .ok (token :: ts)) :
    ∃ unit rest, cs = unit ++ rest ∧ percentTokens rest = .ok ts ∧
      (token.2 = false → token.1 ≠ ' ' → unit = [token.1]) := by
  revert h
  fun_cases percentTokens cs
  · rintro ⟨⟩
  · next hex1 hex2 rest byte _ =>
    intro h
    cases hrs : percentTokens rest <;> rw [hrs] at h <;> cases h
    exact ⟨['%', hex1, hex2], rest, rfl, hrs, fun hpln => by cases hpln⟩
  · rintro ⟨⟩
  · rintro ⟨⟩
  · next rest _ =>
    intro h
    cases hrs : percentTokens rest <;> rw [hrs] at h <;> cases h
    exact ⟨['+'], rest, rfl, hrs, fun _ hspc => absurd rfl hspc⟩
  · next c rest _ _ =>
    intro h
    cases hrs : percentTokens rest <;> rw [hrs] at h <;> cases h
    exact ⟨[c], rest, rfl, hrs, fun _ _ => rfl⟩

theorem percentTokens_append {before : List (Char × Bool)}
    (h : percentTokens cs = .ok (before ++ ts)) :
    ∃ rest, rest <:+ cs ∧ percentTokens rest = .ok ts := by
  induction before generalizing cs with
  | nil => exact ⟨cs, suffix_rfl, h⟩
  | cons _ before ih =>
    obtain ⟨unit, rest, rfl, hrs, -⟩ := percentTokens_cons h
    obtain ⟨last, hl, hts⟩ := ih hrs
    exact ⟨last, hl.trans (suffix_append unit rest), hts⟩

theorem literal_start (h : percentTokens cs = .ok (word.map (fun c => (c, false)) ++ ts))
    (hspc : ' ' ∉ word) : word <+: cs := by
  induction word generalizing cs with
  | nil => exact nil_prefix
  | cons c word ih =>
    rw [mem_cons, not_or] at hspc
    obtain ⟨unit, rest, rfl, hrs, hunit⟩ := percentTokens_cons h
    rw [hunit rfl (Ne.symm hspc.1)]
    exact (prefix_cons_inj c).mpr (ih hrs hspc.2)

theorem literal_within {before after : List (Char × Bool)}
    (h : percentTokens cs = .ok (before ++ (word.map (fun c => (c, false)) ++ after)))
    (hspc : ' ' ∉ word) : word <:+: cs := by
  obtain ⟨rest, hrs, hts⟩ := percentTokens_append h
  exact (literal_start hts hspc).isInfix.trans hrs.isInfix

theorem containsText_of_within (s sub : String) (h : sub.toList <:+: s.toList) :
    containsText s sub := by
  obtain ⟨rest, hsta, hsuf⟩ := infix_iff_prefix_suffix.mp h
  rw [containsText, any_eq_true]
  exact ⟨rest, (mem_tails _ _).mpr hsuf, ( isPrefixOf_iff_prefix).mpr hsta⟩

theorem accepted_path {cm : CaseMap} {target method : String}
    (h : validateStructure cm target method = .ok ()) :
    containsText target ".." = false ∧ '\x00' ∉ target.toList := by
  have hpath : validatePathStructure target = .ok () := by
    unfold validateStructure at h
    cases hpath : validatePathStructure target with
    | error e =>
      rw [hpath] at h
      cases h
    | ok _ => rfl
  unfold validatePathStructure at hpath
  split_ifs at hpath with _ _ hdots hnul
  exact ⟨Bool.eq_false_iff.mpr hdots, by simpa using hnul⟩

/-- An accepted target is harmless after decoding iff no escape is behind a segment of two dots or a
NUL: in plain spelling both are found in the raw target. -/
theorem accepted_path_harmless (cm : CaseMap) (target method : String) (ts : List (Char × Bool))
    (haccepted : validateStructure cm target method = .ok ())
    (hdecoded : percentTokens (extractPathWithoutQuery target.toList) = .ok ts) :
    Harmless (normalizePath (ts.map Prod.fst)) ↔ PlainDots ts := by
  obtain ⟨hdots, hnul⟩ := accepted_path haccepted
  have hpath : extractPathWithoutQuery target.toList <:+: target.toList :=
    ( takeWhile_prefix _).isInfix
  rw [harmless_normalizePath_iff, splitOn_extractPath]
  refine and_congr ⟨?_, ?_⟩ ⟨?_, ?_⟩
  · intro h segment hsegment htwo
    exact absurd (mem_map.mpr ⟨segment, hsegment, htwo⟩) h
  · intro hplain h
    obtain ⟨segment, hsegment, htwo⟩ := mem_map.mp h
    have hmarks := hplain segment hsegment htwo
    have hword : segment = ['.', '.'].map (fun c => (c, false)) := by
      rw [← htwo, map_map]
      conv_lhs => rw [← map_id segment]
      exact map_congr_left fun token ht => Prod.ext rfl (hmarks token ht)
    have hwithin : segment <:+: ts :=
      (infix_of_mem_splitOnP hsegment).trans ( takeWhile_prefix _).isInfix
    obtain ⟨before, after, rfl⟩ := hwithin
    rw [hword, append_assoc] at hdecoded
    have hraw : ['.', '.'] <:+: extractPathWithoutQuery target.toList :=
      literal_within hdecoded (by decide)
    rw [containsText_of_within target ".." (hraw.trans hpath)] at hdots
    cases hdots
  · intro h hescaped
    exact h (mem_map.mpr ⟨_, hescaped, rfl⟩)
  · intro hplain h
    obtain ⟨⟨c, escaped⟩, htoken, rfl⟩ := mem_map.mp h
    cases escaped with
    | true => exact hplain htoken
    | false =>
      obtain ⟨before, after, rfl⟩ := append_of_mem htoken
      have hraw : ['\x00'] <:+: extractPathWithoutQuery target.toList :=
        literal_within hdecoded (by decide)
      exact hnul (hpath.subset (hraw.subset mem_cons_self))

def decodedPath (target : String) : Option (List Char) :=
  match percentTokens (extractPathWithoutQuery target.toList) with
  | .ok ts => some (normalizePath (ts.map Prod.fst))
  | .error _ => none

theorem escaped_traversal_accepted :
    validateStructure asciiCaseMap "/files/%2e%2e/secret%00" "GET" = .ok () ∧
      decodedPath "/files/%2e%2e/secret%00" = some "/files/../secret\x00".toList ∧
      ¬ Harmless "/files/../secret\x00".toList := by
  decide +kernel

theorem accepted_path_harmless_image : Harmless (normalizePath "/a b/./image.png".toList) :=
  (accepted_path_harmless asciiCaseMap "/a%20b/./image%2epng?x=%2e%2e" "GET"
    [('/', false), ('a', false), (' ', true), ('b', false), ('/', false), ('.', false),
      ('/', false), ('i', false), ('m', false), ('a', false), ('g', false), ('e', false),
      ('.', true), ('p', false), ('n', false), ('g', false)]
    (by decide +kernel) (by decide +kernel)).mpr (by decide +kernel)

end Traversal

end ETradie.Envoy
