import ETradie.Kernel.Encoding

namespace ETradie.Execution

open Kernel

structure Fields where
  timestamp : Int
  (nonce userId symbol direction analysisId : String)
deriving DecidableEq

structure Crypto where
  hmac : List UInt8 → String → List UInt8
  sha256 : String → List UInt8
  collision_free : Function.Injective sha256

def signingVersion : String := "v1"

variable (crypto : Crypto) (f : Fields)

namespace Fields

def texts : List (List Char) :=
  [f.nonce.toList, f.userId.toList, f.symbol.toList, f.direction.toList, f.analysisId.toList]

def canonical : String :=
  String.ofList (List.intercalate ['\n']
    (signingVersion.toList :: rfc3339Nano f.timestamp :: f.texts))

def canonicalHash : String := String.ofList (hexEncode (crypto.sha256 f.canonical))

end Fields

variable (key : List UInt8)

def sign (f : Fields) : String := String.ofList (hexEncode (crypto.hmac key f.canonical))

def verify (f : Fields) (sigHex : String) : Bool :=
  match hexDecode (sign crypto key f).toList, hexDecode (trimSpace sigHex).toList with
  | some want, some got => want = got
  | _, _ => false

variable (userId nonce : String)

def nonceKey : String := userId ++ "|" ++ nonce

theorem verify_sign (f : Fields) :
    verify crypto key f (sign crypto key f) := by
  simp [verify, sign, trimSpace_hexEncode, hexDecode_hexEncode]

theorem canonicalHash_inj {crypto : Crypto} {f g : Fields}
    (h : f.canonicalHash crypto = g.canonicalHash crypto) : f.canonical = g.canonical :=
  crypto.collision_free (hexEncode_injective (String.ofList_injective h))

section Canonical

theorem canonical_toList :
    f.canonical.toList =
      signingVersion.toList ++ '\n' :: (rfc3339Nano f.timestamp ++ '\n' ::
        List.intercalate ['\n'] f.texts) := by
  simp [Fields.canonical, Fields.texts]

theorem canonical_eq_iff (g : Fields) :
    f.canonical = g.canonical ↔
      f.timestamp = g.timestamp ∧
        List.intercalate ['\n'] f.texts = List.intercalate ['\n'] g.texts := by
  rw [← String.toList_inj, canonical_toList, canonical_toList]
  constructor
  · intro h
    have hrs := (List.cons.inj (List.append_cancel_left h)).2
    obtain ⟨htm, htxs⟩ := split_first (newline_notMem_rfc3339Nano _)
      (newline_notMem_rfc3339Nano _) hrs
    exact ⟨rfc3339Nano_injective htm, htxs⟩
  · rintro ⟨htm, htxs⟩
    rw [htm, htxs]

theorem texts_injective {f g : Fields} (htm : f.timestamp = g.timestamp)
    (htxs : f.texts = g.texts) : f = g := by
  simp only [Fields.texts, List.cons.injEq, String.toList_inj, and_true] at htxs
  obtain ⟨hnon, hu, hsym, hdir, hana⟩ := htxs
  cases f
  simp only at htm hnon hu hsym hdir hana
  rw [htm, hnon, hu, hsym, hdir, hana]

theorem exists_texts (timestamp : Int) {parts : List (List Char)} (h : parts.length = 5) :
    ∃ g : Fields, g.timestamp = timestamp ∧ g.texts = parts := by
  match parts, h with
  | [a, b, c, d, e], _ =>
    exact ⟨⟨timestamp, String.ofList a, String.ofList b, String.ofList c, String.ofList d,
      String.ofList e⟩, rfl, by simp [Fields.texts]⟩

theorem canonical_determines_iff :
    (∀ g : Fields, g.canonical = f.canonical → g = f) ↔ ∀ text ∈ f.texts, '\n' ∉ text := by
  rw [← join_determines_iff (by simp [Fields.texts])]
  constructor
  · intro hbin _ hlen hjo
    obtain ⟨g, htm, htxs⟩ := exists_texts f.timestamp hlen
    have hsm := hbin g ((canonical_eq_iff g f).mpr ⟨htm, by rw [htxs, hjo]⟩)
    rw [← htxs, hsm]
  · intro hjo g hcan
    obtain ⟨htm, htxs⟩ := (canonical_eq_iff g f).mp hcan
    exact texts_injective htm (hjo g.texts rfl htxs)

theorem nonceKey_toList :
    (nonceKey userId nonce).toList = List.intercalate ['|'] [userId.toList, nonce.toList] := by
  simp [nonceKey]

theorem nonceKey_determines_iff :
    (∀ userId' nonce' : String, nonceKey userId' nonce' = nonceKey userId nonce →
        userId' = userId ∧ nonce' = nonce) ↔
      '|' ∉ userId.toList ∧ '|' ∉ nonce.toList := by
  have hpar : ('|' ∉ userId.toList ∧ '|' ∉ nonce.toList) ↔
      ∀ part ∈ [userId.toList, nonce.toList], '|' ∉ part := by
    simp
  rw [hpar, ← join_determines_iff (by simp)]
  constructor
  · intro hbin parts hlen hjo
    match parts, hlen with
    | [a, b], _ =>
      have hk : nonceKey (String.ofList a) (String.ofList b) = nonceKey userId nonce := by
        rw [← String.toList_inj, nonceKey_toList, nonceKey_toList, String.toList_ofList,
          String.toList_ofList, hjo]
      obtain ⟨ha, hb⟩ := hbin _ _ hk
      rw [← ha, ← hb, String.toList_ofList, String.toList_ofList]
  · intro hjo userId' nonce' hk
    have hlis : List.intercalate ['|'] [userId'.toList, nonce'.toList] =
        List.intercalate ['|'] [userId.toList, nonce.toList] := by
      rw [← nonceKey_toList, ← nonceKey_toList, hk]
    have hsm := hjo [userId'.toList, nonce'.toList] rfl hlis
    simp only [List.cons.injEq, String.toList_inj, and_true] at hsm
    exact hsm

end Canonical

def Fields.Bound : Prop :=
  (∀ g : Fields, g.canonical = f.canonical → g = f) ∧
    ∀ userId nonce : String, nonceKey userId nonce = nonceKey f.userId f.nonce →
      userId = f.userId ∧ nonce = f.nonce

def Fields.Separable : Bool :=
  f.texts.all (fun text => '\n' ∉ text) && '|' ∉ f.userId.toList && '|' ∉ f.nonce.toList

theorem bound_iff_separable (f : Fields) : f.Bound ↔ f.Separable = true := by
  unfold Fields.Bound
  rw [canonical_determines_iff, nonceKey_determines_iff]
  simp [Fields.Separable, and_assoc]

def splitNonce : Fields where
  timestamp := 0
  nonce := "a\nb"
  userId := "u1"
  symbol := "EURUSD"
  direction := "BUY"
  analysisId := "x"

def splitUser : Fields := { splitNonce with nonce := "a", userId := "b\nu1" }

theorem separators_collide :
    splitNonce.canonical = splitUser.canonical ∧ splitNonce ≠ splitUser ∧
      nonceKey "a|b" "c" = nonceKey "a" "b|c" := by
  decide +kernel

end ETradie.Execution
