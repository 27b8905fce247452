import Mathlib.Data.List.DropRight
import ETradie.Envoy.Validators
import ETradie.Kernel.Regroup

namespace ETradie.Envoy

open Kernel List

structure BitBuffer where
  result : List UInt8 := []
  buffer : Nat := 0
  bits : Nat := 0

def base64Chars : List UInt8 :=
  "ABCDEFGHIJKLMNOPQRSTUVWXYZabcdefghijklmnopqrstuvwxyz0123456789+/".toList.map (·.toNat.toUInt8)

def base64Char (index : Nat) : UInt8 := base64Chars.getD index 0

def equalsSign : UInt8 := 61

variable (input : List UInt8) (s : BitBuffer)

section Encoder

def encodeBits (s : BitBuffer) : BitBuffer :=
  if 6 ≤ s.bits then
    encodeBits
      { result := s.result ++ [base64Char ((s.buffer >>> (s.bits - 6)) &&& 0x3F)]
        buffer := s.buffer &&& (1 <<< (s.bits - 6) - 1)
        bits := s.bits - 6 }
  else s
termination_by s.bits

def encodeByte (byte : UInt8) : BitBuffer :=
  encodeBits { s with
    buffer := (s.buffer <<< 8) % 2 ^ 32 ||| byte.toNat, bits := s.bits + 8 }

def encodeRest : List UInt8 :=
  if 0 < s.bits then
    s.result ++ [base64Char ((s.buffer <<< (6 - s.bits)) % 2 ^ 32 &&& 0x3F)]
  else s.result

def encodePadding (result : List UInt8) : List UInt8 :=
  if result.length % 4 ≠ 0 then encodePadding (result ++ [equalsSign]) else result
termination_by (4 - result.length % 4) % 4
decreasing_by
  rw [length_append, length_singleton]
  omega

def base64Encode : List UInt8 := encodePadding (encodeRest (input.foldl encodeByte {}))

def encodeBase64 : List UInt8 := base64Encode input

end Encoder

section Decoder

def base64Value (ch : UInt8) : Except String Nat :=
  if ch = 43 then .ok 62
  else if ch = 47 then .ok 63
  else if 65 ≤ ch ∧ ch ≤ 90 then .ok (ch - 65).toNat
  else if 97 ≤ ch ∧ ch ≤ 122 then .ok (ch - 97 + 26).toNat
  else if 48 ≤ ch ∧ ch ≤ 57 then .ok (ch - 48 + 52).toNat
  else .error ("Invalid base64 character: " ++ String.singleton (Char.ofNat ch.toNat))

def decodeBits : BitBuffer :=
  if 8 ≤ s.bits then
    { result := s.result ++ [(s.buffer >>> (s.bits - 8)).toUInt8]
      buffer := s.buffer &&& (1 <<< (s.bits - 8) - 1)
      bits := s.bits - 8 }
  else s

def decodeChar (ch : UInt8) : Except String BitBuffer :=
  (base64Value ch).map (fun value =>
    decodeBits { s with buffer := (s.buffer <<< 6) % 2 ^ 32 ||| value, bits := s.bits + 6 })

def base64Decode : Except String (List UInt8) :=
  ((input.rdropWhile (· == equalsSign)).foldlM decodeChar {}).map BitBuffer.result

def decodeBase64 : Except FilterError (List UInt8) :=
  (base64Decode input).mapError (fun e => .internalError ("Base64 decode error: " ++ e))

end Decoder

structure Encodes (input : List UInt8) (digits : List Nat) (s : BitBuffer) : Prop where
  result : s.result = digits.map base64Char
  cut : Regroups 8 6 (input.map UInt8.toNat) digits s.buffer s.bits

structure Decodes (digits : List Nat) (s : BitBuffer) : Prop where
  cut : Regroups 6 8 digits (s.result.map UInt8.toNat) s.buffer s.bits
  bits : s.bits < 8

variable {input} {digits : List Nat} {s}

theorem base64Value_char {d : Nat} (hd : d < 64) : base64Value (base64Char d) = .ok d := by
  revert d
  decide +kernel

theorem base64Char_mem {d : Nat} (hd : d < 64) :
    base64Char d ∈ base64Chars ∧ base64Char d ≠ equalsSign := by
  revert d
  decide

theorem mask_eq (n k : Nat) : n &&& (1 <<< k - 1) = n % 2 ^ k := by
  rw [Nat.one_shiftLeft, Nat.and_two_pow_sub_one_eq_mod]

theorem Encodes.encodeBits (h : Encodes input digits s) :
    ∃ digits', Encodes input digits' (encodeBits s) ∧ (encodeBits s).bits < 6 := by
  induction s using encodeBits.induct generalizing digits with
  | case1 s hbt ih =>
    obtain ⟨k, hk⟩ := Nat.exists_eq_add_of_le' hbt
    have hcut := h.cut
    rw [hk] at hcut
    have hemit := hcut.emit
    have hidx : (s.buffer >>> (s.bits - 6)) &&& 0x3F = s.buffer / 2 ^ k := by
      have hdig := hemit.digits (s.buffer / 2 ^ k) (by simp)
      rw [hk, Nat.add_sub_cancel, Nat.shiftRight_eq_div_pow]
      exact (Nat.and_two_pow_sub_one_eq_mod _ 6).trans (Nat.mod_eq_of_lt hdig)
    rw [Envoy.encodeBits, if_pos hbt]
    refine ih (show Encodes input (digits ++ [s.buffer / 2 ^ k]) _ from ⟨?_, ?_⟩)
    · simp [h.result, hidx]
    · simpa [mask_eq, hk] using hemit
  | case2 s hbt =>
    rw [Envoy.encodeBits, if_neg hbt]
    exact ⟨digits, h, Nat.not_le.mp hbt⟩

theorem Encodes.encodeByte (h : Encodes input digits s) (hbt : s.bits < 6) (byte : UInt8) :
    ∃ digits', Encodes (input ++ [byte]) digits' (encodeByte s byte) ∧
      (encodeByte s byte).bits < 6 := by
  refine Encodes.encodeBits ⟨h.result, ?_⟩
  have hshf := shiftLeft_or_eq (w := 32) h.cut.small (by omega) byte.toNat_lt
  rw [map_append, map_singleton, hshf]
  exact h.cut.shiftIn byte.toNat_lt

theorem encodes_foldl (input : List UInt8) :
    ∃ digits, Encodes input digits (input.foldl Envoy.encodeByte {}) ∧
      (input.foldl Envoy.encodeByte {}).bits < 6 := by
  induction input using List.reverseRecOn with
  | nil => exact ⟨[], ⟨rfl, .nil 8 6⟩, by decide⟩
  | append_singleton input byte ih =>
    obtain ⟨digits, henc, hbt⟩ := ih
    rw [foldl_concat]
    exact henc.encodeByte hbt byte

theorem Encodes.encodeRest (h : Encodes input digits s) (hbt : s.bits < 6) :
    ∃ digits' p, p < 6 ∧ encodeRest s = digits'.map base64Char ∧
      Padded 8 6 (input.map UInt8.toNat) digits' p := by
  unfold Envoy.encodeRest
  split_ifs with hlf
  · have hflu := h.cut.flush hbt.le
    have hl := hflu.digits (s.buffer * 2 ^ (6 - s.bits)) (by simp)
    have hidx : (s.buffer <<< (6 - s.bits)) % 2 ^ 32 &&& 0x3F = s.buffer * 2 ^ (6 - s.bits) := by
      rw [Nat.shiftLeft_eq, Nat.mod_eq_of_lt (hl.trans (by decide))]
      exact (Nat.and_two_pow_sub_one_eq_mod _ 6).trans (Nat.mod_eq_of_lt hl)
    refine ⟨_, 6 - s.bits, by omega, ?_, hflu⟩
    rw [hidx, h.result, map_append, map_singleton]
  · have hcut := h.cut
    rw [Nat.eq_zero_of_not_pos hlf] at hcut
    exact ⟨digits, 0, by decide, h.result, hcut.exact⟩

theorem encodePadding_eq (result : List UInt8) :
    encodePadding result = result ++ List.replicate ((4 - result.length % 4) % 4) equalsSign := by
  induction result using encodePadding.induct with
  | case1 result hop ih =>
    rw [encodePadding, if_pos hop, ih, append_assoc, singleton_append,
      ← replicate_succ, length_append, length_singleton]
    congr 2
    omega
  | case2 result hcls =>
    rw [encodePadding, not_not.mp hcls]
    simp

theorem base64Encode_eq (input : List UInt8) :
    ∃ digits p, p < 6 ∧ Padded 8 6 (input.map UInt8.toNat) digits p ∧
      base64Encode input = digits.map base64Char ++
        List.replicate ((4 - digits.length % 4) % 4) equalsSign := by
  obtain ⟨read, henc, hbt⟩ := encodes_foldl input
  obtain ⟨digits, p, hp, hrs, hpad⟩ := henc.encodeRest hbt
  refine ⟨digits, p, hp, hpad, ?_⟩
  rw [base64Encode, hrs, encodePadding_eq, length_map]

theorem Decodes.decodeBits (hcut : Regroups 6 8 digits (s.result.map UInt8.toNat) s.buffer s.bits)
    (hbt : s.bits < 16) : Decodes digits (decodeBits s) := by
  unfold Envoy.decodeBits
  split_ifs with hfu
  · obtain ⟨k, hk⟩ := Nat.exists_eq_add_of_le' hfu
    rw [hk] at hcut
    have hemit := hcut.emit
    have hbyte : (s.buffer >>> (s.bits - 8)).toUInt8.toNat = s.buffer / 2 ^ k := by
      have hdig := hemit.digits (s.buffer / 2 ^ k) (by simp)
      rw [hk, Nat.add_sub_cancel, Nat.shiftRight_eq_div_pow]
      exact UInt8.toNat_ofNat_of_lt' hdig
    constructor
    · rw [map_append, map_singleton, hbyte, mask_eq, hk, Nat.add_sub_cancel]
      exact hemit
    · dsimp only
      omega
  · exact ⟨hcut, Nat.not_le.mp hfu⟩

theorem Decodes.decodeChar (h : Decodes digits s) {d : Nat} (hd : d < 2 ^ 6) :
    ∃ s', decodeChar s (base64Char d) = .ok s' ∧ Decodes (digits ++ [d]) s' := by
  have hbt := h.bits
  have hshf := shiftLeft_or_eq (w := 32) h.cut.small (by omega) hd
  have hcut := h.cut.shiftIn hd
  rw [← hshf] at hcut
  rw [Envoy.decodeChar, base64Value_char hd]
  refine ⟨_, rfl, Decodes.decodeBits hcut ?_⟩
  dsimp only
  omega

theorem decodes_foldlM (digits : List Nat) (hdig : ∀ d ∈ digits, d < 2 ^ 6) :
    ∃ s, (digits.map base64Char).foldlM Envoy.decodeChar {} = .ok s ∧ Decodes digits s := by
  induction digits using List.reverseRecOn with
  | nil => exact ⟨{}, rfl, .nil 6 8, by decide⟩
  | append_singleton digits d ih =>
    obtain ⟨hin, hl⟩ := forall_mem_append.mp hdig
    obtain ⟨s, hs, hdec⟩ := ih hin
    obtain ⟨s', hs', hdec'⟩ := hdec.decodeChar (hl d mem_cons_self)
    refine ⟨s', ?_, hdec'⟩
    rw [map_append, foldlM_append, hs]
    exact (bind_pure _).trans hs'

theorem rdropWhile_padding {body : List UInt8} (hbody : ∀ ch ∈ body, ch ≠ equalsSign) (k : Nat) :
    (body ++ List.replicate k equalsSign).rdropWhile (· == equalsSign) = body := by
  rw [List.rdropWhile, reverse_append, dropWhile_append_of_pos (by simp)]
  refine rdropWhile_eq_self_iff.mpr ?_
  intro hne
  simpa using hbody _ (getLast_mem hne)

theorem decodeBase64_encode (b : List UInt8) : decodeBase64 (encodeBase64 b) = .ok b := by
  obtain ⟨digits, p, hp, hpad, henc⟩ := base64Encode_eq b
  obtain ⟨s, hs, hdec⟩ := decodes_foldlM digits hpad.digits
  have hbyt : s.result.map UInt8.toNat = b.map UInt8.toNat :=
    hpad.inverse (by omega) (forall_mem_map.mpr fun x _ => x.toNat_lt) hdec.cut hdec.bits
  have hres : s.result = b := map_injective_iff.mpr (fun _ _ => UInt8.toNat.inj) hbyt
  have hbody : ∀ ch ∈ digits.map base64Char, ch ≠ equalsSign := by
    intro ch hch
    obtain ⟨d, hd, rfl⟩ := mem_map.mp hch
    exact (base64Char_mem (hpad.digits d hd)).2
  rw [decodeBase64, base64Decode, encodeBase64, henc, rdropWhile_padding hbody, hs, ← hres]
  rfl

theorem base64_round_trip (b : List UInt8) :
    (base64Encode b).length = 4 * ((b.length + 2) / 3) ∧
      (∃ body k, base64Encode b = body ++ List.replicate k equalsSign ∧ k ≤ 2 ∧
        ∀ ch ∈ body, ch ∈ base64Chars) ∧
      decodeBase64 (encodeBase64 b) = .ok b := by
  obtain ⟨digits, p, hp, hpad, henc⟩ := base64Encode_eq b
  have hcnt := hpad.count
  rw [length_map] at hcnt
  refine ⟨?_, ⟨_, _, henc, by omega, ?_⟩, decodeBase64_encode b⟩
  · rw [henc, length_append, length_map, length_replicate]
    omega
  · intro ch hch
    obtain ⟨d, hd, rfl⟩ := mem_map.mp hch
    exact (base64Char_mem (hpad.digits d hd)).1

end ETradie.Envoy
