import ETradie.Kernel.Instant
import ETradie.Kernel.Runs
import ETradie.Execution.Signing

namespace ETradie.Execution

open Kernel

structure Verifier where
  crypto : Crypto
  key : List UInt8
  window : Int
  key_set : key ≠ []
  window_pos : 0 < window
  window_max : window ≤ maxDuration

inductive Outcome where
  | ok | badSignature | stale | replay
deriving DecidableEq

structure NonceEntry where
  hash : String
  seenAt : Int
deriving DecidableEq

abbrev NonceStore := String → Option NonceEntry

def pruneLocked (ttl now : Int) (m : NonceStore) : NonceStore :=
  fun k => (m k).filter (fun e => !(subTime now e.seenAt > ttl))

def seenOrRecord (ttl : Int) (userId nonce hash : String) (now : Int) (m : NonceStore) :
    Bool × NonceStore :=
  let pruned := pruneLocked ttl now m
  let key := nonceKey userId nonce
  let recorded := Function.update pruned key (some ⟨hash, now⟩)
  match pruned key with
  | none => (true, recorded)
  | some e =>
    if subTime now e.seenAt ≤ ttl then
      if e.hash = hash then (true, recorded) else (false, pruned)
    else (true, recorded)

def isFresh (window timestamp now : Int) : Bool :=
  let delta := subTime now timestamp
  let skew := if delta < 0 then negDuration delta else delta
  !(skew > window)

variable (v : Verifier)

def check (f : Fields) (sigHex : String) (now : Int) (m : NonceStore) :
    Outcome × NonceStore :=
  if verify v.crypto v.key f sigHex = false then (.badSignature, m)
  else if isFresh v.window f.timestamp now = false then (.stale, m)
  else
    match seenOrRecord v.window f.userId f.nonce (f.canonicalHash v.crypto) now m with
    | (true, m') => (.ok, m')
    | (false, m') => (.replay, m')

structure ReplayGuard where
  nonces : NonceStore := fun _ => none
  clock : Int
  accepted : List Fields := []

structure CheckCall where
  fields : Fields
  sigHex : String
  now : Int

variable (s : ReplayGuard) (c : CheckCall)

namespace ReplayGuard

def step : Option ReplayGuard :=
  if s.clock ≤ c.now then
    let checked := check v c.fields c.sigHex c.now s.nonces
    some
      { nonces := checked.2, clock := c.now
        accepted := if checked.1 = .ok then c.fields :: s.accepted else s.accepted }
  else none

def RejectsReplays : Prop :=
  ∀ e ∈ s.accepted, ∀ now, s.clock ≤ now → |now - e.timestamp| ≤ v.window →
    ∀ (g : Fields) (sigHex : String), g.userId = e.userId → g.nonce = e.nonce →
      g.canonical ≠ e.canonical → (check v g sigHex now s.nonces).1 ≠ .ok

def HeldByOther : Prop :=
  ∃ e, s.nonces (nonceKey c.fields.userId c.fields.nonce) = some e ∧
    subTime c.now e.seenAt ≤ v.window ∧ e.hash ≠ c.fields.canonicalHash v.crypto

def Accepts : Prop :=
  verify v.crypto v.key c.fields c.sigHex = true ∧
    isFresh v.window c.fields.timestamp c.now = true ∧ ¬ s.HeldByOther v c

def SignedInPast : Prop := s.Accepts v c → c.fields.timestamp ≤ c.now ∨ v.window = maxDuration

end ReplayGuard

variable {v} {t : ReplayGuard} {s} {c}

section Records

variable {now ttl timestamp seenAt : Int} {m : NonceStore} {k : String} {e : NonceEntry}

theorem record_live (hdat : timestamp ≤ seenAt ∨ v.window = maxDuration)
    (hfr : now ≤ timestamp + v.window) : subTime now seenAt ≤ v.window := by
  have hpos := v.window_pos
  unfold subTime minDuration
  omega

theorem record_expired (hdat : seenAt < timestamp) (hwin : v.window ≠ maxDuration) :
    ¬ subTime (timestamp + v.window) seenAt ≤ v.window := by
  have hmax := v.window_max
  unfold subTime
  omega

theorem isFresh_self (v : Verifier) (now : Int) : isFresh v.window now now := by
  have hpos := v.window_pos
  have hsub : subTime now now = 0 := by
    unfold subTime minDuration maxDuration
    omega
  simp only [isFresh]
  simp
  omega

theorem pruneLocked_of_live (hent : m k = some e) (hlv : subTime now e.seenAt ≤ ttl) :
    pruneLocked ttl now m k = some e := by
  unfold pruneLocked
  rw [hent]
  simp [hlv]

theorem pruneLocked_of_expired (hent : m k = some e) (hexpired : ¬ subTime now e.seenAt ≤ ttl) :
    pruneLocked ttl now m k = none := by
  unfold pruneLocked
  rw [hent]
  simpa using hexpired

theorem pruneLocked_of_absent (habs : m k = none) : pruneLocked ttl now m k = none := by
  unfold pruneLocked
  rw [habs]
  rfl

def recorded (v : Verifier) (s : ReplayGuard) (c : CheckCall) : NonceStore :=
  Function.update (pruneLocked v.window c.now s.nonces)
    (nonceKey c.fields.userId c.fields.nonce)
    (some ⟨c.fields.canonicalHash v.crypto, c.now⟩)

theorem recorded_self :
    recorded v s c (nonceKey c.fields.userId c.fields.nonce) =
      some ⟨c.fields.canonicalHash v.crypto, c.now⟩ := by
  rw [recorded, Function.update_self]

theorem seenOrRecord_of_held (hhd : s.HeldByOther v c) :
    seenOrRecord v.window c.fields.userId c.fields.nonce (c.fields.canonicalHash v.crypto) c.now
      s.nonces = (false, pruneLocked v.window c.now s.nonces) := by
  obtain ⟨e, hent, hlv, hoth⟩ := hhd
  simp only [seenOrRecord, pruneLocked_of_live hent hlv, if_pos hlv, if_neg hoth]

theorem seenOrRecord_of_not_held (hfe : ¬ s.HeldByOther v c) :
    seenOrRecord v.window c.fields.userId c.fields.nonce (c.fields.canonicalHash v.crypto) c.now
      s.nonces = (true, recorded v s c) := by
  cases hent : s.nonces (nonceKey c.fields.userId c.fields.nonce) with
  | none => simp only [seenOrRecord, pruneLocked_of_absent hent, recorded]
  | some e =>
    by_cases hlv : subTime c.now e.seenAt ≤ v.window
    · have hsm : e.hash = c.fields.canonicalHash v.crypto := by
        by_contra hoth
        exact hfe ⟨e, hent, hlv, hoth⟩
      simp only [seenOrRecord, pruneLocked_of_live hent hlv, if_pos hlv, if_pos hsm, recorded]
    · simp only [seenOrRecord, pruneLocked_of_expired hent hlv, recorded]

theorem check_of_accepts (h : s.Accepts v c) :
    check v c.fields c.sigHex c.now s.nonces = (.ok, recorded v s c) := by
  obtain ⟨hver, hfr, hfe⟩ := h
  simp [check, hver, hfr, seenOrRecord_of_not_held hfe]

theorem check_of_not_accepts (h : ¬ s.Accepts v c) :
    (check v c.fields c.sigHex c.now s.nonces).1 ≠ .ok ∧
      ((check v c.fields c.sigHex c.now s.nonces).2 = s.nonces ∨
        (check v c.fields c.sigHex c.now s.nonces).2 = pruneLocked v.window c.now s.nonces) := by
  by_cases hver : verify v.crypto v.key c.fields c.sigHex = true
  · by_cases hfr : isFresh v.window c.fields.timestamp c.now = true
    · have hhd : s.HeldByOther v c := by
        by_contra hfe
        exact h ⟨hver, hfr, hfe⟩
      simp [check, hver, hfr, seenOrRecord_of_held hhd]
    · simp [check, hver, hfr]
  · simp [check, hver]

theorem ReplayGuard.step_cases (hst : s.step v c = some t) :
    s.clock ≤ c.now ∧ t.clock = c.now ∧
      ((s.Accepts v c ∧ t.nonces = recorded v s c ∧ t.accepted = c.fields :: s.accepted) ∨
        (¬ s.Accepts v c ∧ t.accepted = s.accepted ∧
          (t.nonces = s.nonces ∨ t.nonces = pruneLocked v.window c.now s.nonces))) := by
  unfold ReplayGuard.step at hst
  split at hst
  case isTrue hclk =>
    obtain rfl := Option.some.inj hst
    refine ⟨hclk, rfl, ?_⟩
    by_cases hacc : s.Accepts v c
    · exact .inl ⟨hacc, by simp [check_of_accepts hacc]⟩
    · obtain ⟨hout, hnon⟩ := check_of_not_accepts hacc
      exact .inr ⟨hacc, if_neg hout, hnon⟩
  case isFalse => cases hst

theorem step_of_accepts (hclk : s.clock ≤ c.now) (h : s.Accepts v c) :
    s.step v c = some { nonces := recorded v s c, clock := c.now
                        accepted := c.fields :: s.accepted } := by
  simp [ReplayGuard.step, hclk, check_of_accepts h]

end Records

def OnRecord (v : Verifier) (s : ReplayGuard) (e : Fields) : Prop :=
  ∃ entry, s.nonces (nonceKey e.userId e.nonce) = some entry ∧
    entry.hash = e.canonicalHash v.crypto ∧ entry.seenAt ≤ s.clock ∧
      (e.timestamp ≤ entry.seenAt ∨ v.window = maxDuration)

def Remembers (v : Verifier) (s : ReplayGuard) : Prop :=
  ∀ e ∈ s.accepted, e.timestamp + v.window < s.clock ∨ OnRecord v s e

theorem onRecord_step {e : Fields} (hrec : OnRecord v s e)
    (hfr : c.now ≤ e.timestamp + v.window) (hst : s.step v c = some t) : OnRecord v t e := by
  obtain ⟨entry, hent, hhs, hsn, hdat⟩ := hrec
  obtain ⟨hclk, htcl, hcs⟩ := ReplayGuard.step_cases hst
  have hlv := record_live hdat hfr
  have hkp := pruneLocked_of_live hent hlv
  have hsn' : entry.seenAt ≤ t.clock := by
    rw [htcl]
    exact hsn.trans hclk
  rcases hcs with ⟨⟨-, -, hfe⟩, hnon, -⟩ | ⟨-, -, hnon | hnon⟩
  · by_cases hk : nonceKey e.userId e.nonce = nonceKey c.fields.userId c.fields.nonce
    · -- The request accepted now has the hash on record, so it renews the record.
      have hsm : entry.hash = c.fields.canonicalHash v.crypto := by
        by_contra hoth
        exact hfe ⟨entry, hk ▸ hent, hlv, hoth⟩
      refine ⟨⟨c.fields.canonicalHash v.crypto, c.now⟩, ?_, hsm ▸ hhs, htcl.ge, ?_⟩
      · rw [hnon, hk, recorded_self]
      · exact hdat.imp_left (·.trans (hsn.trans hclk))
    · refine ⟨entry, ?_, hhs, hsn', hdat⟩
      rw [hnon, recorded, Function.update_of_ne hk]
      exact hkp
  · exact ⟨entry, by rw [hnon]; exact hent, hhs, hsn', hdat⟩
  · exact ⟨entry, by rw [hnon]; exact hkp, hhs, hsn', hdat⟩

theorem remembers_step (hs : Remembers v s) (hps : s.SignedInPast v c)
    (hst : s.step v c = some t) : Remembers v t := by
  obtain ⟨hclk, htcl, hcs⟩ := ReplayGuard.step_cases hst
  have ho : ∀ e ∈ s.accepted, e.timestamp + v.window < t.clock ∨ OnRecord v t e := by
    intro e he
    rcases hs e he with hexpired | hrec
    · exact .inl (by omega)
    · by_cases hfr : c.now ≤ e.timestamp + v.window
      · exact .inr (onRecord_step hrec hfr hst)
      · exact .inl (by omega)
  rcases hcs with ⟨hacc, hnon, hacp⟩ | ⟨-, hacp, -⟩
  · unfold Remembers
    rw [hacp]
    refine List.forall_mem_cons.mpr ⟨.inr ⟨⟨c.fields.canonicalHash v.crypto, c.now⟩, ?_, rfl,
      htcl.ge, hps hacc⟩, ho⟩
    rw [hnon, recorded_self]
  · intro e he
    exact ho e (hacp ▸ he)

theorem rejectsReplays_of_remembers (hs : Remembers v s) : s.RejectsReplays v := by
  intro e he now _ hfr g sigHex hu hnon hoth
  have hla : now ≤ e.timestamp + v.window := by
    have := (abs_le.mp hfr).2
    omega
  rcases hs e he with hexpired | ⟨entry, hent, hhs, -, hdat⟩
  · omega
  · refine (check_of_not_accepts (c := ⟨g, sigHex, now⟩) ?_).1
    rintro ⟨-, -, hfe⟩
    refine hfe ⟨entry, ?_, record_live hdat hla, ?_⟩
    · simpa only [hu, hnon] using hent
    · intro hsm
      exact hoth (canonicalHash_inj (hsm.symm.trans hhs))

theorem not_rejectsReplays_of_future (hst : s.step v c = some t) (hacc : s.Accepts v c)
    (hfut : c.now < c.fields.timestamp) (hwin : v.window ≠ maxDuration) :
    ¬ t.RejectsReplays v := by
  intro hrej
  have hpos := v.window_pos
  obtain ⟨-, htcl, ⟨-, hnon, hacp⟩ | ⟨hnot, -⟩⟩ := ReplayGuard.step_cases hst
  · set later := c.fields.timestamp + v.window with hlat
    let g : Fields := { c.fields with timestamp := later }
    let sigHex := sign v.crypto v.key g
    have hoth : g.canonical ≠ c.fields.canonical := by
      intro hsm
      have htm : later = c.fields.timestamp := ((canonical_eq_iff g c.fields).mp hsm).1
      omega
    refine hrej c.fields (hacp ▸ List.mem_cons_self) later (by omega) ?_ g sigHex rfl rfl hoth ?_
    · rw [add_sub_cancel_left, abs_of_pos hpos]
    · have hnx : t.Accepts v ⟨g, sigHex, later⟩ := by
        refine ⟨verify_sign v.crypto v.key g, isFresh_self v later, ?_⟩
        rintro ⟨entry, hent, hlv, -⟩
        have hrec : entry = ⟨c.fields.canonicalHash v.crypto, c.now⟩ := by
          rw [hnon] at hent
          exact Option.some.inj (hent.symm.trans recorded_self)
        rw [hrec] at hlv
        exact record_expired hfut hwin hlv
      rw [check_of_accepts hnx]
  · exact hnot hacc

theorem rejectsReplays_step_iff (hs : Remembers v s) (hst : s.step v c = some t) :
    t.RejectsReplays v ↔ s.SignedInPast v c := by
  constructor
  · intro hrej hacc
    by_contra hnei
    rw [not_or, not_le] at hnei
    exact not_rejectsReplays_of_future hst hacc hnei.1 hnei.2 hrej
  · intro hps
    exact rejectsReplays_of_remembers (remembers_step hs hps hst)

theorem rejectsReplays_throughout_iff (v : Verifier) (clock : Int) (calls : List CheckCall) :
    Throughout (ReplayGuard.step v) (ReplayGuard.RejectsReplays v) { clock := clock } calls ↔
      Along (ReplayGuard.step v) (ReplayGuard.SignedInPast v) { clock := clock } calls := by
  have hsta : Remembers v { clock := clock } := by
    intro e he
    cases he
  refine throughout_iff_along_while (ReplayGuard.step v) ?_ ?_ calls hsta
    (rejectsReplays_of_remembers hsta)
  · intro s c t hs _ ht hst
    exact remembers_step hs ((rejectsReplays_step_iff hs hst).mp ht) hst
  · intro s c t hs _ hst
    exact rejectsReplays_step_iff hs hst

def sampleCrypto : Crypto where
  hmac key s := key ++ s.toByteArray.data.toList
  sha256 s := s.toByteArray.data.toList
  collision_free := by
    intro a b h
    exact String.toByteArray_inj.mp (ByteArray.ext (Array.toList_inj.mp h))

def sampleVerifier : Verifier where
  crypto := sampleCrypto
  key := [7]
  window := 30000000000
  key_set := by decide
  window_pos := by decide
  window_max := by decide

def sampleCall (timestamp now : Int) : CheckCall :=
  let fields : Fields := ⟨timestamp, "n1", "u1", "EURUSD", "BUY", "x"⟩
  ⟨fields, sign sampleCrypto [7] fields, now⟩

theorem future_request_replayed :
    (run (ReplayGuard.step sampleVerifier) { clock := 0 }
        [sampleCall 30000000000 0, sampleCall 31000000000 31000000000]).map
          (fun s => s.accepted.map Fields.timestamp) = some [31000000000, 30000000000] ∧
      |(31000000000 : Int) - (sampleCall 30000000000 0).fields.timestamp| ≤ sampleVerifier.window ∧
      (sampleCall 31000000000 31000000000).fields.canonical ≠
        (sampleCall 30000000000 0).fields.canonical := by
  have hfst : ReplayGuard.Accepts sampleVerifier { clock := 0 } (sampleCall 30000000000 0) := by
    refine ⟨verify_sign _ _ _, by decide, ?_⟩
    rintro ⟨e, hent, -⟩
    cases hent
  -- the first call's record is a second older than the window when the second arrives
  have hsnd : ReplayGuard.Accepts sampleVerifier
      { nonces := recorded sampleVerifier { clock := 0 } (sampleCall 30000000000 0)
        clock := (sampleCall 30000000000 0).now
        accepted := [(sampleCall 30000000000 0).fields] }
      (sampleCall 31000000000 31000000000) := by
    refine ⟨verify_sign _ _ _, by decide, ?_⟩
    rintro ⟨e, hent, hlv, -⟩
    have hrec : recorded sampleVerifier { clock := 0 } (sampleCall 30000000000 0)
        (nonceKey "u1" "n1") = some e := hent
    obtain rfl := Option.some.inj ((recorded_self (c := sampleCall 30000000000 0)).symm.trans hrec)
    exact absurd hlv (by decide)
  refine ⟨?_, by decide, ?_⟩
  · simp only [run, step_of_accepts (by decide) hfst, step_of_accepts (by decide) hsnd,
      Option.bind_some]
    rfl
  · rw [Ne, canonical_eq_iff]
    rintro ⟨htm, -⟩
    exact absurd htm (by decide)

end ETradie.Execution
