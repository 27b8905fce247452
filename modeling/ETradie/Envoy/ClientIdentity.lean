import ETradie.Auth.ClientIp
import ETradie.Envoy.Validators

namespace ETradie.Envoy

open Kernel Auth List ClientIPResolver

section Extraction

variable (isIpAddr : String → Bool)

def addressOf (text : String) : Option String :=
  if isIpAddr (trimSpace text) then some (trimSpace text) else none

def firstAddress (name : String) (part : String → String) (headers : Headers) : Option String :=
  headers.findSome? (fun h =>
    if eqIgnoreAsciiCase h.1 name then addressOf isIpAddr (part h.2) else none)

def firstEntry (value : String) : String := (splitText ',' value).headD ""

def extractClientIp (headers : Headers) : Option String :=
  match firstAddress isIpAddr "x-forwarded-for" firstEntry headers with
  | some ip => some ip
  | none => firstAddress isIpAddr "x-real-ip" id headers

end Extraction

section Headers

def forwardedValue (written own : String) (hops : List String) : String :=
  (own :: hops).foldl appendEntry written

def edgeHeaders (name written own : String) (hops : List String) : Headers :=
  [(name, forwardedValue written own hops)]

def gatewayRequest (remoteAddr written own : String) (hops : List String) (xRealIP : String) :
    Request where
  remoteAddr := remoteAddr
  cfConnectingIP := ""
  xForwardedFor := forwardedValue written own hops
  xRealIP := xRealIP

structure Proxied (r : ClientIPResolver) (remoteAddr own : String) (hops : List String) (ip : IP) :
    Prop where
  peer : r.isTrusted (peerIP remoteAddr) = true
  single : ',' ∉ own.toList
  names : parseIP (trimSpace own) = some ip
  untrusted : r.isTrusted (some ip) = false
  entries : ∀ hop ∈ hops, ',' ∉ hop.toList
  hops : ∀ hop ∈ hops, ∃ q, parseIP (trimSpace hop) = some q ∧ r.isTrusted (some q) = true

end Headers

section Entries

variable {isIpAddr : String → Bool} {r : ClientIPResolver} {ip : IP}
variable {name remoteAddr written own xRealIP : String} {hops : List String}

theorem splitText_foldl_appendEntry {value : String} (hval : value ≠ "")
    (h : ∀ hop ∈ hops, ',' ∉ hop.toList ∧ hop ≠ "") :
    splitText ',' (hops.foldl appendEntry value) = splitText ',' value ++ hops ∧
      hops.foldl appendEntry value ≠ "" := by
  induction hops generalizing value with
  | nil => exact ⟨(append_nil _).symm, hval⟩
  | cons hop hops ih =>
    obtain ⟨hcom, hne⟩ := h hop mem_cons_self
    obtain ⟨before, hspl, hbef⟩ := splitText_appendEntry value hcom
    obtain ⟨hrs, hnem⟩ := ih (appendEntry_ne_empty hne)
      (fun hop' hm => h hop' (mem_cons_of_mem hop hm))
    refine ⟨?_, hnem⟩
    rw [foldl_cons, hrs, hspl, hbef hval, append_assoc]
    rfl

theorem Proxied.split (h : Proxied r remoteAddr own hops ip) (written : String) :
    splitText ',' (forwardedValue written own hops) =
        (if written = "" then [] else splitText ',' written) ++ own :: hops ∧
      forwardedValue written own hops ≠ "" := by
  have hown : own ≠ "" := entry_ne_empty h.names
  have hhops : ∀ hop ∈ hops, ',' ∉ hop.toList ∧ hop ≠ "" := by
    intro hop hm
    obtain ⟨q, hq, -⟩ := h.hops hop hm
    exact ⟨h.entries hop hm, entry_ne_empty hq⟩
  obtain ⟨before, hspl, hbef⟩ := splitText_appendEntry written h.single
  obtain ⟨hrs, hnem⟩ := splitText_foldl_appendEntry (appendEntry_ne_empty hown) hhops
  refine ⟨?_, hnem⟩
  rw [forwardedValue, foldl_cons, hrs]
  by_cases hwri : written = ""
  · rw [if_pos hwri, appendEntry, if_pos hwri, splitText_of_notMem h.single]
    rfl
  · rw [if_neg hwri, hspl, hbef hwri, append_assoc]
    rfl

theorem Proxied.resolve_eq (h : Proxied r remoteAddr own hops ip) (written xRealIP : String) :
    r.resolve (gatewayRequest remoteAddr written own hops xRealIP) = ipString ip := by
  obtain ⟨hspl, hnem⟩ := h.split written
  have hcar : r.Carries ip (gatewayRequest remoteAddr written own hops xRealIP) :=
    ⟨h.peer, rfl, hnem, _, own, hops, hspl, h.names, h.hops⟩
  exact hcar.resolve_eq h.untrusted

theorem Proxied.firstEntry_eq (h : Proxied r remoteAddr own hops ip) (written : String) :
    firstEntry (forwardedValue written own hops) =
      if written = "" then own else firstEntry written := by
  rw [firstEntry, (h.split written).1]
  split
  · rfl
  · rw [firstEntry]
    cases hpar : splitText ',' written with
    | nil => simp [splitText] at hpar
    | cons _ _ => rfl

theorem extractClientIp_eq (hna : eqIgnoreAsciiCase name "x-forwarded-for")
    (written own : String) (hops : List String) :
    extractClientIp isIpAddr (edgeHeaders name written own hops) =
      addressOf isIpAddr (firstEntry (forwardedValue written own hops)) := by
  have hreal : eqIgnoreAsciiCase name "x-real-ip" = false := by
    unfold eqIgnoreAsciiCase at hna ⊢
    rw [beq_iff_eq] at hna
    rw [hna]
    decide
  simp only [extractClientIp, firstAddress, edgeHeaders, findSome?_cons, hna, hreal]
  cases addressOf isIpAddr (firstEntry (forwardedValue written own hops)) with
  | none | some text => rfl

theorem addressOf_eq_some_iff {text address : String} :
    addressOf isIpAddr text = some address ↔ trimSpace text = address ∧ isIpAddr address := by
  unfold addressOf
  split
  · next hadd =>
    rw [Option.some.injEq]
    exact ⟨fun heq => ⟨heq, heq ▸ hadd⟩, And.left⟩
  · next hnot =>
    simp only [reduceCtorEq, false_iff, not_and]
    rintro rfl
    exact hnot

theorem edge_identity_iff_canonical (h : Proxied r remoteAddr own hops ip)
    (hname : eqIgnoreAsciiCase name "x-forwarded-for" = true)
    (hprinted : isIpAddr (ipString ip) = true) (written xRealIP : String) :
    (extractClientIp isIpAddr (edgeHeaders name written own hops) =
          extractClientIp isIpAddr (edgeHeaders name "" own hops) ∧
        extractClientIp isIpAddr (edgeHeaders name written own hops) =
          some (r.resolve (gatewayRequest remoteAddr written own hops xRealIP))) ↔
      trimSpace (firstEntry (forwardedValue written own hops)) = ipString ip ∧
        trimSpace own = ipString ip := by
  have hnot : firstEntry (forwardedValue "" own hops) = own := by rw [h.firstEntry_eq, if_pos rfl]
  rw [extractClientIp_eq hname, extractClientIp_eq hname, hnot, h.resolve_eq]
  constructor
  · rintro ⟨hsm, hfst⟩
    rw [hsm] at hfst
    exact ⟨(addressOf_eq_some_iff.mp (hsm.trans hfst)).1, (addressOf_eq_some_iff.mp hfst).1⟩
  · rintro ⟨hfst, hown⟩
    have hfst' := addressOf_eq_some_iff.mpr ⟨hfst, hprinted⟩
    have hown' := addressOf_eq_some_iff.mpr ⟨hown, hprinted⟩
    exact ⟨hfst'.trans hown'.symm, hfst'⟩

end Entries

section Forging

def readable (text : String) : Bool := (netParseIP text).isSome

theorem proxied_edge :
    Proxied edgeResolver "[fd00::5]:8080" " 203.0.113.7" [" 172.16.5.1"]
      (to16 [203, 0, 113, 7]) where
  peer := by decide +kernel
  single := by decide +kernel
  names := by decide +kernel
  untrusted := by decide +kernel
  entries := by
    intro hop hm
    rw [mem_singleton.mp hm]
    decide +kernel
  hops := by
    intro hop hm
    rw [mem_singleton.mp hm]
    exact ⟨to16 [172, 16, 5, 1], by decide +kernel, by decide +kernel⟩

theorem edge_identity_own_address :
    extractClientIp readable
        (edgeHeaders "X-Forwarded-For" "203.0.113.7" " 203.0.113.7" [" 172.16.5.1"]) =
      some (ClientIPResolver.edgeResolver.resolve
        (gatewayRequest "[fd00::5]:8080" "203.0.113.7" " 203.0.113.7" [" 172.16.5.1"] "")) :=
  ((edge_identity_iff_canonical proxied_edge (by decide +kernel) (by decide +kernel)
    "203.0.113.7" "").mpr (by decide +kernel)).2

theorem edge_identity_forged :
    extractClientIp readable
        (edgeHeaders "X-Forwarded-For" "198.51.100.2" " 203.0.113.7" [" 172.16.5.1"]) =
      some "198.51.100.2" ∧
    extractClientIp readable
        (edgeHeaders "X-Forwarded-For" "" " 203.0.113.7" [" 172.16.5.1"]) = some "203.0.113.7" ∧
    ClientIPResolver.edgeResolver.resolve
        (gatewayRequest "[fd00::5]:8080" "198.51.100.2" " 203.0.113.7" [" 172.16.5.1"] "") =
      "203.0.113.7" := by
  decide +kernel

end Forging

end ETradie.Envoy
