import ETradie.Kernel.IpAddress

namespace ETradie.Auth

open Kernel

structure Request where
  (remoteAddr cfConnectingIP xForwardedFor xRealIP : String)
deriving DecidableEq

def parseIP (s : String) : Option IP :=
  let trimmed := trimSpace s
  if trimmed = "" then none
  else netParseIP (String.ofList (trimmed.toList.takeWhile (fun c => c ≠ '%')))

def peerIP (remoteAddr : String) : Option IP :=
  if remoteAddr = "" then none
  else
    match splitHost remoteAddr.toList with
    | some host => parseIP (String.ofList host)
    | none => parseIP remoteAddr

def parseTrustedCIDRs (cidrs : List String) : List IPNet × List String :=
  let entries := (cidrs.map trimSpace).filter (fun raw => raw ≠ "")
  (entries.filterMap parseCIDR, entries.filter (fun raw => (parseCIDR raw).isNone))

def cloudflareIPv4CIDRs : List String :=
  ["173.245.48.0/20", "103.21.244.0/22", "103.22.200.0/22", "103.31.4.0/22", "141.101.64.0/18",
    "108.162.192.0/18", "190.93.240.0/20", "188.114.96.0/20", "197.234.240.0/22",
    "198.41.128.0/17", "162.158.0.0/15", "104.16.0.0/13", "104.24.0.0/14", "172.64.0.0/13",
    "131.0.72.0/22"]

def cloudflareIPv6CIDRs : List String :=
  ["2400:cb00::/32", "2606:4700::/32", "2803:f800::/32", "2405:b500::/32", "2405:8100::/32",
    "2a06:98c0::/29", "2c0f:f248::/32"]

def cloudflareNetworks : List IPNet :=
  (parseTrustedCIDRs (cloudflareIPv4CIDRs ++ cloudflareIPv6CIDRs)).1

structure ClientIPResolver where
  trustedNets : List IPNet
deriving DecidableEq

def newClientIPResolver (cidrs : List String) (trustWellKnownCloudflare : Bool) :
    ClientIPResolver where
  trustedNets := (parseTrustedCIDRs cidrs).1 ++
    (if trustWellKnownCloudflare then cloudflareNetworks else [])

namespace ClientIPResolver

def isTrusted (r : ClientIPResolver) : Option IP → Bool
  | none => false
  | some ip => r.trustedNets.any (·.contains ip)

def firstUntrusted (r : ClientIPResolver) : List String → Option IP
  | [] => none
  | part :: parts =>
    match parseIP (trimSpace part) with
    | none => r.firstUntrusted parts
    | some ip => if r.isTrusted (some ip) then r.firstUntrusted parts else some ip

def forwardedFor (r : ClientIPResolver) (xff : String) : Option IP :=
  if xff = "" then none
  else
    let parts := splitText ',' xff
    match r.firstUntrusted parts.reverse with
    | some ip => some ip
    | none => parts.head?.bind (fun part => parseIP (trimSpace part))

def singleAddress (v : String) : Option IP :=
  if trimSpace v = "" then none else parseIP (trimSpace v)

def resolve (r : ClientIPResolver) (req : Request) : String :=
  let peer := peerIP req.remoteAddr
  let direct := (peer.map ipString).getD req.remoteAddr
  if !r.isTrusted peer then direct
  else
    match singleAddress req.cfConnectingIP with
    | some ip => ipString ip
    | none =>
      match r.forwardedFor req.xForwardedFor with
      | some ip => ipString ip
      | none =>
        match singleAddress req.xRealIP with
        | some ip => ipString ip
        | none => direct

end ClientIPResolver

structure Proxy where
  (peerText remoteAddr : String)
  realIP : String → String

def appendEntry (xff entry : String) : String :=
  if xff = "" then entry else xff ++ String.singleton ',' ++ entry

def Proxy.forward (p : Proxy) (req : Request) : Request where
  remoteAddr := p.remoteAddr
  cfConnectingIP := req.cfConnectingIP
  xForwardedFor := appendEntry req.xForwardedFor p.peerText
  xRealIP := p.realIP req.xRealIP

def relayed (req : Request) : List Proxy → Request
  | [] => req
  | p :: ps => ps.foldl (fun r q => q.forward r) { p.forward req with cfConnectingIP := "" }

namespace ClientIPResolver

variable (r : ClientIPResolver) {ip : IP} {req : Request} {entry : String} {p : Proxy}

structure Relays (p : Proxy) (req : Request) : Prop where
  trusted : r.isTrusted (peerIP p.remoteAddr) = true
  entry : ',' ∉ p.peerText.toList
  names : ∃ ip, parseIP (trimSpace p.peerText) = some ip ∧ peerIP req.remoteAddr = some ip

def RelaysAll (r : ClientIPResolver) : Request → List Proxy → Prop
  | _, [] => True
  | req, p :: ps => r.Relays p req ∧ r.RelaysAll (p.forward req) ps

structure Carries (ip : IP) (req : Request) : Prop where
  peer : r.isTrusted (peerIP req.remoteAddr) = true
  noCF : req.cfConnectingIP = ""
  nonempty : req.xForwardedFor ≠ ""
  entries : ∃ written own hops, splitText ',' req.xForwardedFor = written ++ own :: hops ∧
    parseIP (trimSpace own) = some ip ∧
    ∀ hop ∈ hops, ∃ q, parseIP (trimSpace hop) = some q ∧ r.isTrusted (some q) = true

variable {r}

theorem firstUntrusted_append {hops : List String} (rest : List String)
    (h : ∀ hop ∈ hops, ∃ q, parseIP (trimSpace hop) = some q ∧ r.isTrusted (some q)) :
    r.firstUntrusted (hops ++ rest) = r.firstUntrusted rest := by
  induction hops with
  | nil => rfl
  | cons hop hops ih =>
    obtain ⟨q, hq, htru⟩ := h hop List.mem_cons_self
    simp only [List.cons_append, firstUntrusted, hq, htru, if_true]
    exact ih (fun hop' hm => h hop' (List.mem_cons_of_mem hop hm))

theorem Carries.forwardedFor_eq (h : r.Carries ip req) (hcli : r.isTrusted (some ip) = false) :
    r.forwardedFor req.xForwardedFor = some ip := by
  obtain ⟨written, own, hops, hspl, hown, hhops⟩ := h.entries
  have hwalk : r.firstUntrusted (splitText ',' req.xForwardedFor).reverse = some ip := by
    have hrev : (written ++ own :: hops).reverse =
        hops.reverse ++ own :: written.reverse := by
      simp
    rw [hspl, hrev, firstUntrusted_append]
    · simp only [firstUntrusted, hown, hcli, Bool.false_eq_true, if_false]
    · intro hop hm
      exact hhops hop (List.mem_reverse.mp hm)
  simp only [forwardedFor, if_neg h.nonempty, hwalk]

theorem Carries.resolve_eq (h : r.Carries ip req) (hcli : r.isTrusted (some ip) = false) :
    r.resolve req = ipString ip := by
  have hcf : singleAddress req.cfConnectingIP = none := by
    rw [h.noCF]
    decide +kernel
  simp only [resolve, h.peer, hcf, h.forwardedFor_eq hcli, Bool.not_true, Bool.false_eq_true,
    if_false]

theorem entry_ne_empty (h : parseIP (trimSpace entry) = some ip) : entry ≠ "" := by
  rintro rfl
  have hemp : parseIP (trimSpace "") = none := by decide +kernel
  cases h

theorem appendEntry_ne_empty {xff : String} (h : entry ≠ "") : appendEntry xff entry ≠ "" := by
  unfold appendEntry
  split
  · exact h
  · intro heq
    have := congrArg String.toList heq
    simp at this

theorem splitText_appendEntry (xff : String) (h : ',' ∉ entry.toList) :
    ∃ written, splitText ',' (appendEntry xff entry) = written ++ [entry] ∧
      (xff ≠ "" → written = splitText ',' xff) := by
  unfold appendEntry
  split
  · next hemp => exact ⟨[], splitText_of_notMem h, fun hne => absurd hemp hne⟩
  · exact ⟨_, splitText_append h, fun _ => rfl⟩

theorem carries_first (hpe : peerIP req.remoteAddr = some ip) (hrly : r.Relays p req) :
    r.Carries ip { p.forward req with cfConnectingIP := "" } := by
  obtain ⟨q, hq, hq'⟩ := hrly.names
  rw [hpe, Option.some.injEq] at hq'
  subst hq'
  obtain ⟨written, hspl, -⟩ := splitText_appendEntry req.xForwardedFor hrly.entry
  refine ⟨hrly.trusted, rfl, appendEntry_ne_empty (entry_ne_empty hq), written, p.peerText, [],
    hspl, hq, ?_⟩
  intro hop hm
  cases hm

theorem Carries.forward (h : r.Carries ip req) (hrly : r.Relays p req) :
    r.Carries ip (p.forward req) := by
  obtain ⟨q, hq, hpe⟩ := hrly.names
  obtain ⟨written, own, hops, hents, hown, hhops⟩ := h.entries
  obtain ⟨before, hspl, hbef⟩ := splitText_appendEntry req.xForwardedFor hrly.entry
  refine ⟨hrly.trusted, h.noCF, appendEntry_ne_empty (entry_ne_empty hq), written, own,
    hops ++ [p.peerText], ?_, hown, ?_⟩
  · show splitText ',' (appendEntry req.xForwardedFor p.peerText) = _
    rw [hspl, hbef h.nonempty, hents]
    simp
  · intro hop hm
    rcases List.mem_append.mp hm with hm | hm
    · exact hhops hop hm
    · rw [List.mem_singleton.mp hm]
      have htru := h.peer
      rw [hpe] at htru
      exact ⟨q, hq, htru⟩

theorem Carries.foldl {ps : List Proxy} {req' : Request} (h : r.Carries ip req')
    (hsm : req'.remoteAddr = req.remoteAddr) (hrel : r.RelaysAll req ps) :
    r.Carries ip (ps.foldl (fun q p => p.forward q) req') := by
  induction ps generalizing req req' with
  | nil => exact h
  | cons p ps ih =>
    obtain ⟨hrly, hrs⟩ := hrel
    have hrly' : r.Relays p req' := ⟨hrly.trusted, hrly.entry, hsm ▸ hrly.names⟩
    have hsm' : (p.forward req').remoteAddr = (p.forward req).remoteAddr := rfl
    exact ih (h.forward hrly') hsm' hrs

theorem forwarding_headers_unforgeable (r : ClientIPResolver) :
    (∀ (req : Request) (ip : IP) (p : Proxy) (ps : List Proxy),
        peerIP req.remoteAddr = some ip → r.isTrusted (some ip) = false →
        r.RelaysAll req (p :: ps) →
        r.resolve (relayed req (p :: ps)) = ipString ip) ∧
      ∀ req req' : Request, req'.remoteAddr = req.remoteAddr →
        r.isTrusted (peerIP req.remoteAddr) = false →
        r.resolve req' = r.resolve req := by
  constructor
  · intro req ip p ps hpe hcli hrel
    obtain ⟨hrly, hrs⟩ := hrel
    have hfst : r.Carries ip { p.forward req with cfConnectingIP := "" } := carries_first hpe hrly
    have hsm : ({ p.forward req with cfConnectingIP := "" } : Request).remoteAddr =
        (p.forward req).remoteAddr := rfl
    exact (hfst.foldl hsm hrs).resolve_eq hcli
  · intro req req' haddr hpe
    simp only [resolve, haddr, hpe, Bool.not_false, if_true]

def forgedRequest : Request where
  remoteAddr := "203.0.113.7:54321"
  cfConnectingIP := "198.51.100.1"
  xForwardedFor := "10.0.0.1, not an address,, 198.51.100.2"
  xRealIP := "198.51.100.3"

def edgeProxy : Proxy where
  peerText := " 203.0.113.7"
  remoteAddr := "172.16.5.1:443"
  realIP := id

def meshProxy : Proxy where
  peerText := " 172.16.5.1"
  remoteAddr := "[fd00::5]:8080"
  realIP := id

def edgeResolver : ClientIPResolver :=
  newClientIPResolver ["172.16.0.0/12", "fd00::/8", "10.0.0.0/8"] false

theorem forged_headers_ignored :
    edgeResolver.resolve (relayed forgedRequest [edgeProxy, meshProxy]) = "203.0.113.7" ∧
      edgeResolver.resolve forgedRequest =
        edgeResolver.resolve { forgedRequest with xForwardedFor := "", cfConnectingIP := "" } := by
  have hcli : peerIP forgedRequest.remoteAddr = some (to16 [203, 0, 113, 7]) := by decide +kernel
  have hedge : edgeResolver.Relays edgeProxy forgedRequest :=
    ⟨by decide +kernel, by decide +kernel, to16 [203, 0, 113, 7], by decide +kernel, hcli⟩
  have hmesh : edgeResolver.Relays meshProxy (edgeProxy.forward forgedRequest) :=
    ⟨by decide +kernel, by decide +kernel, to16 [172, 16, 5, 1], by decide +kernel,
      by decide +kernel⟩
  have hres := (forwarding_headers_unforgeable edgeResolver).1 forgedRequest
    (to16 [203, 0, 113, 7]) edgeProxy [meshProxy] hcli (by decide +kernel)
    ⟨hedge, hmesh, trivial⟩
  refine ⟨hres.trans (by decide +kernel), ?_⟩
  exact (forwarding_headers_unforgeable edgeResolver).2 _ _ rfl (by decide +kernel)

end ClientIPResolver

end ETradie.Auth
