import ETradie.Kernel.IpAddress

/-!
# The rate-limit key of a webhook request

`clientIP` takes the rightmost address of the trust header outside the trusted networks, whoever has
sent the header.
-/

namespace ETradie.Billing

open Kernel List

structure WebhookProxyConfig where
  trustHeader : String
  trustedCIDRs : List String
deriving DecidableEq

structure WebhookRequest where
  remoteAddr : String
  trustValues : List String
deriving DecidableEq

variable (req : WebhookRequest)

def WebhookRequest.trustValue : String := req.trustValues.headD ""

def WebhookRequest.host (req : WebhookRequest) : String :=
  match splitHost req.remoteAddr.toList with
  | some host => String.ofList host
  | none => req.remoteAddr

namespace WebhookProxyConfig

variable (cfg : WebhookProxyConfig)

def isTrusted (ip : IP) : Bool :=
  (cfg.trustedCIDRs.filterMap (fun cidr => parseCIDR (trimSpace cidr))).any (·.contains ip)

def untrusted (part : String) : Option IP :=
  (netParseIP (trimSpace part)).filter (fun ip => !cfg.isTrusted ip)

def firstUntrustedIP (header : String) : Option IP :=
  if header = "" then none else (splitText ',' header).reverse.findSome? cfg.untrusted

def clientIP (req : WebhookRequest) : String :=
  if cfg.trustHeader = "" then req.host
  else ((cfg.firstUntrustedIP req.trustValue).map ipString).getD req.host

def peerTrusted (req : WebhookRequest) : Bool := (netParseIP req.host).any cfg.isTrusted

/-- The rightmost valid address of the header outside the trusted networks. -/
def Rightmost (header : String) (ip : IP) : Prop :=
  ∃ before part after, splitText ',' header = before ++ part :: after ∧
    netParseIP (trimSpace part) = some ip ∧ cfg.isTrusted ip = false ∧
    ∀ q ∈ after, ∀ other, netParseIP (trimSpace q) = some other → cfg.isTrusted other = true

/-- That address in print, or the peer's host where the header has none. -/
def KeyOf (req : WebhookRequest) (key : String) : Prop :=
  (∃ ip, cfg.Rightmost req.trustValue ip ∧ key = ipString ip) ∨
    (∀ ip, ¬ cfg.Rightmost req.trustValue ip) ∧ key = req.host

variable {cfg} {req} {ip : IP}

theorem untrusted_eq_some_iff {part : String} : cfg.untrusted part = some ip ↔
    netParseIP (trimSpace part) = some ip ∧ cfg.isTrusted ip = false := by
  rw [untrusted, Option.filter_eq_some_iff, Bool.not_eq_true']

theorem untrusted_eq_none_iff {part : String} : cfg.untrusted part = none ↔
    ∀ other, netParseIP (trimSpace part) = some other → cfg.isTrusted other = true := by
  simp [untrusted, Option.filter_eq_none_iff]

theorem firstUntrustedIP_eq_some_iff {header : String} :
    cfg.firstUntrustedIP header = some ip ↔ cfg.Rightmost header ip := by
  have hsplit : (splitText ',' header).reverse.findSome? cfg.untrusted = some ip ↔
      cfg.Rightmost header ip := by
    simp only [findSome?_eq_some_iff, Rightmost, untrusted_eq_some_iff, untrusted_eq_none_iff]
    constructor
    · rintro ⟨after, part, before, hparts, ⟨hpart, hfree⟩, hafter⟩
      refine ⟨before.reverse, part, after.reverse, ?_, hpart, hfree, by simpa using hafter⟩
      rw [← reverse_reverse (splitText ',' header), hparts]
      simp
    · rintro ⟨before, part, after, hparts, hpart, hfree, hafter⟩
      refine ⟨after.reverse, part, before.reverse, ?_, ⟨hpart, hfree⟩, by simpa using hafter⟩
      rw [hparts]
      simp
  unfold firstUntrustedIP
  split
  next hempty =>
    have hnone : (splitText ',' "").reverse.findSome? cfg.untrusted = none := by
      have hblank : netParseIP (trimSpace "") = none := by decide +kernel
      have hone : splitText ',' "" = [""] := by decide
      simp [hone, untrusted, hblank]
    rw [← hsplit, hempty, hnone]
  next => exact hsplit

theorem clientIP_eq_iff (hheader : cfg.trustHeader ≠ "") {key : String} :
    cfg.clientIP req = key ↔ cfg.KeyOf req key := by
  simp only [clientIP, if_neg hheader, KeyOf, ← firstUntrustedIP_eq_some_iff]
  cases cfg.firstUntrustedIP req.trustValue <;> simp [eq_comm]

end WebhookProxyConfig

/-- Two requests of one peer get the same key iff their headers name the same, and the rightmost
untrusted address of the header is the key. -/
theorem webhook_key_of_header (cfg : WebhookProxyConfig) (hheader : cfg.trustHeader ≠ "") :
    (∀ (remoteAddr : String) (values values' : List String),
        cfg.clientIP ⟨remoteAddr, values⟩ = cfg.clientIP ⟨remoteAddr, values'⟩ ↔
          ∃ key, cfg.KeyOf ⟨remoteAddr, values⟩ key ∧ cfg.KeyOf ⟨remoteAddr, values'⟩ key) ∧
      ∀ (req : WebhookRequest) (before after : List String) (part : String) (ip : IP),
        splitText ',' req.trustValue = before ++ part :: after →
        netParseIP (trimSpace part) = some ip → cfg.isTrusted ip = false →
        (∀ q ∈ after, ∀ other, netParseIP (trimSpace q) = some other → cfg.isTrusted other = true) →
        cfg.clientIP req = ipString ip := by
  constructor
  · intro remoteAddr values values'
    simp only [← WebhookProxyConfig.clientIP_eq_iff hheader]
    exact ⟨fun h => ⟨_, h, rfl⟩, fun ⟨_, h, h'⟩ => h.trans h'.symm⟩
  · intro req before after part ip hparts hpart hfree hafter
    rw [WebhookProxyConfig.clientIP_eq_iff hheader]
    exact .inl ⟨ip, ⟨before, part, after, hparts, hpart, hfree, hafter⟩, rfl⟩

def edgeProxyConfig : WebhookProxyConfig where
  trustHeader := "X-Forwarded-For"
  trustedCIDRs := ["10.0.0.0/8"]

def directRequest (value : String) : WebhookRequest where
  remoteAddr := "203.0.113.7:54321"
  trustValues := [value]

theorem peer_chooses_key :
    edgeProxyConfig.peerTrusted (directRequest "198.51.100.1") = false ∧
      edgeProxyConfig.clientIP (directRequest "198.51.100.1") = "198.51.100.1" ∧
      edgeProxyConfig.clientIP (directRequest "198.51.100.2") = "198.51.100.2" := by
  decide +kernel

theorem webhook_key_behind_proxy :
    edgeProxyConfig.clientIP ⟨"10.0.0.1:443", ["forged, 198.51.100.1, 10.0.0.9"]⟩ =
      ipString (to16 [198, 51, 100, 1]) :=
  (webhook_key_of_header edgeProxyConfig (by decide)).2
    ⟨"10.0.0.1:443", ["forged, 198.51.100.1, 10.0.0.9"]⟩ ["forged"] [" 10.0.0.9"]
    " 198.51.100.1" (to16 [198, 51, 100, 1]) (by decide +kernel) (by decide +kernel)
    (by decide +kernel) (by
      intro q hq other hother
      rw [mem_singleton.mp hq] at hother
      have hten : netParseIP (trimSpace " 10.0.0.9") = some (to16 [10, 0, 0, 9]) := by
        decide +kernel
      cases hother
      decide +kernel)

end ETradie.Billing
