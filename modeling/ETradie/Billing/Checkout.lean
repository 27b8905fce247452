import ETradie.Kernel.Runs
import ETradie.Billing.Subscriptions

namespace ETradie.Billing

open Kernel Option Keyed Bool

section Request

variable {now : Int} {key : IntentKey} {t : IntentTable} {url : String}

structure CheckoutRequest where
  provider : String
  tier : Tier
  (userId userEmail : String)
deriving DecidableEq

structure IntentKey where
  (userId provider : String)
  tier : Tier
deriving DecidableEq

structure CheckoutIntent where
  key : IntentKey
  checkoutURL : String
  expiresAt : Int
deriving DecidableEq

abbrev IntentTable := Keyed CheckoutIntent.key

def errInvalidTier : String := "billing: invalid tier"

def errInvalidProvider : String := "billing: invalid provider"

def CheckoutRequest.intentKey (text : CaseMap) (req : CheckoutRequest) : Except String IntentKey :=
  if !isValidTier req.tier || req.tier == tierFree then .error errInvalidTier
  else if req.userId = "" then .error "billing: user_id is required"
  else .ok ⟨req.userId, text.lower (trimSpace req.provider), req.tier⟩

def IntentKey.dispatchable (key : IntentKey) : Bool :=
  key.provider == Paddle.provider || key.provider == LemonSqueezy.provider

structure IntentTTL where
  nanos : Int
  lower : 60 * 1000000000 ≤ nanos
  upper : nanos ≤ 3600 * 1000000000

def defaultIntentTTL : IntentTTL where
  nanos := 300 * 1000000000
  lower := by omega
  upper := by omega

def getIntent (now : Int) (key : IntentKey) (t : IntentTable) : Option CheckoutIntent :=
  (t.get key).filter (fun intent => stored now < intent.expiresAt)

def cachedURL (now : Int) (key : IntentKey) (t : IntentTable) : Option String :=
  ((getIntent now key t).map CheckoutIntent.checkoutURL).filter (fun url => url ≠ "")

def recordIntent (now : Int) (ttl : IntentTTL) (key : IntentKey) (url : String)
    (t : IntentTable) : IntentTable :=
  t.put ⟨key, url, stored (now + ttl.nanos)⟩

theorem cachedURL_eq_some (h : cachedURL now key t = some url) :
    ∃ intent, t.get key = some intent ∧ intent.checkoutURL = url := by
  simp only [cachedURL, getIntent, filter_eq_some_iff, map_eq_some_iff] at h
  obtain ⟨⟨intent, ⟨hg, -⟩, hurl⟩, -⟩ := h
  exact ⟨intent, hg, hurl⟩

theorem cachedURL_later {later : Int} (hle : now ≤ later) (h : cachedURL now key t = none) :
    cachedURL later key t = none := by
  cases hg : t.get key with
  | none => simp [cachedURL, getIntent, hg]
  | some _ =>
    simp only [cachedURL, getIntent, filter_eq_none_iff, map_eq_some_iff,
      filter_eq_some_iff, decide_eq_true_eq] at h ⊢
    rintro url ⟨intent', ⟨heq, hlv⟩, hurl⟩
    exact h url ⟨intent', ⟨heq, lt_of_le_of_lt (stored_mono hle) hlv⟩, hurl⟩

end Request

inductive CallPhase where
  | started
  | asking
  | answered (url : String)
  | back (result : Except String String)
deriving DecidableEq

structure Call where
  id : Nat
  req : CheckoutRequest
  phase : CallPhase
deriving DecidableEq

namespace Call

def inFlight (c : Call) : Bool :=
  match c.phase with
  | .asking => true
  | .answered _ => true
  | _ => false

def page (c : Call) : Option String :=
  match c.phase with
  | .back (.ok url) => some url
  | _ => none

end Call

structure Desk where
  intents : IntentTable
  now : Int
  calls : Keyed Call.id := Keyed.empty
  firstStart : Option Int := none
  reached : Nat := 0
  issued : List String := []

inductive DeskAct where
  | tick (nanos : Nat)
  | start (i : Nat) (req : CheckoutRequest)
  | lookup (i : Nat)
  | answer (i : Nat) (url : String)
  | record (i : Nat)
deriving DecidableEq

namespace Desk

variable (text : CaseMap) (ttl : IntentTTL) (key : IntentKey) {s : Desk}

def move (s : Desk) (c : Call) (phase : CallPhase) : Desk :=
  { s with calls := s.calls.put { c with phase := phase } }

def lookup (s : Desk) (c : Call) : Desk :=
  match cachedURL s.now key s.intents with
  | some url => s.move c (.back (.ok url))
  | none =>
    if key.dispatchable then { s.move c .asking with reached := s.reached + 1 }
    else s.move c (.back (.error errInvalidProvider))

def step (s : Desk) : DeskAct → Option Desk
  | .tick nanos => some { s with now := s.now + nanos }
  | .start i req =>
    -- the calls of the key that start within one TTL of the first
    if req.intentKey text = .ok key ∧ s.calls.get i = none ∧
        s.now ≤ s.firstStart.getD s.now + ttl.nanos then
      some
        { s with
          calls := s.calls.put ⟨i, req, .started⟩, firstStart := some (s.firstStart.getD s.now) }
    else none
  | .lookup i =>
    match s.calls.get i with
    | some c => if c.phase = .started then some (s.lookup key c) else none
    | none => none
  | .answer i url =>
    -- the provider creates a new page for every request
    match s.calls.get i with
    | some c =>
      if c.phase = .asking ∧ url ≠ "" ∧ url ∉ s.issued then
        some { s.move c (.answered url) with issued := s.issued ++ [url] }
      else none
    | none => none
  | .record i =>
    match s.calls.get i with
    | some c =>
      match c.phase with
      | .answered url =>
        some { s.move c (.back (.ok url)) with intents := recordIntent s.now ttl key url s.intents }
      | _ => none
    | none => none

def Idempotent (s : Desk) : Prop :=
  s.reached ≤ 1 ∧
    ∀ c ∈ s.calls.rows, ∀ c' ∈ s.calls.rows, ∀ url url',
      c.page = some url → c'.page = some url' → url = url'

def unhurried (s : Desk) : DeskAct → Bool
  | .lookup _ =>
    s.calls.rows.all (fun c => !c.inFlight) &&
      ((cachedURL s.now key s.intents).isSome || s.calls.rows.all (·.page.isNone))
  | _ => true

section Steps

variable {text ttl key} {s t : Desk} {a : DeskAct} {c : Call} {i : Nat} {req : CheckoutRequest}

inductive Moves (text : CaseMap) (ttl : IntentTTL) (key : IntentKey) (s : Desk) :
    DeskAct → Desk → Prop
  | tick (nanos : Nat) : Moves text ttl key s (.tick nanos) { s with now := s.now + nanos }
  | start (i : Nat) (req : CheckoutRequest) (first : Option Int)
      (hnew : s.calls.get i = none) :
      Moves text ttl key s (.start i req)
        { s with calls := s.calls.put ⟨i, req, .started⟩, firstStart := first }
  | hit (c : Call) (url : String) (hmem : c ∈ s.calls.rows) (hphase : c.phase = .started)
      (hcached : cachedURL s.now key s.intents = some url) :
      Moves text ttl key s (.lookup c.id) (s.move c (.back (.ok url)))
  | ask (c : Call) (hmem : c ∈ s.calls.rows) (hphase : c.phase = .started)
      (hcached : cachedURL s.now key s.intents = none) (hkey : key.dispatchable = true) :
      Moves text ttl key s (.lookup c.id) { s.move c .asking with reached := s.reached + 1 }
  | refuse (c : Call) (hmem : c ∈ s.calls.rows) (hphase : c.phase = .started)
      (hcached : cachedURL s.now key s.intents = none) (hkey : key.dispatchable = false) :
      Moves text ttl key s (.lookup c.id) (s.move c (.back (.error errInvalidProvider)))
  | answer (c : Call) (url : String) (hmem : c ∈ s.calls.rows) (hphase : c.phase = .asking) :
      Moves text ttl key s (.answer c.id url)
        { s.move c (.answered url) with issued := s.issued ++ [url] }
  | record (c : Call) (url : String) (hmem : c ∈ s.calls.rows)
      (hphase : c.phase = .answered url) :
      Moves text ttl key s (.record c.id)
        { s.move c (.back (.ok url)) with intents := recordIntent s.now ttl key url s.intents }

theorem step_moves (h : step text ttl key s a = some t) : Moves text ttl key s a t := by
  revert h
  fun_cases step text ttl key s a
  all_goals rintro ⟨⟩
  · exact .tick _
  · next hsta => exact .start _ _ _ hsta.2.1
  · next c hg hph =>
    obtain ⟨hm, rfl⟩ := get_eq_some_iff.mp hg
    fun_cases lookup key s c
    · next url hcch => exact .hit c url hm hph hcch
    · next hcch hk _ => exact .ask c hm hph hcch hk
    · next hcch hk => exact .refuse c hm hph hcch (eq_false_iff.mpr hk)
  · next url c hg hrdy =>
    obtain ⟨hm, rfl⟩ := get_eq_some_iff.mp hg
    exact .answer c url hm hrdy.1
  · next c hg url hph =>
    obtain ⟨hm, rfl⟩ := get_eq_some_iff.mp hg
    exact .record c url hm hph

structure Inv (key : IntentKey) (s : Desk) : Prop where
  reached_le : s.reached ≤ 1
  traced : s.reached ≠ 0 → ∃ c ∈ s.calls.rows, c.inFlight = true ∨ c.page ≠ none
  alone : ∀ c ∈ s.calls.rows, c.inFlight = true →
    ∀ c' ∈ s.calls.rows, (c'.inFlight = true → c'.id = c.id) ∧ c'.page = none
  paged : ∀ c ∈ s.calls.rows, ∀ url, c.page = some url →
    ∃ intent, s.intents.get key = some intent ∧ intent.checkoutURL = url

theorem Inv.idempotent (h : Inv key s) : s.Idempotent := by
  refine ⟨h.reached_le, ?_⟩
  intro c hc c' hc' url url' hurl hurl'
  obtain ⟨intent, hg, rfl⟩ := h.paged c hc url hurl
  obtain ⟨intent', hg', rfl⟩ := h.paged c' hc' url' hurl'
  rw [hg] at hg'
  cases hg'
  rfl

theorem Inv.put_silent (h : Inv key s) (hcal : t.calls = s.calls.put c)
    (hins : t.intents = s.intents) (hrch : t.reached = s.reached)
    (hfly : c.inFlight = false) (hpg : c.page = none)
    (ho : ∀ c' ∈ s.calls.rows, c'.id = c.id → c'.inFlight = false ∧ c'.page = none) :
    Inv key t := by
  have hm : ∀ r ∈ t.calls.rows, r = c ∨ r ∈ s.calls.rows := by
    intro r hr
    rw [hcal, mem_put] at hr
    exact hr.imp_right And.left
  refine ⟨hrch ▸ h.reached_le, ?_, ?_, ?_⟩
  · intro hne
    obtain ⟨c', hc', hor⟩ := h.traced (hrch ▸ hne)
    refine ⟨c', ?_, hor⟩
    rw [hcal, mem_put]
    refine .inr ⟨hc', ?_⟩
    intro hid
    obtain ⟨hf, hp⟩ := ho c' hc' hid
    simp [hf, hp] at hor
  · intro r hr hrf r' hr'
    rcases hm r hr with rfl | hrs
    · rw [hfly] at hrf
      cases hrf
    · rcases hm r' hr' with rfl | hrs'
      · exact ⟨fun hf => (by rw [hfly] at hf; cases hf), hpg⟩
      · exact h.alone r hrs hrf r' hrs'
  · rw [hcal, hins]
    exact forall_mem_put (by simp [hpg]) h.paged

theorem call_eq_of_id {c' : Call} (hc : c ∈ s.calls.rows) (hc' : c' ∈ s.calls.rows)
    (hid : c'.id = c.id) : c' = c :=
  eq_of_key_eq s.calls.unique hc' hc hid

theorem started_silent (h : c.phase = .started) : c.inFlight = false ∧ c.page = none := by
  simp [Call.inFlight, Call.page, h]

theorem unhurried_lookup (h : s.unhurried key (.lookup i)) :
    (∀ c ∈ s.calls.rows, c.inFlight = false) ∧
      (cachedURL s.now key s.intents = none → ∀ c ∈ s.calls.rows, c.page = none) := by
  simp only [unhurried, and_eq_true, or_eq_true, List.all_eq_true, not_eq_true',
    isNone_iff_eq_none] at h
  refine ⟨h.1, ?_⟩
  intro hno
  rcases h.2 with hso | hall
  · rw [hno] at hso
    cases hso
  · exact hall

theorem Inv.put_flight (hcal : t.calls = s.calls.put c) (hrch : t.reached ≤ 1)
    (hfly : c.inFlight) (hpg : c.page = none)
    (hoth : ∀ r ∈ s.calls.rows, r.id ≠ c.id → r.inFlight = false ∧ r.page = none) :
    Inv key t := by
  have hall : ∀ r ∈ t.calls.rows, (r.inFlight → r.id = c.id) ∧ r.page = none := by
    rw [hcal]
    refine forall_mem_put_of_ne ⟨fun _ => rfl, hpg⟩ ?_
    intro r hr hne
    obtain ⟨hil, hno⟩ := hoth r hr hne
    exact ⟨fun hf => absurd hf (by simp [hil]), hno⟩
  refine ⟨hrch, ?_, ?_, ?_⟩
  · intro _
    exact ⟨c, hcal ▸ mem_put.mpr (.inl rfl), .inl hfly⟩
  · intro r hr hrf r' hr'
    obtain ⟨hid', hno'⟩ := hall r' hr'
    exact ⟨fun hf => (hid' hf).trans ((hall r hr).1 hrf).symm, hno'⟩
  · intro r hr _ hurl
    rw [(hall r hr).2] at hurl
    cases hurl

theorem Inv.put_page (hcal : t.calls = s.calls.put c) (hrch : t.reached ≤ 1)
    (hfly : c.inFlight = false) (hpg : c.page ≠ none)
    (hoth : ∀ r ∈ s.calls.rows, r.id ≠ c.id → r.inFlight = false)
    (hpag : ∀ r ∈ t.calls.rows, ∀ url, r.page = some url →
      ∃ intent, t.intents.get key = some intent ∧ intent.checkoutURL = url) : Inv key t := by
  refine ⟨hrch, ?_, ?_, hpag⟩
  · intro _
    exact ⟨c, hcal ▸ mem_put.mpr (.inl rfl), .inr hpg⟩
  · intro r hr hrf
    have hil : ∀ r ∈ (s.calls.put c).rows, r.inFlight = false := forall_mem_put_of_ne hfly hoth
    rw [hil r (hcal ▸ hr)] at hrf
    cases hrf

theorem Inv.others (h : Inv key s) (hm : c ∈ s.calls.rows) (hfly : c.inFlight) :
    ∀ r ∈ s.calls.rows, r.id ≠ c.id → r.inFlight = false ∧ r.page = none := by
  intro r hr hne
  obtain ⟨hid, hpg⟩ := h.alone c hm hfly r hr
  exact ⟨eq_false_iff.mpr (fun hf => hne (hid hf)), hpg⟩

theorem Inv.preserved (h : Inv key s) (hcd : s.unhurried key a)
    (hst : step text ttl key s a = some t) : Inv key t := by
  cases step_moves hst with
  | tick _ => exact ⟨h.reached_le, h.traced, h.alone, h.paged⟩
  | start i _ _ hn =>
    refine h.put_silent rfl rfl rfl rfl rfl ?_
    intro c' hc' hid
    have hg := get_key hc'
    rw [hid] at hg
    cases hn.symm.trans hg
  | hit c url hm hph hcch =>
    obtain ⟨hil, -⟩ := unhurried_lookup hcd
    refine .put_page rfl h.reached_le rfl (some_ne_none url) (fun r hr _ => hil r hr)
      (forall_mem_put ?_ h.paged)
    rintro url' ⟨⟩
    exact cachedURL_eq_some hcch
  | ask c hm hph hcch hk =>
    obtain ⟨hil, hnop⟩ := unhurried_lookup hcd
    -- nothing is in flight and nothing is back, so nobody has reached the provider
    have hz : s.reached = 0 := by
      by_contra hne
      obtain ⟨c', hc', hf | hp⟩ := h.traced hne
      · rw [hil c' hc'] at hf
        cases hf
      · exact hp (hnop hcch c' hc')
    exact .put_flight rfl (Nat.succ_le_succ hz.le) rfl rfl
      (fun r hr _ => ⟨hil r hr, hnop hcch r hr⟩)
  | refuse c hm hph hcch hk =>
    refine h.put_silent rfl rfl rfl rfl rfl ?_
    intro c' hc' hid
    rw [call_eq_of_id hm hc' hid]
    exact started_silent hph
  | answer c url hm hph =>
    have hoth := h.others hm (by simp [Call.inFlight, hph])
    exact .put_flight rfl h.reached_le rfl rfl hoth
  | record c url hm hph =>
    have hoth := h.others hm (by simp [Call.inFlight, hph])
    refine .put_page rfl h.reached_le rfl (some_ne_none url)
      (fun r hr hne => (hoth r hr hne).1) (forall_mem_put_of_ne ?_ ?_)
    · rintro url' ⟨⟩
      exact ⟨_, get_put_self s.intents _, rfl⟩
    · intro r hr hne url' hurl'
      rw [(hoth r hr hne).2] at hurl'
      cases hurl'

structure Cold (key : IntentKey) (s : Desk) : Prop where
  dispatchable : s.reached ≠ 0 → key.dispatchable = true
  counted : ∀ c ∈ s.calls.rows, c.inFlight = true ∨ c.page ≠ none → s.reached ≠ 0
  unstored : s.reached = 0 ∨ (∃ c ∈ s.calls.rows, c.inFlight = true) →
    cachedURL s.now key s.intents = none

theorem Cold.preserved (h : Cold key s) (hinv : Inv key s) (hcd : s.unhurried key a)
    (hst : step text ttl key s a = some t) : Cold key t := by
  -- a state in which somebody has reached the provider and nobody asks
  have hret : ∀ {t : Desk}, t.reached = s.reached → s.reached ≠ 0 →
      (∀ r ∈ t.calls.rows, r.inFlight = false) → Cold key t := by
    intro t hsm hrch hil
    refine ⟨fun _ => h.dispatchable hrch, fun _ _ _ => hsm ▸ hrch, ?_⟩
    rintro (hz | ⟨r, hr, hrf⟩)
    · exact absurd (hsm ▸ hz) hrch
    · rw [hil r hr] at hrf
      cases hrf
  cases step_moves hst with
  | tick _ =>
    refine ⟨h.dispatchable, h.counted, ?_⟩
    intro hor
    exact cachedURL_later (by simp) (h.unstored hor)
  | start i _ _ _ =>
    refine ⟨h.dispatchable, forall_mem_put ?_ h.counted, ?_⟩
    · intro hor
      simp [Call.inFlight, Call.page] at hor
    · rintro (hz | ⟨r, hr, hrf⟩)
      · exact h.unstored (.inl hz)
      · rcases mem_put.mp hr with rfl | ⟨hrs, -⟩
        · cases hrf
        · exact h.unstored (.inr ⟨r, hrs, hrf⟩)
  | hit c url hm hph hcch =>
    obtain ⟨hil, -⟩ := unhurried_lookup hcd
    refine hret rfl ?_ (forall_mem_put rfl hil)
    intro hz
    rw [h.unstored (.inl hz)] at hcch
    cases hcch
  | ask c hm hph hcch hk => exact ⟨fun _ => hk, fun _ _ _ => Nat.succ_ne_zero _, fun _ => hcch⟩
  | refuse c hm hph hcch hk =>
    refine ⟨h.dispatchable, forall_mem_put ?_ h.counted, fun _ => hcch⟩
    intro hor
    simp [Call.inFlight, Call.page] at hor
  | answer c url hm hph =>
    have hfly : c.inFlight := by simp [Call.inFlight, hph]
    have hrch := h.counted c hm (.inl hfly)
    exact ⟨h.dispatchable, fun _ _ _ => hrch, fun _ => h.unstored (.inr ⟨c, hm, hfly⟩)⟩
  | record c url hm hph =>
    have hfly : c.inFlight := by simp [Call.inFlight, hph]
    exact hret rfl (h.counted c hm (.inl hfly)) (forall_mem_put_of_ne rfl
      (fun r hr hne => (hinv.others hm hfly r hr hne).1))

theorem Cold.reached_of_hurried (h : Cold key s) (hcd : s.unhurried key a = false)
    (hst : step text ttl key s a = some t) : 1 < t.reached := by
  cases a with
  | lookup i =>
    have hmi : cachedURL s.now key s.intents = none ∧ s.reached ≠ 0 := by
      simp only [unhurried, and_eq_false_iff, or_eq_false_iff, List.all_eq_false,
        isSome_eq_false_iff, isNone_iff_eq_none] at hcd
      rcases hcd with ⟨c, hc, hfly⟩ | ⟨hno, c, hc, hpg⟩
      · have hf : c.inFlight := by simpa using hfly
        exact ⟨h.unstored (.inr ⟨c, hc, hf⟩), h.counted c hc (.inl hf)⟩
      · exact ⟨hno, h.counted c hc (.inr hpg)⟩
    obtain ⟨hno, hrch⟩ := hmi
    have hdis := h.dispatchable hrch
    cases step_moves hst with
    | hit c _ hm hph hcch =>
      rw [hno] at hcch
      cases hcch
    | ask c hm hph hcch hk =>
      show 1 < s.reached + 1
      omega
    | refuse c hm hph hcch hk =>
      rw [hdis] at hk
      cases hk
  | _ => cases hcd

end Steps

structure Opening (s : Desk) : Prop where
  calls : s.calls = Keyed.empty
  reached : s.reached = 0

theorem Opening.inv (h : s.Opening) : Inv key s := by
  obtain ⟨hcal, hrch⟩ := h
  refine ⟨by omega, fun hne => absurd hrch hne, ?_, ?_⟩
  · intro c hc
    rw [hcal] at hc
    cases hc
  · intro c hc
    rw [hcal] at hc
    cases hc

theorem Opening.cold (h : s.Opening) (hcch : cachedURL s.now key s.intents = none) :
    Cold key s := by
  obtain ⟨hcal, hrch⟩ := h
  refine ⟨fun hne => absurd hrch hne, ?_, fun _ => hcch⟩
  intro c hc
  rw [hcal] at hc
  cases hc

theorem unhurried_calls_idempotent (s : Desk) (as : List DeskAct) (hopen : s.Opening) :
    (Along (step text ttl key) (fun s a => s.unhurried key a = true) s as →
        Throughout (step text ttl key) Idempotent s as) ∧
      (cachedURL s.now key s.intents = none →
        (Throughout (step text ttl key) Idempotent s as ↔
          Along (step text ttl key) (fun s a => s.unhurried key a = true) s as)) := by
  constructor
  · intro halo
    refine (throughout_of_along _ ?_ (hopen.inv key) halo).mono _ ?_
    · intro s a t hs hcd hst
      exact hs.preserved hcd hst
    · intro t ht
      exact ht.idempotent
  · intro hcch
    have hexact : ∀ s a t, Inv key s ∧ Cold key s → step text ttl key s a = some t →
        (t.Idempotent ↔ s.unhurried key a = true) := by
      rintro s a t ⟨hinv, hcold⟩ hst
      constructor
      · intro hidem
        by_contra hhur
        have := hcold.reached_of_hurried (eq_false_iff.mpr hhur) hst
        exact absurd hidem.1 (by omega)
      · intro hcd
        exact (hinv.preserved hcd hst).idempotent
    refine throughout_iff_along_while _ (I := fun s => Inv key s ∧ Cold key s) ?_ ?_ as
      ⟨hopen.inv key, hopen.cold key hcch⟩ (hopen.inv key).idempotent
    · intro s a t hs _ hidem hst
      have hcd := (hexact s a t hs hst).mp hidem
      exact ⟨hs.1.preserved hcd hst, hs.2.preserved hs.1 hcd hst⟩
    · intro s a t hs _ hst
      exact hexact s a t hs hst

section Clicks

def upgradeRequest : CheckoutRequest := ⟨" Paddle ", tierProManaged, "u1", "u1@example.com"⟩

def upgradeKey : IntentKey := ⟨"u1", "paddle", tierProManaged⟩

def quietDesk : Desk where
  intents := Keyed.empty
  now := 0

def doubleClick : List DeskAct :=
  [.start 1 upgradeRequest, .lookup 1, .tick 1000000, .start 2 upgradeRequest, .lookup 2,
    .answer 1 "page-1", .record 1, .answer 2 "page-2", .record 2]

def slowClick : List DeskAct :=
  [.start 1 upgradeRequest, .lookup 1, .answer 1 "page-1", .record 1, .tick 1000000,
    .start 2 upgradeRequest, .lookup 2]

def summary (as : List DeskAct) : Option (Nat × List (Option String)) :=
  (run (step asciiCaseMap defaultIntentTTL upgradeKey) quietDesk as).map
    (fun t => (t.reached, t.calls.rows.map Call.page))

theorem double_click_reaches_provider_twice :
    summary doubleClick = some (2, [some "page-1", some "page-2"]) ∧
      ¬ Throughout (step asciiCaseMap defaultIntentTTL upgradeKey) Idempotent quietDesk
        doubleClick := by
  have hsum : summary doubleClick = some (2, [some "page-1", some "page-2"]) := by decide +kernel
  refine ⟨hsum, ?_⟩
  intro hthr
  obtain ⟨t, hrun, hpa⟩ := map_eq_some_iff.mp hsum
  have hone := (hthr.final _ hrun).1
  have htwo : t.reached = 2 := congrArg Prod.fst hpa
  omega

theorem slow_click_finds_page :
    Throughout (step asciiCaseMap defaultIntentTTL upgradeKey) Idempotent quietDesk slowClick ∧
      summary slowClick = some (1, [some "page-1", some "page-1"]) :=
  ⟨(unhurried_calls_idempotent asciiCaseMap defaultIntentTTL upgradeKey quietDesk slowClick
      ⟨rfl, rfl⟩).1 (by decide +kernel), by decide +kernel⟩

end Clicks

end Desk

end ETradie.Billing
