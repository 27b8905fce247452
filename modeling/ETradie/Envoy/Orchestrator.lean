import ETradie.Envoy.RateLimit
import ETradie.Kernel.Pruning
import ETradie.Kernel.Runs

namespace ETradie.Envoy

open Kernel IpBucketEntry

inductive CircuitState where
  | closed
  | opened
  | halfOpen
deriving DecidableEq

structure CircuitBreaker where
  state : CircuitState
  (failureCount failureThreshold lastFailureTimeMs resetTimeoutMs : Nat)
deriving DecidableEq

variable (b : CircuitBreaker) (now : Nat)

namespace CircuitBreaker

def new (failureThreshold resetTimeoutSecs : Nat) : CircuitBreaker where
  state := .closed
  failureCount := 0
  failureThreshold := failureThreshold
  lastFailureTimeMs := 0
  resetTimeoutMs := resetTimeoutSecs * 1000

def withDefaults : CircuitBreaker := new 5 30

def recordSuccess : CircuitBreaker :=
  match b.state with
  | .halfOpen => { b with state := .closed, failureCount := 0 }
  | .closed => { b with failureCount := b.failureCount - 1 }
  | .opened => b

def recordFailure : CircuitBreaker :=
  let b := { b with failureCount := b.failureCount + 1, lastFailureTimeMs := now }
  if b.failureThreshold ≤ b.failureCount ∧ b.state = .closed then { b with state := .opened }
  else b

def checkAndUpdateState : CircuitBreaker × Bool :=
  match b.state with
  | .closed => (b, true)
  | .opened =>
    if b.resetTimeoutMs ≤ now - b.lastFailureTimeMs then
      ({ b with state := .halfOpen, failureCount := 0 }, true)
    else (b, false)
  | .halfOpen => (b, true)

end CircuitBreaker

structure FilterRequest where
  (traceId method path : String)
  clientIp : Option String
  headers : Headers
  now : Nat
deriving DecidableEq

variable (a : String) (cm : CaseMap)

def FilterRequest.client (q : FilterRequest) : String := q.clientIp.getD "unknown"

inductive OrchestratorResult where
  | allowed
  | denied (decision : FilterDecision)
  | circuitBreakerOpen
deriving DecidableEq

def OrchestratorResult.isDenied : OrchestratorResult → Bool
  | .denied _ => true
  | _ => false

structure FilterOrchestrator where
  storage : RateLimitStorage
  circuitBreaker : CircuitBreaker

def isHealthCheckPath (path : String) : Bool :=
  path ∈ ["/healthz", "/health", "/livez", "/readyz", "/ready", "/alive"]

variable (s : FilterOrchestrator) (q : FilterRequest) (r : OrchestratorResult)

namespace FilterOrchestrator

def new (now : Nat) : FilterOrchestrator where
  storage := .new RateLimitConfig.new.globalRequests RateLimitConfig.new.globalRefillRate now
  circuitBreaker := .withDefaults

def validate : OrchestratorResult :=
  let headerDecision := validateHeaders cm q.traceId q.now q.headers q.method
  if !headerDecision.allowed then .denied headerDecision
  else
    let requestDecision := validateRequest cm q.traceId q.now q.method q.path q.headers
    if !requestDecision.allowed then .denied requestDecision else .allowed

def executeFilterChain (s : RateLimitStorage) (q : FilterRequest) :
    RateLimitStorage × OrchestratorResult :=
  let r := s.checkLimits .new q.now q.traceId q.client
  if !r.2.allowed then (r.1, .denied r.2) else (r.1, validate cm q)

def processRequest :
    FilterOrchestrator × OrchestratorResult :=
  if isHealthCheckPath q.path then (s, .allowed)
  else
    let checked := s.circuitBreaker.checkAndUpdateState q.now
    if !checked.2 then ({ s with circuitBreaker := checked.1 }, .circuitBreakerOpen)
    else
      let r := executeFilterChain cm s.storage q
      let breaker := if r.2.isDenied then checked.1.recordFailure q.now else checked.1.recordSuccess
      ({ storage := r.1, circuitBreaker := breaker }, r.2)

def step : Option FilterOrchestrator := some (processRequest cm s q).1

def denies : Bool := q.client = a && r.isDenied

def Calm : Prop :=
  isHealthCheckPath q.path = false →
    s.circuitBreaker.state = .closed ∧ (q.client ≠ a → s.storage.globalBucket.ready q.now = true)

instance (a : String) (s : FilterOrchestrator) (q : FilterRequest) : Decidable (Calm a s q) :=
  inferInstanceAs (Decidable (_ → _ ∧ (_ → _)))

end FilterOrchestrator

section Steps

open FilterOrchestrator

variable {cm} {a} {s' : FilterOrchestrator} {s} {q}

theorem executeFilterChain_of_not_ready {s : RateLimitStorage}
    (hcap : 1 ≤ s.globalBucket.capacity) (h : s.globalBucket.ready q.now = false) :
    (executeFilterChain cm s q).1 = s ∧ (executeFilterChain cm s q).2.isDenied := by
  simp only [executeFilterChain, checkLimits_of_not_ready hcap h]
  exact ⟨rfl, rfl⟩

theorem executeFilterChain_of_ready {s : RateLimitStorage}
    (hud : ∀ e ∈ s.ipBuckets.rows, e.Used 100 100 q.now) (h : s.globalBucket.ready q.now) :
    executeFilterChain cm s q =
      (s.counted q.now q.client,
        if serves q.client 100 100 q.now (s.live q.now q.client) then validate cm q
        else .denied (.deny ("IP rate limit exceeded for " ++ q.client)
          ⟨.rateLimitIp, q.traceId, q.now, "IP rate limit exceeded for " ++ q.client⟩)) := by
  have hsrv : serves q.client 100 100 q.now
      ((s.tidy q.now).ipBuckets.get q.client) =
        serves q.client 100 100 q.now (s.live q.now q.client) := by
    rw [(next_live (fun e he => hud e (mem_tidy he)) q.client).1, live_tidy]
  rw [executeFilterChain, checkLimits_of_ready h, hsrv]
  cases serves q.client 100 100 q.now (s.live q.now q.client) with
  | true | false => rfl

def CircuitBreaker.record :
    CircuitBreaker :=
  if r.isDenied then b.recordFailure now else b.recordSuccess

theorem processRequest_of_closed (hpath : isHealthCheckPath q.path = false)
    (hcls : s.circuitBreaker.state = .closed) :
    processRequest cm s q =
      (⟨(executeFilterChain cm s.storage q).1,
          s.circuitBreaker.record q.now (executeFilterChain cm s.storage q).2⟩,
        (executeFilterChain cm s.storage q).2) := by
  simp [processRequest, CircuitBreaker.checkAndUpdateState, CircuitBreaker.record, hpath, hcls]

theorem processRequest_of_health (hpath : isHealthCheckPath q.path) :
    processRequest cm s q = (s, .allowed) := by
  simp [processRequest, hpath]

structure Trails (b b' : CircuitBreaker) : Prop where
  closed : b'.state = .closed
  count : b'.failureCount ≤ b.failureCount
  threshold : b'.failureThreshold = b.failureThreshold

variable {b' : CircuitBreaker} {b} {now} {r}

theorem recordFailure_of_closed (hcls : b.state = .closed) :
    b.recordFailure now =
      { b with
        state := if b.failureThreshold ≤ b.failureCount + 1 then .opened else .closed
        failureCount := b.failureCount + 1
        lastFailureTimeMs := now } := by
  simp only [CircuitBreaker.recordFailure]
  split <;> simp_all

theorem recordSuccess_of_closed (hcls : b.state = .closed) :
    b.recordSuccess = { b with failureCount := b.failureCount - 1 } := by
  simp only [CircuitBreaker.recordSuccess, hcls]

theorem Trails.failure_left (h : Trails b b') (hcls : b.state = .closed) :
    Trails (b.recordFailure now) b' := by
  rw [recordFailure_of_closed hcls]
  exact ⟨h.closed, h.count.trans (Nat.le_succ _), h.threshold⟩

theorem Trails.record (h : Trails b b') (hcls : b.state = .closed)
    (hsty : (b.record now r).state = .closed) : Trails (b.record now r) (b'.record now r) := by
  have hcnt := h.count
  unfold CircuitBreaker.record at hsty ⊢
  split
  · next hden =>
    rw [if_pos hden, recordFailure_of_closed hcls] at hsty
    rw [recordFailure_of_closed hcls, recordFailure_of_closed h.closed, h.threshold]
    refine ⟨?_, Nat.succ_le_succ hcnt, rfl⟩
    have hbel : ¬ b.failureThreshold ≤ b.failureCount + 1 := by
      intro hle
      simp [hle] at hsty
    rw [if_neg (by omega)]
  · rw [recordSuccess_of_closed hcls, recordSuccess_of_closed h.closed]
    exact ⟨h.closed, Nat.sub_le_sub_right hcnt 1, h.threshold⟩

structure Spared (a : String) (now : Nat) (s s' : FilterOrchestrator) : Prop where
  storage : Leads a now s.storage s'.storage
  breaker : s.circuitBreaker.state = .closed → Trails s.circuitBreaker s'.circuitBreaker

theorem Spared.mono {later : Nat} (h : Spared a now s s') (hle : now ≤ later) :
    Spared a later s s' :=
  ⟨h.storage.mono hle, h.breaker⟩

theorem Spared.dropped (h : Spared a q.now s s') (hcm : Calm a s q)
    (hdns : denies a q (processRequest cm s q).2) :
    Spared a q.now (processRequest cm s q).1 s' := by
  simp only [denies, Bool.and_eq_true, decide_eq_true_eq] at hdns
  obtain ⟨hcli, hden⟩ := hdns
  cases hpath : isHealthCheckPath q.path with
  | true =>
    rw [processRequest_of_health hpath] at hden
    cases hden
  | false =>
    have hcls := (hcm hpath).1
    rw [processRequest_of_closed hpath hcls] at hden ⊢
    refine ⟨?_, ?_⟩
    · cases hrdy : s.storage.globalBucket.ready q.now with
      | true =>
        rw [executeFilterChain_of_ready h.storage.used hrdy, hcli]
        exact h.storage.spared hrdy
      | false =>
        rw [(executeFilterChain_of_not_ready h.storage.capacity hrdy).1]
        exact h.storage
    · intro _
      rw [CircuitBreaker.record, if_pos hden]
      exact (h.breaker hcls).failure_left hcls

theorem Spared.chain (h : Spared a q.now s s') (hrdy : s.storage.globalBucket.ready q.now)
    (hkp : q.client = a → (executeFilterChain cm s.storage q).2.isDenied = false) :
    (executeFilterChain cm s.storage q).2 = (executeFilterChain cm s'.storage q).2 ∧
      Leads a q.now (executeFilterChain cm s.storage q).1
        (executeFilterChain cm s'.storage q).1 := by
  have hrdy' : s'.storage.globalBucket.ready q.now :=
    h.storage.global.ready h.storage.refilled h.storage.refilled' hrdy
  rw [executeFilterChain_of_ready h.storage.used hrdy] at hkp ⊢
  rw [executeFilterChain_of_ready h.storage.used' hrdy']
  by_cases hcli : q.client = a
  · cases hsrv : serves q.client 100 100 q.now
      (s.storage.live q.now q.client) with
    | true =>
      rw [hcli] at hsrv ⊢
      obtain ⟨hsrv', hlea⟩ := h.storage.own_served hrdy hsrv
      rw [hsrv']
      exact ⟨rfl, hlea⟩
    | false =>
      -- such a request would have been denied
      have hden := hkp hcli
      rw [hsrv] at hden
      cases hden
  · rw [h.storage.others q.client hcli]
    exact ⟨rfl, h.storage.other_counted hrdy hcli⟩

theorem ready_of_not_denied {s : RateLimitStorage} (hcap : 1 ≤ s.globalBucket.capacity)
    (h : (executeFilterChain cm s q).2.isDenied = false) : s.globalBucket.ready q.now := by
  cases hrdy : s.globalBucket.ready q.now with
  | true => rfl
  | false =>
    rw [(executeFilterChain_of_not_ready hcap hrdy).2] at h
    cases h

theorem Spared.kept (h : Spared a q.now s s') (hcm : Calm a s q)
    (hkp : denies a q (processRequest cm s q).2 = false) :
    (processRequest cm s q).2 = (processRequest cm s' q).2 ∧
      Spared a q.now (processRequest cm s q).1 (processRequest cm s' q).1 := by
  cases hpath : isHealthCheckPath q.path with
  | true =>
    rw [processRequest_of_health hpath, processRequest_of_health hpath]
    exact ⟨rfl, h⟩
  | false =>
    obtain ⟨hcls, hoth⟩ := hcm hpath
    have htra := h.breaker hcls
    rw [processRequest_of_closed hpath hcls] at hkp ⊢
    rw [processRequest_of_closed hpath htra.closed]
    have hown : q.client = a → (executeFilterChain cm s.storage q).2.isDenied = false := by
      intro hcli
      simpa [denies, hcli] using hkp
    have hrdy : s.storage.globalBucket.ready q.now := by
      by_cases hcli : q.client = a
      · exact ready_of_not_denied h.storage.capacity (hown hcli)
      · exact hoth hcli
    obtain ⟨hsm, hlea⟩ := h.chain hrdy hown
    refine ⟨hsm, hlea, ?_⟩
    rw [← hsm]
    exact htra.record hcls

end Steps

section Results

open FilterOrchestrator

theorem spared_new (created : Nat) :
    Spared a created (FilterOrchestrator.new created) (FilterOrchestrator.new created) where
  storage :=
    { global := .refl _
      capacity := by
        change 1 ≤ 10000
        decide
      refilled := le_refl _
      refilled' := le_refl _
      used := by
        intro e he
        cases he
      used' := by
        intro e he
        cases he
      own := trivial
      others := fun _ _ => rfl }
  breaker := fun _ => ⟨rfl, le_refl _, rfl⟩

theorem denied_requests_invisible (cm : CaseMap) (a : String) (created : Nat)
    (qs : List FilterRequest) (hclock : (created :: qs.map FilterRequest.now).IsChain (· ≤ ·))
    (hcalm : Along (step cm) (Calm a) (FilterOrchestrator.new created) qs) :
    (outcomes (processRequest cm) (FilterOrchestrator.new created)
        (pruned (processRequest cm) (denies a) (FilterOrchestrator.new created) qs)).filter
          (fun o => decide (o.1.client ≠ a)) =
      (outcomes (processRequest cm) (FilterOrchestrator.new created) qs).filter
        (fun o => decide (o.1.client ≠ a)) := by
  -- the relation also says what the remaining requests promise
  refine outcomes_pruned (fun q => decide (q.client ≠ a))
    (fun qs s s' => ∃ now, Spared a now s s' ∧
      (now :: qs.map FilterRequest.now).IsChain (· ≤ ·) ∧ Along (step cm) (Calm a) s qs)
    ?_ ?_ ⟨created, spared_new a created, hclock, hcalm⟩
  · rintro q qs s s' ⟨now, hspa, hclock, hcalm⟩ hdns
    rw [List.map_cons, List.isChain_cons_cons] at hclock
    obtain ⟨hcalm, hrs⟩ := hcalm _ rfl
    have hspa := hspa.mono hclock.1
    refine ⟨?_, q.now, hspa.dropped hcalm hdns, hclock.2, hrs⟩
    simp only [denies, Bool.and_eq_true] at hdns
    simp [hdns.1]
  · rintro q qs s s' ⟨now, hspa, hclock, hcalm⟩ hkp
    rw [List.map_cons, List.isChain_cons_cons] at hclock
    obtain ⟨hcalm, hrs⟩ := hcalm _ rfl
    obtain ⟨hsm, hspa⟩ := (hspa.mono hclock.1).kept hcalm hkp
    exact ⟨fun _ => hsm, q.now, hspa, hclock.2, hrs⟩

def traceRequest : FilterRequest where
  traceId := "t"
  method := "TRACE"
  path := "/api/v1/users"
  clientIp := some "203.0.113.7"
  headers := [("user-agent", "test-agent")]
  now := now

def getRequest : FilterRequest where
  traceId := "t"
  method := "GET"
  path := "/api/v1/users"
  clientIp := some "198.51.100.4"
  headers := [("user-agent", "test-agent")]
  now := now

theorem denied_requests_invisible_below_threshold :
    (outcomes (processRequest asciiCaseMap) (FilterOrchestrator.new 0)
        (pruned (processRequest asciiCaseMap) (denies "203.0.113.7") (FilterOrchestrator.new 0)
          [traceRequest 1, traceRequest 2, getRequest 3])).filter
          (fun o => decide (o.1.client ≠ "203.0.113.7")) =
      (outcomes (processRequest asciiCaseMap) (FilterOrchestrator.new 0)
        [traceRequest 1, traceRequest 2, getRequest 3]).filter
          (fun o => decide (o.1.client ≠ "203.0.113.7")) :=
  denied_requests_invisible asciiCaseMap "203.0.113.7" 0
    [traceRequest 1, traceRequest 2, getRequest 3] (by decide) (by decide +kernel)

def shutOut : List FilterRequest :=
  [traceRequest 1, traceRequest 2, traceRequest 3, traceRequest 4, traceRequest 5, getRequest 6]

theorem denied_requests_open_breaker :
    (outcomes (processRequest asciiCaseMap) (FilterOrchestrator.new 0) shutOut).map
        (fun o => (o.1.client, o.2.isDenied, decide (o.2 = .circuitBreakerOpen))) =
      List.replicate 5 ("203.0.113.7", true, false) ++ [("198.51.100.4", false, true)] ∧
    outcomes (processRequest asciiCaseMap) (FilterOrchestrator.new 0)
        (pruned (processRequest asciiCaseMap) (denies "203.0.113.7") (FilterOrchestrator.new 0)
          shutOut) = [(getRequest 6, .allowed)] := by
  decide +kernel

end Results

end ETradie.Envoy
