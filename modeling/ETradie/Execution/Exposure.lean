import ETradie.Execution.Intake
import ETradie.Kernel.Runs
import Mathlib.Data.List.Perm.Basic

namespace ETradie.Execution

open Kernel List

universe u

structure IntakeSetup (C : Type u) where
  text : CaseMap
  cfg : Config
  executor : Executor
  pnl : PnlTable
  trader : Claims
  calls : C → ExecuteTradeRequest

inductive CallPhase where
  | idle
  | refused (error : RpcError)
  | refreshing (req : TradeRequest) (account : Option (Except String AccountInfo))
      (positions pendingOrders : Option (Except String (List BrokerEntry)))
  | validating (req : TradeRequest) (params : RuntimeParams) (now : Int)
      (rest : List ValidationCheck) (trail : List (ValidationCheck × Users))
  | answered (response : ExecuteTradeResponse)
  | executed (req : TradeRequest) (params : RuntimeParams)
      (trail : List (ValidationCheck × Users)) (order : Order) (response : ExecuteTradeResponse)

structure IntakeState (C : Type u) where
  positions : List BrokerEntry
  executor : ExecutorState
  users : Users
  phase : C → CallPhase

structure CommitDraw where
  (created now loaded : Int := 0)
  settings : Settings := {}
  validateAt : Int := 0

inductive IntakeAction (C : Type u) where
  | start (c : C)
  | readAccount (c : C) (result : Except String AccountInfo)
  /-- The broker lists its book, or the request fails. -/
  | readPositions (c : C) (failure : Option String)
  | readPendingOrders (c : C) (failure : Option String)
  | commit (c : C) (draw : CommitDraw)
  | check (c : C) (instrument : String → Except String InstrumentInfo)
  | place (c : C) (draw : OrderDraw) (limit : LimitDraw)
  | fill (i : Nat)
  | close (i : Nat)
  | cancel (i : Nat)
  | fire (i : Nat)
  | disarm (i : Nat)

def answerRead (failure : Option String) (entries : List BrokerEntry) :
    Except String (List BrokerEntry) :=
  match failure with
  | none => .ok entries
  | some e => .error e

variable {C : Type u}
variable (s : IntakeState C)

namespace IntakeState

def init : IntakeState C where
  positions := []
  executor := ExecutorState.init
  users := fun _ => none
  phase := fun _ => .idle

def book : List String := s.positions.map BrokerEntry.symbol ++ s.executor.standing.map Order.symbol

def entries : List BrokerEntry :=
  s.positions ++ (s.executor.standing ++ s.executor.watchers).map listed

def setPhase [DecidableEq C] (s : IntakeState C) (c : C) (p : CallPhase) : IntakeState C :=
  { s with phase := Function.update s.phase c p }

end IntakeState

section Steps

variable [DecidableEq C] (env : IntakeSetup C)

def intakeStep (s : IntakeState C) : IntakeAction C → Option (IntakeState C)
  | .start c =>
    match s.phase c with
    | .idle =>
      match acceptRequest env.text (env.calls c) (some env.trader) with
      | .error e => some (s.setPhase c (.refused e))
      | .ok req => some (s.setPhase c (.refreshing req none none none))
    | _ => none
  | .readAccount c result =>
    match s.phase c with
    | .refreshing req none positions pending =>
      some (s.setPhase c (.refreshing req (some result) positions pending))
    | _ => none
  | .readPositions c failure =>
    match s.phase c with
    | .refreshing req account none pending =>
      some (s.setPhase c (.refreshing req account (some (answerRead failure s.positions)) pending))
    | _ => none
  | .readPendingOrders c failure =>
    match s.phase c with
    | .refreshing req account positions none =>
      some (s.setPhase c (.refreshing req account positions
        (some (answerRead failure (s.executor.standing.map listed)))))
    | _ => none
  | .commit c draw =>
    match s.phase c with
    | .refreshing req (some account) (some positions) (some pending) =>
      match refresh s.users env.pnl req.userId ⟨account, positions, pending⟩
          draw.created draw.now draw.loaded with
      | .error e =>
        some (s.setPhase c
          (.answered (rejectedResponse req ("broker state refresh failed: " ++ e))))
      | .ok users =>
        some { s.setPhase c (.validating req (resolveRuntimeParams env.cfg draw.settings)
            draw.validateAt validatorChain []) with users := users }
    | _ => none
  | .check c instrument =>
    match s.phase c with
    | .validating req params now (k :: rest) trail =>
      match runCheck env.text env.cfg req params now ⟨s.users, instrument⟩ k with
      | .error failure => some (s.setPhase c (.answered (failedCheckResponse req failure)))
      | .ok () => some (s.setPhase c (.validating req params now rest (trail ++ [(k, s.users)])))
    | _ => none
  | .place c draw limit =>
    match s.phase c with
    | .validating req params _ [] trail =>
      match prepareOrder env.text env.cfg req draw with
      | .error e => some (s.setPhase c (.answered (rejectedResponse req e)))
      | .ok order =>
        let done := execute env.executor limit order s.executor
        some { s.setPhase c
            (.executed req params trail order (executedResponse req order done.1)) with
          executor := done.2 }
    | _ => none
  | .fill i =>
    match s.executor.standing[i]? with
    | none => none
    | some o =>
      some { s with
        positions := s.positions ++ [listed o]
        executor := { s.executor with standing := s.executor.standing.eraseIdx i } }
  | .close i => some { s with positions := s.positions.eraseIdx i }
  | .cancel i =>
    some { s with
      executor := { s.executor with standing := s.executor.standing.eraseIdx i } }
  | .fire i =>
    match s.executor.watchers[i]? with
    | none => none
    | some o =>
      if o.executionMode = .instant then
        some { s with
          positions := s.positions ++ [listed o]
          executor := { s.executor with watchers := s.executor.watchers.eraseIdx i } }
      else none
  | .disarm i =>
    some { s with
      executor := { s.executor with watchers := s.executor.watchers.eraseIdx i } }

end Steps

variable (a b : String)

section Limits

variable (text : CaseMap)

def exposed (a b : String) : Bool :=
  text.upper a = text.upper b || areCorrelated text (text.upper a) (text.upper b)

def covers (users : Users) (userID : String) (book : List String) : Bool :=
  match users userID with
  | none => book.isEmpty
  | some us =>
    book.all (fun symbol =>
      (us.positions ++ us.pendingOrders).any (fun e => text.upper e.symbol = text.upper symbol))

variable (env : IntakeSetup C)

def upToDate (s : IntakeState C) : IntakeAction C → Bool
  | .place c draw _ =>
    match s.phase c with
    | .validating req _ _ [] trail =>
      match prepareOrder env.text env.cfg req draw with
      | .ok order =>
        order.executionMode ≠ .limit ||
          trail.all (fun p =>
            (p.1 ≠ .samePairPosition && p.1 ≠ .correlatedExposure) ||
              covers env.text p.2 env.trader.userId s.book)
      | .error _ => true
    | _ => true
  | .fire i =>
    match s.executor.watchers[i]? with
    | some o => s.book.all (fun symbol => !exposed env.text o.symbol symbol)
    | none => true
  | _ => true

/-- The entry is the order that a call built for its request, and check 8 of that call saw fewer
open positions than it allows. -/
def Admitted (s : IntakeState C) (entry : BrokerEntry) : Prop :=
  ∃ c req params trail order response,
    s.phase c = .executed req params trail order response ∧ listed order = entry ∧
      ∃ users, (ValidationCheck.maxConcurrentTrades, users) ∈ trail ∧
        (openPositionCount users env.trader.userId : Int) < params.maxConcurrentTrades

structure ExposureLimits (s : IntakeState C) : Prop where
  separate : s.book.Pairwise (fun a b => exposed env.text a b = false)
  admitted : ∀ entry ∈ s.entries, Admitted env s entry

end Limits

variable {symbol : String}

section Separation

variable {text : CaseMap} {book : List String} {userID : String}

theorem areCorrelated_comm : areCorrelated text a b = areCorrelated text b a := by
  rw [Bool.eq_iff_iff]
  simp only [areCorrelated, any_eq_true, contains_iff_mem]
  constructor
  · rintro ⟨g, ha, hb⟩
    exact ⟨g, hb, ha⟩
  · rintro ⟨g, hb, ha⟩
    exact ⟨g, ha, hb⟩

theorem exposed_comm : exposed text a b = exposed text b a := by
  unfold exposed
  rw [areCorrelated_comm]
  by_cases h : text.upper a = text.upper b
  · simp [h]
  · have h' : ¬ text.upper b = text.upper a := fun e => h e.symm
    simp [h, h']

theorem exists_listed_of_covers {users : Users} (h : covers text users userID book)
    (hm : symbol ∈ book) :
    ∃ us, users userID = some us ∧
      ∃ e, (e ∈ us.positions ∨ e ∈ us.pendingOrders) ∧ text.upper e.symbol = text.upper symbol := by
  unfold covers at h
  cases hus : users userID with
  | none =>
    rw [hus] at h
    rw [List.isEmpty_iff] at h
    rw [h] at hm
    cases hm
  | some us =>
    rw [hus] at h
    simp only [all_eq_true, any_eq_true, decide_eq_true_eq, mem_append] at h
    obtain ⟨e, he, hup⟩ := h symbol hm
    exact ⟨us, rfl, e, he, hup⟩

theorem not_exposed_of_checks {users6 users7 : Users}
    (h6 : hasPositionOnPair text users6 userID symbol = false)
    (h7 : hasCorrelatedExposure text users7 userID symbol = false)
    (hcvr : covers text users6 userID book)
    (hcov : covers text users7 userID book) :
    ∀ b ∈ book, exposed text symbol b = false := by
  intro b hb
  obtain ⟨us, hus, e, he, hup⟩ := exists_listed_of_covers hcvr hb
  have hpa : ¬ text.upper e.symbol = text.upper symbol := by
    simp only [hasPositionOnPair, hus, Bool.or_eq_false_iff, any_eq_false, decide_eq_true_eq] at h6
    rcases he with he | he
    · exact h6.1 e he
    · exact h6.2 e he
  have hdif : ¬ text.upper symbol = text.upper b := by
    intro hsm
    exact hpa (hup.trans hsm.symm)
  obtain ⟨us', hus', e', he', hup'⟩ := exists_listed_of_covers hcov hb
  have hcor : areCorrelated text (text.upper symbol) (text.upper b) = false := by
    simp only [hasCorrelatedExposure, hus', Bool.or_eq_false_iff, any_eq_false] at h7
    have hclr : ¬ (decide (text.upper e'.symbol ≠ text.upper symbol) &&
        areCorrelated text (text.upper symbol) (text.upper e'.symbol)) := by
      rcases he' with he' | he'
      · exact h7.1 e' he'
      · exact h7.2 e' he'
    rw [hup'] at hclr
    have hdif' : ¬ text.upper b = text.upper symbol := fun e => hdif e.symm
    simpa [hdif'] using hclr
  simp [exposed, hdif, hcor]

theorem pairwise_of_perm_cons {book' : List String} (hpm : book'.Perm (symbol :: book))
    (hclr : ∀ b ∈ book, exposed text symbol b = false)
    (hbk : book.Pairwise (fun a b => exposed text a b = false)) :
    book'.Pairwise (fun a b => exposed text a b = false) := by
  have hsymm : ∀ {a b : String}, exposed text a b = false → exposed text b a = false := by
    intro a b h
    rw [exposed_comm]
    exact h
  rw [hpm.pairwise_iff hsymm, pairwise_cons]
  exact ⟨hclr, hbk⟩

end Separation

section Invariant

variable (env : IntakeSetup C)
variable {req : TradeRequest} {params : RuntimeParams} {now : Int}
variable {trail : List (ValidationCheck × Users)} {c : C} {p : CallPhase} {k : ValidationCheck}
variable {i : Nat} {o : Order}

def PhaseOk : CallPhase → Prop
  | .refreshing req _ _ _ => req.userId = env.trader.userId
  | .validating req params now rest trail =>
    req.userId = env.trader.userId ∧ trail.map Prod.fst ++ rest = validatorChain ∧
      ∀ p ∈ trail, ∃ instrument,
        runCheck env.text env.cfg req params now ⟨p.2, instrument⟩ p.1 = .ok ()
  | .executed _ params trail _ _ =>
    ∃ users, (ValidationCheck.maxConcurrentTrades, users) ∈ trail ∧
      (openPositionCount users env.trader.userId : Int) < params.maxConcurrentTrades
  | _ => True

def CallPhase.isExecuted : CallPhase → Bool
  | .executed _ _ _ _ _ => true
  | _ => false

def Requested (entry : BrokerEntry) : Prop :=
  ∃ c req params trail order response,
    s.phase c = .executed req params trail order response ∧ listed order = entry

structure IntakeInvariant (s : IntakeState C) : Prop where
  phases : ∀ c, PhaseOk env (s.phase c)
  separate : s.book.Pairwise (fun a b => exposed env.text a b = false)
  requested : ∀ entry ∈ s.entries, Requested s entry

variable {env} {t : IntakeState C} {s}

theorem IntakeInvariant.exposureLimits (hs : IntakeInvariant env s) : ExposureLimits env s where
  separate := hs.separate
  admitted := by
    intro entry hentry
    obtain ⟨c, req, params, trail, order, response, hphase, horder⟩ := hs.requested entry hentry
    have hok := hs.phases c
    rw [hphase] at hok
    exact ⟨c, req, params, trail, order, response, hphase, horder, hok⟩

theorem intakeInvariant_init : IntakeInvariant env (IntakeState.init : IntakeState C) := by
  refine ⟨fun _ => trivial, List.Pairwise.nil, ?_⟩
  intro entry hentry
  cases hentry

theorem IntakeInvariant.rebook (hs : IntakeInvariant env s) (hph : t.phase = s.phase)
    (hents : ∀ entry ∈ t.entries, entry ∈ s.entries)
    (hbk : t.book.Pairwise (fun a b => exposed env.text a b = false)) :
    IntakeInvariant env t where
  phases := by
    rw [hph]
    exact hs.phases
  separate := hbk
  requested := by
    intro entry hentry
    obtain ⟨c, req, params, trail, order, response, hc, horder⟩ :=
      hs.requested entry (hents entry hentry)
    exact ⟨c, req, params, trail, order, response, by rw [hph]; exact hc, horder⟩

theorem IntakeInvariant.shrink (hs : IntakeInvariant env s) (hph : t.phase = s.phase)
    (hpsn : t.positions.Sublist s.positions)
    (hstd : t.executor.standing.Sublist s.executor.standing)
    (hwat : t.executor.watchers.Sublist s.executor.watchers) : IntakeInvariant env t := by
  have hbk : t.book.Sublist s.book := (hpsn.map BrokerEntry.symbol).append (hstd.map Order.symbol)
  have hents : t.entries.Sublist s.entries := hpsn.append ((hstd.append hwat).map listed)
  exact hs.rebook hph (fun _ hm => hents.subset hm) (hs.separate.sublist hbk)

theorem phaseOk_refused (e : RpcError) : PhaseOk env (.refused e) := by trivial

theorem phaseOk_answered (response : ExecuteTradeResponse) : PhaseOk env (.answered response) := by
  trivial

theorem exists_passed_check (hok : PhaseOk env (.validating req params now [] trail))
    (hk : k ∈ validatorChain) :
    ∃ users, (k, users) ∈ trail ∧ ∃ instrument,
      runCheck env.text env.cfg req params now ⟨users, instrument⟩ k = .ok () := by
  obtain ⟨-, hcha, htrl⟩ := hok
  rw [append_nil] at hcha
  rw [← hcha, mem_map] at hk
  obtain ⟨⟨k', users⟩, hm, rfl⟩ := hk
  exact ⟨users, hm, htrl _ hm⟩

theorem validate_of_trail (hok : PhaseOk env (.validating req params now [] trail)) :
    ∃ reads, validate env.text env.cfg req params now reads = .ok () ∧
      ∀ k, (k, (reads k).users) ∈ trail := by
  have hall : ∀ k, ∃ reads : CheckReads, (k, reads.users) ∈ trail ∧
      runCheck env.text env.cfg req params now reads k = .ok () := by
    intro k
    have hk : k ∈ validatorChain := by cases k <;> decide
    obtain ⟨users, hm, instrument, hpas⟩ := exists_passed_check hok hk
    exact ⟨⟨users, instrument⟩, hm, hpas⟩
  choose reads hm hpas using hall
  exact ⟨reads, (validate_ok_iff _ _ _ _ _ reads).mpr hpas, hm⟩

theorem phaseOk_executed (hok : PhaseOk env (.validating req params now [] trail))
    (order : Order) (response : ExecuteTradeResponse) :
    PhaseOk env (.executed req params trail order response) := by
  obtain ⟨reads, hval, htrl⟩ := validate_of_trail hok
  have h8 := (validate_ok_iff _ _ _ _ _ reads).mp hval .maxConcurrentTrades
  refine ⟨(reads .maxConcurrentTrades).users, htrl _, ?_⟩
  rw [← hok.1]
  exact check8_ok_iff.mp h8

theorem not_exposed_of_passed (hok : PhaseOk env (.validating req params now [] trail))
    {book : List String}
    (hcvs : ∀ p ∈ trail, p.1 = .samePairPosition ∨ p.1 = .correlatedExposure →
      covers env.text p.2 env.trader.userId book) :
    ∀ b ∈ book, exposed env.text req.symbol b = false := by
  obtain ⟨reads, hval, htrl⟩ := validate_of_trail hok
  have hpas := (validate_ok_iff _ _ _ _ _ reads).mp hval
  have h6 := check6_ok_iff.mp (hpas .samePairPosition)
  have h7 := check7_ok_iff.mp (hpas .correlatedExposure)
  rw [hok.1] at h6 h7
  exact not_exposed_of_checks h6 h7 (hcvs _ (htrl _) (.inl rfl)) (hcvs _ (htrl _) (.inr rfl))

variable [DecidableEq C]

theorem Requested.move {entry : BrokerEntry} (hop : (s.phase c).isExecuted = false)
    (hph : t.phase = Function.update s.phase c p) (h : Requested s entry) :
    Requested t entry := by
  obtain ⟨c', req, params, trail, order, response, hc', horder⟩ := h
  have hne : c' ≠ c := by
    rintro rfl
    rw [hc'] at hop
    cases hop
  refine ⟨c', req, params, trail, order, response, ?_, horder⟩
  rw [hph, Function.update_of_ne hne]
  exact hc'

theorem phaseOk_update (hs : IntakeInvariant env s) (hp : PhaseOk env p) (c' : C) :
    PhaseOk env (Function.update s.phase c p c') := by
  by_cases hc : c' = c
  · subst hc
    rw [Function.update_self]
    exact hp
  · rw [Function.update_of_ne hc]
    exact hs.phases c'

theorem IntakeInvariant.move (hs : IntakeInvariant env s) (hop : (s.phase c).isExecuted = false)
    (hp : PhaseOk env p) (users : Users) :
    IntakeInvariant env { s.setPhase c p with users := users } where
  phases := phaseOk_update hs hp
  separate := hs.separate
  requested := fun entry hentry => (hs.requested entry hentry).move hop rfl

theorem intakeInvariant_refreshing (hs : IntakeInvariant env s)
    {account : Option (Except String AccountInfo)}
    {positions pending : Option (Except String (List BrokerEntry))}
    (hph : s.phase c = .refreshing req account positions pending)
    (hp : req.userId = env.trader.userId → PhaseOk env p) (users : Users) :
    IntakeInvariant env { s.setPhase c p with users := users } := by
  have hu := hs.phases c
  rw [hph] at hu
  exact hs.move (by rw [hph]; rfl) (hp hu) users

theorem intakeInvariant_check (hs : IntakeInvariant env s) {rest : List ValidationCheck}
    {instrument : String → Except String InstrumentInfo}
    (hph : s.phase c = .validating req params now (k :: rest) trail)
    (hpas : runCheck env.text env.cfg req params now ⟨s.users, instrument⟩ k = .ok ()) :
    IntakeInvariant env
      (s.setPhase c (.validating req params now rest (trail ++ [(k, s.users)]))) := by
  have hok := hs.phases c
  rw [hph] at hok
  obtain ⟨hu, hcha, htrl⟩ := hok
  have hnx : PhaseOk env (.validating req params now rest (trail ++ [(k, s.users)])) := by
    refine ⟨hu, ?_, ?_⟩
    · rw [← hcha]
      simp
    · intro p hp
      rcases mem_append.mp hp with hp | hp
      · exact htrl p hp
      · rw [mem_singleton.mp hp]
        exact ⟨instrument, hpas⟩
  exact hs.move (by rw [hph]; rfl) hnx s.users

theorem intakeInvariant_place (hs : IntakeInvariant env s) {draw : OrderDraw} {limit : LimitDraw}
    {order : Order} (hph : s.phase c = .validating req params now [] trail)
    (hord : prepareOrder env.text env.cfg req draw = .ok order)
    (hcd : upToDate env s (.place c draw limit)) (response : ExecuteTradeResponse) :
    IntakeInvariant env { s.setPhase c (.executed req params trail order response) with
      executor := (execute env.executor limit order s.executor).2 } := by
  have hok := hs.phases c
  rw [hph] at hok
  have hop : (s.phase c).isExecuted = false := by
    rw [hph]
    rfl
  have hsym : order.symbol = req.symbol := (prepareOrder_levels hord).1
  obtain ⟨hstd, hwat⟩ := execute_spec env.executor limit order s.executor
  refine ⟨phaseOk_update hs (phaseOk_executed hok order response), ?_, ?_⟩
  · rcases hstd with hsm | ⟨hmo, hadd⟩
    · simp only [IntakeState.book, hsm]
      exact hs.separate
    · have hclr : ∀ b ∈ s.book, exposed env.text req.symbol b = false := by
        simp only [upToDate, hph, hord, hmo, ne_eq, not_true_eq_false, decide_false,
          Bool.false_or, all_eq_true] at hcd
        apply not_exposed_of_passed hok
        intro p hp hchk
        have hp' := hcd p hp
        rcases hchk with hchk | hchk
        · simpa [hchk] using hp'
        · simpa [hchk] using hp'
      refine pairwise_of_perm_cons (?_ : List.Perm _ (req.symbol :: s.book)) hclr hs.separate
      simp only [IntakeState.book, hadd, map_append, map_cons, map_nil, hsym, ← append_assoc]
      exact perm_append_singleton _ _
  · intro entry hentry
    have hcases : entry ∈ s.entries ∨ listed order = entry := by
      simp only [IntakeState.entries, mem_append, mem_map] at hentry ⊢
      rcases hentry with hentry | ⟨o, ho | ho, rfl⟩
      · exact .inl (.inl hentry)
      · rcases hstd with hsame | ⟨-, hadd⟩
        · rw [hsame] at ho
          exact .inl (.inr ⟨o, .inl ho, rfl⟩)
        · rw [hadd, mem_append, mem_singleton] at ho
          exact ho.imp (fun ho => .inr ⟨o, .inl ho, rfl⟩) (fun ho => by rw [ho])
      · exact (hwat o ho).imp (fun ho => .inr ⟨o, .inr ho, rfl⟩) Eq.symm
    rcases hcases with hold | hnew
    · exact (hs.requested entry hold).move hop rfl
    · refine ⟨c, req, params, trail, order, response, ?_, hnew⟩
      simp [IntakeState.setPhase]

omit [DecidableEq C] in
theorem intakeInvariant_fill (hs : IntakeInvariant env s) (ho : s.executor.standing[i]? = some o) :
    IntakeInvariant env { s with
      positions := s.positions ++ [listed o]
      executor := { s.executor with standing := s.executor.standing.eraseIdx i } } := by
  obtain ⟨hi, hg⟩ := List.getElem?_eq_some_iff.mp ho
  have hba : (o :: s.executor.standing.eraseIdx i).Perm s.executor.standing := by
    rw [← hg]
    exact getElem_cons_eraseIdx_perm hi
  have hbk : List.Perm (IntakeState.book { s with
      positions := s.positions ++ [listed o]
      executor := { s.executor with standing := s.executor.standing.eraseIdx i } }) s.book := by
    have hmap := hba.map Order.symbol
    simp only [IntakeState.book, map_append, map_cons, map_nil, listed,
      append_assoc, singleton_append]
    exact hmap.append_left (s.positions.map BrokerEntry.symbol)
  refine hs.rebook rfl ?_ ?_
  · intro entry hentry
    simp only [IntakeState.entries, mem_append, mem_map, mem_singleton] at hentry ⊢
    rcases hentry with (hentry | rfl) | ⟨o', ho' | ho', rfl⟩
    · exact .inl hentry
    · exact .inr ⟨o, .inl (mem_of_getElem? ho), rfl⟩
    · exact .inr ⟨o', .inl (mem_of_mem_eraseIdx ho'), rfl⟩
    · exact .inr ⟨o', .inr ho', rfl⟩
  · exact (hbk.pairwise_iff (fun hab => by rw [exposed_comm]; exact hab)).mpr hs.separate

omit [DecidableEq C] in
theorem intakeInvariant_fire (hs : IntakeInvariant env s) (hcd : upToDate env s (.fire i))
    (ho : s.executor.watchers[i]? = some o) :
    IntakeInvariant env { s with
      positions := s.positions ++ [listed o]
      executor := { s.executor with watchers := s.executor.watchers.eraseIdx i } } := by
  have hclr : ∀ b ∈ s.book, exposed env.text o.symbol b = false := by simpa [upToDate, ho] using hcd
  have hbk : List.Perm (IntakeState.book { s with
      positions := s.positions ++ [listed o]
      executor := { s.executor with watchers := s.executor.watchers.eraseIdx i } })
        (o.symbol :: s.book) := by
    simp only [IntakeState.book, map_append, map_cons, map_nil, listed,
      append_assoc, singleton_append]
    exact perm_middle
  refine hs.rebook rfl ?_ (pairwise_of_perm_cons hbk hclr hs.separate)
  intro entry hentry
  simp only [IntakeState.entries, mem_append, mem_map, mem_singleton] at hentry ⊢
  rcases hentry with (hentry | rfl) | ⟨o', ho' | ho', rfl⟩
  · exact .inl hentry
  · exact .inr ⟨o, .inr (mem_of_getElem? ho), rfl⟩
  · exact .inr ⟨o', .inl ho', rfl⟩
  · exact .inr ⟨o', .inr (mem_of_mem_eraseIdx ho'), rfl⟩

theorem intakeInvariant_step (hs : IntakeInvariant env s) (a : IntakeAction C)
    (hcd : upToDate env s a) (h : intakeStep env s a = some t) :
    IntakeInvariant env t := by
  revert h
  fun_cases intakeStep env s a
  all_goals rintro ⟨⟩
  · next hph e _ => exact hs.move (by rw [hph]; rfl) (phaseOk_refused e) s.users
  · next hph req hreq =>
    exact hs.move (by rw [hph]; rfl) (p := .refreshing req none none none)
      (acceptRequest_userId hreq) s.users
  · next hph => exact intakeInvariant_refreshing hs hph id s.users
  · next hph => exact intakeInvariant_refreshing hs hph id s.users
  · next hph => exact intakeInvariant_refreshing hs hph id s.users
  · next hph _ _ =>
    exact intakeInvariant_refreshing hs hph (fun _ => phaseOk_answered _) s.users
  · next hph users _ =>
    refine intakeInvariant_refreshing hs hph ?_ users
    intro hu
    exact ⟨hu, rfl, nofun⟩
  · next hph _ _ => exact hs.move (by rw [hph]; rfl) (phaseOk_answered _) s.users
  · next hph hpas => exact intakeInvariant_check hs hph hpas
  · next hph _ _ => exact hs.move (by rw [hph]; rfl) (phaseOk_answered _) s.users
  · next hph _ hord _ => exact intakeInvariant_place hs hph hord hcd _
  · next ho => exact intakeInvariant_fill hs ho
  · exact hs.shrink rfl (eraseIdx_sublist _ _) (List.Sublist.refl _) (List.Sublist.refl _)
  · exact hs.shrink rfl (List.Sublist.refl _) (eraseIdx_sublist _ _) (List.Sublist.refl _)
  · next ho _ => exact intakeInvariant_fire hs hcd ho
  · exact hs.shrink rfl (List.Sublist.refl _) (List.Sublist.refl _) (eraseIdx_sublist _ _)

theorem exposureLimits_throughout (env : IntakeSetup C) (actions : List (IntakeAction C))
    (hfresh : Along (intakeStep env) (fun s a => upToDate env s a = true)
      IntakeState.init actions) :
    Throughout (intakeStep env) (ExposureLimits env) IntakeState.init actions := by
  have hinv := throughout_of_along (intakeStep env)
    (fun _ a _ hs hcd h => intakeInvariant_step hs a hcd h)
    intakeInvariant_init hfresh
  exact hinv.mono (intakeStep env) (fun _ hs => hs.exposureLimits)

end Invariant

def twoCalls (first second : String) : IntakeSetup Bool where
  text := asciiCaseMap
  cfg := {}
  executor := {}
  pnl := PnlTable.empty
  trader := { userId := "u1", tier := "pro" }
  calls := fun c =>
    { symbol := if c then second else first
      direction := "LONG"
      entryZoneLow := 1.1
      entryZoneHigh := 1.101
      stopLoss := 1.09
      rrRatio := 3
      riskPercentage := 1
      tradingStyle := "INTRADAY"
      ltfTimeframe := "H1" }

def oneTrade (mode : String) : Settings where
  executionMode := some mode
  maxConcurrentTrades := some 1

def intakeUntilPlacement (c : Bool) (settings : Settings) : List (IntakeAction Bool) :=
  [.start c, .readAccount c (.ok ⟨10000⟩), .readPositions c none, .readPendingOrders c none,
   .commit c { settings := settings, validateAt := 1773655200 }] ++
    List.replicate 12 (.check c (fun _ => .ok (eurusdInfo 0.01)))

def placement (c : Bool) (settings : Settings) : IntakeAction Bool :=
  .place c
    { reads := eurusdReads 0.01, settings := settings
      nonce := if c then "b" else "a" }
    { broker := fun _ => .ok { brokerOrderId := if c then "2" else "1", status := "PLACED" } }

def inSequence (settings : Settings) : List (IntakeAction Bool) :=
  intakeUntilPlacement false settings ++ [placement false settings] ++
    (intakeUntilPlacement true settings ++ [placement true settings])

def racing (settings : Settings) : List (IntakeAction Bool) :=
  intakeUntilPlacement false settings ++ intakeUntilPlacement true settings ++
    [placement false settings, placement true settings]

theorem exposureLimits_two_pairs :
    Throughout (intakeStep (twoCalls "EURUSD" "USDJPY"))
      (ExposureLimits (twoCalls "EURUSD" "USDJPY")) IntakeState.init
      (inSequence (oneTrade "LIMIT")) ∧
    (run (intakeStep (twoCalls "EURUSD" "USDJPY")) IntakeState.init
      (inSequence (oneTrade "LIMIT"))).map IntakeState.book = some ["EURUSD", "USDJPY"] :=
  ⟨exposureLimits_throughout (twoCalls "EURUSD" "USDJPY") (inSequence (oneTrade "LIMIT"))
    (by decide +kernel), by decide +kernel⟩

theorem same_pair_entered_twice :
    (resolveRuntimeParams {} (oneTrade "INSTANT")).maxConcurrentTrades = 1 ∧
    (run (intakeStep (twoCalls "EURUSD" "EURUSD")) IntakeState.init
      (inSequence (oneTrade "INSTANT"))).map (fun s => s.entries.map BrokerEntry.symbol) =
        some ["EURUSD", "EURUSD"] ∧
    (run (intakeStep (twoCalls "EURUSD" "EURUSD")) IntakeState.init
      (racing (oneTrade "LIMIT"))).map IntakeState.book = some ["EURUSD", "EURUSD"] := by
  refine ⟨?_, ?_, ?_⟩ <;> decide +kernel

end ETradie.Execution
