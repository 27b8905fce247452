import ETradie.Execution.State
import ETradie.Kernel.Runs

namespace ETradie.Execution

open Kernel

def adoptEntry (p : BrokerEntry) (positions : List BrokerEntry) : List BrokerEntry :=
  if positions.any (·.orderId = p.orderId) then positions else positions ++ [p]

def replaceEntry (p : BrokerEntry) : List BrokerEntry → List BrokerEntry
  | [] => [p]
  | q :: rest => if q.orderId = p.orderId then p :: rest else q :: replaceEntry p rest

variable (users : Users) (userID brokerOrderID : String)

def removeEntry (positions : List BrokerEntry) : List BrokerEntry :=
  positions.eraseP (·.orderId = brokerOrderID)

variable (p : Option BrokerEntry) (created : Int)

def editPositions
    (edit : List BrokerEntry → List BrokerEntry) : Users :=
  let us := getOrCreateUser users userID created
  Function.update users userID (some { us with positions := edit us.positions })

def namesPosition : Option BrokerEntry := p.filter (fun q => userID ≠ "" && q.orderId ≠ "")

def adoptBrokerPosition : Users :=
  match namesPosition userID p with
  | none => users
  | some q => editPositions users userID created (adoptEntry q)

def replaceBrokerPosition : Users :=
  match namesPosition userID p with
  | none => users
  | some q => editPositions users userID created (replaceEntry q)

def removeGhostPosition : Bool × Users :=
  if userID = "" ∨ brokerOrderID = "" then (false, users)
  else
    match users userID with
    | none => (false, users)
    | some us =>
      (us.positions.any (·.orderId = brokerOrderID),
        Function.update users userID
          (some { us with positions := removeEntry brokerOrderID us.positions }))

structure Book where
  (positions pendingOrders : List BrokerEntry := [])
deriving DecidableEq

def cachedBook : Book :=
  match users userID with
  | none => {}
  | some us => ⟨us.positions, us.pendingOrders⟩

variable (books : String → Book)

def holding : Users :=
  fun userID =>
    some { newUserState 0 with
      positions := (books userID).positions
      pendingOrders := (books userID).pendingOrders }

structure CacheRun where
  users : Users
  expected : String → Book

def CacheRun.init : CacheRun where
  users := fun _ => none
  expected := fun _ => {}

inductive CacheCall where
  | refresh (userID : String) (view : BrokerView) (created now loaded : Int)
  | adopt (userID : String) (p : Option BrokerEntry) (created : Int)
  | replace (userID : String) (p : Option BrokerEntry) (created : Int)
  | removeGhost (userID brokerOrderID : String)

variable (known : List BrokerEntry) (r : Except String (List BrokerEntry))

def answerOr : List BrokerEntry :=
  match r with
  | .ok entries => entries
  | .error _ => known

def Book.refreshed (b : Book) (view : BrokerView) : Book where
  positions := answerOr b.positions view.positions
  pendingOrders := answerOr b.pendingOrders view.pendingOrders

def Book.edited (b : Book) (edit : List BrokerEntry → List BrokerEntry) : Book :=
  { b with positions := edit b.positions }

def cacheStep (table : PnlTable) (s : CacheRun) : CacheCall → Option CacheRun
  | .refresh userID view created now loaded =>
    match refresh s.users table userID view created now loaded with
    | .error _ => some s
    | .ok users =>
      some
        { users := users
          expected := Function.update s.expected userID ((s.expected userID).refreshed view) }
  | .adopt userID p created =>
    some
      { users := adoptBrokerPosition s.users userID p created
        expected :=
          match namesPosition userID p with
          | none => s.expected
          | some q => Function.update s.expected userID
              ((s.expected userID).edited (adoptEntry q)) }
  | .replace userID p created =>
    some
      { users := replaceBrokerPosition s.users userID p created
        expected :=
          match namesPosition userID p with
          | none => s.expected
          | some q => Function.update s.expected userID
              ((s.expected userID).edited (replaceEntry q)) }
  | .removeGhost userID brokerOrderID =>
    some
      { users := (removeGhostPosition s.users userID brokerOrderID).2
        expected :=
          if userID = "" ∨ brokerOrderID = "" then s.expected
          else Function.update s.expected userID
            ((s.expected userID).edited (removeEntry brokerOrderID)) }

def KeepsBook (text : CaseMap) (s : CacheRun) : Prop :=
  ∀ userID, cachedBook s.users userID = s.expected userID ∧
    openPositionCount s.users userID = openPositionCount (holding s.expected) userID ∧
    ∀ symbol,
      hasPositionOnPair text s.users userID symbol =
        hasPositionOnPair text (holding s.expected) userID symbol ∧
      hasCorrelatedExposure text s.users userID symbol =
        hasCorrelatedExposure text (holding s.expected) userID symbol

def answered : Bool :=
  match r with
  | .ok _ => true
  | .error _ => false

def LosesNothing (s : CacheRun) : CacheCall → Prop
  | .refresh userID view _ _ _ =>
    ∀ account, view.account = .ok account →
      (answered view.positions = true ∨ (cachedBook s.users userID).positions = []) ∧
        (answered view.pendingOrders = true ∨ (cachedBook s.users userID).pendingOrders = [])
  | .adopt _ _ _ => True
  | .replace _ _ _ => True
  | .removeGhost _ _ => True

variable {table : PnlTable} {userID} {view : BrokerView} {now loaded : Int} {created}

section Cached

variable {users}
theorem cachedBook_update (users : Users) (userID : String) (us : UserState) :
    cachedBook (Function.update users userID (some us)) =
      Function.update (cachedBook users) userID ⟨us.positions, us.pendingOrders⟩ := by
  funext u
  by_cases hu : u = userID
  · subst hu
    simp [cachedBook]
  · simp [cachedBook, hu]

theorem cachedBook_getOrCreateUser (users : Users) (userID : String) (created : Int) :
    (⟨(getOrCreateUser users userID created).positions,
      (getOrCreateUser users userID created).pendingOrders⟩ : Book) =
      cachedBook users userID := by
  cases h : users userID with
  | none => simp [getOrCreateUser, cachedBook, newUserState, h]
  | some _ => simp [getOrCreateUser, cachedBook, h]

theorem cachedBook_editPositions (users : Users) (userID : String) (created : Int)
    (edit : List BrokerEntry → List BrokerEntry) :
    cachedBook (editPositions users userID created edit) =
      Function.update (cachedBook users) userID ((cachedBook users userID).edited edit) := by
  rw [editPositions, cachedBook_update, ← cachedBook_getOrCreateUser users userID created]
  rfl

theorem cachedBook_adoptBrokerPosition (users : Users) (userID : String) (p : Option BrokerEntry)
    (created : Int) :
    cachedBook (adoptBrokerPosition users userID p created) =
      match namesPosition userID p with
      | none => cachedBook users
      | some q => Function.update (cachedBook users) userID
          ((cachedBook users userID).edited (adoptEntry q)) := by
  unfold adoptBrokerPosition
  cases namesPosition userID p with
  | none => rfl
  | some q => exact cachedBook_editPositions users userID created (adoptEntry q)

theorem cachedBook_replaceBrokerPosition (users : Users) (userID : String) (p : Option BrokerEntry)
    (created : Int) :
    cachedBook (replaceBrokerPosition users userID p created) =
      match namesPosition userID p with
      | none => cachedBook users
      | some q => Function.update (cachedBook users) userID
          ((cachedBook users userID).edited (replaceEntry q)) := by
  unfold replaceBrokerPosition
  cases namesPosition userID p with
  | none => rfl
  | some q => exact cachedBook_editPositions users userID created (replaceEntry q)

theorem cachedBook_removeGhostPosition (users : Users) (userID brokerOrderID : String) :
    cachedBook (removeGhostPosition users userID brokerOrderID).2 =
      if userID = "" ∨ brokerOrderID = "" then cachedBook users
      else Function.update (cachedBook users) userID
        ((cachedBook users userID).edited (removeEntry brokerOrderID)) := by
  unfold removeGhostPosition
  by_cases hgrd : userID = "" ∨ brokerOrderID = ""
  · rw [if_pos hgrd, if_pos hgrd]
  · rw [if_neg hgrd, if_neg hgrd]
    cases h : users userID with
    | none =>
      -- an unknown user has no list to remove from
      have hemp : (cachedBook users userID).edited (removeEntry brokerOrderID) =
          cachedBook users userID := by
        simp [cachedBook, h, Book.edited, removeEntry]
      rw [hemp, Function.update_eq_self]
    | some us =>
      have hbk : cachedBook users userID = ⟨us.positions, us.pendingOrders⟩ := by
        simp [cachedBook, h]
      simp only [cachedBook_update, hbk, Book.edited]

@[simp] theorem rollPeriods_positions (us : UserState) (table : PnlTable) (userID : String)
    (now loaded : Int) : (rollPeriods us table userID now loaded).positions = us.positions := by
  unfold rollPeriods
  split <;> rfl

@[simp] theorem rollPeriods_pendingOrders (us : UserState) (table : PnlTable) (userID : String)
    (now loaded : Int) :
    (rollPeriods us table userID now loaded).pendingOrders = us.pendingOrders := by
  unfold rollPeriods
  split <;> rfl

theorem cachedBook_refresh {users' : Users}
    (h : refresh users table userID view created now loaded = .ok users') :
    (∃ account, view.account = .ok account) ∧
      cachedBook users' = Function.update (cachedBook users) userID
        ⟨listOrNil view.positions, listOrNil view.pendingOrders⟩ := by
  unfold refresh at h
  cases hacc : view.account with
  | error e =>
    rw [hacc] at h
    cases h
  | ok account =>
    rw [hacc] at h
    refine ⟨⟨account, rfl⟩, ?_⟩
    rw [← Except.ok.inj h, cachedBook_update, rollPeriods_positions, rollPeriods_pendingOrders]
    rfl

theorem refresh_error {e : String}
    (h : refresh users table userID view created now loaded = .error e) :
    view.account = .error e := by
  unfold refresh at h
  cases hacc : view.account with
  | error _ =>
    rw [hacc] at h
    rw [Except.error.inj h]
  | ok account =>
    rw [hacc] at h
    cases h

end Cached

variable {text : CaseMap}

@[simp] theorem cachedBook_holding :
    cachedBook (holding books) = books := by
  rfl

theorem openPositionCount_eq_cachedBook (userID : String) :
    openPositionCount users userID = (cachedBook users userID).positions.length := by
  unfold openPositionCount cachedBook
  cases users userID <;> rfl

theorem hasPositionOnPair_eq_cachedBook (userID symbol : String) :
    hasPositionOnPair text users userID symbol =
      ((cachedBook users userID).positions ++ (cachedBook users userID).pendingOrders).any
        (fun e => text.upper e.symbol = text.upper symbol) := by
  unfold hasPositionOnPair cachedBook
  cases users userID with
  | none => rfl
  | some _ => simp only [List.any_append]

theorem hasCorrelatedExposure_eq_cachedBook (userID symbol : String) :
    hasCorrelatedExposure text users userID symbol =
      ((cachedBook users userID).positions ++ (cachedBook users userID).pendingOrders).any
        (fun e => decide (text.upper e.symbol ≠ text.upper symbol) &&
          areCorrelated text (text.upper symbol) (text.upper e.symbol)) := by
  unfold hasCorrelatedExposure cachedBook
  cases users userID with
  | none => rfl
  | some _ => simp only [List.any_append]

variable {s : CacheRun}

theorem keepsBook_iff : KeepsBook text s ↔ cachedBook s.users = s.expected := by
  constructor
  · intro h
    funext userID
    exact (h userID).1
  · intro h userID
    refine ⟨congrFun h userID, ?_, ?_⟩
    · rw [openPositionCount_eq_cachedBook, openPositionCount_eq_cachedBook, h, cachedBook_holding]
    · intro _
      constructor
      · rw [hasPositionOnPair_eq_cachedBook, hasPositionOnPair_eq_cachedBook, h, cachedBook_holding]
      · rw [hasCorrelatedExposure_eq_cachedBook, hasCorrelatedExposure_eq_cachedBook, h,
          cachedBook_holding]

section Main

variable {t : CacheRun}

theorem listOrNil_eq_answerOr_iff :
    listOrNil r = answerOr known r ↔ answered r ∨ known = [] := by
  cases r with
  | ok _ => simp [listOrNil, answerOr, answered]
  | error e =>
    simp only [answerOr, answered, Bool.false_eq_true, false_or]
    exact eq_comm

theorem keepsBook_refresh_iff (hs : cachedBook s.users = s.expected)
    (h : cacheStep table s (.refresh userID view created now loaded) = some t) :
    cachedBook t.users = t.expected ↔ LosesNothing s (.refresh userID view created now loaded) := by
  simp only [cacheStep] at h
  cases href : refresh s.users table userID view created now loaded with
  | error e =>
    rw [href] at h
    have hacc := refresh_error href
    rw [← Option.some.inj h]
    simp [LosesNothing, hacc, hs]
  | ok _ =>
    rw [href] at h
    obtain ⟨⟨account, hacc⟩, hbk⟩ := cachedBook_refresh href
    rw [← Option.some.inj h]
    simp only [LosesNothing, hacc, hbk, ← hs, Except.ok.injEq, forall_eq',
      ← listOrNil_eq_answerOr_iff]
    constructor
    · intro heq
      have hat := congrFun heq userID
      simp only [Function.update_self, Book.refreshed, Book.mk.injEq] at hat
      exact hat
    · rintro ⟨hpsn, hpen⟩
      simp only [Book.refreshed, ← hpsn, ← hpen]

theorem keepsBook_step_iff (hs : KeepsBook text s) (a : CacheCall)
    (h : cacheStep table s a = some t) : KeepsBook text t ↔ LosesNothing s a := by
  rw [keepsBook_iff] at hs ⊢
  cases a with
  | refresh userID _ created _ _ => exact keepsBook_refresh_iff hs h
  | adopt userID p created =>
    rw [← Option.some.inj h]
    simp only [LosesNothing, cachedBook_adoptBrokerPosition, hs]
  | replace userID p created =>
    rw [← Option.some.inj h]
    simp only [LosesNothing, cachedBook_replaceBrokerPosition, hs]
  | removeGhost userID _ =>
    rw [← Option.some.inj h]
    simp only [LosesNothing, cachedBook_removeGhostPosition, hs]

theorem keepsBook_throughout_iff (text : CaseMap) (table : PnlTable) (calls : List CacheCall) :
    Throughout (cacheStep table) (KeepsBook text) CacheRun.init calls ↔
      Along (cacheStep table) LosesNothing CacheRun.init calls := by
  have hin : KeepsBook text CacheRun.init := keepsBook_iff.mpr rfl
  exact throughout_iff_along (cacheStep table)
   
    (fun _ _ _ _ _ => trivial)
    (fun _ a _ _ hs h => keepsBook_step_iff hs a h)
    calls trivial hin

end Main

def openEuro : BrokerEntry where
  symbol := "EURUSD"
  orderId := "71"
  direction := "BUY"
  entryPrice := 11 / 10
  lotSize := 1

def outageCalls : List CacheCall :=
  [.refresh "trader" ⟨.ok ⟨10000⟩, .ok [openEuro], .ok []⟩ 0 0 0,
   .refresh "trader" ⟨.ok ⟨10000⟩, .error "timeout", .ok []⟩ 60 60 60]

theorem outage_hides_position :
    (run (cacheStep PnlTable.empty) CacheRun.init outageCalls).map
      (fun s => (s.expected "trader", cachedBook s.users "trader",
        openPositionCount s.users "trader",
        hasPositionOnPair asciiCaseMap s.users "trader" "EURUSD",
        hasCorrelatedExposure asciiCaseMap s.users "trader" "GBPUSD")) =
      some (⟨[openEuro], []⟩, ⟨[], []⟩, 0, false, false) := by
  decide +kernel

end ETradie.Execution
