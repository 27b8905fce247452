import ETradie.Execution.FillMatching
import ETradie.Execution.WatcherStore
import ETradie.Kernel.Runs

namespace ETradie.Execution

open Kernel List WatcherTable

def watcherTimeoutForStyle (style : TradingStyle) (fallbackMinutes : Int) : Int :=
  if style = styleScalping then 240
  else if style = styleIntraday then 960
  else if style = styleSwing then 4320
  else if style = stylePositional then 10080
  else fallbackMinutes

structure RestartDraw where
  now : Int
  fallbackMinutes : Int := 45
  getUserByID : String → Except String (Option AuthUser)
  issueServiceToken : AuthUser → Except String String
  globalHalted : Except String Bool := .ok false

variable (draw : RestartDraw)

def serviceToken (userID : String) : Option (String × AuthUser) :=
  if userID = "" then none
  else
    match draw.getUserByID userID with
    | .error _ => none
    | .ok none => none
    | .ok (some user) =>
      if user.active then
        match draw.issueServiceToken user with
        | .error _ => none
        | .ok token => some (token, user)
      else none

variable (r : PendingWatcherRecord)

def remainingTimeout : Int :=
  watcherTimeoutForStyle r.tradingStyle draw.fallbackMinutes * 60 - (draw.now - r.createdAt)

def restoredOrder : Option Order :=
  if remainingTimeout draw r ≤ 0 then none
  else
    match serviceToken draw r.userId with
    | none => none
    | some (token, user) =>
      if token = "" then none
      else
        some { restoreOrderFromRecord r token (some user) with
          timeoutOverride := remainingTimeout draw r }

def persist (order : Order) (table : WatcherTable) : WatcherTable :=
  match table.insert (.ok ()) order with
  | .ok table' => table'
  | .error _ => table

def restoreLoop (draw : RestartDraw) :
    List PendingWatcherRecord → WatcherTable × List Order → WatcherTable × List Order
  | [], s => s
  | r :: rest, (table, watchers) =>
    match restoredOrder draw r with
    | none => restoreLoop draw rest (table.delete r.watcherId, watchers)
    | some order => restoreLoop draw rest (persist order table, arm order watchers)

def restorePending (table : WatcherTable) : WatcherTable × List Order :=
  match draw.globalHalted with
  | .ok true => (table, [])
  | _ => restoreLoop draw table.getAllPending (table, [])

structure Service where
  up : Bool
  /-- Limit orders the broker took, with their tickets. -/
  placed : List Order
  filled : List String
  /-- Tickets for which `CancelOrder` was called. -/
  cancelled : List String
  /-- Accepted orders whose submission has not come to `Arm` yet. -/
  (inFlight watchers : List Order)
  table : WatcherTable

def Service.init : Service where
  up := true
  placed := []
  filled := []
  cancelled := []
  inFlight := []
  watchers := []
  table := WatcherTable.empty

inductive CancelCause where
  | timeout
  | newsLockout
  | killSwitch
deriving DecidableEq

inductive ServiceAction where
  /-- The broker accepts an order and the submission gets the answer. -/
  | accept (order : Order) (ticket : String)
  /-- The broker accepts an order and the answer is lost. -/
  | lose (order : Order) (ticket : String)
  /-- The submission goes on: a late order is cancelled, any other one armed. -/
  | settle (ticket : String) (late : Bool)
  | fill (ticket : String)
  | cancel (cause : CancelCause) (watcherID : String)
  | fillCheck (watcherID : String) (reply : Except String (List Mt5Position))
  | crash
  | shutdown
  | restart (draw : RestartDraw)

variable (s : Service)

def Service.retire (watcherID : String) : Service :=
  { s with
    watchers := s.watchers.filter (·.watcherId ≠ watcherID)
    table := s.table.delete watcherID }

def watcherCancel (w : Order) : List String :=
  if w.executionMode = .limit ∧ w.brokerOrderId ≠ "" then [w.brokerOrderId] else []

def Service.admits (order : Order) (ticket : String) : Prop :=
  s.up = true ∧ order.executionMode = .limit ∧ order.userId ≠ "" ∧ ticket ≠ "" ∧
    ∀ o ∈ s.placed, o.brokerOrderId ≠ ticket ∧ o.watcherId ≠ order.watcherId

instance (s : Service) (order : Order) (ticket : String) :
    Decidable (s.admits order ticket) :=
  inferInstanceAs (Decidable (_ ∧ _))

def serviceStep : ServiceAction → Option Service
  | .accept order ticket =>
    if s.admits order ticket then
      let order := { order with brokerOrderId := ticket }
      some { s with placed := order :: s.placed, inFlight := order :: s.inFlight }
    else none
  | .lose order ticket =>
    if s.admits order ticket then
      some { s with placed := { order with brokerOrderId := ticket } :: s.placed }
    else none
  | .settle ticket late =>
    match s.inFlight.find? (·.brokerOrderId = ticket) with
    | none => none
    | some order =>
      let inFlight := s.inFlight.filter (·.brokerOrderId ≠ ticket)
      if late then
        some { s with inFlight := inFlight, cancelled := ticket :: s.cancelled }
      else
        some { s with
          inFlight := inFlight
          watchers := arm order s.watchers
          table := persist order s.table }
  | .fill ticket =>
    if s.placed.any (·.brokerOrderId = ticket) then
      some { s with filled := ticket :: s.filled }
    else none
  | .cancel _ watcherID =>
    match s.watchers.find? (·.watcherId = watcherID) with
    | none => none
    | some w => some { s.retire watcherID with cancelled := watcherCancel w ++ s.cancelled }
  | .fillCheck watcherID reply =>
    match s.watchers.find? (·.watcherId = watcherID) with
    | none => none
    | some w =>
      match checkLimitFillAndHandoff reply w with
      | none => some s
      | some _ => some (s.retire watcherID)
  | .crash => if s.up then some { s with up := false, inFlight := [], watchers := [] } else none
  | .shutdown =>
    -- the server stops accepting calls and waits for the running ones first
    if s.up ∧ s.inFlight = [] then some { s with up := false, watchers := [] } else none
  | .restart draw =>
    if s.up then none
    else
      let (table, watchers) := restorePending draw s.table
      some { s with up := true, table := table, watchers := watchers }

def Service.answersFor (o : Order) : Prop :=
  o.brokerOrderId ∈ s.filled ∨ o.brokerOrderId ∈ s.cancelled ∨
    (∃ w ∈ s.watchers, w.brokerOrderId = o.brokerOrderId) ∨
    (∃ r ∈ s.table.rows, r.brokerOrderId = o.brokerOrderId)

def NoOrphan : Prop := ∀ o ∈ s.placed, o ∈ s.inFlight ∨ s.answersFor o

def Service.over (ticket : String) : Prop := ticket ∈ s.filled ∨ ticket ∈ s.cancelled

def KeepsHold : ServiceAction → Prop
  | .lose _ _ => False
  | .fillCheck watcherID reply =>
    ∀ w, s.watchers.find? (·.watcherId = watcherID) = some w →
      (checkLimitFillAndHandoff reply w).isSome = true → s.over w.brokerOrderId
  | .crash => ∀ o ∈ s.inFlight, s.over o.brokerOrderId
  | .restart draw =>
    draw.globalHalted ≠ .ok true →
      ∀ r ∈ s.table.rows, (restoredOrder draw r).isSome = true ∨ s.over r.brokerOrderId
  | _ => True

variable {table : WatcherTable} {x : PendingWatcherRecord} {order : Order}
variable {watcherID : String}

theorem mem_delete :
    x ∈ (table.delete watcherID).rows ↔ x ∈ table.rows ∧ x.watcherId ≠ watcherID := by
  simp [delete]

theorem row_eq_of_watcherId {y : PendingWatcherRecord} (hx : x ∈ table.rows) (hy : y ∈ table.rows)
    (h : x.watcherId = y.watcherId) : x = y :=
  inj_on_of_nodup_map table.unique hx hy h

theorem has_of_mem (hx : x ∈ table.rows) : table.has x.watcherId := by
  rw [has_eq_true]
  exact mem_map_of_mem hx

variable {id : String}

theorem has_delete :
    (table.delete watcherID).has id ↔ table.has id ∧ id ≠ watcherID := by
  simp only [has_eq_true, mem_map, mem_delete]
  constructor
  · rintro ⟨x, ⟨hx, hne⟩, rfl⟩
    exact ⟨⟨x, hx, rfl⟩, hne⟩
  · rintro ⟨⟨x, hx, rfl⟩, hne⟩
    exact ⟨x, ⟨hx, hne⟩, rfl⟩

theorem persist_of_has (h : table.has order.watcherId) : persist order table = table := by
  have hr : table.has (PendingWatcherRecord.ofOrder order).watcherId := h
  unfold persist WatcherTable.insert
  by_cases hu : order.userId = ""
  · rw [if_pos hu]
  · rw [if_neg hu]
    simp [WatcherTable.insertRow, hr]

theorem mem_persist (hu : order.userId ≠ "") (hn : table.has order.watcherId = false) :
    x ∈ (persist order table).rows ↔ x ∈ table.rows ∨ x = PendingWatcherRecord.ofOrder order := by
  have hr : table.has (PendingWatcherRecord.ofOrder order).watcherId = false := hn
  unfold persist WatcherTable.insert
  rw [if_neg hu]
  exact mem_insertRow hr

theorem has_persist (hu : order.userId ≠ "") (hn : table.has order.watcherId = false) :
    (persist order table).has id ↔ table.has id ∨ id = order.watcherId := by
  simp only [has_eq_true, mem_map, mem_persist hu hn]
  constructor
  · rintro ⟨x, hx | rfl, rfl⟩
    · exact .inl ⟨x, hx, rfl⟩
    · exact .inr rfl
  · rintro (⟨x, hx, rfl⟩ | rfl)
    · exact ⟨x, .inl hx, rfl⟩
    · exact ⟨_, .inr rfl, rfl⟩

theorem arm_of_fresh {watchers : List Order}
    (hn : ∀ w ∈ watchers, w.watcherId ≠ order.watcherId) :
    arm order watchers = watchers ++ [order] := by
  have hany : watchers.any (·.watcherId = order.watcherId) = false := by simpa using hn
  simp [arm, hany]

variable {draw}

theorem restoredOrder_eq_some {r : PendingWatcherRecord} (h : restoredOrder draw r = some order) :
    order.watcherId = r.watcherId ∧ order.brokerOrderId = r.brokerOrderId ∧
      order.executionMode = ExecutionMode.ofText r.executionMode := by
  revert h
  fun_cases restoredOrder draw r
  all_goals rintro ⟨⟩
  exact ⟨rfl, rfl, rfl⟩

theorem restoreLoop_spec (draw : RestartDraw) (rs : List PendingWatcherRecord)
    (table : WatcherTable) (watchers : List Order) (hsub : ∀ r ∈ rs, r ∈ table.rows)
    (hnd : (rs.map PendingWatcherRecord.watcherId).Nodup)
    (hfr : ∀ r ∈ rs, ∀ w ∈ watchers, w.watcherId ≠ r.watcherId) :
    (∀ x, x ∈ (restoreLoop draw rs (table, watchers)).1.rows ↔
      x ∈ table.rows ∧ ∀ r ∈ rs, restoredOrder draw r = none → r.watcherId ≠ x.watcherId) ∧
    (∀ w, w ∈ (restoreLoop draw rs (table, watchers)).2 ↔
      w ∈ watchers ∨ ∃ r ∈ rs, restoredOrder draw r = some w) := by
  induction rs generalizing table watchers with
  | nil => simp [restoreLoop]
  | cons r rest ih =>
    rw [map_cons, nodup_cons] at hnd
    rw [forall_mem_cons] at hsub hfr
    have hdis : ∀ x ∈ rest, x.watcherId ≠ r.watcherId := by
      intro x hx heq
      exact hnd.1 (heq ▸ mem_map_of_mem hx)
    cases hr : restoredOrder draw r with
    | none =>
      have hkp : ∀ x ∈ rest, x ∈ (table.delete r.watcherId).rows := by
        intro x hx
        exact mem_delete.mpr ⟨hsub.2 x hx, hdis x hx⟩
      obtain ⟨hrw, hwat⟩ := ih (table.delete r.watcherId) watchers hkp hnd.2 hfr.2
      simp only [restoreLoop, hr]
      refine ⟨?_, ?_⟩
      · intro x
        rw [hrw x, mem_delete, forall_mem_cons]
        constructor
        · rintro ⟨⟨hx, hne⟩, hoth⟩
          exact ⟨hx, fun _ => Ne.symm hne, hoth⟩
        · rintro ⟨hx, hne, hoth⟩
          exact ⟨⟨hx, Ne.symm (hne hr)⟩, hoth⟩
      · intro w
        rw [hwat w]
        simp [hr]
    | some order =>
      obtain ⟨hid, _, _⟩ := restoredOrder_eq_some hr
      have hhas : table.has order.watcherId := hid ▸ has_of_mem hsub.1
      have harm : arm order watchers = watchers ++ [order] := arm_of_fresh (hid ▸ hfr.1)
      have hfrs : ∀ x ∈ rest, ∀ w ∈ watchers ++ [order], w.watcherId ≠ x.watcherId := by
        intro x hx w hw
        rcases mem_append.mp hw with hold | hl
        · exact hfr.2 x hx w hold
        · rw [mem_singleton.mp hl, hid]
          exact Ne.symm (hdis x hx)
      obtain ⟨hrw, hwat⟩ := ih table (watchers ++ [order]) hsub.2 hnd.2 hfrs
      simp only [restoreLoop, hr, persist_of_has hhas, harm]
      refine ⟨?_, ?_⟩
      · intro x
        rw [hrw x, forall_mem_cons]
        simp [hr]
      · intro w
        rw [hwat w]
        simp only [mem_append, mem_singleton, exists_mem_cons_iff, hr,
          Option.some.injEq, or_assoc, eq_comm]

theorem restorePending_spec (table : WatcherTable) (hha : draw.globalHalted ≠ .ok true) :
    (∀ x, x ∈ (restorePending draw table).1.rows ↔ x ∈ table.rows ∧ restoredOrder draw x ≠ none) ∧
    (∀ w, w ∈ (restorePending draw table).2 ↔ ∃ r ∈ table.rows, restoredOrder draw r = some w) := by
  have hloop : restorePending draw table =
      restoreLoop draw table.getAllPending (table, []) := by
    unfold restorePending
    split
    · next h => exact absurd h hha
    · rfl
  have hpm : table.getAllPending.Perm table.rows := perm_insertionSort _ _
  have hnd : (table.getAllPending.map PendingWatcherRecord.watcherId).Nodup :=
    (hpm.map PendingWatcherRecord.watcherId).nodup_iff.mpr table.unique
  obtain ⟨hrw, hwat⟩ := restoreLoop_spec draw table.getAllPending table []
    (fun r hr => mem_getAllPending.mp hr) hnd (fun _ _ _ hw => absurd hw not_mem_nil)
  rw [hloop]
  refine ⟨?_, ?_⟩
  · intro x
    rw [hrw x]
    constructor
    · rintro ⟨hx, hkp⟩
      refine ⟨hx, ?_⟩
      intro hno
      exact hkp x (mem_getAllPending.mpr hx) hno rfl
    · rintro ⟨hx, hso⟩
      refine ⟨hx, ?_⟩
      intro r hr hno hid
      rw [row_eq_of_watcherId (mem_getAllPending.mp hr) hx hid] at hno
      exact hso hno
  · intro w
    rw [hwat w]
    simp

variable {t : Service} {s} {o w : Order} {ticket : String}

def Service.knows (s : Service) (watcherID ticket : String) : Prop :=
  ∃ o ∈ s.placed, o ∉ s.inFlight ∧ o.watcherId = watcherID ∧ o.brokerOrderId = ticket

structure Accounted (s : Service) : Prop where
  ids : ∀ o ∈ s.placed, ∀ p ∈ s.placed, o.watcherId = p.watcherId → o = p
  tickets : ∀ o ∈ s.placed, ∀ p ∈ s.placed, o.brokerOrderId = p.brokerOrderId → o = p
  limits : ∀ o ∈ s.placed, o.executionMode = .limit ∧ o.userId ≠ "" ∧ o.brokerOrderId ≠ ""
  flying : ∀ o ∈ s.inFlight, o ∈ s.placed
  live : ∀ w ∈ s.watchers, s.knows w.watcherId w.brokerOrderId ∧
    w.executionMode = .limit ∧ s.table.has w.watcherId = true
  kept : ∀ r ∈ s.table.rows, s.knows r.watcherId r.brokerOrderId ∧ r.executionMode = "LIMIT"
  closed : ∀ ticket, s.over ticket → ∃ o ∈ s.placed, o.brokerOrderId = ticket
  down : s.up = false → s.inFlight = [] ∧ s.watchers = []

theorem accounted_init : Accounted Service.init where
  ids := by simp [Service.init]
  tickets := by simp [Service.init]
  limits := by simp [Service.init]
  flying := by simp [Service.init]
  live := by simp [Service.init]
  kept := fun _ hr => absurd hr not_mem_nil
  closed := by rintro ticket (h | h) <;> cases h
  down := fun h => by cases h

theorem Accounted.id_of_ticket (hs : Accounted s) (ho : o ∈ s.placed)
    (h : s.knows watcherID o.brokerOrderId) : o.watcherId = watcherID := by
  obtain ⟨p, hp, _, hid, htkt⟩ := h
  rw [hs.tickets o ho p hp htkt.symm]
  exact hid

theorem Accounted.ticket_of_id (hs : Accounted s) (ho : o ∈ s.placed)
    (h : s.knows o.watcherId ticket) : o.brokerOrderId = ticket := by
  obtain ⟨p, hp, _, hid, htkt⟩ := h
  rw [hs.ids o ho p hp hid.symm]
  exact htkt

theorem Accounted.not_knows_flying (hs : Accounted s) (ho : o ∈ s.inFlight) :
    ¬ s.knows o.watcherId ticket := by
  rintro ⟨p, hp, hlan, hid, _⟩
  rw [hs.ids p hp o (hs.flying o ho) hid] at hlan
  exact hlan ho

theorem Accounted.noOrphan_iff (hs : Accounted s) :
    NoOrphan s ↔ ∀ o ∈ s.placed,
      o ∈ s.inFlight ∨ s.over o.brokerOrderId ∨ s.table.has o.watcherId := by
  refine forall₂_congr fun o ho => or_congr_right ?_
  unfold Service.answersFor Service.over
  rw [or_assoc]
  refine or_congr_right (or_congr_right ⟨?_, ?_⟩)
  · rintro (⟨w, hw, htkt⟩ | ⟨r, hr, htkt⟩)
    · obtain ⟨hkn, -, hhas⟩ := hs.live w hw
      rwa [hs.id_of_ticket ho (htkt ▸ hkn)]
    · rw [hs.id_of_ticket ho (htkt ▸ (hs.kept r hr).1)]
      exact has_of_mem hr
  · intro hhas
    rw [has_eq_true] at hhas
    obtain ⟨r, hr, hid⟩ := mem_map.mp hhas
    exact .inr ⟨r, hr, (hs.ticket_of_id ho (hid ▸ (hs.kept r hr).1)).symm⟩

theorem Accounted.not_has_flying (hs : Accounted s) (ho : o ∈ s.inFlight) :
    s.table.has o.watcherId = false := by
  rw [Bool.eq_false_iff, ne_eq, has_eq_true]
  intro hm
  obtain ⟨r, hr, hid⟩ := mem_map.mp hm
  exact hs.not_knows_flying ho (hid ▸ (hs.kept r hr).1)

theorem knows_mono (hpla : ∀ o ∈ s.placed, o ∈ t.placed)
    (hfli : ∀ o ∈ s.placed, o ∈ t.inFlight → o ∈ s.inFlight) (h : s.knows watcherID ticket) :
    t.knows watcherID ticket := by
  obtain ⟨o, ho, hlan, hid, htkt⟩ := h
  exact ⟨o, hpla o ho, fun hfly => hlan (hfli o ho hfly), hid, htkt⟩

variable {key : Order → String} {orders : List Order}

theorem mem_of_find {k : String}
    (h : orders.find? (fun o => key o = k) = some o) : o ∈ orders ∧ key o = k :=
  ⟨mem_of_find?_eq_some h, by simpa using find?_some h⟩

theorem accounted_retire (hs : Accounted s) (watcherID : String) :
    Accounted (s.retire watcherID) where
  ids := hs.ids
  tickets := hs.tickets
  limits := hs.limits
  flying := hs.flying
  live := by
    intro w hw
    obtain ⟨hw, hne⟩ := mem_filter.mp hw
    obtain ⟨hkn, hlim, hhas⟩ := hs.live w hw
    exact ⟨hkn, hlim, has_delete.mpr ⟨hhas, by simpa using hne⟩⟩
  kept := by
    intro r hr
    exact hs.kept r (mem_delete.mp hr).1
  closed := hs.closed
  down := by
    intro hup
    obtain ⟨hfli, hwat⟩ := hs.down hup
    exact ⟨hfli, by simp [Service.retire, hwat]⟩

theorem key_unique_cons (hn : ∀ p ∈ orders, key p ≠ key o)
    (huni : ∀ p ∈ orders, ∀ q ∈ orders, key p = key q → p = q) :
    ∀ p ∈ o :: orders, ∀ q ∈ o :: orders, key p = key q → p = q := by
  intro p hp q hq heq
  rcases mem_cons.mp hp with rfl | hpold <;> rcases mem_cons.mp hq with rfl | hqold
  · rfl
  · exact absurd heq.symm (hn q hqold)
  · exact absurd heq (hn p hpold)
  · exact huni p hpold q hqold heq

theorem accounted_place (hs : Accounted s) (hadm : s.admits order ticket) {flight : List Order}
    (hfli : ∀ o ∈ flight, o = { order with brokerOrderId := ticket } ∨ o ∈ s.inFlight) :
    Accounted { s with
      placed := { order with brokerOrderId := ticket } :: s.placed
      inFlight := flight } := by
  obtain ⟨hup, hlim, hu, htkt, hn⟩ := hadm
  have hkno : ∀ {watcherID ref : String}, s.knows watcherID ref →
      ({ s with
        placed := { order with brokerOrderId := ticket } :: s.placed
        inFlight := flight } : Service).knows watcherID ref := by
    intro watcherID ref hkn
    refine knows_mono (fun o ho => mem_cons_of_mem _ ho) ?_ hkn
    intro o ho hfly
    refine (hfli o hfly).resolve_left fun hsf => ?_
    exact (hn o ho).1 (congrArg Order.brokerOrderId hsf)
  refine ⟨?_, ?_, ?_, ?_, ?_, ?_, ?_, ?_⟩
  · exact key_unique_cons (fun p hp => (hn p hp).2) hs.ids
  · exact key_unique_cons (fun p hp => (hn p hp).1) hs.tickets
  · exact forall_mem_cons.mpr ⟨⟨hlim, hu, htkt⟩, hs.limits⟩
  · intro o ho
    exact mem_cons.mpr ((hfli o ho).imp_right (hs.flying o))
  · intro w hw
    obtain ⟨hkn, hrs⟩ := hs.live w hw
    exact ⟨hkno hkn, hrs⟩
  · intro r hr
    obtain ⟨hkn, hmo⟩ := hs.kept r hr
    exact ⟨hkno hkn, hmo⟩
  · intro ref hov
    obtain ⟨o, ho, href⟩ := hs.closed ref hov
    exact ⟨o, mem_cons_of_mem _ ho, href⟩
  · intro hdn
    rw [hup] at hdn
    cases hdn

theorem accounted_land (hs : Accounted s) (ticket : String) :
    Accounted { s with
      inFlight := s.inFlight.filter (·.brokerOrderId ≠ ticket) } := by
  have hkno : ∀ {watcherID ref : String}, s.knows watcherID ref →
      ({ s with
        inFlight := s.inFlight.filter (·.brokerOrderId ≠ ticket) } : Service).knows
          watcherID ref := by
    intro watcherID ref hkn
    exact knows_mono (s := s) (fun _ ho => ho) (fun _ _ hfly => mem_of_mem_filter hfly) hkn
  refine ⟨hs.ids, hs.tickets, hs.limits, ?_, ?_, ?_, hs.closed, ?_⟩
  · intro o ho
    exact hs.flying o (mem_of_mem_filter ho)
  · intro w hw
    obtain ⟨hkn, hrs⟩ := hs.live w hw
    exact ⟨hkno hkn, hrs⟩
  · intro r hr
    obtain ⟨hkn, hmo⟩ := hs.kept r hr
    exact ⟨hkno hkn, hmo⟩
  · intro hdn
    obtain ⟨hfli, hwat⟩ := hs.down hdn
    exact ⟨by simp [hfli], hwat⟩

theorem accounted_close {filled cancelled : List String} (hs : Accounted s)
    (hfil : ∀ ref ∈ filled, ref ∈ s.filled ∨ ∃ o ∈ s.placed, o.brokerOrderId = ref)
    (hcan : ∀ ref ∈ cancelled, ref ∈ s.cancelled ∨ ∃ o ∈ s.placed, o.brokerOrderId = ref) :
    Accounted { s with filled := filled, cancelled := cancelled } := by
  refine ⟨hs.ids, hs.tickets, hs.limits, hs.flying, hs.live, hs.kept, ?_, hs.down⟩
  rintro ref (hin | hin)
  · exact (hfil ref hin).elim (fun hold => hs.closed ref (.inl hold)) id
  · exact (hcan ref hin).elim (fun hold => hs.closed ref (.inr hold)) id

theorem accounted_cancelled (hs : Accounted s)
    (hpla : ∃ o ∈ s.placed, o.brokerOrderId = ticket) :
    Accounted { s with cancelled := ticket :: s.cancelled } :=
  accounted_close hs (fun _ => .inl) (forall_mem_cons.mpr ⟨.inr hpla, fun _ => .inl⟩)

theorem accounted_watch (hs : Accounted s) (hup : s.up) (ho : order ∈ s.placed)
    (hlan : order ∉ s.inFlight) (hfr : ∀ w ∈ s.watchers, w.watcherId ≠ order.watcherId)
    (hn : s.table.has order.watcherId = false) :
    Accounted { s with
      watchers := arm order s.watchers
      table := persist order s.table } := by
  obtain ⟨hlim, hu, _⟩ := hs.limits order ho
  have hsf : s.knows order.watcherId order.brokerOrderId := ⟨order, ho, hlan, rfl, rfl⟩
  refine ⟨hs.ids, hs.tickets, hs.limits, hs.flying, ?_, ?_, hs.closed, ?_⟩
  · intro w hw
    rw [arm_of_fresh hfr] at hw
    rcases mem_append.mp hw with hold | hl
    · obtain ⟨hkn, hmo, hhas⟩ := hs.live w hold
      exact ⟨hkn, hmo, (has_persist hu hn).mpr (.inl hhas)⟩
    · rw [mem_singleton.mp hl]
      exact ⟨hsf, hlim, (has_persist hu hn).mpr (.inr rfl)⟩
  · intro r hr
    rcases (mem_persist hu hn).mp hr with hold | hwri
    · exact hs.kept r hold
    · rw [hwri]
      refine ⟨hsf, ?_⟩
      simp [PendingWatcherRecord.ofOrder, hlim, ExecutionMode.text]
  · intro hdn
    rw [show s.up = false from hdn] at hup
    cases hup

theorem accounted_settle (hs : Accounted s) (ho : order ∈ s.inFlight) :
    Accounted { s with
      inFlight := s.inFlight.filter (·.brokerOrderId ≠ order.brokerOrderId)
      watchers := arm order s.watchers
      table := persist order s.table } := by
  have hup : s.up := by
    by_contra hdn
    rw [(hs.down (by simpa using hdn)).1] at ho
    cases ho
  have hfr : ∀ w ∈ s.watchers, w.watcherId ≠ order.watcherId := fun w hw hid =>
    hs.not_knows_flying ho (hid ▸ (hs.live w hw).1)
  exact accounted_watch (accounted_land hs order.brokerOrderId) hup (hs.flying order ho) (by simp)
    hfr (hs.not_has_flying ho)

theorem Accounted.watcherCancel_eq (hs : Accounted s) (hw : w ∈ s.watchers) :
    watcherCancel w = [w.brokerOrderId] := by
  obtain ⟨⟨o, ho, _, _, htkt⟩, hlim, _⟩ := hs.live w hw
  have hne : w.brokerOrderId ≠ "" := by
    rw [← htkt]
    exact (hs.limits o ho).2.2
  rw [watcherCancel, if_pos ⟨hlim, hne⟩]

theorem accounted_stop (hs : Accounted s) :
    Accounted { s with up := false, inFlight := [], watchers := [] } := by
  refine ⟨hs.ids, hs.tickets, hs.limits, ?_, ?_, ?_, hs.closed, fun _ => ⟨rfl, rfl⟩⟩
  · simp
  · simp
  · intro r hr
    obtain ⟨⟨o, ho, _, hid, htkt⟩, hmo⟩ := hs.kept r hr
    exact ⟨⟨o, ho, not_mem_nil, hid, htkt⟩, hmo⟩

theorem restorePending_halted (table : WatcherTable) (hha : draw.globalHalted = .ok true) :
    restorePending draw table = (table, []) := by
  unfold restorePending
  rw [hha]

theorem accounted_restart (hs : Accounted s) (draw : RestartDraw) :
    Accounted { s with
      up := true
      table := (restorePending draw s.table).1
      watchers := (restorePending draw s.table).2 } := by
  by_cases hha : draw.globalHalted = .ok true
  · rw [restorePending_halted s.table hha]
    exact ⟨hs.ids, hs.tickets, hs.limits, hs.flying, by simp, hs.kept, hs.closed, by simp⟩
  · obtain ⟨hrw, hwat⟩ := restorePending_spec s.table hha
    refine ⟨hs.ids, hs.tickets, hs.limits, hs.flying, ?_, ?_, hs.closed, ?_⟩
    · intro w hw
      obtain ⟨r, hr, hres⟩ := (hwat w).mp hw
      obtain ⟨hid, htkt, hmo⟩ := restoredOrder_eq_some hres
      obtain ⟨hkn, hlim⟩ := hs.kept r hr
      refine ⟨?_, ?_, ?_⟩
      · rw [hid, htkt]
        exact hkn
      · rw [hmo, hlim]
        rfl
      · rw [hid]
        exact has_of_mem ((hrw r).mpr ⟨hr, by simp [hres]⟩)
    · intro r hr
      exact hs.kept r ((hrw r).mp hr).1
    · simp

theorem has_restorePending (hha : draw.globalHalted ≠ .ok true) :
    (restorePending draw table).1.has id ↔
      ∃ r ∈ table.rows, (restoredOrder draw r).isSome ∧ r.watcherId = id := by
  simp only [has_eq_true, mem_map, (restorePending_spec table hha).1,
    Option.isSome_iff_ne_none, and_assoc]

theorem accounted_step (hs : Accounted s) (a : ServiceAction) (h : serviceStep s a = some t) :
    Accounted t := by
  revert h
  fun_cases serviceStep s a
  -- the paths that end without a successor are closed here
  all_goals rintro ⟨⟩
  · next hadm _ => exact accounted_place hs hadm fun _ => mem_cons.mp
  · next hadm => exact accounted_place hs hadm fun _ => .inr
  · next ticket order hf _ =>
    obtain ⟨ho, htkt⟩ := mem_of_find hf
    exact accounted_cancelled (accounted_land hs ticket) ⟨order, hs.flying order ho, htkt⟩
  · next hf _ _ =>
    obtain ⟨ho, rfl⟩ := mem_of_find hf
    exact accounted_settle hs ho
  · next hpla =>
    refine accounted_close hs ?_ (fun _ => .inl)
    exact forall_mem_cons.mpr ⟨.inr (by simpa using hpla), fun _ => .inl⟩
  · next _ w hf =>
    obtain ⟨hw, rfl⟩ := mem_of_find hf
    obtain ⟨⟨o, ho, -, -, htkt⟩, -⟩ := hs.live w hw
    rw [hs.watcherCancel_eq hw]
    exact accounted_cancelled (accounted_retire hs w.watcherId) ⟨o, ho, htkt⟩
  · exact hs
  · exact accounted_retire hs _
  · exact accounted_stop hs
  · next hgrd => exact hgrd.2 ▸ accounted_stop hs
  · next draw _ _ _ hres =>
    have haft := accounted_restart hs draw
    rwa [hres] at haft

theorem noOrphan_restart_iff (draw : RestartDraw) (hs : Accounted s) (hcov : NoOrphan s) :
    NoOrphan { s with
      up := true
      table := (restorePending draw s.table).1
      watchers := (restorePending draw s.table).2 } ↔ KeepsHold s (.restart draw) := by
  rw [(accounted_restart hs draw).noOrphan_iff]
  rw [hs.noOrphan_iff] at hcov
  by_cases hha : draw.globalHalted = .ok true
  · rw [restorePending_halted s.table hha]
    exact iff_of_true hcov (absurd hha)
  · constructor
    · intro hno _ r hr
      obtain ⟨o, ho, hlan, hid, htkt⟩ := (hs.kept r hr).1
      rcases (hno o ho).resolve_left hlan with hov | hhas
      · exact .inr (htkt ▸ hov)
      · obtain ⟨x, hx, hso, hxid⟩ := (has_restorePending hha).mp hhas
        rw [row_eq_of_watcherId hx hr (hxid.trans hid)] at hso
        exact .inl hso
    · intro hkp o ho
      refine (hcov o ho).imp_right (Or.rec .inl fun hhas => ?_)
      rw [has_eq_true] at hhas
      obtain ⟨r, hr, hid⟩ := mem_map.mp hhas
      rcases hkp hha r hr with hso | hov
      · exact .inr ((has_restorePending hha).mpr ⟨r, hr, hso, hid⟩)
      · have htkt := hs.ticket_of_id ho (hid ▸ (hs.kept r hr).1)
        exact .inl (htkt ▸ hov)

theorem noOrphan_step_iff (hs : Accounted s) (hcov : NoOrphan s) (a : ServiceAction)
    (h : serviceStep s a = some t) : NoOrphan t ↔ KeepsHold s a := by
  have hcvs := hs.noOrphan_iff.mp hcov
  rw [(accounted_step hs a h).noOrphan_iff]
  revert h
  fun_cases serviceStep s a
  -- the paths that end without a successor are closed here
  all_goals rintro ⟨⟩
  · refine iff_of_true (forall_mem_cons.mpr ⟨.inl mem_cons_self, ?_⟩) trivial
    intro o ho
    exact (hcvs o ho).imp_left (mem_cons_of_mem _)
  · next order ticket hadm =>
    have hn := hadm.2.2.2.2
    refine iff_of_false (fun hno => ?_) id
    rcases hno _ mem_cons_self with hfly | hov | hhas
    · exact (hn _ (hs.flying _ hfly)).1 rfl
    · obtain ⟨o, ho, htkt⟩ := hs.closed ticket hov
      exact (hn o ho).1 htkt
    · rw [has_eq_true] at hhas
      obtain ⟨r, hr, hid⟩ := mem_map.mp hhas
      obtain ⟨o, ho, -, hoid, -⟩ := (hs.kept r hr).1
      exact (hn o ho).2 (hoid.trans hid)
  · next ticket order hf _ =>
    refine iff_of_true (fun o ho => ?_) trivial
    by_cases htkt : o.brokerOrderId = ticket
    · exact .inr (.inl (.inr (htkt ▸ mem_cons_self)))
    · exact (hcvs o ho).imp (fun hfly => mem_filter.mpr ⟨hfly, by simpa using htkt⟩)
        (Or.imp_left (Or.imp_right (mem_cons_of_mem _)))
  · next ticket order hf _ _ =>
    obtain ⟨hflg, rfl⟩ := mem_of_find hf
    have hn := hs.not_has_flying hflg
    have hpla := hs.flying order hflg
    have hu := (hs.limits order hpla).2.1
    refine iff_of_true (fun o ho => ?_) trivial
    by_cases htkt : o.brokerOrderId = order.brokerOrderId
    · rw [hs.tickets o ho order hpla htkt]
      exact .inr (.inr ((has_persist hu hn).mpr (.inr rfl)))
    · exact (hcvs o ho).imp (fun hfly => mem_filter.mpr ⟨hfly, by simpa using htkt⟩)
        (Or.imp_right fun hhas => (has_persist hu hn).mpr (.inl hhas))
  · refine iff_of_true (fun o ho => (hcvs o ho).imp_right ?_) trivial
    exact Or.imp_left (Or.imp_left (mem_cons_of_mem _))
  · next _ w hf =>
    obtain ⟨hw, rfl⟩ := mem_of_find hf
    refine iff_of_true (fun o ho => ?_) trivial
    rw [hs.watcherCancel_eq hw]
    by_cases hsf : o.watcherId = w.watcherId
    · have htkt := hs.ticket_of_id ho (hsf ▸ (hs.live w hw).1)
      exact .inr (.inl (.inr (htkt ▸ mem_cons_self)))
    · exact (hcvs o ho).imp_right (Or.imp (Or.imp_right (mem_cons_of_mem _))
        fun hhas => has_delete.mpr ⟨hhas, hsf⟩)
  · next hf hchk => exact iff_of_true hcvs (by simp [KeepsHold, hf, hchk])
  · next hf _ hchk =>
    obtain ⟨hw, rfl⟩ := mem_of_find hf
    obtain ⟨o, ho, hlan, hsf, htkt⟩ := (hs.live _ hw).1
    simp only [KeepsHold, hf, hchk, Option.some.injEq, forall_eq', Option.isSome_some,
      forall_const, ← htkt]
    constructor
    · intro hno
      refine ((hno o ho).resolve_left hlan).resolve_right fun hhas => ?_
      exact (has_delete.mp hhas).2 hsf
    · intro hov p hp
      by_cases hpid : p.watcherId = o.watcherId
      · rw [hs.ids p hp o ho hpid]
        exact .inr (.inl hov)
      · exact (hcvs p hp).imp_right (Or.imp_right fun hhas => has_delete.mpr ⟨hhas, hsf ▸ hpid⟩)
  · constructor
    · intro hno o ho
      refine ((hno o (hs.flying o ho)).resolve_left not_mem_nil).resolve_right ?_
      exact Bool.eq_false_iff.mp (hs.not_has_flying ho)
    · intro hov o ho
      exact .inr ((hcvs o ho).elim (fun hfly => .inl (hov o hfly)) id)
  · next hgrd =>
    rw [hgrd.2] at hcvs
    refine iff_of_true ?_ trivial
    rw [hgrd.2]
    exact hcvs
  · next draw _ _ _ hres =>
    have haft := noOrphan_restart_iff draw hs hcov
    rwa [(accounted_restart hs draw).noOrphan_iff, hres] at haft

theorem noOrphan_throughout_iff (actions : List ServiceAction) :
    Throughout serviceStep NoOrphan Service.init actions ↔
      Along serviceStep KeepsHold Service.init actions := by
  have hin : NoOrphan Service.init := by
    intro o ho
    cases ho
  exact throughout_iff_along serviceStep
    (fun _ a _ hs h => accounted_step hs a h)
    (fun _ a _ hs hcov h => noOrphan_step_iff hs hcov a h)
    actions accounted_init hin

def intradayLimit : Order where
  orderId := "ORD_EURUSD_1"
  watcherId := "LMT_EURUSD_1"
  symbol := "EURUSD"
  direction := directionLong
  executionMode := .limit
  entryPrice := 11 / 10
  stopLoss := 109 / 100
  lotSize := 1
  tradingStyle := styleIntraday
  userId := "trader"

def activeTrader : AuthUser where
  username := "trader"
  role := "etradie"
  tier := "free"
  status := "active"
  active := true

def restartAt (now : Int) : RestartDraw where
  now := now
  getUserByID := fun _ => .ok (some activeTrader)
  issueServiceToken := fun _ => .ok "service-token"

def longStop : List ServiceAction :=
  [.accept intradayLimit "70", .settle "70" false, .shutdown, .restart (restartAt 57600)]

theorem expired_row_orphans_order :
    (run serviceStep Service.init longStop).map
      (fun s => (s.placed.map Order.brokerOrderId, s.filled ++ s.cancelled, s.inFlight.length,
        s.watchers.length, s.table.rows.length)) =
      some (["70"], [], 0, 0, 0) := by
  decide +kernel

end ETradie.Execution
