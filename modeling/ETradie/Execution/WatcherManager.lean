import ETradie.Execution.Models
import ETradie.Kernel.Keyed
import ETradie.Kernel.Runs

namespace ETradie.Execution

open Kernel List Keyed

abbrev TickKey : Type := String × String

structure Armed where
  goroutine : Nat
  order : Order
deriving DecidableEq

namespace Armed

def watcherId (w : Armed) : String := w.order.watcherId

def tickKey (w : Armed) : TickKey := (w.order.userId, w.order.symbol)

def isInstant (w : Armed) : Bool := w.order.executionMode = .instant

def subscribes (k : TickKey) (w : Armed) : Bool := w.isInstant && w.tickKey = k

def ownedBy (user : String) (w : Armed) : Bool := w.order.userId = user

end Armed

structure TickCache where
  subRefs : TickKey → Nat
  pollers : TickKey → Bool
  polled : ∀ k, pollers k = true ↔ 0 < subRefs k

namespace TickCache

def empty : TickCache where
  subRefs := fun _ => 0
  pollers := fun _ => false
  polled := by simp

def subscribe (tc : TickCache) (k : TickKey) : TickCache where
  subRefs := Function.update tc.subRefs k (tc.subRefs k + 1)
  pollers := if tc.subRefs k + 1 = 1 then Function.update tc.pollers k true else tc.pollers
  polled := by
    intro k'
    by_cases hk : k' = k
    · subst hk
      split <;> simp [tc.polled]
      omega
    · split <;> simp [hk, tc.polled]

def unsubscribe (tc : TickCache) (k : TickKey) : TickCache where
  subRefs := Function.update tc.subRefs k (tc.subRefs k - 1)
  pollers := if tc.subRefs k - 1 = 0 then Function.update tc.pollers k false else tc.pollers
  polled := by
    intro k'
    by_cases hk : k' = k
    · subst hk
      split <;> simp [tc.polled] <;> omega
    · split <;> simp [hk, tc.polled]

end TickCache

structure WatcherManager where
  watchers : Keyed Armed.watcherId := Keyed.empty
  (running stopping : List Armed := [])
  spawned : Nat := 0
  tickCache : TickCache := TickCache.empty
  unsubscribing : List TickKey := []
  usage : String → Int := fun _ => 0
  reports : List (String × Int) := []
  taken : List String := []
  shuttingDown : Bool := false

inductive ManagerAction where
  | arm (order : Order)
  | disarm (watcherID : String)
  | done (w : Armed)
  | unsubscribe (k : TickKey)
  | report (r : String × Int)
  | shutdown

namespace WatcherManager

def arm (s : WatcherManager) (order : Order) : WatcherManager :=
  if s.shuttingDown then s
  else
    match s.watchers.get order.watcherId with
    | some _ => s
    | none =>
      let w : Armed := ⟨s.spawned, order⟩
      { s with
        watchers := s.watchers.put w, running := w :: s.running, spawned := s.spawned + 1
        tickCache := if w.isInstant then s.tickCache.subscribe w.tickKey else s.tickCache
        reports := if order.userId = "" then s.reports else (order.userId, 1) :: s.reports }

def disarm (s : WatcherManager) (watcherID : String) : WatcherManager :=
  match s.watchers.get watcherID with
  | none => s
  | some w =>
    { s with
      watchers := s.watchers.delete watcherID, running := s.running.erase w
      stopping := w :: s.stopping
      unsubscribing := if w.isInstant then w.tickKey :: s.unsubscribing else s.unsubscribing
      taken := w.order.userId :: s.taken }

def onWatcherDone (s : WatcherManager) (watcherID : String) : WatcherManager :=
  match s.watchers.get watcherID with
  | none => s
  | some w =>
    { s with
      watchers := s.watchers.delete watcherID
      unsubscribing :=
        if w.order.symbol ≠ "" ∧ w.isInstant then w.tickKey :: s.unsubscribing
        else s.unsubscribing
      reports := if w.order.userId = "" then s.reports else (w.order.userId, -1) :: s.reports }

def step (s : WatcherManager) : ManagerAction → Option WatcherManager
  | .arm order => some (s.arm order)
  | .disarm watcherID => some (s.disarm watcherID)
  | .done w =>
    if w ∈ s.running then
      some (({ s with running := s.running.erase w }).onWatcherDone w.watcherId)
    else if w ∈ s.stopping then
      some (({ s with stopping := s.stopping.erase w }).onWatcherDone w.watcherId)
    else none
  | .unsubscribe k =>
    if k ∈ s.unsubscribing then
      some { s with
        tickCache := s.tickCache.unsubscribe k
        unsubscribing := s.unsubscribing.erase k }
    else none
  | .report r =>
    if r ∈ s.reports then
      some { s with
        usage := Function.update s.usage r.1 (s.usage r.1 + r.2)
        reports := s.reports.erase r }
    else none
  | .shutdown => some { s with shuttingDown := true, tickCache := TickCache.empty }

def tracked (s : WatcherManager) (user : String) : Nat :=
  s.watchers.rows.countP (Armed.ownedBy user)

def owed (s : WatcherManager) (user : String) : Int :=
  total (fun r => if r.1 = user then r.2 else 0) s.reports

def Balanced (user : String) (s : WatcherManager) : Prop :=
  s.usage user + s.owed user = s.tracked user + s.taken.count user

section Accounting

variable {s t : WatcherManager} {user : String}

theorem total_report (hu : user ≠ "") (owner : String) (n : Int)
    (reports : List (String × Int)) :
    total (fun r => if r.1 = user then r.2 else 0)
        (if owner = "" then reports else (owner, n) :: reports) =
      total (fun r => if r.1 = user then r.2 else 0) reports +
        if decide (owner = user) = true then n else 0 := by
  split
  next hnob => simp [hnob, Ne.symm hu]
  next =>
    rw [add_comm]
    simp

theorem balanced_arm (hu : user ≠ "") (hs : s.Balanced user) (order : Order) :
    (s.arm order).Balanced user := by
  unfold arm
  split
  next => exact hs
  next =>
    split
    next => exact hs
    next hfe =>
      have hn : s.watchers.get (Armed.watcherId ⟨s.spawned, order⟩) = none := hfe
      unfold Balanced owed tracked at hs ⊢
      rw [countP_put_new (Armed.ownedBy user) s.watchers hn, total_report hu, Armed.ownedBy]
      split <;> push_cast <;> omega

theorem balanced_disarm (hs : s.Balanced user) (watcherID : String) :
    (s.disarm watcherID).Balanced user := by
  unfold disarm
  split
  next => exact hs
  next w hg =>
    unfold Balanced owed tracked at hs ⊢
    rw [countP_delete (Armed.ownedBy user) hg, Armed.ownedBy] at hs
    split at hs <;> simp_all
    omega

theorem balanced_onWatcherDone (hu : user ≠ "") (hs : s.Balanced user) (watcherID : String) :
    (s.onWatcherDone watcherID).Balanced user := by
  unfold onWatcherDone
  split
  next => exact hs
  next w hg =>
    unfold Balanced owed tracked at hs ⊢
    rw [countP_delete (Armed.ownedBy user) hg, Armed.ownedBy] at hs
    rw [total_report hu]
    split at hs <;> simp_all
    omega

theorem balanced_step (hu : user ≠ "") (hs : s.Balanced user) {a : ManagerAction}
    (h : s.step a = some t) : t.Balanced user := by
  revert h
  fun_cases step s a
  any_goals rintro ⟨⟩
  case case1 order => exact balanced_arm hu hs order
  case case2 watcherID => exact balanced_disarm hs watcherID
  case case3 w _ | case4 w _ _ =>
    refine balanced_onWatcherDone hu ?_ w.watcherId
    exact hs
  case case6 | case10 => exact hs
  case case8 r hr =>
    have how : s.owed user = total (fun r => if r.1 = user then r.2 else 0)
        (r :: s.reports.erase r) :=
      ((perm_cons_erase hr).map _).sum_eq
    unfold Balanced at hs ⊢
    rw [how, total_cons] at hs
    unfold owed tracked at *
    by_cases howr : r.1 = user
    · subst howr
      simp only [Function.update_self, if_true] at hs ⊢
      omega
    · simp only [Function.update_of_ne (Ne.symm howr), if_neg howr, zero_add] at hs ⊢
      exact hs

end Accounting

end WatcherManager

theorem reported_eq_tracked_iff (user : String) (actions : List ManagerAction) (huser : user ≠ "") :
    Throughout WatcherManager.step
      (fun s => s.reports = [] → (s.usage user = s.tracked user ↔ user ∉ s.taken)) {} actions := by
  have hrun := throughout_invariant WatcherManager.step
    (fun s a t hs h => WatcherManager.balanced_step huser hs h) (s := {}) rfl actions
  refine hrun.mono _ fun s hs hqt => ?_
  unfold WatcherManager.Balanced WatcherManager.owed at hs
  rw [hqt, total, map_nil, sum_nil, add_zero] at hs
  rw [← count_eq_zero]
  omega

def watchedOrder : Order where
  orderId := "ORD_1"
  symbol := "EURUSD"
  direction := directionLong
  executionMode := .instant
  entryPrice := 1.1
  stopLoss := 1.09
  lotSize := 0.1
  watcherId := "w1"
  userId := "u1"

theorem reported_of_armed_watcher :
    Throughout WatcherManager.step
      (fun s => s.reports = [] → (s.usage "u1" = s.tracked "u1" ↔ "u1" ∉ s.taken)) {}
      [.arm watchedOrder, .report ("u1", 1)] :=
  reported_eq_tracked_iff "u1" _ (by decide)

theorem disarmed_watcher_still_reported :
    (run WatcherManager.step {}
        [.arm watchedOrder, .report ("u1", 1), .disarm "w1", .unsubscribe ("u1", "EURUSD"),
          .done ⟨0, watchedOrder⟩]).map
        (fun s => (s.reports, s.usage "u1", s.tracked "u1", s.running, s.stopping)) =
      some ([], 1, 0, [], []) := by
  decide +kernel

namespace WatcherManager

def liveStep (s : WatcherManager) : ManagerAction → Option WatcherManager
  | .shutdown => none
  | a => s.step a

structure Mirrors (s : WatcherManager) : Prop where
  mapped : ∀ w ∈ s.running, w ∈ s.watchers.rows
  refs : ∀ k, s.tickCache.subRefs k =
    s.running.countP (Armed.subscribes k) + s.unsubscribing.count k
  polled : ∀ k, s.tickCache.pollers k = true ↔ 0 < s.tickCache.subRefs k

def OwnEntry (s : WatcherManager) : ManagerAction → Prop
  | .done w => ∀ x, s.watchers.get w.watcherId = some x →
      x = w ∧ (x.isInstant = true → x.order.symbol ≠ "")
  | _ => True

structure Registered (s : WatcherManager) : Prop where
  nodup : s.running.Nodup
  live : ∀ w ∈ s.watchers.rows, w ∈ s.running
  older : ∀ w ∈ s.running, w.goroutine < s.spawned

section Mirroring

variable {s t : WatcherManager} {a : ManagerAction} {w x : Armed}

theorem countP_erase (p : Armed → Bool) {l : List Armed} (h : w ∈ l) :
    l.countP p = (l.erase w).countP p + if p w then 1 else 0 := by
  rw [(perm_cons_erase h).countP_eq, countP_cons]

theorem subRefs_subscribe (tc : TickCache) (k k' : TickKey) :
    (tc.subscribe k).subRefs k' = tc.subRefs k' + if k = k' then 1 else 0 := by
  by_cases h : k = k'
  · subst h
    simp [TickCache.subscribe]
  · simp [TickCache.subscribe, h, Ne.symm h]

theorem subRefs_unsubscribe (tc : TickCache) (k k' : TickKey) :
    (tc.unsubscribe k).subRefs k' = tc.subRefs k' - if k = k' then 1 else 0 := by
  by_cases h : k = k'
  · subst h
    simp [TickCache.unsubscribe]
  · simp [TickCache.unsubscribe, h, Ne.symm h]

theorem Registered.arm (hs : s.Registered) (order : Order) : (s.arm order).Registered := by
  unfold WatcherManager.arm
  split
  next => exact hs
  next =>
    split
    next => exact hs
    next =>
      refine ⟨?_, ?_, ?_⟩
      · refine nodup_cons.mpr ⟨fun hm => ?_, hs.nodup⟩
        exact lt_irrefl _ (hs.older _ hm)
      · exact forall_mem_put mem_cons_self fun w hw => mem_cons_of_mem _ (hs.live w hw)
      · exact forall_mem_cons.mpr ⟨Nat.lt_succ_self _,
          fun w hw => (hs.older w hw).trans (Nat.lt_succ_self _)⟩

theorem Registered.remove (hs : s.Registered) (hfe : w ∉ t.watchers.rows)
    (hrw : ∀ x ∈ t.watchers.rows, x ∈ s.watchers.rows) (hrnn : t.running = s.running.erase w)
    (hspa : t.spawned = s.spawned) : t.Registered := by
  refine ⟨?_, ?_, ?_⟩
  · rw [hrnn]
    exact hs.nodup.erase w
  · intro x hx
    rw [hrnn]
    refine (mem_erase_of_ne ?_).mpr (hs.live x (hrw x hx))
    rintro rfl
    exact hfe hx
  · intro x hx
    rw [hspa]
    rw [hrnn] at hx
    exact hs.older x (mem_of_mem_erase hx)

theorem rows_onWatcherDone (s : WatcherManager) (watcherID : String) :
    (s.onWatcherDone watcherID).watchers.rows = (s.watchers.delete watcherID).rows := by
  unfold onWatcherDone
  split
  next hno =>
    have hfe := get_eq_none_iff.mp hno
    refine (filter_eq_self.mpr fun w hw => ?_).symm
    simp only [decide_not, Bool.not_eq_true', decide_eq_false_iff_not]
    exact fun hid => hfe (mem_map.mpr ⟨w, hw, hid⟩)
  next => rfl

theorem onWatcherDone_frame (s : WatcherManager) (watcherID : String) :
    (s.onWatcherDone watcherID).running = s.running ∧
      (s.onWatcherDone watcherID).spawned = s.spawned ∧
      (s.onWatcherDone watcherID).tickCache = s.tickCache := by
  unfold onWatcherDone
  split <;> exact ⟨rfl, rfl, rfl⟩

theorem mem_onWatcherDone {s : WatcherManager} {watcherID : String}
    (h : x ∈ (s.onWatcherDone watcherID).watchers.rows) :
    x ∈ s.watchers.rows ∧ x.watcherId ≠ watcherID := by
  rw [rows_onWatcherDone] at h
  exact mem_delete.mp h

theorem registered_step (hs : s.Registered) (h : s.step a = some t) : t.Registered := by
  revert h
  fun_cases step s a
  any_goals rintro ⟨⟩
  case case1 order => exact hs.arm order
  case case2 watcherID =>
    unfold disarm
    split
    next => exact hs
    next w hg =>
      refine hs.remove ?_ (fun x hx => (mem_delete.mp hx).1) rfl rfl
      exact fun hw => (mem_delete.mp hw).2 (key_of_get hg)
  case case3 w _ =>
    obtain ⟨hrnn, hspa, -⟩ :=
      onWatcherDone_frame { s with running := s.running.erase w } w.watcherId
    exact hs.remove (fun hw => (mem_onWatcherDone hw).2 rfl)
      (fun x hx => (mem_onWatcherDone hx).1) hrnn hspa
  case case4 w _ _ =>
    obtain ⟨hrnn, hspa, -⟩ :=
      onWatcherDone_frame { s with stopping := s.stopping.erase w } w.watcherId
    constructor
    all_goals
      rw [hrnn]
      first | exact hs.nodup | rw [hspa]; exact hs.older | skip
    exact fun x hx => hs.live x (mem_onWatcherDone hx).1
  case case6 | case8 | case10 => exact ⟨hs.nodup, hs.live, hs.older⟩

theorem Mirrors.arm (hs : s.Mirrors) (order : Order) : (s.arm order).Mirrors := by
  unfold WatcherManager.arm
  split
  next => exact hs
  next =>
    split
    next => exact hs
    next hfe =>
      refine ⟨?_, ?_, TickCache.polled _⟩
      · refine forall_mem_cons.mpr ⟨mem_put.mpr (.inl rfl), fun w hw => ?_⟩
        refine mem_put.mpr (.inr ⟨hs.mapped w hw, fun hid => ?_⟩)
        exact get_eq_none_iff.mp hfe (mem_map.mpr ⟨w, hs.mapped w hw, hid⟩)
      · intro k
        dsimp only
        rw [countP_cons, Armed.subscribes]
        split
        next hins =>
          rw [subRefs_subscribe, hs.refs k]
          simp [hins]
          omega
        next hlim => simp [hlim, hs.refs k]

theorem Mirrors.take (hs : s.Mirrors) (hnd : s.running.Nodup) (hw : w ∈ s.running)
    {u : WatcherManager} (hrw : u.watchers.rows = (s.watchers.delete w.watcherId).rows)
    (hrnn : u.running = s.running.erase w) (htick : u.tickCache = s.tickCache) (c : Prop)
    [Decidable c]
    (hcal : u.unsubscribing = if c then w.tickKey :: s.unsubscribing else s.unsubscribing) :
    u.Mirrors ↔ (c ↔ w.isInstant) := by
  have hcnt : ∀ k, s.tickCache.subRefs k = (s.running.erase w).countP (Armed.subscribes k) +
      (if Armed.subscribes k w then 1 else 0) + s.unsubscribing.count k := fun k => by
    rw [hs.refs k, countP_erase (Armed.subscribes k) hw]
  have hmap : ∀ x ∈ u.running, x ∈ u.watchers.rows := by
    intro x hx
    rw [hrnn] at hx
    rw [hrw]
    have hx' := hs.mapped x (mem_of_mem_erase hx)
    refine mem_delete.mpr ⟨hx', fun hid => ?_⟩
    have hsm := eq_of_key_eq s.watchers.unique hx' (hs.mapped w hw) hid
    exact hnd.not_mem_erase (hsm ▸ hx)
  constructor
  · intro hu
    have href := hu.refs w.tickKey
    rw [htick, hcnt, hrnn, hcal] at href
    by_cases hc : c <;> by_cases hins : w.isInstant = true <;>
      simp [hc, hins, Armed.subscribes] at href ⊢
  · intro hc
    refine ⟨hmap, fun k => ?_, htick ▸ s.tickCache.polled⟩
    rw [htick, hcnt, hrnn, hcal]
    by_cases hins : w.isInstant = true
    · rw [if_pos (hc.mpr hins), count_cons]
      simp [Armed.subscribes, hins]
      omega
    · rw [if_neg (mt hc.mp hins)]
      simp [Armed.subscribes, hins]

theorem mirrors_done_iff (hreg : s.Registered) (hs : s.Mirrors)
    (h : s.step (.done w) = some t) : t.Mirrors ↔ s.OwnEntry (.done w) := by
  simp only [step] at h
  split_ifs at h with hrun hsp
  · cases h
    have hg : s.watchers.get w.watcherId = some w := get_key (hs.mapped w hrun)
    obtain ⟨hrnn, -, htick⟩ :=
      onWatcherDone_frame { s with running := s.running.erase w } w.watcherId
    refine (hs.take hreg.nodup hrun
      (u := ({ s with running := s.running.erase w }).onWatcherDone w.watcherId)
      (rows_onWatcherDone _ _) hrnn htick (w.order.symbol ≠ "" ∧ w.isInstant) ?_).trans ?_
    · simp only [onWatcherDone, hg]
    · simp [OwnEntry, hg]
  · cases h
    obtain ⟨hrnn, -, htick⟩ :=
      onWatcherDone_frame { s with stopping := s.stopping.erase w } w.watcherId
    cases hg : s.watchers.get w.watcherId with
    | none =>
      refine iff_of_true ?_ (by simp [OwnEntry, hg])
      simp only [onWatcherDone, hg]
      exact ⟨hs.mapped, hs.refs, hs.polled⟩
    | some x =>
      -- the entry is the one of another goroutine, which runs on without it
      have hx : x ∈ s.running := hreg.live x (mem_of_get hg)
      refine iff_of_false (fun ht => ?_) fun hown => hrun ((hown x hg).1 ▸ hx)
      have hgo := ht.mapped x (by rw [hrnn]; exact hx)
      exact (mem_onWatcherDone hgo).2 (key_of_get hg)

theorem step_of_liveStep (h : s.liveStep a = some t) : s.step a = some t := by
  cases a with
  | shutdown => cases h
  | arm | disarm | done | unsubscribe | report => exact h

theorem mirrors_step_iff (hreg : s.Registered) (hs : s.Mirrors) (h : s.liveStep a = some t) :
    t.Mirrors ↔ s.OwnEntry a := by
  cases a with
  | shutdown => cases h
  | arm order =>
    cases h
    exact iff_of_true (hs.arm order) trivial
  | disarm _ =>
    cases h
    refine iff_of_true ?_ trivial
    unfold disarm
    split
    next => exact hs
    next w hg =>
      obtain rfl := key_of_get hg
      have hw := hreg.live w (mem_of_get hg)
      refine (hs.take hreg.nodup hw ?_ ?_ ?_ (w.isInstant) ?_).mpr Iff.rfl <;> rfl
  | done w => exact mirrors_done_iff hreg hs h
  | unsubscribe k =>
    simp only [liveStep, step] at h
    split_ifs at h with hk
    cases h
    refine iff_of_true ⟨hs.mapped, fun k' => ?_, TickCache.polled _⟩ trivial
    have hcnt := (perm_cons_erase hk).count_eq k'
    rw [count_cons] at hcnt
    rw [subRefs_unsubscribe, hs.refs k', hcnt]
    simp
    omega
  | report r =>
    simp only [liveStep, step] at h
    split_ifs at h
    cases h
    exact iff_of_true ⟨hs.mapped, hs.refs, hs.polled⟩ trivial

end Mirroring

end WatcherManager

theorem mirrors_throughout_iff (actions : List ManagerAction) :
    Throughout WatcherManager.liveStep WatcherManager.Mirrors {} actions ↔
      Along WatcherManager.liveStep WatcherManager.OwnEntry {} actions := by
  refine throughout_iff_along _
    (fun s a t hreg h => WatcherManager.registered_step hreg (WatcherManager.step_of_liveStep h))
    (fun s a t hreg hs h => WatcherManager.mirrors_step_iff hreg hs h) actions ?_ ?_
  · exact ⟨.nil, by simp, by simp⟩
  · exact ⟨by simp, fun k => rfl, TickCache.polled _⟩

theorem rearmed_watcher_lost :
    (run WatcherManager.liveStep {}
        [.arm watchedOrder, .disarm "w1", .unsubscribe ("u1", "EURUSD"), .arm watchedOrder,
          .done ⟨0, watchedOrder⟩, .unsubscribe ("u1", "EURUSD")]).map
        (fun s => (s.running, s.watchers.rows, s.tickCache.subRefs ("u1", "EURUSD"),
          s.tickCache.pollers ("u1", "EURUSD"))) =
      some ([⟨1, watchedOrder⟩], [], 0, false) := by
  decide +kernel

end ETradie.Execution
