import ETradie.Execution.Watching

/-!
# Deadlines of restored watchers

A restart turns the deadline of a row into a remaining time and that, when the watcher's goroutine
starts, back into a deadline.
-/

namespace ETradie.Execution

open Kernel

variable (fallbackMinutes : Int)

def runTimeout (order : Order) : Int :=
  if 0 < order.timeoutOverride then order.timeoutOverride
  else watcherTimeoutForStyle order.tradingStyle fallbackMinutes * 60

structure TimedWatcher where
  order : Order
  (startedAt fallbackMinutes : Int)
  restored : Option Int

def TimedWatcher.deadline (w : TimedWatcher) : Int :=
  w.startedAt + runTimeout w.fallbackMinutes w.order

structure WatchRun where
  table : WatcherTable
  watchers : List TimedWatcher

inductive WatchAction where
  | arm (order : Order) (startedAt fallbackMinutes : Int)
  | finish (watcherID : String) (rowDeleted : Bool)
  | stop
  | restart (draw : RestartDraw) (start : String → Int)

variable (s : WatchRun)

def WatchRun.step : WatchAction → Option WatchRun
  | .arm order startedAt fallbackMinutes =>
    if s.watchers.any (·.order.watcherId = order.watcherId) then some s
    else
      some
        { table := persist order s.table
          watchers := ⟨order, startedAt, fallbackMinutes, none⟩ :: s.watchers }
  | .finish watcherID rowDeleted =>
    some
      { table := if rowDeleted then s.table.delete watcherID else s.table
        watchers := s.watchers.filter (·.order.watcherId ≠ watcherID) }
  | .stop => some { s with watchers := [] }
  | .restart draw start =>
    let restored := restorePending draw s.table
    if restored.2.all (fun order => draw.now ≤ start order.watcherId) then
      some
        { table := restored.1
          watchers := restored.2.map (fun order =>
            ⟨order, start order.watcherId, draw.fallbackMinutes, some draw.now⟩) }
    else none

def rowDeadline (r : PendingWatcherRecord) : Int :=
  r.createdAt + watcherTimeoutForStyle r.tradingStyle fallbackMinutes * 60

def WatchRun.OnTime : Prop :=
  ∀ w ∈ s.watchers, ∀ now, w.restored = some now →
    now ≤ w.startedAt ∧ ∃ r ∈ s.table.rows, r.watcherId = w.order.watcherId ∧
      w.deadline = rowDeadline w.fallbackMinutes r + (w.startedAt - now)

/-- Every restored watcher has the deadline of its row. -/
def WatchRun.KeepsDeadlines : Prop :=
  ∀ w ∈ s.watchers, ∀ now, w.restored = some now →
    ∃ r ∈ s.table.rows, r.watcherId = w.order.watcherId ∧
      w.deadline = rowDeadline w.fallbackMinutes r

/-- A restart starts its timers at the instant at which it has read the clock. -/
def WatchRun.Prompt : WatchAction → Prop
  | .restart draw start =>
    ∀ order ∈ (restorePending draw s.table).2, start order.watcherId = draw.now
  | _ => True

section Restarts

variable {t : WatchRun} {s} {a : WatchAction} {draw : RestartDraw} {r : PendingWatcherRecord}
variable {order : Order}

theorem runTimeout_restored (h : restoredOrder draw r = some order) (fallbackMinutes : Int) :
    runTimeout fallbackMinutes order = rowDeadline draw.fallbackMinutes r - draw.now := by
  revert h
  fun_cases restoredOrder draw r
  any_goals rintro ⟨⟩
  next hlf _ _ _ _ =>
    rw [runTimeout, if_pos (not_le.mp hlf)]
    dsimp only
    unfold remainingTimeout rowDeadline
    omega

theorem mem_persist_of_mem (hr : r ∈ s.table.rows) : r ∈ (persist order s.table).rows := by
  unfold persist WatcherTable.insert
  split
  next _ hins =>
    split_ifs at hins
    cases hins
    unfold WatcherTable.insertRow
    split
    next => exact hr
    next => exact List.mem_append_left _ hr
  next => exact hr

theorem exists_row_of_restored (h : order ∈ (restorePending draw s.table).2) :
    ∃ r ∈ (restorePending draw s.table).1.rows, restoredOrder draw r = some order := by
  by_cases hha : draw.globalHalted = .ok true
  · simp [restorePending, hha] at h
  · obtain ⟨hrw, hwat⟩ := restorePending_spec s.table hha
    obtain ⟨r, hr, hres⟩ := (hwat order).mp h
    exact ⟨r, (hrw r).mpr ⟨hr, by simp [hres]⟩, hres⟩

theorem onTime_step (hs : s.OnTime) (h : s.step a = some t) : t.OnTime := by
  revert h
  fun_cases WatchRun.step s a
  any_goals rintro ⟨⟩
  case case1 => exact hs
  case case2 order startedAt fallbackMinutes _ =>
    intro w hw now hnow
    rcases List.mem_cons.mp hw with rfl | ho
    · cases hnow
    · obtain ⟨hle, r, hr, hrow⟩ := hs w ho now hnow
      exact ⟨hle, r, mem_persist_of_mem hr, hrow⟩
  case case3 watcherID rowDeleted =>
    intro w hw now hnow
    obtain ⟨hm, hoth⟩ := List.mem_filter.mp hw
    obtain ⟨hle, r, hr, hid, hrow⟩ := hs w hm now hnow
    refine ⟨hle, r, ?_, hid, hrow⟩
    split
    next => exact mem_delete.mpr ⟨hr, by simpa [hid] using hoth⟩
    next => exact hr
  case case4 => exact fun w hw => nomatch hw
  case case5 draw start restored hsta =>
    intro w hw now hnow
    obtain ⟨order, hord, rfl⟩ := List.mem_map.mp hw
    cases hnow
    obtain ⟨r, hr, hres⟩ := exists_row_of_restored hord
    refine ⟨by simpa using List.all_eq_true.mp hsta order hord, r, hr,
      (restoredOrder_eq_some hres).1.symm, ?_⟩
    unfold TimedWatcher.deadline
    rw [runTimeout_restored hres]
    dsimp only
    omega

theorem WatchRun.OnTime.keepsDeadlines_iff (hs : s.OnTime) :
    s.KeepsDeadlines ↔ ∀ w ∈ s.watchers, ∀ now, w.restored = some now → w.startedAt = now := by
  refine forall₂_congr fun w hw => forall₂_congr fun now hnow => ?_
  obtain ⟨-, r, hr, hid, hdeadline⟩ := hs w hw now hnow
  constructor
  · rintro ⟨r', hr', hid', hkept⟩
    cases List.inj_on_of_nodup_map s.table.unique hr hr' (hid.trans hid'.symm)
    omega
  · intro hprompt
    exact ⟨r, hr, hid, by omega⟩

theorem keepsDeadlines_step_iff (hs : s.OnTime) (hkept : s.KeepsDeadlines)
    (h : s.step a = some t) : t.KeepsDeadlines ↔ s.Prompt a := by
  rw [(onTime_step hs h).keepsDeadlines_iff]
  rw [hs.keepsDeadlines_iff] at hkept
  revert h
  fun_cases WatchRun.step s a
  any_goals rintro ⟨⟩
  case case1 => exact iff_of_true hkept trivial
  case case2 => simpa [WatchRun.Prompt] using hkept
  case case3 => exact iff_of_true (fun w hw => hkept w (List.mem_of_mem_filter hw)) trivial
  case case4 => simp [WatchRun.Prompt]
  case case5 draw start restored _ => simp [WatchRun.Prompt, restored]

/-- A restored watcher is late by exactly the delay of its restart, however often its row has been
restored; so it keeps the row's deadline iff there is no delay. -/
theorem restored_deadline (table : WatcherTable) (actions : List WatchAction) :
    Throughout WatchRun.step WatchRun.OnTime ⟨table, []⟩ actions ∧
      (Throughout WatchRun.step WatchRun.KeepsDeadlines ⟨table, []⟩ actions ↔
        Along WatchRun.step WatchRun.Prompt ⟨table, []⟩ actions) := by
  have hstart : WatchRun.OnTime ⟨table, []⟩ := by simp [WatchRun.OnTime]
  constructor
  · exact throughout_invariant WatchRun.step (fun _ _ _ hs h => onTime_step hs h) hstart actions
  · exact throughout_iff_along WatchRun.step (fun _ _ _ hs h => onTime_step hs h)
      (fun _ _ _ hs hkept h => keepsDeadlines_step_iff hs hkept h) actions hstart
      (by simp [WatchRun.KeepsDeadlines])

end Restarts

/-- Five seconds pass between the reading of the clock and the start of the timer. -/
theorem deadline_late_by_delay :
    (run WatchRun.step ⟨WatcherTable.empty, []⟩
        [.arm intradayLimit 0 45, .stop, .restart (restartAt 3600) (fun _ => 3605)]).map
        (fun s => s.watchers.map (fun w =>
          (w.deadline, s.table.rows.map (rowDeadline w.fallbackMinutes)))) =
      some [(57605, [57600])] := by
  decide +kernel

end ETradie.Execution
