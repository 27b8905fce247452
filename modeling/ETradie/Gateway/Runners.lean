import ETradie.Kernel.Keyed
import Mathlib.Data.List.TakeWhile

/-!
# The scheduler's loops

`reconcileUserRunners` starts and stops the loops of the users of a listing.  A loop keeps the
record of the listing that has started it.
-/

namespace ETradie.Gateway.Runners

open Kernel List Option Keyed

structure User where
  id : String
  username : String := ""
  role : String := "trader"
  tier : String
  status : String := "active"
  active : Bool := true

def User.free (u : User) : Bool := u.role ≠ "admin" && u.tier = "free"

def User.scheduled (u : User) : Bool := u.active && !u.free

abbrev Users := Keyed User.id

variable (runners : Users)

def start (u : User) : Users :=
  if (runners.get u.id).isSome ∨ u.free then runners else runners.put u

def reconcileUserRunners : Option Users → Users
  | none => runners
  | some users =>
    let activeIDs := users.retain User.active
    let kept := runners.retain (fun r => (activeIDs.get r.id).any (fun u => !u.free))
    activeIDs.rows.foldl start kept

structure Claims where
  (userId username role tier status : String)

def issueUserServiceContext (issued : Bool) (u : User) : Option Claims :=
  if issued then
    some { u with userId := u.id }
  else none

theorem scheduled_iff {u : User} :
    u.scheduled ↔ u.active ∧ (u.role = "admin" ∨ u.tier ≠ "free") := by
  simp [User.scheduled, User.free]

theorem get_foldl_start (us : List User) (runners : Users) (id : String) :
    (us.foldl start runners).get id =
      (runners.get id).or ((us.filter (fun u => !u.free)).find? (·.id = id)) := by
  induction us generalizing runners with
  | nil => simp
  | cons u us ih =>
    rw [foldl_cons, ih]
    unfold start
    cases hfe : u.free with
    | true => simp [hfe]
    | false =>
      by_cases hid : u.id = id
      · subst hid
        cases hrun : runners.get u.id <;> simp [hrun, hfe]
      · split <;> simp [hid, get_put]

theorem get_reconcile (users : Users) (id : String) :
    (reconcileUserRunners runners (some users)).get id =
      ((users.get id).filter User.scheduled).map (fun u => (runners.get id).getD u) := by
  have hsta : ((users.retain User.active).rows.filter (fun u => !u.free)).find?
      (·.id = id) = (users.get id).filter User.scheduled := by
    change ((users.retain User.active).retain (fun u => !u.free)).get id = _
    rw [get_retain, get_retain, Option.filter_filter]
    rfl
  have hkp : (runners.retain (fun r => ((users.retain User.active).get r.id).any
      (fun u => !u.free))).get id =
        if ((users.get id).filter User.scheduled).isSome then runners.get id else none := by
    rw [get_retain]
    cases hrun : runners.get id with
    | none => simp
    | some r =>
      rw [filter_some, key_of_get hrun, get_retain]
      cases users.get id with
      | none => rfl
      | some u => cases hact : u.active <;> cases hfe : u.free <;> simp [User.scheduled, hact]
  rw [reconcileUserRunners, get_foldl_start, hsta, hkp]
  cases (users.get id).filter User.scheduled with
  | none => rfl
  | some u => cases runners.get id <;> rfl

def entitles (id : String) (users : Users) : Bool := (users.get id).any User.scheduled

variable (listings : List (Option Users))

/-- The listing that has started the user's present loop: the first of the unbroken series of
entitling listings that ends with the latest one. -/
def loopStart (id : String) : Option Users :=
  ((listings.filterMap (·)).reverse.takeWhile (entitles id)).getLast?

/-- Every loop was started with the tier and status of the latest listing. -/
def Steady (latest : Users) : Prop :=
  ∀ u ∈ latest.rows, ∀ first ∈ loopStart (listings ++ [some latest]) u.id, ∀ v ∈ first.rows,
    v.id = u.id → v.tier = u.tier ∧ v.status = u.status

section Loops

variable {listings} {id : String} {users first : Users}

theorem entitles_iff : entitles id users ↔ ∃ u, users.get id = some u ∧ u.scheduled := by
  simp [entitles, Option.any_eq_true]

theorem loopStart_append_some : loopStart (listings ++ [some users]) id =
    if entitles id users then some ((loopStart listings id).getD users) else none := by
  have hlatest : ((listings ++ [some users]).filterMap (·)).reverse =
      users :: (listings.filterMap (·)).reverse := by simp
  rw [loopStart, hlatest, takeWhile_cons]
  split
  · rw [getLast?_cons]
    rfl
  · rfl

theorem entitles_loopStart (h : first ∈ loopStart listings id) : entitles id first :=
  mem_takeWhile_imp (mem_of_getLast? h)

theorem get_foldl_reconcile (listings : List (Option Users)) (id : String) :
    (listings.foldl reconcileUserRunners Keyed.empty).get id =
      (loopStart listings id).bind (fun first => first.get id) := by
  induction listings using List.reverseRecOn with
  | nil => rfl
  | append_singleton listings listing ih =>
    rw [foldl_append]
    cases listing with
    | none =>
      rw [foldl_cons, foldl_nil, reconcileUserRunners, ih]
      simp [loopStart]
    | some users =>
      rw [foldl_cons, foldl_nil, get_reconcile, ih, loopStart_append_some]
      by_cases hnow : entitles id users
      · obtain ⟨u, hu, hsch⟩ := entitles_iff.mp hnow
        cases hfirst : loopStart listings id with
        | none => simp [hnow, hu, hsch]
        | some first =>
          obtain ⟨v, hv, -⟩ := entitles_iff.mp (entitles_loopStart hfirst)
          simp [hnow, hu, hsch, hv]
      · have hout : (users.get id).filter User.scheduled = none := by
          rw [Option.filter_eq_none_iff]
          intro u hu hsch
          exact hnow (entitles_iff.mpr ⟨u, hu, hsch⟩)
        simp [hnow, hout]

theorem foldl_failures (n : Nat) :
    (List.replicate n none).foldl reconcileUserRunners runners = runners := by
  induction n with
  | zero => rfl
  | succ n ih => exact ih

/-- The loops are those of the entitled users, whatever was listed before; what they run with is
the latest listing iff no loop was started with another tier or status. -/
theorem runners_track_entitlement (listings : List (Option Users)) (users : Users)
    (failures : Nat) :
    let runners := (listings ++ some users :: List.replicate failures none).foldl
      reconcileUserRunners Keyed.empty
    (∀ id, id ∈ runners.rows.map User.id ↔
      ∃ u ∈ users.rows, u.id = id ∧ u.active = true ∧ (u.role = "admin" ∨ u.tier ≠ "free")) ∧
    (runners.rows.map User.id).Nodup ∧
    ((∀ r ∈ runners.rows, ∃ u ∈ users.rows, u.id = r.id ∧
      ∀ claims ∈ issueUserServiceContext true r,
        claims.tier = u.tier ∧ claims.status = u.status) ↔ Steady listings users) := by
  intro runners
  have hrun : runners = (listings ++ [some users]).foldl reconcileUserRunners Keyed.empty := by
    unfold runners
    rw [append_cons, foldl_append, foldl_failures]
  have hget : ∀ id, runners.get id =
      (loopStart (listings ++ [some users]) id).bind (fun first => first.get id) := by
    intro id
    rw [hrun, get_foldl_reconcile]
  have hstart : ∀ r ∈ runners.rows, ∃ u first, users.get r.id = some u ∧ u.scheduled = true ∧
      first ∈ loopStart (listings ++ [some users]) r.id ∧ r ∈ first.rows := by
    intro r hr
    have hr := get_key hr
    rw [hget, Option.bind_eq_some_iff] at hr
    obtain ⟨first, hfirst, hr⟩ := hr
    have hnow : entitles r.id users := by
      by_contra hno
      rw [loopStart_append_some, if_neg hno] at hfirst
      cases hfirst
    obtain ⟨u, hu, hsch⟩ := entitles_iff.mp hnow
    exact ⟨u, first, hu, hsch, hfirst, mem_of_get hr⟩
  refine ⟨?_, runners.unique, ?_⟩
  · intro id
    constructor
    · intro hid
      obtain ⟨r, hr, rfl⟩ := mem_map.mp hid
      obtain ⟨u, -, hu, hsch, -⟩ := hstart r hr
      exact ⟨u, mem_of_get hu, key_of_get hu, scheduled_iff.mp hsch⟩
    · rintro ⟨u, hu, rfl, hsch⟩
      have hnow : entitles u.id users := entitles_iff.mpr ⟨u, get_key hu, scheduled_iff.mpr hsch⟩
      have hfirst : loopStart (listings ++ [some users]) u.id = _ :=
        loopStart_append_some.trans (if_pos hnow)
      obtain ⟨v, hv, -⟩ := entitles_iff.mp (entitles_loopStart hfirst)
      by_contra hno
      rw [← get_eq_none_iff, hget, hfirst, Option.bind_some, hv] at hno
      cases hno
  · constructor
    · intro hclaims u hu first hfirst v hv hid
      have hr : v ∈ runners.rows := by
        refine mem_of_get (k := u.id) ?_
        rw [hget, Option.mem_def.mp hfirst, Option.bind_some, ← hid, get_key hv]
      obtain ⟨u', hu', hid', hsame⟩ := hclaims v hr
      have hu' : u' = u := by
        have hget' := get_key hu'
        rw [hid', hid, get_key hu] at hget'
        exact (Option.some.inj hget').symm
      subst hu'
      exact hsame _ rfl
    · intro hsteady r hr
      obtain ⟨u, first, hu, -, hfirst, hr⟩ := hstart r hr
      refine ⟨u, mem_of_get hu, key_of_get hu, ?_⟩
      rintro _ ⟨⟩
      rw [← key_of_get hu] at hfirst
      exact hsteady u (mem_of_get hu) first hfirst r hr (key_of_get hu).symm

end Loops

def onTier (tier : String) : Users := ⟨[{ id := "u", tier := tier }], nodup_singleton _⟩

/-- The tier changes while the user has no loop. -/
def pausedUser : List (Option Users) := [some (onTier "pro_byok"), some (onTier "free")]

theorem runners_track_entitlement_pro :
    Steady pausedUser (onTier "pro_managed") ∧
      ∀ r ∈ ((pausedUser ++ some (onTier "pro_managed") :: List.replicate 1 none).foldl
          reconcileUserRunners Keyed.empty).rows,
        ∃ u ∈ (onTier "pro_managed").rows, u.id = r.id ∧
          ∀ claims ∈ issueUserServiceContext true r,
            claims.tier = u.tier ∧ claims.status = u.status := by
  have hsteady : Steady pausedUser (onTier "pro_managed") := by
    intro u hu first hfirst v hv _
    cases mem_singleton.mp hu
    have hstart : loopStart (pausedUser ++ [some (onTier "pro_managed")]) "u" =
        some (onTier "pro_managed") := rfl
    cases hstart.symm.trans hfirst
    cases mem_singleton.mp hv
    exact ⟨rfl, rfl⟩
  exact ⟨hsteady, (runners_track_entitlement pausedUser (onTier "pro_managed") 1).2.2.mpr hsteady⟩

theorem runner_keeps_old_tier :
    ((([some (onTier "pro_byok"), some (onTier "pro_managed")] : List (Option Users)).foldl
      reconcileUserRunners Keyed.empty).rows.map (fun r =>
        (issueUserServiceContext true r).map Claims.tier)) = [some "pro_byok"] := by
  decide

end ETradie.Gateway.Runners
