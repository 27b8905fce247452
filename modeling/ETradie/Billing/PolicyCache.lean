import ETradie.Kernel.Runs
import ETradie.Kernel.Keyed
import ETradie.Billing.Webhooks

namespace ETradie.Billing

open Kernel Function Keyed

inductive PolicyStage where
  | expired
  | missed
  | queried (row : Nat)
  | written (row : Nat)
deriving DecidableEq

structure PolicyCall where
  id : Nat
  tier : Tier
  needed : Nat
  stage : PolicyStage
deriving DecidableEq

structure CachedPolicy where
  row : Nat
  expiresAt : Int
deriving DecidableEq

structure PolicyStore where
  rows : Tier → Nat := fun _ => 0
  cache : Tier → Option CachedPolicy := fun _ => none
  calls : Keyed PolicyCall.id := Keyed.empty
  returned : Tier → Nat := fun _ => 0
  answers : List (Nat × Nat) := []

inductive PolicyAct where
  | load (i : Nat) (tier : Tier) (now : Int)
  | drop (i : Nat)
  | query (i : Nat)
  | store (i : Nat) (now : Int)
  | leave (i : Nat)
  | write (i : Nat) (tier : Tier)
  | invalidate (i : Nat)
deriving DecidableEq

def policyCacheTTL : Int := 30 * 1000000000

namespace PolicyStore

def step (s : PolicyStore) : PolicyAct → Option PolicyStore
  | .load i tier now =>
    if (s.calls.get i).isSome then none
    else
      match s.cache tier with
      | some entry =>
        if now < entry.expiresAt then
          some { s with answers := (s.returned tier, entry.row) :: s.answers }
        else some { s with calls := s.calls.put ⟨i, tier, s.returned tier, .expired⟩ }
      | none => some { s with calls := s.calls.put ⟨i, tier, s.returned tier, .missed⟩ }
  | .drop i =>
    match s.calls.get i with
    | some ⟨_, tier, needed, .expired⟩ =>
      some
        { s with
          cache := Function.update s.cache tier none
          calls := s.calls.put ⟨i, tier, needed, .missed⟩ }
    | _ => none
  | .query i =>
    match s.calls.get i with
    | some ⟨_, tier, needed, .missed⟩ =>
      some { s with calls := s.calls.put ⟨i, tier, needed, .queried (s.rows tier)⟩ }
    | _ => none
  | .store i now =>
    match s.calls.get i with
    | some ⟨_, tier, needed, .queried row⟩ =>
      some
        { s with
          cache := Function.update s.cache tier (some ⟨row, now + policyCacheTTL⟩)
          calls := s.calls.delete i, answers := (needed, row) :: s.answers }
    | _ => none
  | .leave i =>
    -- the query fails or finds no row
    match s.calls.get i with
    | some ⟨_, _, _, .missed⟩ => some { s with calls := s.calls.delete i }
    | _ => none
  | .write i tier =>
    if (s.calls.get i).isSome then none
    else
      some
        { s with
          rows := Function.update s.rows tier (s.rows tier + 1)
          calls := s.calls.put ⟨i, tier, s.returned tier, .written (s.rows tier + 1)⟩ }
  | .invalidate i =>
    match s.calls.get i with
    | some ⟨_, tier, _, .written row⟩ =>
      some
        { s with
          cache := Function.update s.cache tier none, calls := s.calls.delete i
          returned := Function.update s.returned tier (max row (s.returned tier)) }
    | _ => none

structure Current (s : PolicyStore) : Prop where
  answered : ∀ a ∈ s.answers, a.1 ≤ a.2
  cached : ∀ tier, ∀ entry ∈ s.cache tier, s.returned tier ≤ entry.row

def NotOvertaken (s : PolicyStore) : PolicyAct → Prop
  | .store i _ =>
    ∀ call ∈ s.calls.get i, ∀ row, call.stage = .queried row → s.returned call.tier ≤ row
  | _ => True

structure Known (s : PolicyStore) : Prop where
  returned : ∀ tier, s.returned tier ≤ s.rows tier
  needed : ∀ call ∈ s.calls.rows, call.needed ≤ s.returned call.tier
  queried : ∀ call ∈ s.calls.rows, ∀ row, call.stage = .queried row → call.needed ≤ row
  written : ∀ call ∈ s.calls.rows, ∀ row, call.stage = .written row → row ≤ s.rows call.tier

variable {s t : PolicyStore} {a : PolicyAct}
variable {cache : Tier → Option CachedPolicy} {answers : List (Nat × Nat)}

theorem Known.put (h : s.Known) {call : PolicyCall} (hnee : call.needed ≤ s.returned call.tier)
    (hque : ∀ row, call.stage = .queried row → call.needed ≤ row)
    (hwri : ∀ row, call.stage = .written row → row ≤ s.rows call.tier) :
    Known { s with cache := cache, calls := s.calls.put call, answers := answers } where
  returned := h.returned
  needed := forall_mem_put hnee h.needed
  queried := forall_mem_put hque h.queried
  written := forall_mem_put hwri h.written

theorem Known.delete (h : s.Known) (i : Nat) :
    Known { s with cache := cache, calls := s.calls.delete i, answers := answers } where
  returned := h.returned
  needed := fun call hca => h.needed call (mem_delete.mp hca).1
  queried := fun call hca => h.queried call (mem_delete.mp hca).1
  written := fun call hca => h.written call (mem_delete.mp hca).1

theorem Known.write (h : s.Known) (i : Nat) (tier : Tier) :
    Known
      { s with
        rows := Function.update s.rows tier (s.rows tier + 1)
        calls := s.calls.put ⟨i, tier, s.returned tier, .written (s.rows tier + 1)⟩ } := by
  have hgro : ∀ other, s.rows other ≤ Function.update s.rows tier (s.rows tier + 1) other := by
    intro other
    rw [update_apply]
    split_ifs with hsm
    · rw [hsm]
      exact Nat.le_succ _
    · rfl
  refine ⟨fun other => (h.returned other).trans (hgro other),
    forall_mem_put le_rfl h.needed, forall_mem_put (fun _ hr => by cases hr) h.queried,
    forall_mem_put ?_ ?_⟩
  · simp
  · intro call hca row hr
    exact (h.written call hca row hr).trans (hgro call.tier)

theorem Known.invalidate (h : s.Known) {i : Nat} {tier : Tier} {needed row : Nat}
    (hca : s.calls.get i = some ⟨i, tier, needed, .written row⟩) :
    Known
      { s with
        cache := Function.update s.cache tier none, calls := s.calls.delete i
        returned := Function.update s.returned tier (max row (s.returned tier)) } := by
  have hr := h.written _ (mem_of_get hca) row rfl
  have hdel : Known { s with calls := s.calls.delete i } := h.delete i
  refine ⟨?_, ?_, hdel.queried, hdel.written⟩
  · intro other
    simp only [update_apply]
    split_ifs with hsm
    · rw [hsm]
      exact max_le hr (h.returned tier)
    · exact h.returned other
  · intro call hm
    have hnee := hdel.needed call hm
    simp only [update_apply]
    split_ifs with hsm
    · rw [hsm] at hnee
      exact hnee.trans (le_max_right _ _)
    · exact hnee

theorem Known.step (h : s.Known) (hst : s.step a = some t) : t.Known := by
  revert hst
  fun_cases PolicyStore.step s a
  all_goals rintro ⟨⟩
  · exact ⟨h.returned, h.needed, h.queried, h.written⟩
  · exact h.put le_rfl (by rintro _ ⟨⟩) (by rintro _ ⟨⟩)
  · exact h.put le_rfl (by rintro _ ⟨⟩) (by rintro _ ⟨⟩)
  · next hg =>
    have hnee := h.needed _ (mem_of_get hg)
    exact h.put hnee (by rintro _ ⟨⟩) (by rintro _ ⟨⟩)
  · next tier _ hg =>
    have hnee := h.needed _ (mem_of_get hg)
    refine h.put hnee ?_ (by rintro _ ⟨⟩)
    rintro _ ⟨⟩
    exact hnee.trans (h.returned tier)
  · exact h.delete _
  · exact h.delete _
  · exact h.write _ _
  · next hg =>
    obtain ⟨-, ⟨⟩⟩ := get_eq_some_iff.mp hg
    exact h.invalidate hg

theorem Current.drop (h : s.Current) {tier : Tier} {returned : Tier → Nat}
    (hoth : ∀ other ≠ tier, returned other = s.returned other) :
    ∀ other, ∀ entry ∈ Function.update s.cache tier none other, returned other ≤ entry.row := by
  intro other entry hent
  rw [update_apply] at hent
  split_ifs at hent with hsm
  · cases hent
  · rw [hoth other hsm]
    exact h.cached other entry hent

theorem current_step_iff (hkn : s.Known) (h : s.Current) (hst : s.step a = some t) :
    t.Current ↔ s.NotOvertaken a := by
  revert hst
  fun_cases step s a
  all_goals rintro ⟨⟩
  · next entry hent _ =>
    refine iff_of_true ⟨?_, h.cached⟩ trivial
    exact List.forall_mem_cons.mpr ⟨h.cached _ entry hent, h.answered⟩
  · exact iff_of_true ⟨h.answered, h.cached⟩ trivial
  · exact iff_of_true ⟨h.answered, h.cached⟩ trivial
  · exact iff_of_true ⟨h.answered, h.drop (fun _ _ => rfl)⟩ trivial
  · exact iff_of_true ⟨h.answered, h.cached⟩ trivial
  · next tier _ row hg =>
    have hnee := hkn.queried _ (mem_of_get hg) row rfl
    constructor
    · intro hcur _ hca _ hr'
      rw [Option.mem_def, hg] at hca
      cases hca
      cases hr'
      exact hcur.cached tier ⟨row, _⟩ (update_self tier _ s.cache)
    · intro hstl
      refine ⟨List.forall_mem_cons.mpr ⟨hnee, h.answered⟩, ?_⟩
      intro other entry hent
      simp only [update_apply] at hent
      split_ifs at hent with hsm
      · cases hent
        rw [hsm]
        exact hstl _ hg row rfl
      · exact h.cached other entry hent
  · exact iff_of_true ⟨h.answered, h.cached⟩ trivial
  · exact iff_of_true ⟨h.answered, h.cached⟩ trivial
  · refine iff_of_true ⟨h.answered, h.drop ?_⟩ trivial
    intro other hoth
    exact update_of_ne hoth _ _

end PolicyStore

theorem policies_current_iff_notOvertaken (rows : Tier → Nat) (acts : List PolicyAct) :
    Throughout PolicyStore.step PolicyStore.Current { rows := rows } acts ↔
      Along PolicyStore.step PolicyStore.NotOvertaken { rows := rows } acts := by
  refine throughout_iff_along PolicyStore.step (I := PolicyStore.Known)
    (fun _ _ _ h hst => h.step hst)
    (fun _ _ _ hkn h hst => PolicyStore.current_step_iff hkn h hst) acts ?_ ?_
  · exact ⟨fun _ => Nat.zero_le _, by simp, by simp, by simp⟩
  · exact ⟨by simp, by simp⟩

theorem straddling_reader_restores_old_row :
    (run PolicyStore.step {}
        [.load 1 "pro_managed" 0, .query 1, .write 2 "pro_managed", .invalidate 2, .store 1 0,
          .load 3 "pro_managed" 29999999999]).map (fun s => (s.rows "pro_managed", s.answers)) =
      some (1, [(1, 0), (0, 0)]) := by
  decide +kernel

end ETradie.Billing
