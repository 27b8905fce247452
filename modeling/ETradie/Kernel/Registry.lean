import Mathlib.Logic.Function.Basic
import Mathlib.Tactic

namespace ETradie.Kernel

structure Registry (K V : Type) where
  object : Nat → V
  next : Nat
  index : List (K × Nat)
  index_lt : ∀ entry ∈ index, entry.2 < next

namespace Registry

variable {K V : Type} [DecidableEq K]

def empty [Inhabited V] : Registry K V where
  object := fun _ => default
  next := 0
  index := []
  index_lt := by simp

def register (r : Registry K V) (k : K) (v : V) : Registry K V where
  object := Function.update r.object r.next v
  next := r.next + 1
  index := (k, r.next) :: r.index.filter (·.1 ≠ k)
  index_lt := by
    refine List.forall_mem_cons.mpr ⟨Nat.lt_succ_self _, ?_⟩
    intro entry hold
    exact (r.index_lt entry (List.mem_of_mem_filter hold)).trans (Nat.lt_succ_self _)

def remove (r : Registry K V) (k : K) : Registry K V where
  object := r.object
  next := r.next
  index := r.index.filter (·.1 ≠ k)
  index_lt := fun entry hentry => r.index_lt entry (List.mem_of_mem_filter hentry)

def modify (r : Registry K V) (p : Nat) (f : V → V) : Registry K V where
  object := Function.update r.object p (f (r.object p))
  next := r.next
  index := r.index
  index_lt := r.index_lt

def get? (r : Registry K V) (k : K) : Option V :=
  (r.index.find? (·.1 = k)).map (fun entry => r.object entry.2)

@[simp] theorem object_remove (r : Registry K V) (k : K) (p : Nat) :
    (r.remove k).object p = r.object p := rfl

omit [DecidableEq K] in
@[simp] theorem object_modify_self (r : Registry K V) (p : Nat) (f : V → V) :
    (r.modify p f).object p = f (r.object p) := by
  simp [modify]

omit [DecidableEq K] in
theorem object_modify_of_ne (r : Registry K V) {p q : Nat} (hne : q ≠ p) (f : V → V) :
    (r.modify p f).object q = r.object q := by
  simp [modify, hne]

theorem object_register_of_lt (r : Registry K V) {p : Nat} (hp : p < r.next) (k : K) (v : V) :
    (r.register k v).object p = r.object p := by
  simp [register, hp.ne]

theorem get?_register_self (r : Registry K V) (k : K) (v : V) :
    (r.register k v).get? k = some v := by
  simp [get?, register]

theorem get?_register_of_ne (r : Registry K V) {k k' : K} (hne : k' ≠ k) (v : V) :
    (r.register k v).get? k' = r.get? k' := by
  have hf : (r.register k v).index.find? (·.1 = k') =
      r.index.find? (·.1 = k') := by
    rw [register, List.find?_cons_of_neg (by simpa using hne.symm), List.find?_filter]
    congr 1
    funext entry
    by_cases hk : entry.1 = k'
    · simp [hk, hne]
    · simp [hk]
  unfold get?
  rw [hf]
  cases hent : r.index.find? (·.1 = k') with
  | none => rfl
  | some entry =>
    have hlt : entry.2 < r.next := r.index_lt entry (List.mem_of_find?_eq_some hent)
    simp only [Option.map_some, object_register_of_lt r hlt]

theorem exists_object_of_get? {r : Registry K V} {k : K} {v : V} (h : r.get? k = some v) :
    ∃ p, r.object p = v := by
  obtain ⟨entry, -, hobj⟩ := Option.map_eq_some_iff.mp h
  exact ⟨entry.2, hobj⟩

theorem exists_entry_of_get? {r : Registry K V} {k : K} {v : V} (h : r.get? k = some v) :
    ∃ entry ∈ r.index, entry.1 = k := by
  obtain ⟨entry, hf, -⟩ := Option.map_eq_some_iff.mp h
  exact ⟨entry, List.mem_of_find?_eq_some hf, by simpa using List.find?_some hf⟩

theorem get?_modify (r : Registry K V) (p : Nat) (f : V → V) (k : K) :
    (r.get? k = none ∧ (r.modify p f).get? k = none) ∨
      ∃ v v', r.get? k = some v ∧ (r.modify p f).get? k = some v' ∧
        (v' = v ∨ v = r.object p ∧ v' = f v) := by
  unfold get? modify
  cases r.index.find? (·.1 = k) with
  | none => exact .inl ⟨rfl, rfl⟩
  | some entry =>
    refine .inr ⟨_, _, rfl, rfl, ?_⟩
    by_cases hp : entry.2 = p
    · subst hp
      exact .inr ⟨rfl, Function.update_self _ _ _⟩
    · exact .inl (Function.update_of_ne hp _ _)

end Registry
end ETradie.Kernel
