import Mathlib.Tactic

/-!
# Runs of a partial step function

What holds in every state of a run, what holds at every step of it, and rules that derive the one
from the other.
-/

namespace ETradie.Kernel

universe u v

section Runs

variable {S : Type u} {A : Type v}
variable (step : S → A → Option S)

def run : S → List A → Option S
  | s, [] => some s
  | s, a :: as => (step s a).bind (fun t => run t as)

def Throughout (P : S → Prop) : S → List A → Prop
  | s, [] => P s
  | s, a :: as => P s ∧ ∀ t, step s a = some t → Throughout P t as

def Along (cond : S → A → Prop) : S → List A → Prop
  | _, [] => True
  | s, a :: as => ∀ t, step s a = some t → cond s a ∧ Along cond t as

instance decidableAlong (cond : S → A → Prop) [∀ s a, Decidable (cond s a)] :
    (s : S) → (as : List A) → Decidable (Along step cond s as)
  | _, [] => isTrue trivial
  | s, a :: as =>
    match h : step s a with
    | none => isTrue (by
        intro t ht
        rw [h] at ht
        cases ht)
    | some t =>
      have := decidableAlong cond t as
      decidable_of_iff (cond s a ∧ Along step cond t as) (by
        constructor
        · intro hboth t' ht'
          rw [h] at ht'
          cases ht'
          exact hboth
        · intro hall
          exact hall t h)

@[simp] theorem run_nil (s : S) : run step s ([] : List A) = some s := by rfl

theorem run_cons_eq_some {s t : S} {a : A} {as : List A} :
    run step s (a :: as) = some t ↔ ∃ q, step s a = some q ∧ run step q as = some t := by
  simp [run, Option.bind_eq_some_iff]

theorem run_append_eq_some {s t : S} {as bs : List A} :
    run step s (as ++ bs) = some t ↔ ∃ q, run step s as = some q ∧ run step q bs = some t := by
  induction as generalizing s with
  | nil => simp
  | cons a as ih =>
    rw [List.cons_append, run_cons_eq_some]
    constructor
    · rintro ⟨p, hp, hrs⟩
      obtain ⟨q, hq, hbs⟩ := ih.mp hrs
      exact ⟨q, (run_cons_eq_some step).mpr ⟨p, hp, hq⟩, hbs⟩
    · rintro ⟨q, hq, hbs⟩
      obtain ⟨p, hp, has⟩ := (run_cons_eq_some step).mp hq
      exact ⟨p, hp, ih.mpr ⟨q, has, hbs⟩⟩

theorem Throughout.final {P : S → Prop} {s t : S} {as : List A}
    (h : Throughout step P s as) (hrun : run step s as = some t) : P t := by
  induction as generalizing s with
  | nil =>
    simp only [run_nil, Option.some.injEq] at hrun
    subst hrun
    exact h
  | cons a as ih =>
    obtain ⟨q, hq, hrs⟩ := (run_cons_eq_some step).mp hrun
    exact ih (h.2 q hq) hrs

theorem throughout_invariant {I : S → Prop} (hst : ∀ s a t, I s → step s a = some t → I t) {s : S}
    (hs : I s) (as : List A) : Throughout step I s as := by
  induction as generalizing s with
  | nil => exact hs
  | cons a as ih =>
    refine ⟨hs, ?_⟩
    intro t ht
    exact ih (hst s a t hs ht)

theorem throughout_of_along {I : S → Prop} {cond : S → A → Prop}
    (hst : ∀ s a t, I s → cond s a → step s a = some t → I t) {s : S} {as : List A} (hs : I s)
    (h : Along step cond s as) : Throughout step I s as := by
  induction as generalizing s with
  | nil => exact hs
  | cons a as ih =>
    refine ⟨hs, ?_⟩
    intro t ht
    obtain ⟨hc, hrs⟩ := h t ht
    exact ih (hst s a t hs hc ht) hrs

theorem Along.and_mem {cond : S → A → Prop} {q : A → Prop} {s : S} {as : List A}
    (h : Along step cond s as) (hq : ∀ a ∈ as, q a) :
    Along step (fun s a => cond s a ∧ q a) s as := by
  induction as generalizing s with
  | nil => exact trivial
  | cons a as ih =>
    intro t ht
    obtain ⟨hc, hrs⟩ := h t ht
    refine ⟨⟨hc, hq a List.mem_cons_self⟩, ih hrs ?_⟩
    intro b hb
    exact hq b (List.mem_cons_of_mem a hb)

theorem Throughout.mono {P Q : S → Prop} (hPQ : ∀ s, P s → Q s)
    {s : S} {as : List A} (h : Throughout step P s as) : Throughout step Q s as := by
  induction as generalizing s with
  | nil => exact hPQ s h
  | cons a as ih => exact ⟨hPQ s h.1, fun t ht => ih (h.2 t ht)⟩

theorem throughout_iff_along_while {I P : S → Prop} {cond : S → A → Prop}
    (hinv : ∀ s a t, I s → P s → P t → step s a = some t → I t)
    (hexact : ∀ s a t, I s → P s → step s a = some t → (P t ↔ cond s a)) {s : S} (as : List A)
    (hI : I s) (hP : P s) : Throughout step P s as ↔ Along step cond s as := by
  induction as generalizing s with
  | nil => simp [Throughout, Along, hP]
  | cons a as ih =>
    constructor
    · rintro ⟨_, hrs⟩ t ht
      have hPt : P t := by
        cases as with
        | nil => exact hrs t ht
        | cons b _ => exact (hrs t ht).1
      exact ⟨(hexact s a t hI hP ht).mp hPt, (ih (hinv s a t hI hP hPt ht) hPt).mp (hrs t ht)⟩
    · intro h
      refine ⟨hP, ?_⟩
      intro t ht
      obtain ⟨hc, hrs⟩ := h t ht
      have hPt : P t := (hexact s a t hI hP ht).mpr hc
      exact (ih (hinv s a t hI hP hPt ht) hPt).mpr hrs

theorem throughout_iff_along {I P : S → Prop} {cond : S → A → Prop}
    (hinv : ∀ s a t, I s → step s a = some t → I t)
    (hexact : ∀ s a t, I s → P s → step s a = some t → (P t ↔ cond s a)) {s : S} (as : List A)
    (hI : I s) (hP : P s) : Throughout step P s as ↔ Along step cond s as :=
  throughout_iff_along_while step (fun s a t hs _ _ ht => hinv s a t hs ht) hexact as hI hP

theorem final_iff_along {I P : S → Prop} {C : S → A → Prop} {q : A → Prop}
    (hinv : ∀ s a t, I s → step s a = some t → I t)
    (hexact : ∀ s a t, I s → q a → step s a = some t → (P t ↔ P s ∧ C s a)) {s t : S}
    {as : List A} (hI : I s) (hq : ∀ a ∈ as, q a) (hrun : run step s as = some t) :
    P t ↔ P s ∧ Along step C s as := by
  induction as generalizing s with
  | nil =>
    cases hrun
    simp [Along]
  | cons a as ih =>
    obtain ⟨p, hp, hrest⟩ := (run_cons_eq_some step).mp hrun
    obtain ⟨hqa, hqas⟩ := List.forall_mem_cons.mp hq
    rw [ih (hinv s a p hI hp) hqas hrest, hexact s a p hI hqa hp, Along, and_assoc]
    simp [hp]

theorem along_iff_forall_split {cond : S → A → Prop} {s : S} {as : List A} :
    Along step cond s as ↔ ∀ before a after t u, as = before ++ a :: after →
      run step s before = some t → step t a = some u → cond t a := by
  induction as generalizing s with
  | nil => simp [Along]
  | cons b as ih =>
    constructor
    · rintro h (_ | ⟨_, before⟩) a after t u heq hrun hstep
      · cases heq
        cases hrun
        exact (h u hstep).1
      · cases heq
        obtain ⟨q, hq, hrest⟩ := (run_cons_eq_some step).mp hrun
        exact ih.mp (h q hq).2 before a after t u rfl hrest hstep
    · intro h t ht
      refine ⟨h [] b as s t rfl rfl ht, ih.mpr ?_⟩
      rintro before a after r u rfl hrun hstep
      exact h (b :: before) a after r u rfl ((run_cons_eq_some step).mpr ⟨t, ht, hrun⟩) hstep

theorem along_congr {I : S → Prop} {cond cond' : S → A → Prop}
    (hinv : ∀ s a t, I s → step s a = some t → I t)
    (hagr : ∀ s a t, I s → step s a = some t → (cond s a ↔ cond' s a)) {s : S} (as : List A)
    (hI : I s) : Along step cond s as ↔ Along step cond' s as := by
  induction as generalizing s with
  | nil => exact Iff.rfl
  | cons a as ih =>
    constructor
    · intro h t ht
      obtain ⟨hc, hrs⟩ := h t ht
      exact ⟨(hagr s a t hI ht).mp hc, (ih (hinv s a t hI ht)).mp hrs⟩
    · intro h t ht
      obtain ⟨hc, hrs⟩ := h t ht
      exact ⟨(hagr s a t hI ht).mpr hc, (ih (hinv s a t hI ht)).mpr hrs⟩

variable {B : Type v} {step' : S → B → Option S}

theorem run_map {f : A → B} (h : ∀ s a, step s a = step' s (f a)) (s : S) (as : List A) :
    run step s as = run step' s (as.map f) := by
  induction as generalizing s with
  | nil => rfl
  | cons a as ih => simp only [run, List.map_cons, h, ih]

theorem throughout_map {P : S → Prop} {f : A → B} (h : ∀ s a, step s a = step' s (f a)) (s : S)
    (as : List A) : Throughout step P s as ↔ Throughout step' P s (as.map f) := by
  induction as generalizing s with
  | nil => exact Iff.rfl
  | cons a as ih => simp only [Throughout, List.map_cons, h, ih]

end Runs

end ETradie.Kernel
