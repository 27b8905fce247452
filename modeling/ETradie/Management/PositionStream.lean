import ETradie.Kernel.Encoding
import Mathlib.Data.List.Sort
import Mathlib.Data.List.Lex

/-!
# The position stream

`WatchPositions` sends a polled list only when its hash is new.  The hash is taken over the
positions in the order of their tickets, each written so that its fields can be read back.
-/

namespace ETradie.Management.PositionStream

open List

section Hashing

abbrev Byte := Fin 256

abbrev Text := { bytes : List Byte // 0 ∉ bytes }

abbrev Float64 := { bytes : List Byte // bytes.length = 8 }

structure PositionInfo where
  (ticket symbol direction : Text)
  (entryPrice currentPrice stopLoss takeProfit volume profit commission swap : Float64)

structure Snapshot where
  positions : List PositionInfo
  unique : (positions.map PositionInfo.ticket).Nodup

def PositionInfo.floats (p : PositionInfo) : List Float64 :=
  [p.entryPrice, p.currentPrice, p.stopLoss, p.takeProfit, p.volume, p.profit, p.commission, p.swap]

def PositionInfo.written (p : PositionInfo) : List Byte :=
  p.ticket.1 ++ 0 :: (p.symbol.1 ++ 0 :: (p.direction.1 ++ 0 :: p.floats.flatMap Subtype.val))

def sorted (ps : List PositionInfo) : List PositionInfo :=
  ps.mergeSort (fun p q => p.ticket.1 ≤ q.ticket.1)

variable {Hash : Type} (sha256 : List Byte → Hash)

def hashPositions (s : Snapshot) : Hash :=
  sha256 ((sorted s.positions).flatMap PositionInfo.written)

theorem flatMap_floats {xs ys : List Float64} (h : xs.length = ys.length) {r r' : List Byte}
    (heq : xs.flatMap Subtype.val ++ r = ys.flatMap Subtype.val ++ r') : xs = ys ∧ r = r' := by
  induction xs generalizing ys with
  | nil =>
    cases length_eq_zero_iff.mp h.symm
    exact ⟨rfl, heq⟩
  | cons x xs ih =>
    obtain ⟨y, ys, rfl⟩ := exists_cons_of_length_eq_add_one h.symm
    rw [flatMap_cons, flatMap_cons, append_assoc, append_assoc] at heq
    obtain ⟨hx, hrs⟩ := append_inj heq (x.2.trans y.2.symm)
    obtain ⟨hxs, hr⟩ := ih (Nat.succ.inj h) hrs
    exact ⟨by rw [Subtype.ext hx, hxs], hr⟩

theorem written_append {p q : PositionInfo} {r r' : List Byte}
    (h : p.written ++ r = q.written ++ r') : p = q ∧ r = r' := by
  simp only [PositionInfo.written, append_assoc, cons_append] at h
  obtain ⟨-, h⟩ := Kernel.split_first p.ticket.2 q.ticket.2 h
  obtain ⟨-, h⟩ := Kernel.split_first p.symbol.2 q.symbol.2 h
  obtain ⟨-, h⟩ := Kernel.split_first p.direction.2 q.direction.2 h
  obtain ⟨hflo, hr⟩ := flatMap_floats (show p.floats.length = q.floats.length from rfl) h
  simp only [PositionInfo.floats] at hflo
  cases p
  cases q
  simp_all [Subtype.ext_iff]

theorem flatMap_written {ps qs : List PositionInfo}
    (h : ps.flatMap PositionInfo.written = qs.flatMap PositionInfo.written) : ps = qs := by
  induction ps generalizing qs with
  | nil => cases qs <;> simp_all [PositionInfo.written]
  | cons p ps ih =>
    cases qs with
    | nil => simp [PositionInfo.written] at h
    | cons q qs =>
      obtain ⟨rfl, hrs⟩ := written_append h
      rw [ih hrs]

theorem sorted_eq_iff {s t : Snapshot} :
    sorted s.positions = sorted t.positions ↔ s.positions.Perm t.positions := by
  constructor
  · intro h
    have hs : (sorted s.positions).Perm s.positions := mergeSort_perm _ _
    rw [h] at hs
    exact hs.symm.trans (mergeSort_perm _ _)
  · intro h
    have hpai : ∀ ps, (sorted ps).Pairwise (fun p q => decide (p.ticket.1 ≤ q.ticket.1)) := by
      intro ps
      refine pairwise_mergeSort ?_ ?_ ps
      · intro p q r hpq hqr
        simp only [decide_eq_true_eq] at hpq hqr ⊢
        exact hpq.trans hqr
      · intro p q
        simpa using le_total p.ticket.1 q.ticket.1
    have hpm : (sorted s.positions).Perm (sorted t.positions) :=
      ((mergeSort_perm _ _).trans h).trans (mergeSort_perm _ _).symm
    refine hpm.eq_of_pairwise ?_ (hpai _) (hpai _)
    intro p q hp hq hpq hqp
    rw [decide_eq_true_eq] at hpq hqp
    have htkt : p.ticket = q.ticket := Subtype.ext (le_antisymm hpq hqp)
    exact inj_on_of_nodup_map t.unique
      ((mergeSort_perm _ _).mem_iff.mp (hpm.mem_iff.mp hp))
      ((mergeSort_perm _ _).mem_iff.mp hq) htkt

theorem hashPositions_eq_iff (hsha : Function.Injective sha256) {s t : Snapshot} :
    hashPositions sha256 s = hashPositions sha256 t ↔ s.positions.Perm t.positions := by
  rw [← sorted_eq_iff]
  constructor
  · intro h
    exact flatMap_written (hsha h)
  · intro h
    rw [hashPositions, hashPositions, h]

end Hashing

section Watching

variable {Hash : Type} [DecidableEq Hash] (sha256 : List Byte → Hash)

structure Watch (Hash : Type) where
  lastHash : Option Hash := none
  (channel received : Option Snapshot := none)
  (cancelled ended : Bool := false)

variable (s : Watch Hash)

inductive Event where
  | poll (snapshot : Snapshot) (sent : Bool)
  | transientFailure
  | noBroker
  | receive
  | cancel

def step : Event → Watch Hash
  | .poll snapshot sent =>
    if s.ended ∨ s.lastHash = some (hashPositions sha256 snapshot) then s
    else
      { s with
        lastHash := some (hashPositions sha256 snapshot)
        channel := if s.cancelled ∧ sent = false then s.channel else some snapshot }
  | .transientFailure => s
  | .noBroker => { s with ended := true }
  | .receive =>
    match s.channel with
    | none => s
    | some frame => { s with channel := none, received := some frame }
  | .cancel => { s with cancelled := true }

def Watch.latest : Option Snapshot := s.channel.or s.received

variable {sha256}

def Current (sha256 : List Byte → Hash) (s : Watch Hash) : Prop :=
  s.cancelled = false → s.lastHash = s.latest.map (hashPositions sha256)

theorem step_current {s : Watch Hash} (h : Current sha256 s) (e : Event) :
    Current sha256 (step sha256 s e) := by
  unfold Current at h ⊢
  cases e with
  | poll _ _ =>
    rw [step]
    split
    · exact h
    · intro hlv
      change s.cancelled = false at hlv
      simp [hlv, Watch.latest]
  | receive =>
    rw [step]
    split
    · exact h
    · next _ hcha => simpa [Watch.latest, hcha] using h
  | transientFailure | noBroker => exact h
  | cancel => simp [step]

theorem received_receive : (step sha256 s .receive).received = s.latest := by
  rw [step, Watch.latest]
  split <;> simp_all

theorem current_run (es : List Event) : Current sha256 (es.foldl (step sha256) {}) := by
  induction es using List.reverseRecOn with
  | nil => exact fun _ => rfl
  | append_singleton es e ih =>
    rw [foldl_append]
    exact step_current ih e

def Event.isPoll : Event → Bool
  | .poll _ _ => true
  | _ => false

def Settled (sha256 : List Byte → Hash) (snapshot : Snapshot) (s : Watch Hash) : Prop :=
  s.ended = true ∨ s.lastHash = some (hashPositions sha256 snapshot)

theorem step_settled {s : Watch Hash} {snapshot : Snapshot} (h : Settled sha256 snapshot s)
    {e : Event} (he : e.isPoll = false) : Settled sha256 snapshot (step sha256 s e) := by
  cases e with
  | poll snapshot _ => cases he
  | receive =>
    rw [step]
    split <;> exact h
  | transientFailure | cancel => exact h
  | noBroker => exact .inl rfl

theorem stream_converges (sha256 : List Byte → Hash) (hsha : Function.Injective sha256)
    (es : List Event) (snapshot : Snapshot) (sent : Bool) :
    let s := es.foldl (step sha256) {}
    let s' := step sha256 s (.poll snapshot sent)
    (∀ a b : Snapshot, hashPositions sha256 a = hashPositions sha256 b ↔
      a.positions.Perm b.positions) ∧
    (s.ended = false → s.cancelled = false →
      ∃ frame, (step sha256 s' .receive).received = some frame ∧
        frame.positions.Perm snapshot.positions) ∧
    ∀ (fs : List Event) (again : Snapshot) (sent' : Bool), (∀ e ∈ fs, e.isPoll = false) →
      again.positions.Perm snapshot.positions →
      step sha256 (fs.foldl (step sha256) s') (.poll again sent') = fs.foldl (step sha256) s' := by
  intro s s'
  have hiff : ∀ a b : Snapshot, hashPositions sha256 a = hashPositions sha256 b ↔
      a.positions.Perm b.positions := fun _ _ => hashPositions_eq_iff sha256 hsha
  have hstt : Settled sha256 snapshot s' := by
    unfold s'
    rw [step]
    split
    · next hskip => exact hskip
    · exact .inr rfl
  refine ⟨hiff, ?_, ?_⟩
  · intro hgoi hlv
    have hkp : s'.cancelled = false ∧ s'.ended = false := by
      unfold s'
      rw [step]
      split <;> exact ⟨hlv, hgoi⟩
    have hcur : s'.lastHash = s'.latest.map _ :=
      step_current (current_run es) (.poll snapshot sent) hkp.1
    rw [hstt.resolve_left (by simp [hkp.2])] at hcur
    obtain ⟨frame, hfra, hhs⟩ := Option.map_eq_some_iff.mp hcur.symm
    exact ⟨frame, by rw [received_receive, hfra], (hiff frame snapshot).mp hhs⟩
  · intro fs again sent' hfs hsm
    have hsty : Settled sha256 snapshot (fs.foldl (step sha256) s') := by
      induction fs using List.reverseRecOn with
      | nil => exact hstt
      | append_singleton fs e ih =>
        rw [foldl_append]
        exact step_settled (ih (fun e he => hfs e (by simp [he]))) (hfs e (by simp))
    rw [Settled, ← (hiff again snapshot).mpr hsm] at hsty
    rw [step, if_pos hsty]

end Watching

theorem eurusd_text : (0 : Byte) ∉ [69, 85, 82, 85, 83, 68] := by decide
theorem buy_text : (0 : Byte) ∉ [66, 85, 89] := by decide
theorem one_text : (0 : Byte) ∉ [49] := by decide
theorem two_text : (0 : Byte) ∉ [50] := by decide

def longEuro (ticket : Text) : PositionInfo :=
  let zero : Float64 := ⟨replicate 8 0, length_replicate⟩
  ⟨ticket, ⟨_, eurusd_text⟩, ⟨_, buy_text⟩, zero, zero, zero, zero, zero, zero, zero, zero⟩

def first : PositionInfo := longEuro ⟨_, one_text⟩
def second : PositionInfo := longEuro ⟨_, two_text⟩

theorem nodup_both : ([first, second].map PositionInfo.ticket).Nodup := by decide
theorem nodup_swapped : ([second, first].map PositionInfo.ticket).Nodup := by decide

/-- One position is polled and read, then two are polled. -/
def polled : Watch (List Byte) :=
  [.poll ⟨[first], nodup_singleton _⟩ true, .receive,
    .poll ⟨[first, second], nodup_both⟩ true].foldl (step id) {}

theorem stream_converges_permuted :
    (∃ frame, (step id polled .receive).received = some frame ∧
        frame.positions.Perm [first, second]) ∧
      step id (step id polled .receive) (.poll ⟨[second, first], nodup_swapped⟩ true) =
        step id polled .receive := by
  obtain ⟨-, hframe, hquiet⟩ := stream_converges id Function.injective_id
    [.poll ⟨[first], nodup_singleton _⟩ true, .receive] ⟨[first, second], nodup_both⟩ true
  exact ⟨hframe rfl rfl, hquiet [.receive] _ true (by simp [Event.isPoll]) (Perm.swap _ _ _)⟩

end ETradie.Management.PositionStream
