import ETradie.Billing.Windows

/-!
# Soft-cap warnings

A commit warns when the month's counters reach the threshold for the first time in their window.  The
counters also hold what is reserved.
-/

namespace ETradie.Billing

open Kernel Option UsageRow

structure SoftCap where
  (percent input output : Int64)

def SoftCap.Fits (cap : SoftCap) : Prop :=
  cap.input.toInt * cap.percent.toInt + 99 < 2 ^ 63 ∧
    cap.output.toInt * cap.percent.toInt + 99 < 2 ^ 63

def MeterAction.cap : MeterAction → Option SoftCap
  | .commit _ _ _ _ softCapPercent monthlyInputLimit monthlyOutputLimit =>
    some ⟨softCapPercent, monthlyInputLimit, monthlyOutputLimit⟩
  | _ => none

def notified (usage : Option UsageRow) : Bool := usage.any (·.softCapNotifiedAt.isSome)

variable (s : Metered)

namespace Metered

def warns : MeterAction → Bool
  | .commit id fault actualInput actualOutput softCapPercent monthlyInputLimit
      monthlyOutputLimit =>
      match (commitLLMTokens s.clock fault id actualInput actualOutput softCapPercent
        monthlyInputLimit monthlyOutputLimit s.tables).1 with
      | .ok outcome => outcome.softCapJustCrossed
      | .error _ => false
  | _ => false

def resets : MeterAction → Bool
  | .monthlyReset fault windowStart => resetApplies fault windowStart s.tables
  | _ => false

def warnings (text : CaseMap) : Metered → List MeterAction → Nat
  | _, [] => 0
  | s, a :: as => (s.warns a).toNat + ((s.step text a).map (fun t => warnings text t as)).getD 0

def settled (charge : Reservation → ℤ) : ℤ :=
  total (within (fun r => s.madeThisMonth r && r.status = .committed) charge) s.tables.reservations

def Truthful (text : CaseMap) (s : Metered) (a : MeterAction) : Prop :=
  s.warns a = true → ∀ cap ∈ a.cap, ∀ t ∈ s.step text a,
    cap.percent.toInt * cap.input.toInt ≤ 100 * t.settled Reservation.inputCharge ∨
      cap.percent.toInt * cap.output.toInt ≤ 100 * t.settled Reservation.outputCharge

/-- No reservation of the month but the one to be committed is held, and the thresholds are computed
without overflow. -/
def LastHeld : MeterAction → Prop
  | .commit id _ _ _ softCapPercent monthlyInputLimit monthlyOutputLimit =>
    SoftCap.Fits ⟨softCapPercent, monthlyInputLimit, monthlyOutputLimit⟩ ∧
      ∀ r ∈ s.tables.reservations, s.madeThisMonth r = true → r.status = .held → r.id = id
  | _ => True

end Metered

variable {text : CaseMap} {t : Metered} {s} {a : MeterAction} {acts : List MeterAction}

section Notices

variable {id : String} {now : Int}
variable {fault : Option (SettleStage × String)} {usage : Option UsageRow} {row row' : UsageRow}

theorem notified_updateUsage {f : UsageRow → Option UsageRow} {usage' : Option UsageRow}
    (hf : ∀ row row', f row = some row' → row'.softCapNotifiedAt = row.softCapNotifiedAt)
    (h : updateUsage f usage = some usage') : notified usage' = notified usage := by
  cases usage with
  | none =>
    cases h
    rfl
  | some row =>
    obtain ⟨row', hrow', rfl⟩ := map_eq_some_iff.mp h
    simp only [notified, any_some, hf row row' hrow']

theorem softCap_of_shift {dIn dOut : ℤ} (h : row.shift dIn dOut = some row') :
    row'.softCapNotifiedAt = row.softCapNotifiedAt := by
  simp only [shift, bind_eq_some_iff, map_eq_some_iff] at h
  obtain ⟨-, -, -, -, rfl⟩ := h
  rfl

theorem softCap_of_meter {r : Reservation} {actualInput actualOutput : Int64}
    (h : row.meter now r actualInput actualOutput = some row') :
    row'.softCapNotifiedAt = row.softCapNotifiedAt := by
  simp only [meter, bind_eq_some_iff, map_eq_some_iff] at h
  obtain ⟨shifted, hshf, -, -, rfl⟩ := h
  have hkp : shifted.softCapNotifiedAt = row.softCapNotifiedAt := softCap_of_shift hshf
  exact hkp

theorem notified_noteOvershoot (inputDelta : ℤ) (limit : Int64) (usage : Option UsageRow) :
    notified (usage.map (noteOvershoot inputDelta limit)) = notified usage := by
  cases usage with
  | none => rfl
  | some _ =>
    simp only [map_some, noteOvershoot]
    split_ifs <;> rfl

theorem notified_upsertUsage (now : Int) (h : notified usage) :
    (upsertUsage now usage).softCapNotifiedAt.isSome := by
  cases usage with
  | none => cases h
  | some _ =>
    simp only [upsertUsage]
    split_ifs <;> exact h

theorem notified_touchUsage (now : Int) (h : notified usage) :
    (touchUsage now usage).softCapNotifiedAt.isSome := by
  cases usage with
  | none => cases h
  | some _ =>
    simp only [touchUsage]
    split_ifs <;> exact h

theorem notified_refund (tables : UserTables) :
    notified (refundLLMTokens now fault id tables).2.usage = notified tables.usage := by
  fun_cases refundLLMTokens now fault id tables
  case case6 husg _ => exact notified_updateUsage (fun _ _ => softCap_of_shift) husg
  all_goals rfl

theorem commit_notice (s : Metered) (id : String) (fault : Option (SettleStage × String))
    (actualInput actualOutput softCapPercent monthlyInputLimit monthlyOutputLimit : Int64) :
    let a := MeterAction.commit id fault actualInput actualOutput softCapPercent
      monthlyInputLimit monthlyOutputLimit
    let tables := (commitLLMTokens s.clock fault id actualInput actualOutput softCapPercent
      monthlyInputLimit monthlyOutputLimit s.tables).2
    (s.warns a = false ∧ notified tables.usage = notified s.tables.usage) ∨
      (notified s.tables.usage = false ∧ notified tables.usage ∧
        0 < softCapPercent ∧ ∃ row, tables.usage = some row ∧
          (0 < ceilDiv monthlyInputLimit softCapPercent ∧
              ceilDiv monthlyInputLimit softCapPercent ≤ row.month.input ∨
            0 < ceilDiv monthlyOutputLimit softCapPercent ∧
              ceilDiv monthlyOutputLimit softCapPercent ≤ row.month.output)) := by
  simp only [Metered.warns]
  fun_cases commitLLMTokens s.clock fault id actualInput actualOutput softCapPercent
    monthlyInputLimit monthlyOutputLimit s.tables
  case case7 r hhd usage husg hrsd noted crossed =>
    have hkp : notified noted = notified s.tables.usage :=
      (notified_noteOvershoot _ _ usage).trans
        (notified_updateUsage (fun _ _ => softCap_of_meter) husg)
    cases hcro : crossed with
    | false => exact .inl ⟨rfl, by simp [hkp]⟩
    | true =>
      obtain ⟨row, hrow, hrch⟩ := (any_eq_true _ _).mp hcro
      simp only [softCapCrossed, Bool.and_eq_true, Bool.or_eq_true, decide_eq_true_eq] at hrch
      rw [hrow] at hkp
      refine .inr ⟨?_, by simp [hrow, notified], hrch.1.1.1.1,
        { row with softCapNotifiedAt := some (stored s.clock) }, by rw [hrow]; rfl, hrch.2⟩
      rw [← hkp]
      simp [notified, hrch.1.2]
  all_goals exact .inl ⟨rfl, rfl⟩

theorem notified_step (h : notified s.tables.usage) (hrst : s.resets a = false)
    (hst : s.step text a = some t) : notified t.tables.usage ∧ s.warns a = false := by
  revert hst
  fun_cases Metered.step text s a
  all_goals rintro ⟨⟩
  · exact ⟨h, rfl⟩
  · next id fault call policy _ tables hans =>
    refine ⟨?_, rfl⟩
    have hups := notified_upsertUsage s.clock h
    rcases reserve_cases text s.clock id fault call policy s.tables with
      ⟨e, hsm⟩ | ⟨e, hblo⟩ | ⟨row, hdeb, -, -, -, -, hgra⟩
    · cases hans.symm.trans hsm
      exact h
    · cases hans.symm.trans hblo
      exact hups
    · cases hans.symm.trans hgra
      simp only [debit, bind_eq_some_iff, map_eq_some_iff] at hdeb
      obtain ⟨-, -, -, -, rfl⟩ := hdeb
      exact hups
  · next id fault actualInput actualOutput softCapPercent monthlyInputLimit monthlyOutputLimit =>
    rcases commit_notice s id fault actualInput actualOutput softCapPercent
        monthlyInputLimit monthlyOutputLimit with ⟨hqt, hsm⟩ | ⟨hno, -, -⟩
    · exact ⟨hsm.trans h, hqt⟩
    · rw [h] at hno
      cases hno
  · exact ⟨(notified_refund s.tables).trans h, rfl⟩
  · exact ⟨h, rfl⟩
  · exact ⟨(notified_refund s.tables).trans h, rfl⟩
  · next fault =>
    refine ⟨?_, rfl⟩
    cases fault with
    | some e => exact h
    | none => exact notified_touchUsage s.clock h
  · next fault windowStart =>
    refine ⟨?_, rfl⟩
    rcases monthlyReset_cases fault windowStart s.tables with
      ⟨-, hsm⟩ | ⟨happ, -⟩
    · rw [hsm]
      exact h
    · rw [Metered.resets, happ] at hrst
      cases hrst

theorem notified_of_warns (h : s.warns a) (hst : s.step text a = some t) :
    notified t.tables.usage := by
  cases a with
  | commit id fault actualInput actualOutput softCapPercent monthlyInputLimit monthlyOutputLimit =>
    cases hst
    rcases commit_notice s id fault actualInput actualOutput softCapPercent
        monthlyInputLimit monthlyOutputLimit with ⟨hqt, -⟩ | ⟨-, hmkd, -⟩
    · rw [h] at hqt
      cases hqt
    · exact hmkd
  | _ => cases h

theorem warnings_le (h : Along (Metered.step text) (fun s a => s.resets a = false) s acts) :
    s.warnings text acts ≤ 1 ∧ (notified s.tables.usage → s.warnings text acts = 0) := by
  induction acts generalizing s with
  | nil => exact ⟨Nat.zero_le 1, fun _ => rfl⟩
  | cons a acts ih =>
    rw [Metered.warnings]
    cases hst : s.step text a with
    | none =>
      have hqt : s.warns a = false := by
        cases a with
        | commit => cases hst
        | _ => rfl
      simp [hqt]
    | some t =>
      obtain ⟨hrst, hrs⟩ := h t hst
      obtain ⟨hle, hz⟩ := ih hrs
      constructor
      · cases hwar : s.warns a with
        | false => simpa using hle
        | true => simp [hz (notified_of_warns hwar hst)]
      · intro hmkd
        obtain ⟨hkp, hqt⟩ := notified_step hmkd hrst hst
        simp [hqt, hz hkp]

end Notices

theorem le_of_ceilDiv_le {limit percent used : Int64}
    (hft : limit.toInt * percent.toInt + 99 < 2 ^ 63) (hper : 0 < percent)
    (hpos : 0 < ceilDiv limit percent) (h : ceilDiv limit percent ≤ used) :
    percent.toInt * limit.toInt ≤ 100 * used.toInt := by
  unfold ceilDiv at hpos h
  split_ifs at hpos h with hlim
  · exact absurd hpos (by decide)
  · rw [Int64.not_le, Int64.lt_iff_toInt_lt] at hlim
    rw [Int64.lt_iff_toInt_lt] at hper
    have hprod : 0 ≤ limit.toInt * percent.toInt := Int.mul_nonneg hlim.le hper.le
    have hmul : (limit * percent).toInt = limit.toInt * percent.toInt := by
      rw [Int64.toInt_mul]
      exact Int.bmod_eq_of_le (by omega) (by omega)
    have hadd : (limit * percent + 99).toInt = limit.toInt * percent.toInt + 99 := by
      rw [toInt_add_of_fits (by rw [hmul]; exact ⟨by simp; omega, hft⟩), hmul]
      rfl
    rw [Int64.le_iff_toInt_le, Int64.toInt_div_of_ne_right _ _ (by decide),
      show (100 : Int64).toInt = 100 from rfl, Int.tdiv_eq_ediv_of_nonneg (by omega)] at h
    rw [mul_comm percent.toInt]
    omega

theorem settled_eq_total
    (h : ∀ r ∈ s.tables.reservations, s.madeThisMonth r → r.status ≠ .held)
    {charge : Reservation → ℤ} (hcha : ∀ r, r.status = .refunded → charge r = 0) :
    s.settled charge = total (within s.madeThisMonth charge) s.tables.reservations := by
  refine total_congr ?_
  intro r hr
  cases hmd : s.madeThisMonth r with
  | false => simp [within, hmd]
  | true =>
    cases hsts : r.status with
    | held => exact absurd hsts (h r hr hmd)
    | committed => simp [within, hsts]
    | refunded => simp [within, hcha r hsts]

theorem not_held_after_warning {id : String} {fault : Option (SettleStage × String)}
    {actualInput actualOutput softCapPercent monthlyInputLimit monthlyOutputLimit : Int64}
    (hwarns : s.warns (.commit id fault actualInput actualOutput softCapPercent monthlyInputLimit
      monthlyOutputLimit) = true)
    (hlast : ∀ r ∈ s.tables.reservations, s.madeThisMonth r → r.status = .held → r.id = id) :
    ∀ r ∈ (commitLLMTokens s.clock fault id actualInput actualOutput softCapPercent
      monthlyInputLimit monthlyOutputLimit s.tables).2.reservations,
      s.madeThisMonth r → r.status ≠ .held := by
  rcases commit_cases s.clock fault id actualInput actualOutput softCapPercent monthlyInputLimit
      monthlyOutputLimit s.tables with ⟨-, hsame⟩ | ⟨-, -, -, r, hheld, hsettles⟩
  · rcases commit_notice s id fault actualInput actualOutput softCapPercent monthlyInputLimit
        monthlyOutputLimit with ⟨hquiet, -⟩ | ⟨hbefore, hafter, -⟩
    · cases hwarns.symm.trans hquiet
    · rw [hsame] at hafter
      cases hbefore.symm.trans hafter
  · intro r' hr' hmade hstill
    rw [hsettles.reservations] at hr'
    rcases mem_amend hr' with ⟨hold, hother⟩ | ⟨r'', -, -, rfl⟩
    · exact hother ((hlast r' hold hmade hstill).trans (held_eq_some hheld).2.1.symm)
    · cases hstill

theorem truthful_of_lastHeld (hst : s.step text a = some t) (ht : t.Attributed)
    (h : s.LastHeld a) : s.Truthful text a := by
  intro hwar _ hcap _ ht'
  cases hst.symm.trans ht'
  cases a with
  | commit id fault actualInput actualOutput softCapPercent monthlyInputLimit monthlyOutputLimit =>
    cases hst
    cases hcap
    obtain ⟨⟨hinp, hout⟩, hlast⟩ := h
    have hnone := not_held_after_warning hwar hlast
    rw [settled_eq_total hnone (fun r hr => by simp [Reservation.inputCharge, hr]),
      settled_eq_total hnone (fun r hr => by simp [Reservation.outputCharge, hr]),
      ← ht.month.input, ← ht.month.output]
    rcases commit_notice s id fault actualInput actualOutput softCapPercent
        monthlyInputLimit monthlyOutputLimit with ⟨hqt, -⟩ | ⟨-, -, hper, row, hrow, hrch⟩
    · rw [hwar] at hqt
      cases hqt
    · simp only [hrow]
      rcases hrch with ⟨hpos, hle⟩ | ⟨hpos, hle⟩
      · exact .inl (le_of_ceilDiv_le hinp hper hpos hle)
      · exact .inr (le_of_ceilDiv_le hout hper hpos hle)
  | _ => cases hwar

theorem truthful_along (h : Throughout (Metered.step text) Metered.Attributed s acts) :
    Along (Metered.step text) (fun s a => s.LastHeld a → s.Truthful text a) s acts := by
  induction acts generalizing s with
  | nil => exact trivial
  | cons a acts ih =>
    intro t hst
    have ht : t.Attributed := by
      cases acts with
      | nil => exact h.2 t hst
      | cons b acts => exact (h.2 t hst).1
    exact ⟨truthful_of_lastHeld hst ht, ih (h.2 t hst)⟩

/-- At most one commit warns between effective monthly resets.  While every settlement stays in the
windows of its reservation, a commit that leaves nothing of the month held warns truthfully. -/
theorem warnings_unique_and_truthful (text : CaseMap) (userId : String) (clock : Int)
    (acts : List MeterAction) :
    (∀ s rest, Along (Metered.step text) (fun s a => s.resets a = false) s rest →
        s.warnings text rest ≤ 1) ∧
      (Along (Metered.step text) Metered.KeepsWindows (Metered.start userId clock) acts →
        Along (Metered.step text) (fun s a => s.LastHeld a → s.Truthful text a)
          (Metered.start userId clock) acts) := by
  refine ⟨fun _ _ h => (warnings_le h).1, ?_⟩
  intro hkept
  exact truthful_along ((attributed_throughout_iff text userId clock acts).mpr hkept)

def monthlyPolicy : LLMQuotaPolicy := { generousPolicy with dailyInputTokens := 1000000 }

def largeCall : ReserveCall := ⟨"pro", "openai", "gpt", "", 800000, 500⟩

def largeReserved : Metered :=
  { Metered.start "u1" 0 with
    tables := (reserveLLMTokens asciiCaseMap 0 "r1" none largeCall monthlyPolicy
      (Metered.start "u1" 0).tables).2
    windowed := ["r1"] }

theorem warning_of_settled_tokens :
    largeReserved.warns (.commit "r1" none 800000 500 80 1000000 1000000) = true ∧
      Along (Metered.step asciiCaseMap) (fun s a => s.LastHeld a → s.Truthful asciiCaseMap a)
        (Metered.start "u1" 0) [.reserve "r1" none largeCall monthlyPolicy,
          .commit "r1" none 800000 500 80 1000000 1000000] := by
  refine ⟨by decide +kernel, (warnings_unique_and_truthful asciiCaseMap "u1" 0 _).2 ?_⟩
  have hanswer : (reserveLLMTokens asciiCaseMap 0 "r1" none largeCall monthlyPolicy
      (Metered.start "u1" 0).tables).1 = .ok "r1" := by decide +kernel
  have hreserved : (Metered.start "u1" 0).step asciiCaseMap
      (.reserve "r1" none largeCall monthlyPolicy) = some largeReserved := by
    simp only [Metered.step, show (Metered.start "u1" 0).clock = 0 from rfl, hanswer]
    rfl
  have hheld : largeReserved.tables.held "r1" =
      some (newReservation 0 "r1" largeCall monthlyPolicy) := by decide +kernel
  intro t ht
  cases hreserved.symm.trans ht
  refine ⟨trivial, fun _ _ => ⟨fun _ r hr row _ => ?_, trivial⟩⟩
  cases hheld.symm.trans hr
  have htoday : largeReserved.madeToday (newReservation 0 "r1" largeCall monthlyPolicy) =
      true := by decide +kernel
  have hmonth : largeReserved.madeThisMonth (newReservation 0 "r1" largeCall monthlyPolicy) =
      true := by decide +kernel
  rw [if_pos htoday, if_pos hmonth]
  exact ⟨fun _ => by decide, by decide⟩

theorem warning_counts_held_tokens :
    (run (Metered.step asciiCaseMap) (Metered.start "u1" 0)
        [.reserve "r1" none ⟨"pro", "openai", "gpt", "", 1000, 500⟩ monthlyPolicy,
          .reserve "r2" none ⟨"pro", "openai", "gpt", "", 799000, 500⟩ monthlyPolicy]).map
        (fun s => (s.warns (.commit "r1" none 1000 500 80 1000000 1000000),
          (s.step asciiCaseMap (.commit "r1" none 1000 500 80 1000000 1000000)).map (fun t =>
            (t.settled Reservation.inputCharge, t.settled Reservation.outputCharge)))) =
      some (true, some (1000, 500)) := by
  decide +kernel

end ETradie.Billing
