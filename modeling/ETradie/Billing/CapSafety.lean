import ETradie.Billing.Windows

namespace ETradie.Billing

open Kernel UsageRow Tokens Reservation Metered

structure CappedPolicy extends LLMQuotaPolicy where
  dailyInput_pos : 0 < dailyInputTokens
  dailyOutput_pos : 0 < dailyOutputTokens
  monthlyInput_pos : 0 < monthlyInputTokens
  monthlyOutput_pos : 0 < monthlyOutputTokens

structure FreshWindow where
  tables : UserTables
  clock : Int
  booked : Booked tables.reservations
  settled : ∀ r ∈ tables.reservations, r.status ≠ .held
  today : todayAt clock tables.usage = {}
  month : monthAt tables.usage = {}

def FreshWindow.start (w : FreshWindow) : Metered where
  tables := w.tables
  clock := w.clock

def Reservation.consumedInput (r : Reservation) : ℤ :=
  match r.status with
  | .committed => (r.actualInput.getD 0).toInt
  | _ => 0

def Reservation.consumedOutput (r : Reservation) : ℤ :=
  match r.status with
  | .committed => (r.actualOutput.getD 0).toInt
  | _ => 0

def Tokens.Within (c : Tokens) (input output : Int64) : Prop := c.input ≤ input ∧ c.output ≤ output

def Tokens.Unclamped (c : Tokens) (r : Reservation) : Prop :=
  ∀ actualInput actualOutput : Int64,
    0 ≤ actualInput → actualInput ≤ r.call.estimatedInput →
    0 ≤ actualOutput → actualOutput ≤ r.call.maxOutput →
      max 0 (c.input.toInt + (actualInput.toInt - r.call.estimatedInput.toInt)) =
          c.input.toInt + (actualInput.toInt - r.call.estimatedInput.toInt) ∧
        max 0 (c.output.toInt - outputRefund r.call.maxOutput actualOutput) =
          c.output.toInt - outputRefund r.call.maxOutput actualOutput ∧
        max 0 (c.input.toInt - r.call.estimatedInput.toInt) =
          c.input.toInt - r.call.estimatedInput.toInt ∧
        max 0 (c.output.toInt - r.call.maxOutput.toInt) = c.output.toInt - r.call.maxOutput.toInt

namespace Metered

def InsideWindow (policy : CappedPolicy) (s : Metered) (a : MeterAction) : Prop :=
  s.ReportsWithin a ∧
    match a with
    | .tick now => nanoDay now = nanoDay s.clock
    | .reserve _ _ _ p => p = policy.toLLMQuotaPolicy
    | .touch _ => False
    | .monthlyReset _ _ => False
    | _ => True

instance decidableInsideWindow (policy : CappedPolicy) (s : Metered) (a : MeterAction) :
    Decidable (s.InsideWindow policy a) := by
  have hreports : Decidable (s.ReportsWithin a) := by
    cases a with
    | commit id fault actualInput actualOutput _ _ _ =>
      exact decidable_of_iff
        (∀ r ∈ s.tables.held id, actualInput ≤ r.call.estimatedInput ∧
          actualOutput ≤ r.call.maxOutput) Iff.rfl
    | _ => exact isTrue trivial
  unfold InsideWindow
  cases a <;> infer_instance

structure CapSafe (policy : CappedPolicy) (s : Metered) : Prop where
  today : (todayAt s.clock s.tables.usage).Sums s.madeThisMonth s.tables.reservations
  month : (monthAt s.tables.usage).Sums s.madeThisMonth s.tables.reservations
  daily : (todayAt s.clock s.tables.usage).Within policy.dailyInputTokens policy.dailyOutputTokens
  monthly : (monthAt s.tables.usage).Within policy.monthlyInputTokens policy.monthlyOutputTokens
  unclamped : ∀ r ∈ s.tables.reservations, r.status = .held →
    (todayAt s.clock s.tables.usage).Unclamped r ∧ (monthAt s.tables.usage).Unclamped r
  input : total (within s.madeThisMonth Reservation.consumedInput) s.tables.reservations ≤
    min policy.dailyInputTokens.toInt policy.monthlyInputTokens.toInt
  output : total (within s.madeThisMonth Reservation.consumedOutput) s.tables.reservations ≤
    min policy.dailyOutputTokens.toInt policy.monthlyOutputTokens.toInt

structure Covered (policy : CappedPolicy) (s : Metered) : Prop where
  booked : Booked s.tables.reservations
  held : ∀ r ∈ s.tables.reservations, r.status = .held → s.madeThisMonth r = true
  fresh : s.windowed ≠ [] → ∃ row, s.tables.usage = some row ∧ row.stale s.clock = false
  today : (todayAt s.clock s.tables.usage).Sums s.madeThisMonth s.tables.reservations
  month : (monthAt s.tables.usage).Sums s.madeThisMonth s.tables.reservations
  daily : (todayAt s.clock s.tables.usage).Within policy.dailyInputTokens policy.dailyOutputTokens
  monthly : (monthAt s.tables.usage).Within policy.monthlyInputTokens policy.monthlyOutputTokens

end Metered

variable {policy : CappedPolicy} {row : UsageRow} {call : ReserveCall} {dIn dOut : ℤ}
variable {r : Reservation} {s : Metered}

section Caps

variable {c : Tokens} {rs : List Reservation} {used requested limit : Int64}
variable {q : Reservation → Bool}

theorem le_of_not_exceeds {v : Int64} (hcap : 0 < limit)
    (hpa : exceeds used requested limit = false) (hsum : v.toInt = used.toInt + requested.toInt) :
    v ≤ limit := by
  have hbou := toInt_bounds v
  rw [hsum] at hbou
  have hadd : used + requested = v := Int64.toInt_inj.mp ((toInt_add_of_fits hbou).trans hsum.symm)
  simp only [exceeds, hadd, Bool.and_eq_false_iff, decide_eq_false_iff_not, Int64.not_lt] at hpa
  rcases hpa with hno | hle
  · exact absurd hcap (Int64.not_lt.mpr hno)
  · exact hle

theorem checkCap_eq_none {dimension : Dimension} {resetsAt : Int}
    (h : checkCap dimension used requested limit resetsAt = none) :
    exceeds used requested limit = false := by
  unfold checkCap at h
  split at h
  next => cases h
  next hpa => exact Bool.eq_false_iff.mpr hpa

theorem within_of_granted {now : Int} {row' : UsageRow}
    (hcp : checkCaps now row call policy.toLLMQuotaPolicy = none)
    (hdeb : row.debit call.estimatedInput call.maxOutput = some row') :
    row'.today.Within policy.dailyInputTokens policy.dailyOutputTokens ∧
      row'.month.Within policy.monthlyInputTokens policy.monthlyOutputTokens := by
  simp only [checkCaps, Option.or_eq_none_iff] at hcp
  obtain ⟨hdi, hdo, hmi, hmo⟩ := hcp
  obtain ⟨htdy, hmon, -, -⟩ := debit_eq_some hdeb
  rw [debit_eq_some_iff] at htdy hmon
  exact
    ⟨⟨le_of_not_exceeds policy.dailyInput_pos (checkCap_eq_none hdi) htdy.1,
        le_of_not_exceeds policy.dailyOutput_pos (checkCap_eq_none hdo) htdy.2⟩,
      ⟨le_of_not_exceeds policy.monthlyInput_pos (checkCap_eq_none hmi) hmon.1,
        le_of_not_exceeds policy.monthlyOutput_pos (checkCap_eq_none hmo) hmon.2⟩⟩

theorem Tokens.Within.shift {c' : Tokens} {input output : Int64} (h : c.Within input output)
    (hin : 0 ≤ c.input.toInt) (hout : 0 ≤ c.output.toInt) (hdIn : dIn ≤ 0) (hdOut : dOut ≤ 0)
    (hshf : c.shift dIn dOut = some c') : c'.Within input output := by
  obtain ⟨hi, ho⟩ := shift_eq_some hshf
  unfold Within at h ⊢
  rw [Int64.le_iff_toInt_le, Int64.le_iff_toInt_le] at h ⊢
  omega

theorem Tokens.Sums.nonneg (h : c.Sums q rs) (hbkd : Booked rs) :
    0 ≤ c.input.toInt ∧ 0 ≤ c.output.toInt := by
  rw [h.input, h.output]
  exact ⟨total_nonneg (within_nonneg q hbkd.input), total_nonneg (within_nonneg q hbkd.output)⟩

theorem Tokens.Sums.unclamped (h : c.Sums q rs) (hbkd : Booked rs)
    (hr : r ∈ rs) (hcls : q r) (hhd : r.status = .held) : c.Unclamped r := by
  have hin : r.inputCharge ≤ c.input.toInt := h.input ▸ le_total_within hbkd.input hr hcls
  have hout : r.outputCharge ≤ c.output.toInt := h.output ▸ le_total_within hbkd.output hr hcls
  have hcha := hbkd.output r hr
  simp only [inputCharge, outputCharge, hhd] at hin hout hcha
  intro _ _ hai _ hao _
  rw [Int64.le_iff_toInt_le, Int64.toInt_zero] at hai hao
  unfold outputRefund
  omega

theorem consumed_le (q : Reservation → Bool) (hbkd : Booked rs) :
    total (within q consumedInput) rs ≤ total (within q inputCharge) rs ∧
      total (within q consumedOutput) rs ≤ total (within q outputCharge) rs := by
  refine ⟨total_le_total ?_, total_le_total ?_⟩
  · intro r hr
    have hcha := hbkd.input r hr
    simp only [within]
    split
    next =>
      unfold consumedInput inputCharge at *
      cases hsts : r.status <;> simp only [hsts] at hcha ⊢ <;> omega
    next => exact le_refl 0
  · intro r hr
    have hcha := hbkd.output r hr
    simp only [within]
    split
    next =>
      unfold consumedOutput outputCharge at *
      cases hsts : r.status <;> simp only [hsts] at hcha ⊢ <;> omega
    next => exact le_refl 0

theorem capSafe_of_covered (h : s.Covered policy) : s.CapSafe policy := by
  obtain ⟨hin, hout⟩ := consumed_le s.madeThisMonth h.booked
  have hdai := h.daily
  have hmnt := h.monthly
  simp only [Within, Int64.le_iff_toInt_le] at hdai hmnt
  have hdyn := h.today.input
  have hdyt := h.today.output
  have hmont := h.month.input
  have hmot := h.month.output
  refine ⟨h.today, h.month, h.daily, h.monthly, ?_, by omega, by omega⟩
  intro r hr hhd
  have hcls := h.held r hr hhd
  exact ⟨h.today.unclamped h.booked hr hcls hhd, h.month.unclamped h.booked hr hcls hhd⟩

end Caps

section Steps

variable {text : CaseMap} {t : Metered} {a : MeterAction}

theorem covered_settled (hcov : s.Covered policy)
    {settle : Reservation → Reservation} (hstl : Settlement r settle dIn dOut)
    (hwh : (settle r).outputCharge = r.outputCharge + dOut) (hdIn : dIn ≤ 0) (hdOut : dOut ≤ 0)
    (htbs : Settles s.tables r settle dIn dOut t.tables) (hclk : t.clock = s.clock)
    (hwin : t.windowed = s.windowed) : t.Covered policy := by
  have hcls := hcov.held r htbs.mem htbs.status
  have hsm : t.madeThisMonth = s.madeThisMonth := by
    funext r'
    simp only [madeThisMonth, hwin]
  have hk : s.madeThisMonth (settle r) = s.madeThisMonth r := by simp only [madeThisMonth, hstl.id]
  obtain ⟨row, hrow, hfr⟩ := hcov.fresh (by
    intro hnil
    simp [madeThisMonth, hnil] at hcls)
  rcases htbs.usage with ⟨hno, -⟩ | ⟨row₁, row', hrow₁, hrow', htdy, hmon, hrst, -⟩
  · rw [hno] at hrow
    cases hrow
  · rw [hrow] at hrow₁
    cases hrow₁
    have hfr' : row'.stale s.clock = false := by simpa only [stale, hrst] using hfr
    have hday := hcov.today
    have hdai := hcov.daily
    rw [hrow, todayAt_of_fresh s.clock hfr] at hday hdai
    have hmos := hcov.month
    have hmnt := hcov.monthly
    rw [hrow] at hmos hmnt
    obtain ⟨hdyn, hdyt⟩ := hday.nonneg hcov.booked
    obtain ⟨hmont, hmot⟩ := hmos.nonneg hcov.booked
    have hkp : ∀ {c c' : Tokens}, c.Sums s.madeThisMonth s.tables.reservations →
        c.shift dIn dOut = some c' →
        c'.Sums s.madeThisMonth (amend Reservation.id r.id settle s.tables.reservations) := by
      intro c c' hsu hshf
      refine (Sums.settle_iff hcov.booked htbs.mem hstl hk hsu hshf).mpr ?_
      rw [hcls]
      exact hwh
    refine ⟨?_, ?_, ?_, ?_, ?_, ?_, ?_⟩
    · rw [htbs.reservations]
      exact booked_settle hcov.booked htbs.mem hstl
    · rw [htbs.reservations, hsm]
      intro r' hr' hhd
      rcases mem_amend hr' with ⟨ho, -⟩ | ⟨r'', hr'', hid, rfl⟩
      · exact hcov.held r' ho hhd
      · rw [eq_of_key_eq hcov.booked.keys hr'' htbs.mem hid] at hhd
        exact absurd hhd hstl.status
    · intro _
      exact ⟨row', hrow', hclk ▸ hfr'⟩
    · rw [hrow', hclk, todayAt_of_fresh s.clock hfr', htbs.reservations, hsm]
      exact hkp hday htdy
    · rw [hrow', htbs.reservations, hsm]
      exact hkp hmos hmon
    · rw [hrow', hclk, todayAt_of_fresh s.clock hfr']
      exact hdai.shift hdyn hdyt hdIn hdOut htdy
    · rw [hrow']
      exact hmnt.shift hmont hmot hdIn hdOut hmon

theorem covered_granted (hcov : s.Covered policy) {id : String}
    (hdeb : (upsertUsage s.clock s.tables.usage).debit call.estimatedInput call.maxOutput =
      some row) (hcp : checkCaps s.clock (upsertUsage s.clock s.tables.usage) call
      policy.toLLMQuotaPolicy = none) (hid : id ∉ s.tables.reservations.map Reservation.id)
    (hinp : 0 ≤ call.estimatedInput.toInt) (hotp : 0 ≤ call.maxOutput.toInt) :
    Metered.Covered policy
      { s with
        tables :=
          { s.tables with
            usage := some row
            reservations := newReservation s.clock id call policy.toLLMQuotaPolicy ::
              s.tables.reservations }
        windowed := id :: s.windowed } := by
  obtain ⟨hdai, hmnt⟩ := within_of_granted hcp hdeb
  obtain ⟨htdy, hmon, hrst, -⟩ := debit_eq_some hdeb
  rw [upsertUsage_today, debit_eq_some_iff] at htdy
  rw [upsertUsage_month, debit_eq_some_iff] at hmon
  have hfr : row.stale s.clock = false := by
    have ho := upsertUsage_fresh s.clock s.tables.usage
    simpa only [stale, hrst] using ho
  have ho := madeThisMonth_other hid
  refine ⟨⟨?_, ?_, ?_⟩, ?_, fun _ => ⟨row, rfl, hfr⟩, ?_, ?_, ?_, hmnt⟩
  · exact List.nodup_cons.mpr ⟨hid, hcov.booked.keys⟩
  · exact List.forall_mem_cons.mpr ⟨hinp, hcov.booked.input⟩
  · exact List.forall_mem_cons.mpr ⟨hotp, hcov.booked.output⟩
  · refine List.forall_mem_cons.mpr ⟨fun _ => ?_, ?_⟩
    · simp [madeThisMonth, newReservation]
    · intro r hr hhd
      exact (ho r hr).trans (hcov.held r hr hhd)
  · rw [todayAt_of_fresh s.clock hfr]
    refine sums_cons hcov.today ho ?_ htdy.1 htdy.2
    simp [madeThisMonth, newReservation]
  · refine sums_cons hcov.month ho ?_ hmon.1 hmon.2
    simp [madeThisMonth, newReservation]
  · rw [todayAt_of_fresh s.clock hfr]
    exact hdai

theorem covered_step (hcov : s.Covered policy) (hins : s.InsideWindow policy a)
    (hst : s.step text a = some t) : t.Covered policy := by
  obtain ⟨hrep, hscp⟩ := hins
  cases meterMoves_of_step hst with
  | quiet htbs hclk hwin _ =>
    rw [eq_of_quiet htbs hclk hwin]
    exact { hcov with }
  | ticked now hact _ haft _ =>
    subst hact haft
    have hsta : ∀ row : UsageRow, row.stale now = row.stale s.clock := by
      intro row
      simp only [stale, hscp]
    have htdy : todayAt now s.tables.usage = todayAt s.clock s.tables.usage := by
      cases s.tables.usage with
      | none => rfl
      | some row => simp only [todayAt, hsta]
    refine ⟨hcov.booked, hcov.held, ?_, htdy ▸ hcov.today, hcov.month, htdy ▸ hcov.daily,
      hcov.monthly⟩
    intro hwin
    obtain ⟨row, hrow, hfr⟩ := hcov.fresh hwin
    exact ⟨row, hrow, (hsta row).trans hfr⟩
  | refreshed row haft hfr htdy hmon _ _ =>
    subst haft
    have hrd : todayAt s.clock (some row) = todayAt s.clock s.tables.usage := by
      rw [todayAt_of_fresh s.clock hfr, htdy]
    refine ⟨hcov.booked, hcov.held, fun _ => ⟨row, rfl, hfr⟩, hrd ▸ hcov.today, ?_,
      hrd ▸ hcov.daily, ?_⟩
    · show row.month.Sums _ _
      rw [hmon]
      exact hcov.month
    · show row.month.Within _ _
      rw [hmon]
      exact hcov.monthly
  | granted _ _ p row hdeb hcp hid hinp hotp hact haft =>
    obtain ⟨fault, rfl⟩ := hact
    subst hscp haft
    exact covered_granted hcov hdeb hcp hid hinp hotp
  | settled r _ _ _ _ hstl hrpr hwh htbs hclk hwin _ =>
    have hin := hcov.booked.input r htbs.mem
    have hout := hcov.booked.output r htbs.mem
    obtain ⟨hall, hdIn, hdOut⟩ := hrpr hin hout hrep
    exact covered_settled hcov (hstl hout) (hwh.mpr hall) hdIn hdOut htbs hclk hwin
  | carried row row' hact _ _ _ _ _ _ _ =>
    obtain ⟨fault, rfl⟩ := hact
    exact hscp.elim
  | emptied row row' hact _ _ _ _ _ _ =>
    obtain ⟨fault, windowStart, rfl⟩ := hact
    exact hscp.elim

end Steps

theorem covered_start (policy : CappedPolicy) (w : FreshWindow) : w.start.Covered policy := by
  have hno : ∀ r ∈ w.tables.reservations, w.start.madeThisMonth r = false := by
    intro r _
    rfl
  have hpos : ∀ limit : Int64, 0 < limit → (0 : Int64) ≤ limit := by
    intro limit h
    rw [Int64.lt_iff_toInt_lt] at h
    exact Int64.le_iff_toInt_le.mpr h.le
  refine ⟨w.booked, ?_, fun h => absurd rfl h, ?_, ?_, ?_, ?_⟩
  · intro r hr hhd
    exact absurd hhd (w.settled r hr)
  · show (todayAt w.clock w.tables.usage).Sums _ _
    rw [w.today]
    exact sums_zero _ hno
  · show (monthAt w.tables.usage).Sums _ _
    rw [w.month]
    exact sums_zero _ hno
  · show (todayAt w.clock w.tables.usage).Within _ _
    rw [w.today]
    exact ⟨hpos _ policy.dailyInput_pos, hpos _ policy.dailyOutput_pos⟩
  · show (monthAt w.tables.usage).Within _ _
    rw [w.month]
    exact ⟨hpos _ policy.monthlyInput_pos, hpos _ policy.monthlyOutput_pos⟩

theorem capSafe_throughout (text : CaseMap) (policy : CappedPolicy) (w : FreshWindow)
    (actions : List MeterAction)
    (h : Along (Metered.step text) (Metered.InsideWindow policy) w.start actions) :
    Throughout (Metered.step text) (Metered.CapSafe policy) w.start actions := by
  refine Throughout.mono (Metered.step text) (fun s hs => capSafe_of_covered hs) ?_
  refine throughout_of_along (Metered.step text) ?_ (covered_start policy w) h
  intro s a t hcov hins hst
  exact covered_step hcov hins hst

def smallCaps : CappedPolicy where
  dailyInputTokens := 100
  dailyOutputTokens := 100
  monthlyInputTokens := 1000
  monthlyOutputTokens := 1000
  dailyInput_pos := by decide
  dailyOutput_pos := by decide
  monthlyInput_pos := by decide
  monthlyOutput_pos := by decide

def firstDay : FreshWindow where
  tables := { userId := "u1" }
  clock := 0
  booked := booked_nil
  settled := fun r hr => (by cases hr)
  today := rfl
  month := rfl

theorem capSafe_racing_settlements :
    Throughout (Metered.step asciiCaseMap) (Metered.CapSafe smallCaps) firstDay.start
      [.reserve "r1" none ⟨"", "", "", "", 60, 50⟩ smallCaps.toLLMQuotaPolicy,
        .reserve "r2" none ⟨"", "", "", "", 40, 50⟩ smallCaps.toLLMQuotaPolicy,
        .commit "r1" none 55 20 0 0 0, .commit "r1" none 55 20 0 0 0, .refund "r1" none,
        .reserve "r3" none ⟨"", "", "", "", 60, 10⟩ smallCaps.toLLMQuotaPolicy] :=
  capSafe_throughout asciiCaseMap smallCaps firstDay _ (by decide +kernel)

end ETradie.Billing
