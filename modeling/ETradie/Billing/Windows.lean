import ETradie.Kernel.Runs
import ETradie.Billing.Settlement

namespace ETradie.Billing

open Kernel UsageRow Tokens List

structure Metered where
  tables : UserTables
  clock : Int
  (windowed reaping : List String := [])

inductive MeterAction where
  | tick (now : Int)
  | reserve (id : String) (fault : Option (ReserveStage × String)) (call : ReserveCall)
      (policy : LLMQuotaPolicy)
  | commit (id : String) (fault : Option (SettleStage × String))
      (actualInput actualOutput softCapPercent monthlyInputLimit monthlyOutputLimit : Int64)
  | refund (id : String) (fault : Option (SettleStage × String))
  | janitorSelect
  | janitorRefund (id : String) (fault : Option (SettleStage × String))
  | touch (fault : Option String)
  | monthlyReset (fault : Option String) (windowStart : Int)

def resetApplies (fault : Option String) (windowStart : Int) (t : UserTables) : Bool :=
  t.userId ≠ "" && fault.isNone && t.usage.any (·.monthlyWindowStart < windowStart)

theorem monthlyReset_cases (fault : Option String) (windowStart : Int) (t : UserTables) :
    (resetApplies fault windowStart t = false ∧ (monthlyReset fault windowStart t).2 = t) ∨
    (resetApplies fault windowStart t ∧ ∃ row, t.usage = some row ∧
      (monthlyReset fault windowStart t).2 =
        { t with
          usage := some
            { row with
              month := {}, blockedMonth := 0, monthlyWindowStart := stored windowStart
              softCapNotifiedAt := none } }) := by
  unfold monthlyReset
  split
  next hu => exact .inl ⟨by simp [resetApplies, hu], rfl⟩
  next hu =>
    split
    next => exact .inl ⟨by simp [resetApplies], rfl⟩
    next =>
      split
      next hno => exact .inl ⟨by simp [resetApplies, hno], rfl⟩
      next row hrow =>
        split
        next ho => exact .inl ⟨by simp [resetApplies, hrow, ho], rfl⟩
        next hn => exact .inr ⟨by simp [resetApplies, hu, hrow, not_le.mp hn], row, hrow, rfl⟩

variable (s : Metered) (r : Reservation)

namespace Metered

def step (text : CaseMap) (s : Metered) : MeterAction → Option Metered
  | .tick now => if s.clock ≤ now then some { s with clock := now } else none
  | .reserve id fault call policy =>
    let (answer, tables) := reserveLLMTokens text s.clock id fault call policy s.tables
    some
      { s with
        tables := tables
        windowed :=
          match answer with
          | .ok made => made :: s.windowed
          | .error _ => s.windowed }
  | .commit id fault actualInput actualOutput softCapPercent monthlyInputLimit
      monthlyOutputLimit =>
      some
        { s with
          tables := (commitLLMTokens s.clock fault id actualInput actualOutput softCapPercent
            monthlyInputLimit monthlyOutputLimit s.tables).2 }
  | .refund id fault => some { s with tables := (refundLLMTokens s.clock fault id s.tables).2 }
  | .janitorSelect => some { s with reaping := staleReservations s.clock s.tables ++ s.reaping }
  | .janitorRefund id fault =>
    if id ∈ s.reaping then
      some { s with tables := (refundLLMTokens s.clock fault id s.tables).2 }
    else none
  | .touch fault => some { s with tables := (getOrUpdateUsage s.clock fault s.tables).2 }
  | .monthlyReset fault windowStart =>
    some
      { s with
        tables := (Billing.monthlyReset fault windowStart s.tables).2
        windowed := if resetApplies fault windowStart s.tables then [] else s.windowed }

def start (userId : String) (clock : Int) : Metered where
  tables := { userId := userId }
  clock := clock

def madeToday : Bool := nanoDay r.createdAt = nanoDay s.clock

def madeThisMonth : Bool := r.id ∈ s.windowed

structure Attributed (s : Metered) : Prop where
  today : (todayAt s.clock s.tables.usage).Sums s.madeToday s.tables.reservations
  month : (monthAt s.tables.usage).Sums s.madeThisMonth s.tables.reservations

def SettledInside (whole : Prop) (dIn dOut : ℤ) : Prop :=
  ∀ row, s.tables.usage = some row →
    (row.stale s.clock = false → if s.madeToday r then whole else row.today.Unmoved dIn dOut) ∧
    if s.madeThisMonth r then whole else row.month.Unmoved dIn dOut

def KeepsWindows : MeterAction → Prop
  | .commit id fault actualInput actualOutput _ _ _ =>
    commitApplies s.clock fault id actualInput actualOutput s.tables = true →
      ∀ r, s.tables.held id = some r →
        s.SettledInside r (actualOutput ≤ r.call.maxOutput)
          (actualInput.toInt - r.call.estimatedInput.toInt)
          (-outputRefund r.call.maxOutput actualOutput)
  | .refund id fault =>
    refundApplies fault id s.tables = true → ∀ r, s.tables.held id = some r →
      s.SettledInside r True (-r.call.estimatedInput.toInt) (-r.call.maxOutput.toInt)
  | .janitorRefund id fault =>
    refundApplies fault id s.tables = true → ∀ r, s.tables.held id = some r →
      s.SettledInside r True (-r.call.estimatedInput.toInt) (-r.call.maxOutput.toInt)
  | .touch fault =>
    fault = none → ∀ row, s.tables.usage = some row → row.stale s.clock = true → row.today = {}
  | _ => True

def ReportsWithin : MeterAction → Prop
  | .commit id _ actualInput actualOutput _ _ _ =>
    ∀ r, s.tables.held id = some r →
      actualInput ≤ r.call.estimatedInput ∧ actualOutput ≤ r.call.maxOutput
  | _ => True

structure WellKept (s : Metered) : Prop where
  booked : Booked s.tables.reservations
  unused : s.tables.usage = none → s.tables.reservations = []
  reset : ∀ row, s.tables.usage = some row →
    row.lastResetAt ≤ s.clock ∧
      ∀ r ∈ s.tables.reservations, nanoDay r.createdAt ≤ nanoDay row.lastResetAt

end Metered

section Steps

variable {text : CaseMap} {t : Metered} {s} {a : MeterAction}
variable {id : String} {r} {settle : Reservation → Reservation} {dIn dOut : ℤ}
variable {tables : UserTables} {fault : Option (SettleStage × String)}

inductive MeterMoves (s : Metered) (a : MeterAction) (t : Metered) : Prop
  | quiet (htables : t.tables = s.tables) (hclock : t.clock = s.clock)
      (hwindowed : t.windowed = s.windowed) (hcond : s.KeepsWindows a)
  | ticked (now : Int) (haction : a = .tick now) (hlater : s.clock ≤ now)
      (hafter : t = { s with clock := now }) (hcond : s.KeepsWindows a)
  | refreshed (row : UsageRow)
      (hafter : t = { s with tables := { s.tables with usage := some row } })
      (hfresh : row.stale s.clock = false) (htoday : row.today = todayAt s.clock s.tables.usage)
      (hmonth : row.month = monthAt s.tables.usage)
      (hreset : (∀ old, s.tables.usage = some old → old.lastResetAt ≤ s.clock) →
        row.lastResetAt ≤ s.clock)
      (hcond : s.KeepsWindows a)
  | granted (id : String) (call : ReserveCall) (policy : LLMQuotaPolicy) (row : UsageRow)
      (hdebit : (upsertUsage s.clock s.tables.usage).debit call.estimatedInput call.maxOutput =
        some row)
      (hcaps : checkCaps s.clock (upsertUsage s.clock s.tables.usage) call policy = none)
      (hid : id ∉ s.tables.reservations.map Reservation.id)
      (hinput : 0 ≤ call.estimatedInput.toInt) (houtput : 0 ≤ call.maxOutput.toInt)
      (haction : ∃ fault, a = .reserve id fault call policy)
      (hafter : t =
        { s with
          tables :=
            { s.tables with
              usage := some row
              reservations := newReservation s.clock id call policy :: s.tables.reservations }
          windowed := id :: s.windowed })
  | settled (r : Reservation) (settle : Reservation → Reservation) (dIn dOut : ℤ) (whole : Prop)
      (hsettle : 0 ≤ r.outputCharge → Settlement r settle dIn dOut)
      (hreport : 0 ≤ r.inputCharge → 0 ≤ r.outputCharge → s.ReportsWithin a →
        whole ∧ dIn ≤ 0 ∧ dOut ≤ 0)
      (hwhole : (settle r).outputCharge = r.outputCharge + dOut ↔ whole)
      (htables : Settles s.tables r settle dIn dOut t.tables)
      (hclock : t.clock = s.clock) (hwindowed : t.windowed = s.windowed)
      (hcond : s.KeepsWindows a ↔ s.SettledInside r whole dIn dOut)
  | carried (row row' : UsageRow) (haction : ∃ fault, a = .touch fault)
      (hrow : s.tables.usage = some row)
      (hstale : row.stale s.clock = true)
      (hafter : t = { s with tables := { s.tables with usage := some row' } })
      (htoday : row'.today = row.today) (hmonth : row'.month = row.month)
      (hreset : row'.lastResetAt = stored s.clock)
      (hcond : s.KeepsWindows a ↔ row.today = {})
  | emptied (row row' : UsageRow)
      (haction : ∃ fault windowStart, a = .monthlyReset fault windowStart)
      (hrow : s.tables.usage = some row)
      (hafter : t = { s with tables := { s.tables with usage := some row' }, windowed := [] })
      (htoday : row'.today = row.today) (hmonth : row'.month = {})
      (hreset : row'.lastResetAt = row.lastResetAt) (hcond : s.KeepsWindows a)

theorem eq_of_quiet (htbs : t.tables = s.tables) (hclk : t.clock = s.clock)
    (hwin : t.windowed = s.windowed) : t = { s with reaping := t.reaping } := by
  cases t
  cases htbs
  cases hclk
  cases hwin
  rfl

theorem forall_held_iff {applies : Prop} {P : Reservation → Prop} (happ : applies)
    (hhd : tables.held id = some r) :
    (applies → ∀ r', tables.held id = some r' → P r') ↔ P r := by
  constructor
  · intro h
    exact h happ r hhd
  · intro h _ r' hr'
    rw [hhd] at hr'
    cases hr'
    exact h

theorem moves_of_refund (hcd : s.KeepsWindows a ↔
      (refundApplies fault id s.tables → ∀ r, s.tables.held id = some r →
        s.SettledInside r True (-r.call.estimatedInput.toInt) (-r.call.maxOutput.toInt)))
    (htbs : t.tables = (refundLLMTokens s.clock fault id s.tables).2)
    (hclk : t.clock = s.clock) (hwin : t.windowed = s.windowed) : MeterMoves s a t := by
  rcases refund_cases s.clock fault id s.tables with ⟨hski, hsm⟩ | ⟨happ, r, hhd, hstt⟩
  · refine .quiet (htbs.trans hsm) hclk hwin (hcd.mpr ?_)
    intro happ
    rw [hski] at happ
    cases happ
  · have hsts := hstt.status
    refine .settled r (Reservation.refund s.clock) _ _ True
      (fun _ => refund_settlement s.clock hsts) ?_
      (iff_of_true (refund_output s.clock hsts) trivial) (htbs ▸ hstt) hclk
      hwin ?_
    · intro hin hout _
      simp only [Reservation.inputCharge, Reservation.outputCharge, hsts] at hin hout
      exact ⟨trivial, by omega, by omega⟩
    · exact hcd.trans (forall_held_iff happ hhd)

theorem moves_of_commit {actualInput actualOutput : Int64}
    {softCapPercent monthlyInputLimit monthlyOutputLimit : Int64} :
    MeterMoves s (.commit id fault actualInput actualOutput softCapPercent monthlyInputLimit
      monthlyOutputLimit)
      { s with
        tables := (commitLLMTokens s.clock fault id actualInput actualOutput softCapPercent
          monthlyInputLimit monthlyOutputLimit s.tables).2 } := by
  rcases commit_cases s.clock fault id actualInput actualOutput softCapPercent
      monthlyInputLimit monthlyOutputLimit s.tables with
    ⟨hski, hsm⟩ | ⟨happ, hin, hout, r, hhd, hstt⟩
  · refine .quiet hsm rfl rfl ?_
    intro happ
    rw [hski] at happ
    cases happ
  · have hsts := hstt.status
    refine .settled r (Reservation.commit s.clock actualInput actualOutput) _ _
      (actualOutput ≤ r.call.maxOutput)
      (fun hcha => commit_settlement s.clock hsts hcha hin hout) ?_
      (commit_output_iff s.clock actualInput hsts) hstt rfl rfl
      (forall_held_iff happ hhd)
    intro _ _ hrep
    obtain ⟨hinp, hotp⟩ := hrep r hhd
    rw [Int64.le_iff_toInt_le] at hinp
    refine ⟨hotp, by omega, ?_⟩
    unfold outputRefund
    omega

theorem moves_of_touch :
    MeterMoves s (.touch none) { s with tables := (getOrUpdateUsage s.clock none s.tables).2 } := by
  cases husg : s.tables.usage with
  | none =>
    refine .refreshed (touchUsage s.clock none) (by simp [getOrUpdateUsage, husg])
      (by simp [touchUsage, stale, nanoDay_stored]) (by rw [husg]; rfl)
      (by rw [husg]; rfl) (fun _ => stored_le s.clock) ?_
    intro _ row hrow
    rw [husg] at hrow
    cases hrow
  | some row =>
    cases hstl : row.stale s.clock with
    | true =>
      refine .carried row (touchUsage s.clock (some row)) ⟨none, rfl⟩ husg hstl
        (by simp [getOrUpdateUsage, husg]) (by simp [touchUsage, hstl])
        (by simp [touchUsage, hstl]) (by simp [touchUsage, hstl]) ?_
      constructor
      · intro h
        exact h rfl row husg hstl
      · intro hz _ row' hrow' _
        rw [husg] at hrow'
        cases hrow'
        exact hz
    | false =>
      have hsm : touchUsage s.clock (some row) = row := by simp [touchUsage, hstl]
      refine .refreshed row (by simp [getOrUpdateUsage, husg, hsm]) hstl
        (by rw [husg, todayAt_of_fresh s.clock hstl]) (by rw [husg]; rfl)
        (fun hrst => hrst row husg) ?_
      intro _ row' hrow' hstl'
      rw [husg] at hrow'
      cases hrow'
      rw [hstl] at hstl'
      cases hstl'

theorem meterMoves_of_step (hst : s.step text a = some t) : MeterMoves s a t := by
  revert hst
  fun_cases Metered.step text s a
  all_goals rintro ⟨⟩
  · next hlat => exact .ticked _ rfl hlat rfl trivial
  · next id fault call policy _ tables hans =>
    rcases reserve_cases text s.clock id fault call policy s.tables with
      ⟨e, hsm⟩ | ⟨e, hblo⟩ | ⟨row, hdeb, hcp, hid, hinp, hotp, hgra⟩
    · cases hans.symm.trans hsm
      exact .quiet rfl rfl rfl trivial
    · cases hans.symm.trans hblo
      refine .refreshed (upsertUsage s.clock s.tables.usage).blocked rfl
        (upsertUsage_fresh s.clock s.tables.usage) (upsertUsage_today s.clock s.tables.usage)
        (upsertUsage_month s.clock s.tables.usage) ?_ trivial
      intro hrst
      exact (upsertUsage_reset s.clock s.tables.usage hrst).1
    · cases hans.symm.trans hgra
      exact .granted id call policy row hdeb hcp hid hinp hotp ⟨fault, rfl⟩ rfl
  · exact moves_of_commit
  · exact moves_of_refund Iff.rfl rfl rfl rfl
  · exact .quiet rfl rfl rfl trivial
  · exact moves_of_refund Iff.rfl rfl rfl rfl
  · next fault =>
    cases fault with
    | some e => exact .quiet rfl rfl rfl nofun
    | none => exact moves_of_touch
  · next fault windowStart =>
    rcases monthlyReset_cases fault windowStart s.tables with
      ⟨hski, hsm⟩ | ⟨happ, row, hrow, hrst⟩
    · refine .quiet hsm rfl ?_ trivial
      simp only [hski, Bool.false_eq_true, if_false]
    · refine .emptied row
        { row with
          month := {}, blockedMonth := 0, monthlyWindowStart := stored windowStart
          softCapNotifiedAt := none } ⟨fault, windowStart, rfl⟩ hrow ?_ rfl rfl rfl trivial
      simp only [happ, if_true, hrst]

theorem settles_reset {tables' : UserTables} (hstt : Settles tables r settle dIn dOut tables')
    {row' : UsageRow} (hrow' : tables'.usage = some row') :
    ∃ row, tables.usage = some row ∧ row'.lastResetAt = row.lastResetAt := by
  rcases hstt.usage with ⟨-, hno⟩ | ⟨row, row'', hrow, hrow'', -, -, hrst, -⟩
  · rw [hno] at hrow'
    cases hrow'
  · rw [hrow''] at hrow'
    cases hrow'
    exact ⟨row, hrow, hrst⟩

theorem Metered.WellKept.made_by_now (hkp : s.WellKept) (hr : r ∈ s.tables.reservations) :
    nanoDay r.createdAt ≤ nanoDay s.clock := by
  cases husg : s.tables.usage with
  | none =>
    rw [hkp.unused husg] at hr
    cases hr
  | some row =>
    obtain ⟨hl, hmd⟩ := hkp.reset row husg
    exact (hmd r hr).trans (nanoDay_mono hl)

theorem wellKept_settled (hkp : s.WellKept) (hstt : Settlement r settle dIn dOut)
    (htbs : Settles s.tables r settle dIn dOut t.tables) (hclk : t.clock = s.clock) :
    t.WellKept := by
  refine ⟨?_, ?_, ?_⟩
  · rw [htbs.reservations]
    exact booked_settle hkp.booked htbs.mem hstt
  · intro hno
    rcases htbs.usage with ⟨hno', -⟩ | ⟨row, row', -, hrow', -⟩
    · have hemp := hkp.unused hno'
      have hm := htbs.mem
      rw [hemp] at hm
      cases hm
    · rw [hno] at hrow'
      cases hrow'
  · intro row' hrow'
    obtain ⟨row, hrow, hrst⟩ := settles_reset htbs hrow'
    obtain ⟨hl, hmd⟩ := hkp.reset row hrow
    rw [hrst, hclk, htbs.reservations]
    refine ⟨hl, ?_⟩
    intro r' hr'
    rcases mem_amend hr' with ⟨ho, -⟩ | ⟨r'', hr'', hk, rfl⟩
    · exact hmd r' ho
    · have hsm := eq_of_key_eq hkp.booked.keys hr'' htbs.mem hk
      subst hsm
      rw [hstt.createdAt]
      exact hmd r'' hr''

theorem wellKept_step (hkp : s.WellKept) (hst : s.step text a = some t) : t.WellKept := by
  cases meterMoves_of_step hst with
  | quiet htbs hclk hwin _ =>
    rw [eq_of_quiet htbs hclk hwin]
    exact { hkp with }
  | ticked _ _ hlat haft _ =>
    subst haft
    refine ⟨hkp.booked, hkp.unused, ?_⟩
    intro row hrow
    obtain ⟨hrst, hmd⟩ := hkp.reset row hrow
    exact ⟨hrst.trans hlat, hmd⟩
  | refreshed row haft hfr _ _ hrst _ =>
    subst haft
    have hl : row.lastResetAt ≤ s.clock := hrst (fun old ho => (hkp.reset old ho).1)
    refine ⟨hkp.booked, fun h => (by cases h), ?_⟩
    intro row' hrow'
    cases hrow'
    refine ⟨hl, ?_⟩
    intro r hr
    have hday : nanoDay s.clock ≤ nanoDay row.lastResetAt := by simpa [stale] using hfr
    exact (hkp.made_by_now hr).trans hday
  | granted _ _ _ row hdeb _ hid hinp hotp _ haft =>
    subst haft
    obtain ⟨-, -, hl, -⟩ := debit_eq_some hdeb
    obtain ⟨hle, hday⟩ := upsertUsage_reset s.clock s.tables.usage
      (fun old ho => (hkp.reset old ho).1)
    refine ⟨⟨?_, ?_, ?_⟩, fun h => (by cases h), ?_⟩
    · exact nodup_cons.mpr ⟨hid, hkp.booked.keys⟩
    · exact forall_mem_cons.mpr ⟨hinp, hkp.booked.input⟩
    · exact forall_mem_cons.mpr ⟨hotp, hkp.booked.output⟩
    · intro row' hrow'
      cases hrow'
      refine ⟨hl ▸ hle, ?_⟩
      rw [hl, hday]
      exact forall_mem_cons.mpr ⟨(nanoDay_stored s.clock).le, fun r hr => hkp.made_by_now hr⟩
  | settled r _ _ _ _ hstt _ _ htbs hclk _ _ =>
    exact wellKept_settled hkp (hstt (hkp.booked.output r htbs.mem)) htbs hclk
  | carried row row' _ hrow _ haft _ _ hrst _ =>
    subst haft
    refine ⟨hkp.booked, fun h => (by cases h), ?_⟩
    intro row'' hrow''
    cases hrow''
    rw [hrst]
    refine ⟨stored_le s.clock, ?_⟩
    intro r hr
    rw [nanoDay_stored]
    exact hkp.made_by_now hr
  | emptied row row' _ hrow haft _ _ hrst _ =>
    subst haft
    refine ⟨hkp.booked, fun h => (by cases h), ?_⟩
    intro row'' hrow''
    cases hrow''
    rw [hrst]
    exact hkp.reset row hrow

theorem notMade_of_later (hkp : s.WellKept) (now : Int)
    (hlat : ∀ row, s.tables.usage = some row → row.stale now) :
    (∀ r ∈ s.tables.reservations, ({ s with clock := now } : Metered).madeToday r = false) ∧
      todayAt now s.tables.usage = {} := by
  cases husg : s.tables.usage with
  | none =>
    refine ⟨?_, rfl⟩
    intro r hr
    rw [hkp.unused husg] at hr
    cases hr
  | some row =>
    have hstl := hlat row husg
    refine ⟨?_, todayAt_of_stale now hstl⟩
    intro r hr
    have hmd := (hkp.reset row husg).2 r hr
    simp only [stale, decide_eq_true_eq] at hstl
    simp only [Metered.madeToday, decide_eq_false_iff_not]
    omega

theorem attributed_tick (hkp : s.WellKept) (hsnd : s.Attributed) {now : Int}
    (hlat : s.clock ≤ now) : Metered.Attributed { s with clock := now } := by
  refine ⟨?_, hsnd.month⟩
  by_cases hday : nanoDay now = nanoDay s.clock
  · have htdy : todayAt now s.tables.usage = todayAt s.clock s.tables.usage := by
      cases s.tables.usage with
      | none => rfl
      | some row =>
        have hstl : row.stale now = row.stale s.clock := by simp only [stale, hday]
        simp only [todayAt, hstl]
    refine Sums.congr (htdy ▸ hsnd.today) ?_
    intro r _
    simp only [Metered.madeToday, hday]
  · have hnx : nanoDay s.clock < nanoDay now :=
      lt_of_le_of_ne (nanoDay_mono hlat) (fun h => hday h.symm)
    have hstl : ∀ row, s.tables.usage = some row → row.stale now := by
      intro row hrow
      have hrst := nanoDay_mono (hkp.reset row hrow).1
      simp only [stale, decide_eq_true_eq]
      omega
    obtain ⟨hno, hz⟩ := notMade_of_later hkp now hstl
    rw [hz]
    exact sums_zero _ hno

theorem madeThisMonth_other (hid : id ∉ s.tables.reservations.map Reservation.id) :
    ∀ r ∈ s.tables.reservations, decide (r.id ∈ id :: s.windowed) = s.madeThisMonth r := by
  intro r hr
  have hoth : r.id ≠ id := by
    rintro rfl
    exact hid (mem_map_of_mem hr)
  simp only [Metered.madeThisMonth, mem_cons, hoth, false_or]

theorem attributed_granted (hsnd : s.Attributed) {call : ReserveCall} {policy : LLMQuotaPolicy}
    {row : UsageRow}
    (hdeb : (upsertUsage s.clock s.tables.usage).debit call.estimatedInput call.maxOutput =
      some row) (hid : id ∉ s.tables.reservations.map Reservation.id) :
    Metered.Attributed
      { s with
        tables :=
          { s.tables with
            usage := some row
            reservations := newReservation s.clock id call policy :: s.tables.reservations }
        windowed := id :: s.windowed } := by
  obtain ⟨htdy, hmon, hrst, -⟩ := debit_eq_some hdeb
  rw [upsertUsage_today, debit_eq_some_iff] at htdy
  rw [upsertUsage_month, debit_eq_some_iff] at hmon
  have hfr : row.stale s.clock = false := by
    have ho := upsertUsage_fresh s.clock s.tables.usage
    simpa only [stale, hrst] using ho
  refine ⟨?_, ?_⟩
  · rw [todayAt_of_fresh s.clock hfr]
    refine sums_cons hsnd.today (fun r _ => rfl) ?_ htdy.1 htdy.2
    simp only [Metered.madeToday, newReservation, nanoDay_stored, decide_true]
  · refine sums_cons hsnd.month (madeThisMonth_other hid) ?_ hmon.1 hmon.2
    simp only [Metered.madeThisMonth, newReservation, mem_cons, true_or, decide_true]

theorem attributed_settled_iff (hkp : s.WellKept) (hsnd : s.Attributed) {whole : Prop}
    (hstt : Settlement r settle dIn dOut)
    (hwh : (settle r).outputCharge = r.outputCharge + dOut ↔ whole)
    (htbs : Settles s.tables r settle dIn dOut t.tables) (hclk : t.clock = s.clock)
    (hwin : t.windowed = s.windowed) : t.Attributed ↔ s.SettledInside r whole dIn dOut := by
  rcases htbs.usage with ⟨hno, -⟩ | ⟨row, row', hrow, hrow', htdy, hmon, hrst, -⟩
  · have hm := htbs.mem
    rw [hkp.unused hno] at hm
    cases hm
  · have hmnt : (monthAt t.tables.usage).Sums t.madeThisMonth t.tables.reservations ↔
        if s.madeThisMonth r then whole else row.month.Unmoved dIn dOut := by
      have hcls : t.madeThisMonth = s.madeThisMonth := by
        funext r'
        simp only [Metered.madeThisMonth, hwin]
      have hsu := hsnd.month
      rw [hrow] at hsu
      rw [hrow', htbs.reservations, hcls, ← hwh]
      refine Sums.settle_iff hkp.booked htbs.mem hstt ?_ hsu hmon
      simp only [Metered.madeThisMonth, hstt.id]
    have htod : (todayAt t.clock t.tables.usage).Sums t.madeToday t.tables.reservations ↔
        (row.stale s.clock = false →
          if s.madeToday r then whole else row.today.Unmoved dIn dOut) := by
      have hcls : t.madeToday = s.madeToday := by
        funext r'
        simp only [Metered.madeToday, hclk]
      have hstl' : row'.stale s.clock = row.stale s.clock := by simp only [stale, hrst]
      rw [hrow', htbs.reservations, hcls, hclk]
      cases hstl : row.stale s.clock with
      | true =>
        -- nothing of this row was made today, and its counters are read as zero
        rw [hstl] at hstl'
        rw [todayAt_of_stale s.clock hstl']
        refine iff_of_true (sums_zero _ ?_) (fun h => (by cases h))
        have hno := (notMade_of_later hkp s.clock ?_).1
        · intro r' hr'
          rcases mem_amend hr' with ⟨ho, -⟩ | ⟨r'', hr'', hk, rfl⟩
          · exact hno r' ho
          · rw [eq_of_key_eq hkp.booked.keys hr'' htbs.mem hk]
            have hmd := hno r htbs.mem
            simp only [Metered.madeToday] at hmd ⊢
            rw [hstt.createdAt]
            exact hmd
        · intro row'' hrow''
          rw [hrow] at hrow''
          cases hrow''
          exact hstl
      | false =>
        rw [hstl] at hstl'
        have hsu := hsnd.today
        rw [hrow, todayAt_of_fresh s.clock hstl] at hsu
        rw [todayAt_of_fresh s.clock hstl', ← hwh]
        simp only [forall_const]
        refine Sums.settle_iff hkp.booked htbs.mem hstt ?_ hsu htdy
        simp only [Metered.madeToday, hstt.createdAt]
    constructor
    · rintro ⟨hday, hwnd⟩ row'' hrow''
      rw [hrow] at hrow''
      cases hrow''
      exact ⟨htod.mp hday, hmnt.mp hwnd⟩
    · intro h
      obtain ⟨hday, hwnd⟩ := h row hrow
      exact ⟨htod.mpr hday, hmnt.mpr hwnd⟩

theorem attributed_step_iff (hkp : s.WellKept) (hsnd : s.Attributed)
    (hst : s.step text a = some t) : t.Attributed ↔ s.KeepsWindows a := by
  cases meterMoves_of_step hst with
  | quiet htbs hclk hwin hcd =>
    rw [eq_of_quiet htbs hclk hwin]
    exact iff_of_true { hsnd with } hcd
  | ticked _ _ hlat haft hcd =>
    subst haft
    exact iff_of_true (attributed_tick hkp hsnd hlat) hcd
  | refreshed row haft hfr htdy hmon _ hcd =>
    subst haft
    refine iff_of_true ⟨?_, ?_⟩ hcd
    · exact (todayAt_of_fresh s.clock hfr).trans htdy ▸ hsnd.today
    · show row.month.Sums _ _
      rw [hmon]
      exact hsnd.month
  | granted _ _ _ row hdeb _ hid _ _ hact haft =>
    subst haft
    obtain ⟨-, rfl⟩ := hact
    exact iff_of_true (attributed_granted hsnd hdeb hid) trivial
  | settled r _ _ _ _ hstt _ hwh htbs hclk hwin hcd =>
    rw [hcd]
    exact attributed_settled_iff hkp hsnd (hstt (hkp.booked.output r htbs.mem)) hwh htbs hclk hwin
  | carried row row' _ hrow hstl haft htdy hmon hrst hcd =>
    subst haft
    rw [hcd]
    have hno := (notMade_of_later hkp s.clock ?_).1
    · have hfr : row'.stale s.clock = false := by
        simp [stale, hrst, nanoDay_stored]
      have hrd : todayAt s.clock (some row') = row.today :=
        (todayAt_of_fresh s.clock hfr).trans htdy
      have hmnt := hsnd.month
      rw [hrow] at hmnt
      constructor
      · intro h
        exact (Sums.eq_zero_iff hno).mp (hrd ▸ h.today)
      · intro hz
        refine ⟨?_, ?_⟩
        · exact hrd ▸ (Sums.eq_zero_iff hno).mpr hz
        · show row'.month.Sums _ _
          rw [hmon]
          exact hmnt
    · intro _ hrow''
      rw [hrow] at hrow''
      cases hrow''
      exact hstl
  | emptied row row' _ hrow haft htdy hmon hrst hcd =>
    subst haft
    refine iff_of_true ⟨?_, ?_⟩ hcd
    · have hsm : todayAt s.clock (some row') = todayAt s.clock s.tables.usage := by
        have hstl : row'.stale s.clock = row.stale s.clock := by simp only [stale, hrst]
        simp only [hrow, todayAt, hstl, htdy]
      exact hsm ▸ hsnd.today
    · show row'.month.Sums _ _
      rw [hmon]
      refine sums_zero _ ?_
      intro r _
      rfl

end Steps

theorem attributed_throughout_iff (text : CaseMap) (userId : String) (clock : Int)
    (actions : List MeterAction) :
    Throughout (Metered.step text) Metered.Attributed (Metered.start userId clock) actions ↔
      Along (Metered.step text) Metered.KeepsWindows (Metered.start userId clock) actions := by
  refine throughout_iff_along (Metered.step text) (I := Metered.WellKept) ?_ ?_ actions ?_ ?_
  · intro s a t hkp hst
    exact wellKept_step hkp hst
  · intro s a t hkp hsnd hst
    exact attributed_step_iff hkp hsnd hst
  · refine ⟨booked_nil, fun _ => rfl, ?_⟩
    intro _ hrow
    cases hrow
  · refine ⟨sums_zero _ ?_, sums_zero _ ?_⟩
    · intro r hr
      cases hr
    · intro r hr
      cases hr

def generousPolicy : LLMQuotaPolicy where
  dailyInputTokens := 100000
  dailyOutputTokens := 100000
  monthlyInputTokens := 1000000
  monthlyOutputTokens := 1000000

theorem touch_carries_tokens_over :
    (run (Metered.step asciiCaseMap) (Metered.start "u1" 0)
        [.reserve "r1" none ⟨"pro", "openai", "gpt", "", 1000, 500⟩ generousPolicy,
          .commit "r1" none 1000 500 0 0 0, .tick dayNanos, .touch none]).map
        (fun s => (todayAt s.clock s.tables.usage, s.tables.reservations.filter s.madeToday)) =
      some (⟨1000, 500⟩, []) := by
  decide +kernel

end ETradie.Billing
