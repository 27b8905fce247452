import ETradie.Billing.Usage

namespace ETradie.Billing

open Kernel UsageRow Reservation Option

variable {rs : List Reservation} {q : Reservation → Bool} {c c' : Tokens} {r : Reservation}

section Charges

variable {q' : Reservation → Bool} {charge : Reservation → ℤ}
def Reservation.inputCharge (r : Reservation) : ℤ :=
  match r.status with
  | .held => r.call.estimatedInput.toInt
  | .committed => (r.actualInput.getD 0).toInt
  | .refunded => 0

def Reservation.outputCharge (r : Reservation) : ℤ :=
  match r.status with
  | .held => r.call.maxOutput.toInt
  | .committed => (r.actualOutput.getD 0).toInt
  | .refunded => 0

def within (q : Reservation → Bool) (charge : Reservation → ℤ) (r : Reservation) : ℤ :=
  if q r then charge r else 0

theorem within_nonneg (q : Reservation → Bool) (h : ∀ r ∈ rs, 0 ≤ charge r) :
    ∀ r ∈ rs, 0 ≤ within q charge r := by
  intro r hr
  simp only [within]
  split
  next => exact h r hr
  next => exact le_refl 0

theorem le_total_within (hnn : ∀ r ∈ rs, 0 ≤ charge r) (hr : r ∈ rs) (hq : q r) :
    charge r ≤ total (within q charge) rs := by
  have hle := le_total_of_mem (within_nonneg q hnn) hr
  simpa only [within, hq, if_true] using hle

structure Tokens.Sums (c : Tokens) (q : Reservation → Bool) (rs : List Reservation) : Prop where
  input : c.input.toInt = total (within q Reservation.inputCharge) rs
  output : c.output.toInt = total (within q Reservation.outputCharge) rs

structure Booked (rs : List Reservation) : Prop where
  keys : (rs.map Reservation.id).Nodup
  input : ∀ r ∈ rs, 0 ≤ r.inputCharge
  output : ∀ r ∈ rs, 0 ≤ r.outputCharge

theorem booked_nil : Booked [] := by
  refine ⟨List.nodup_nil, ?_, ?_⟩
  · intro r hr
    cases hr
  · intro r hr
    cases hr

theorem sums_zero (q : Reservation → Bool) (h : ∀ r ∈ rs, q r = false) : Tokens.Sums {} q rs := by
  have hno : ∀ charge : Reservation → ℤ, total (within q charge) rs = 0 := by
    intro charge
    have hcon : total (within q charge) rs = total (fun _ => 0) rs := by
      refine total_congr ?_
      intro r hr
      simp [within, h r hr]
    rw [hcon]
    simp [total]
  exact ⟨(hno _).symm, (hno _).symm⟩

theorem Tokens.Sums.congr (h : c.Sums q rs) (hq : ∀ r ∈ rs, q' r = q r) : c.Sums q' rs := by
  have hsm : ∀ charge : Reservation → ℤ,
      total (within q' charge) rs = total (within q charge) rs := by
    intro charge
    refine total_congr ?_
    intro r hr
    simp only [within, hq r hr]
  exact ⟨h.input.trans (hsm _).symm, h.output.trans (hsm _).symm⟩

theorem sums_cons (hsu : c.Sums q rs) (hq : ∀ r' ∈ rs, q' r' = q r')
    (hn : q' r) (hinp : c'.input.toInt = c.input.toInt + r.inputCharge)
    (hotp : c'.output.toInt = c.output.toInt + r.outputCharge) : c'.Sums q' (r :: rs) := by
  have ho := hsu.congr hq
  refine ⟨?_, ?_⟩
  · rw [total_cons, hinp, ho.input]
    simp only [within, hn]
    exact add_comm _ _
  · rw [total_cons, hotp, ho.output]
    simp only [within, hn]
    exact add_comm _ _

theorem Tokens.Sums.eq_zero_iff (h : ∀ r ∈ rs, q r = false) : c.Sums q rs ↔ c = {} := by
  constructor
  · rintro ⟨hi, ho⟩
    obtain ⟨hi', ho'⟩ := sums_zero q h
    obtain ⟨i, o⟩ := c
    have hinp : i = 0 := Int64.toInt_inj.mp (hi.trans hi'.symm)
    have hotp : o = 0 := Int64.toInt_inj.mp (ho.trans ho'.symm)
    rw [hinp, hotp]
  · rintro rfl
    exact sums_zero q h

end Charges

variable {actualInput actualOutput : Int64} {row : UsageRow}

section Effects

variable {text : CaseMap} {now : Int} {id : String} {t t' : UserTables}
variable {fault : Option (SettleStage × String)}

theorem reserve_cases (text : CaseMap) (now : Int) (id : String)
    (fault : Option (ReserveStage × String)) (call : ReserveCall) (policy : LLMQuotaPolicy)
    (t : UserTables) :
    (∃ e, reserveLLMTokens text now id fault call policy t = (.error e, t)) ∨
    (∃ e, reserveLLMTokens text now id fault call policy t =
      (.error e, { t with usage := some (upsertUsage now t.usage).blocked })) ∨
    ∃ debited, (upsertUsage now t.usage).debit call.estimatedInput call.maxOutput = some debited ∧
      checkCaps now (upsertUsage now t.usage) call policy = none ∧
      id ∉ t.reservations.map Reservation.id ∧
      0 ≤ call.estimatedInput.toInt ∧ 0 ≤ call.maxOutput.toInt ∧
      reserveLLMTokens text now id fault call policy t =
        (.ok id,
          { t with
            usage := some debited
            reservations := newReservation now id call policy :: t.reservations }) := by
  fun_cases reserveLLMTokens text now id fault call policy t
  · exact .inl ⟨_, rfl⟩
  · exact .inl ⟨_, rfl⟩
  · exact .inl ⟨_, rfl⟩
  · next hsgn _ =>
    fun_cases reserveTx now id fault call policy t
    · exact .inl ⟨_, rfl⟩
    · split
      · exact .inl ⟨_, rfl⟩
      · exact .inr (.inl ⟨_, rfl⟩)
    · exact .inl ⟨_, rfl⟩
    · exact .inl ⟨_, rfl⟩
    · exact .inl ⟨_, rfl⟩
    · next _ hcp debited hdeb hfr _ =>
      simp only [Int64.lt_iff_toInt_lt, not_or, not_lt] at hsgn
      exact .inr (.inr ⟨debited, hdeb, hcp, hfr, hsgn.1, hsgn.2, rfl⟩)

structure Settles (t : UserTables) (r : Reservation) (settle : Reservation → Reservation)
    (dIn dOut : ℤ) (t' : UserTables) : Prop where
  mem : r ∈ t.reservations
  status : r.status = .held
  userId : t'.userId = t.userId
  reservations : t'.reservations = amend Reservation.id r.id settle t.reservations
  usage : (t.usage = none ∧ t'.usage = none) ∨
    ∃ row row', t.usage = some row ∧ t'.usage = some row' ∧
      row.today.shift dIn dOut = some row'.today ∧
      row.month.shift dIn dOut = some row'.month ∧
      row'.lastResetAt = row.lastResetAt ∧ row'.monthlyWindowStart = row.monthlyWindowStart

theorem held_eq_some (h : t.held id = some r) :
    r ∈ t.reservations ∧ r.id = id ∧ r.status = .held := by
  have hm := List.mem_of_find?_eq_some h
  have hprop := List.find?_some h
  simp only [decide_eq_true_eq] at hprop
  exact ⟨hm, hprop.1, hprop.2⟩

def commitApplies (now : Int) (fault : Option (SettleStage × String)) (id : String)
    (actualInput actualOutput : Int64) (t : UserTables) : Bool :=
  id ≠ "" && fault.isNone && actualInput ≥ 0 && actualOutput ≥ 0 &&
    match t.held id with
    | none => false
    | some r => (updateUsage (UsageRow.meter now r actualInput actualOutput) t.usage).isSome

def refundApplies (fault : Option (SettleStage × String)) (id : String) (t : UserTables) : Bool :=
  id ≠ "" && fault.isNone &&
    match t.held id with
    | none => false
    | some r =>
      (updateUsage (·.shift (-r.call.estimatedInput.toInt)
        (-r.call.maxOutput.toInt)) t.usage).isSome

theorem raised_stages (label : SettleStage → String)
    (h : raised label fault [.begin, .update] = none)
    (h' : raised label fault [.adjust, .commit] = none) : fault = none := by
  cases fault with
  | none => rfl
  | some f =>
    obtain ⟨stage, e⟩ := f
    cases stage <;> simp [raised] at h h'

theorem ne_none_of_raised {label : SettleStage → String} {stages : List SettleStage} {e : String}
    (h : raised label fault stages = some e) : fault.isNone = false := by
  cases fault with
  | none => cases h
  | some f => rfl

theorem meter_eq_some {row' : UsageRow} (h : row.meter now r actualInput actualOutput = some row') :
    row.today.shift (actualInput.toInt - r.call.estimatedInput.toInt)
        (-outputRefund r.call.maxOutput actualOutput) = some row'.today ∧
      row.month.shift (actualInput.toInt - r.call.estimatedInput.toInt)
        (-outputRefund r.call.maxOutput actualOutput) = some row'.month ∧
      row'.lastResetAt = row.lastResetAt ∧ row'.monthlyWindowStart = row.monthlyWindowStart := by
  unfold meter at h
  simp only [bind_eq_some_iff, map_eq_some_iff] at h
  obtain ⟨shifted, hshf, -, -, rfl⟩ := h
  obtain ⟨htdy, hmon, hrst, hwin⟩ := shift_eq_some hshf
  exact ⟨htdy, hmon, hrst, hwin⟩

theorem noteOvershoot_counters (inputDelta : ℤ) (limit : Int64) (row : UsageRow) :
    (row.noteOvershoot inputDelta limit).today = row.today ∧
      (row.noteOvershoot inputDelta limit).month = row.month ∧
      (row.noteOvershoot inputDelta limit).lastResetAt = row.lastResetAt ∧
      (row.noteOvershoot inputDelta limit).monthlyWindowStart = row.monthlyWindowStart := by
  unfold noteOvershoot
  split <;> exact ⟨rfl, rfl, rfl, rfl⟩

theorem commit_cases (now : Int) (fault : Option (SettleStage × String)) (id : String)
    (actualInput actualOutput softCapPercent monthlyInputLimit monthlyOutputLimit : Int64)
    (t : UserTables) :
    (commitApplies now fault id actualInput actualOutput t = false ∧
      (commitLLMTokens now fault id actualInput actualOutput softCapPercent monthlyInputLimit
        monthlyOutputLimit t).2 = t) ∨
    (commitApplies now fault id actualInput actualOutput t ∧
      0 ≤ actualInput.toInt ∧ 0 ≤ actualOutput.toInt ∧
      ∃ r, t.held id = some r ∧
        Settles t r (commit now actualInput actualOutput)
          (actualInput.toInt - r.call.estimatedInput.toInt)
          (-outputRefund r.call.maxOutput actualOutput)
          (commitLLMTokens now fault id actualInput actualOutput softCapPercent
            monthlyInputLimit monthlyOutputLimit t).2) := by
  fun_cases commitLLMTokens now fault id actualInput actualOutput softCapPercent monthlyInputLimit
    monthlyOutputLimit t
  · next hid => exact .inl ⟨by simp [commitApplies, hid], rfl⟩
  · next hsgn =>
    rcases hsgn with hneg | hneg
    · simp [commitApplies, Int64.not_le.mpr hneg]
    · simp [commitApplies, Int64.not_le.mpr hneg]
  · next hrsd => exact .inl ⟨by simp [commitApplies, ne_none_of_raised hrsd], rfl⟩
  · next hno => exact .inl ⟨by simp [commitApplies, hno], rfl⟩
  · next hhd hov => exact .inl ⟨by simp [commitApplies, hhd, hov], rfl⟩
  · next hrsd => exact .inl ⟨by simp [commitApplies, ne_none_of_raised hrsd], rfl⟩
  · next hid hsgn hrsd r hhd _ husg hrsd' _ _ =>
    have hflt := raised_stages commitLabel hrsd hrsd'
    obtain ⟨hm, hrid, hsts⟩ := held_eq_some hhd
    simp only [not_or, Int64.not_lt] at hsgn
    have hin := Int64.le_iff_toInt_le.mp hsgn.1
    have hout := Int64.le_iff_toInt_le.mp hsgn.2
    refine .inr ⟨by simp [commitApplies, hid, hflt, hsgn.1, hsgn.2, hhd, husg],
      hin, hout, r, hhd, ⟨hm, hsts, rfl, by rw [hrid], ?_⟩⟩
    unfold updateUsage at husg
    split at husg
    next =>
      cases husg
      exact .inl ⟨by assumption, rfl⟩
    next row hr =>
      obtain ⟨metered, hmet, rfl⟩ := map_eq_some_iff.mp husg
      obtain ⟨htdy, hmon, hrst, hwin⟩ := meter_eq_some hmet
      obtain ⟨htdy', hmon', hrst', hwin'⟩ := noteOvershoot_counters
        (actualInput.toInt - r.call.estimatedInput.toInt) monthlyInputLimit metered
      refine .inr ⟨row, _, hr, rfl, ?_⟩
      split
      all_goals exact ⟨htdy'.symm ▸ htdy, hmon'.symm ▸ hmon, hrst'.trans hrst, hwin'.trans hwin⟩

theorem refund_cases (now : Int) (fault : Option (SettleStage × String)) (id : String)
    (t : UserTables) :
    (refundApplies fault id t = false ∧ (refundLLMTokens now fault id t).2 = t) ∨
    (refundApplies fault id t ∧
      ∃ r, t.held id = some r ∧
        Settles t r (refund now) (-r.call.estimatedInput.toInt)
          (-r.call.maxOutput.toInt) (refundLLMTokens now fault id t).2) := by
  fun_cases refundLLMTokens now fault id t
  · next hid => exact .inl ⟨by simp [refundApplies, hid], rfl⟩
  · next hrsd => exact .inl ⟨by simp [refundApplies, ne_none_of_raised hrsd], rfl⟩
  · next hno => exact .inl ⟨by simp [refundApplies, hno], rfl⟩
  · next hhd hov => exact .inl ⟨by simp [refundApplies, hhd, hov], rfl⟩
  · next hrsd => exact .inl ⟨by simp [refundApplies, ne_none_of_raised hrsd], rfl⟩
  · next hid hrsd r hhd _ husg hrsd' =>
    have hflt := raised_stages refundLabel hrsd hrsd'
    obtain ⟨hm, hrid, hsts⟩ := held_eq_some hhd
    refine .inr ⟨by simp [refundApplies, hid, hflt, hhd, husg], r, hhd,
      ⟨hm, hsts, rfl, by rw [hrid], ?_⟩⟩
    unfold updateUsage at husg
    split at husg
    next =>
      cases husg
      exact .inl ⟨by assumption, rfl⟩
    next row hr =>
      obtain ⟨shifted, hshf, rfl⟩ := map_eq_some_iff.mp husg
      exact .inr ⟨row, shifted, hr, rfl, shift_eq_some hshf⟩

end Effects

section Settlements

variable {settle : Reservation → Reservation} {dIn dOut : ℤ}

structure Settlement (r : Reservation) (settle : Reservation → Reservation) (dIn dOut : ℤ) :
    Prop where
  id : (settle r).id = r.id
  createdAt : (settle r).createdAt = r.createdAt
  status : (settle r).status ≠ .held
  input : (settle r).inputCharge = r.inputCharge + dIn
  input_nonneg : 0 ≤ (settle r).inputCharge
  output_nonneg : 0 ≤ (settle r).outputCharge
  bounded : -r.outputCharge ≤ dOut

def Tokens.Unmoved (c : Tokens) (dIn dOut : ℤ) : Prop :=
  max 0 (c.input.toInt + dIn) = c.input.toInt ∧ max 0 (c.output.toInt + dOut) = c.output.toInt

theorem commit_settlement (now : Int) (hhd : r.status = .held)
    (hbdd : 0 ≤ r.outputCharge) (hin : 0 ≤ actualInput.toInt) (hout : 0 ≤ actualOutput.toInt) :
    Settlement r (commit now actualInput actualOutput)
      (actualInput.toInt - r.call.estimatedInput.toInt)
      (-outputRefund r.call.maxOutput actualOutput) where
  id := rfl
  createdAt := rfl
  status := fun h => (by cases h)
  input := by
    simp only [inputCharge, commit, hhd, getD_some]
    omega
  input_nonneg := hin
  output_nonneg := hout
  bounded := by
    simp only [outputCharge, hhd] at hbdd
    simp only [outputCharge, hhd, outputRefund]
    omega

theorem refund_settlement (now : Int) (hhd : r.status = .held) :
    Settlement r (refund now) (-r.call.estimatedInput.toInt) (-r.call.maxOutput.toInt) where
  id := rfl
  createdAt := rfl
  status := fun h => (by cases h)
  input := by
    simp only [inputCharge, refund, hhd]
    omega
  input_nonneg := le_refl 0
  output_nonneg := le_refl 0
  bounded := by
    simp only [outputCharge, hhd]
    rfl

theorem commit_output_iff (now : Int) (actualInput : Int64) (hhd : r.status = .held) :
    (r.commit now actualInput actualOutput).outputCharge =
        r.outputCharge + -outputRefund r.call.maxOutput actualOutput ↔
      actualOutput ≤ r.call.maxOutput := by
  rw [Int64.le_iff_toInt_le]
  simp only [outputCharge, commit, hhd, getD_some, outputRefund]
  omega

theorem refund_output (now : Int) (hhd : r.status = .held) :
    (r.refund now).outputCharge = r.outputCharge + -r.call.maxOutput.toInt := by
  simp only [outputCharge, refund, hhd]
  omega

theorem booked_settle (hbkd : Booked rs) (hr : r ∈ rs) (hstl : Settlement r settle dIn dOut) :
    Booked (amend Reservation.id r.id settle rs) where
  keys := by
    rw [map_key_amend]
    · exact hbkd.keys
    · intro r' hr' hk
      rw [eq_of_key_eq hbkd.keys hr' hr hk, hstl.id]
  input := by
    intro r' hr'
    rcases mem_amend hr' with ⟨ho, -⟩ | ⟨r'', hr'', hk, rfl⟩
    · exact hbkd.input r' ho
    · rw [eq_of_key_eq hbkd.keys hr'' hr hk]
      exact hstl.input_nonneg
  output := by
    intro r' hr'
    rcases mem_amend hr' with ⟨ho, -⟩ | ⟨r'', hr'', hk, rfl⟩
    · exact hbkd.output r' ho
    · rw [eq_of_key_eq hbkd.keys hr'' hr hk]
      exact hstl.output_nonneg

theorem Tokens.Sums.settle_iff (hbkd : Booked rs) (hr : r ∈ rs)
    (hstl : Settlement r settle dIn dOut) (hq : q (settle r) = q r) (hsu : c.Sums q rs)
    (hshf : c.shift dIn dOut = some c') :
    c'.Sums q (amend Reservation.id r.id settle rs) ↔
      if q r then (settle r).outputCharge = r.outputCharge + dOut else c.Unmoved dIn dOut := by
  obtain ⟨hin, hout⟩ := Tokens.shift_eq_some hshf
  have hinp : total (within q inputCharge) (amend Reservation.id r.id settle rs) =
      c.input.toInt + (within q inputCharge (settle r) - within q inputCharge r) := by
    rw [total_amend hbkd.keys hr rfl, hsu.input]
  have hotp : total (within q outputCharge) (amend Reservation.id r.id settle rs) =
      c.output.toInt + (within q outputCharge (settle r) - within q outputCharge r) := by
    rw [total_amend hbkd.keys hr rfl, hsu.output]
  have hmk : c'.Sums q (amend Reservation.id r.id settle rs) ↔
      c'.input.toInt =
          total (within q inputCharge) (amend Reservation.id r.id settle rs) ∧
        c'.output.toInt = total (within q outputCharge) (amend Reservation.id r.id settle rs) :=
    ⟨fun h => ⟨h.input, h.output⟩, fun h => ⟨h.1, h.2⟩⟩
  rw [hmk, hinp, hotp, hin, hout]
  simp only [within, hq]
  cases hcls : q r with
  | false =>
    simp only [Bool.false_eq_true, if_false, sub_zero, add_zero]
    rfl
  | true =>
    -- the counters ho at least the charge of the reservation, so nothing is clamped
    have hinL : r.inputCharge ≤ c.input.toInt := hsu.input ▸ le_total_within hbkd.input hr hcls
    have hotL : r.outputCharge ≤ c.output.toInt := hsu.output ▸ le_total_within hbkd.output hr hcls
    have hcha := hstl.input
    have hlow := hstl.input_nonneg
    have hbdd := hstl.bounded
    simp only [if_true]
    omega

end Settlements

section Reads

variable (now : Int) (usage : Option UsageRow)

theorem upsertUsage_fresh : (upsertUsage now usage).stale now = false := by
  cases usage with
  | none => simp [upsertUsage, stale, nanoDay_stored]
  | some _ =>
    simp only [upsertUsage]
    split
    next => simp [stale, nanoDay_stored]
    next h => exact Bool.eq_false_iff.mpr h

theorem todayAt_of_fresh (h : row.stale now = false) : todayAt now (some row) = row.today := by
  simp only [todayAt, h, Bool.false_eq_true, if_false]

theorem todayAt_of_stale (h : row.stale now) : todayAt now (some row) = {} := by
  simp only [todayAt, h, if_true]

theorem upsertUsage_reset (h : ∀ row, usage = some row → row.lastResetAt ≤ now) :
    (upsertUsage now usage).lastResetAt ≤ now ∧
      nanoDay (upsertUsage now usage).lastResetAt = nanoDay now := by
  have hle : (upsertUsage now usage).lastResetAt ≤ now := by
    cases usage with
    | none => exact stored_le now
    | some row =>
      simp only [upsertUsage]
      split
      next => exact stored_le now
      next => exact h row rfl
  refine ⟨hle, le_antisymm (nanoDay_mono hle) ?_⟩
  have hfr := upsertUsage_fresh now usage
  simpa [stale] using hfr

end Reads

end ETradie.Billing
