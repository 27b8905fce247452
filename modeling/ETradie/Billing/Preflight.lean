import ETradie.Billing.Usage

namespace ETradie.Billing

open Kernel Option

inductive PreflightResult where
  | allowed
  | blocked (dimension : Dimension) (limit used requested : Int64) (resetsAt : Int)
deriving DecidableEq

variable (dimension : Dimension) (used : Int64)

def preflightCheck (requested limit : Int64) (resetsAt : Int) :
    Option PreflightResult :=
  if limit ≤ 0 then none
  else
    let blocked : Bool := if requested = 0 then used ≥ limit else used + requested > limit
    if blocked then some (.blocked dimension limit used requested resetsAt) else none

variable (now : Int)

def preflightLLMQuota (fault : Option String) (estimatedInput maxOutput : Int64)
    (policy : LLMQuotaPolicy) (t : UserTables) : Except String PreflightResult :=
  if t.userId = "" then .error "preflight_llm_quota: user_id is required"
  else if estimatedInput < 0 ∨ maxOutput < 0 then
    .error ("preflight_llm_quota: token counts must be non-negative (input=" ++
      toString estimatedInput.toInt ++ " output=" ++ toString maxOutput.toInt ++ ")")
  else if policy.maxInputTokensPerCall > 0 ∧ estimatedInput > policy.maxInputTokensPerCall then
    .ok (.blocked .perCallInput policy.maxInputTokensPerCall 0 estimatedInput now)
  else
    match fault with
    | some e => .error ("preflight_llm_quota: query: " ++ e)
    | none =>
      match t.usage with
      | none => .ok .allowed
      | some row =>
        let today := todayAt now (some row)
        let dailyResetAt := nextDailyReset now
        let monthlyResetAt := nextMonthlyReset now row.monthlyWindowStart
        .ok <|
          ((preflightCheck .dailyInput today.input estimatedInput policy.dailyInputTokens
            dailyResetAt).or <|
          (preflightCheck .dailyOutput today.output maxOutput policy.dailyOutputTokens
            dailyResetAt).or <|
          (preflightCheck .monthlyInput row.month.input estimatedInput
            policy.monthlyInputTokens monthlyResetAt).or <|
          preflightCheck .monthlyOutput row.month.output maxOutput
            policy.monthlyOutputTokens monthlyResetAt).getD .allowed

def Agrees : Except String PreflightResult → Except ReserveError String → Prop
  | .ok .allowed, .ok _ => True
  | .ok (.blocked dimension limit used requested _), .error (.quota e) =>
    dimension = e.dimension ∧ limit = e.limit ∧ used = e.used ∧ requested = e.requested
  | _, _ => False

variable (policy : LLMQuotaPolicy)

def tooLarge (call : ReserveCall) : Bool :=
  policy.maxInputTokensPerCall > 0 && call.estimatedInput > policy.maxInputTokensPerCall

def breaches (call : ReserveCall) (today month : Tokens) : Bool :=
  exceeds today.input call.estimatedInput policy.dailyInputTokens ||
    exceeds today.output call.maxOutput policy.dailyOutputTokens ||
    exceeds month.input call.estimatedInput policy.monthlyInputTokens ||
    exceeds month.output call.maxOutput policy.monthlyOutputTokens

def Tokens.Fits (t : Tokens) (call : ReserveCall) : Prop :=
  t.input.toInt + call.estimatedInput.toInt < 2 ^ 63 ∧
    t.output.toInt + call.maxOutput.toInt < 2 ^ 63

instance decidableFits (t : Tokens) (call : ReserveCall) : Decidable (t.Fits call) := by
  unfold Tokens.Fits
  infer_instance

def PreflightSees (call : ReserveCall) (t : UserTables) :
    Prop :=
  tooLarge policy call = true ∨
    if t.usage.isSome then
      breaches policy call (todayAt now t.usage) (monthAt t.usage) = true ∨
        ((todayAt now t.usage).Fits call ∧ (monthAt t.usage).Fits call)
    else breaches policy call (todayAt now t.usage) (monthAt t.usage) = false

theorem preflightCheck_eq (limit : Int64) {requested : Int64}
    (resetsAt : Int) (h : 0 < requested) :
    preflightCheck dimension used requested limit resetsAt =
      (checkCap dimension used requested limit resetsAt).map (fun e =>
        .blocked e.dimension e.limit e.used e.requested e.resetsAt) := by
  have hne : requested ≠ 0 := by
    rintro rfl
    exact absurd h (by decide)
  unfold preflightCheck checkCap exceeds
  by_cases hcap : limit ≤ 0
  · have hno : ¬ limit > 0 := Int64.not_lt.mpr hcap
    simp [hcap]
  · have hso : limit > 0 := Int64.not_le.mp hcap
    simp only [if_neg hcap, if_neg hne, decide_eq_true hso, Bool.true_and]
    split <;> rfl

theorem checkCap_isSome (requested limit : Int64) (resetsAt : Int) :
    (checkCap dimension used requested limit resetsAt).isSome = exceeds used requested limit := by
  unfold checkCap
  split
  next h => rw [h, isSome_some]
  next h => rw [Bool.eq_false_iff.mpr h, isSome_none]

variable (row : UsageRow)

theorem checkCaps_isSome (call : ReserveCall)
    (policy : LLMQuotaPolicy) :
    (checkCaps now row call policy).isSome = breaches policy call row.today row.month := by
  simp only [checkCaps, breaches, isSome_or, checkCap_isSome, Bool.or_assoc]

variable {call : ReserveCall}

theorem Tokens.debit_isSome_iff {t : Tokens} (hinp : 0 < call.estimatedInput)
    (hout : 0 < call.maxOutput) :
    (t.debit call.estimatedInput call.maxOutput).isSome = true ↔ t.Fits call := by
  rw [Int64.lt_iff_toInt_lt, Int64.toInt_zero] at hinp hout
  rw [isSome_iff_exists]
  simp only [Tokens.debit_eq_some_iff]
  constructor
  · rintro ⟨t', hi, ho⟩
    exact ⟨hi ▸ (toInt_bounds t'.input).2, ho ▸ (toInt_bounds t'.output).2⟩
  · rintro ⟨hi, ho⟩
    have hlowI := (toInt_bounds t.input).1
    have hlowO := (toInt_bounds t.output).1
    obtain ⟨i, hi'⟩ := isSome_iff_exists.mp (word?_isSome_iff.mpr ⟨by omega, hi⟩)
    obtain ⟨o, ho'⟩ := isSome_iff_exists.mp (word?_isSome_iff.mpr ⟨by omega, ho⟩)
    exact ⟨⟨i, o⟩, word?_eq_some_iff.mp hi', word?_eq_some_iff.mp ho'⟩

theorem Tokens.fits_zero (call : ReserveCall) : Tokens.Fits {} call := by
  have hi := (toInt_bounds call.estimatedInput).2
  have ho := (toInt_bounds call.maxOutput).2
  unfold Tokens.Fits
  simp only [Int64.toInt_zero, zero_add]
  exact ⟨hi, ho⟩

theorem UsageRow.debit_isSome_iff
    (hinp : 0 < call.estimatedInput) (hout : 0 < call.maxOutput) :
    (row.debit call.estimatedInput call.maxOutput).isSome = true ↔
      row.today.Fits call ∧ row.month.Fits call := by
  rw [← Tokens.debit_isSome_iff hinp hout, ← Tokens.debit_isSome_iff hinp hout]
  unfold UsageRow.debit
  cases row.today.debit call.estimatedInput call.maxOutput with
  | none | some today => simp

@[simp] theorem upsertUsage_window :
    (upsertUsage now (some row)).monthlyWindowStart = row.monthlyWindowStart := by
  simp only [upsertUsage]
  split <;> rfl

section Agreement

variable {text : CaseMap} {now} {id : String}
variable {policy} {t : UserTables}

def Answered (id : String) (caps : Option QuotaExceededError) (fits : Prop)
    (result : Except ReserveError String) : Prop :=
  match caps with
  | some e => result = .error (.quota e)
  | none => (fits → result = .ok id) ∧ (¬ fits → ∃ e, result = .error (.database e))

theorem reserveTx_answered (now : Int) (policy : LLMQuotaPolicy) (hinp : 0 < call.estimatedInput)
    (hout : 0 < call.maxOutput) (hfr : id ∉ t.reservations.map Reservation.id) :
    Answered id (checkCaps now (upsertUsage now t.usage) call policy)
      ((todayAt now t.usage).Fits call ∧ (monthAt t.usage).Fits call)
      (reserveTx now id none call policy t).1 := by
  have hft := (upsertUsage now t.usage).debit_isSome_iff hinp hout
  rw [upsertUsage_today, upsertUsage_month] at hft
  unfold reserveTx
  simp only [raised, Option.bind_none]
  cases checkCaps now (upsertUsage now t.usage) call policy with
  | some e => rfl
  | none =>
    cases hdeb : (upsertUsage now t.usage).debit call.estimatedInput call.maxOutput with
    | none =>
      rw [hdeb] at hft
      refine ⟨?_, fun _ => ⟨_, rfl⟩⟩
      intro hfit
      exact absurd (hft.mpr hfit) (by simp)
    | some _ =>
      rw [hdeb] at hft
      refine ⟨fun _ => ?_, ?_⟩
      · simp only [if_neg hfr]
      · intro hove
        exact absurd (hft.mp rfl) hove

theorem not_negative (hinp : 0 < call.estimatedInput) (hout : 0 < call.maxOutput) :
    ¬ (call.estimatedInput < 0 ∨ call.maxOutput < 0) := by
  rw [Int64.lt_iff_toInt_lt] at hinp hout
  simp only [Int64.lt_iff_toInt_lt]
  omega

theorem within_perCall (hsz : tooLarge policy call = false) :
    ¬ (policy.maxInputTokensPerCall > 0 ∧ call.estimatedInput > policy.maxInputTokensPerCall) := by
  simpa [tooLarge] using hsz

theorem preflight_row {row : UsageRow} (hinp : 0 < call.estimatedInput)
    (hout : 0 < call.maxOutput) (hu : t.userId ≠ "") (hsz : tooLarge policy call = false)
    (husg : t.usage = some row) :
    preflightLLMQuota now none call.estimatedInput call.maxOutput policy t =
      .ok (((checkCaps now (upsertUsage now t.usage) call policy).map (fun e =>
        .blocked e.dimension e.limit e.used e.requested e.resetsAt)).getD .allowed) := by
  have hsgn := not_negative hinp hout
  have hgt := within_perCall hsz
  simp only [preflightLLMQuota, if_neg hu, if_neg hsgn, if_neg hgt, husg,
    preflightCheck_eq _ _ _ _ hinp, preflightCheck_eq _ _ _ _ hout, checkCaps,
    upsertUsage_today, upsertUsage_month, upsertUsage_window, map_or, monthAt]

theorem preflight_noRow (hinp : 0 < call.estimatedInput) (hout : 0 < call.maxOutput)
    (hu : t.userId ≠ "") (hsz : tooLarge policy call = false) (husg : t.usage = none) :
    preflightLLMQuota now none call.estimatedInput call.maxOutput policy t = .ok .allowed := by
  have hsgn := not_negative hinp hout
  have hgt := within_perCall hsz
  simp only [preflightLLMQuota, if_neg hu, if_neg hsgn, if_neg hgt, husg]

theorem reserve_eq_tx (hinp : 0 < call.estimatedInput) (hout : 0 < call.maxOutput)
    (hu : t.userId ≠ "") (hacc : policy.hasLLMAccess = true)
    (hmod : policy.modelAllowed text call.model = true) (hsz : tooLarge policy call = false) :
    reserveLLMTokens text now id none call policy t = reserveTx now id none call policy t := by
  have hgt := within_perCall hsz
  simp only [reserveLLMTokens, policyGate, if_neg hu,
    if_neg (not_negative hinp hout), hacc, hmod, Bool.true_eq_false, if_false,
    if_neg hgt]

theorem agrees_of_tooLarge (hinp : 0 < call.estimatedInput) (hout : 0 < call.maxOutput)
    (hu : t.userId ≠ "") (hacc : policy.hasLLMAccess = true)
    (hmod : policy.modelAllowed text call.model = true) (hsz : tooLarge policy call = true) :
    Agrees (preflightLLMQuota now none call.estimatedInput call.maxOutput policy t)
      (reserveLLMTokens text now id none call policy t).1 := by
  have hgt : policy.maxInputTokensPerCall > 0 ∧
      call.estimatedInput > policy.maxInputTokensPerCall := by
    simpa [tooLarge] using hsz
  simp only [preflightLLMQuota, reserveLLMTokens, policyGate, if_neg hu,
    if_neg (not_negative hinp hout), hacc, hmod, Bool.true_eq_false, if_false,
    if_pos hgt, Agrees, and_self]

section Results

variable {caps : Option QuotaExceededError} {fits : Prop} {result : Except ReserveError String}

theorem agrees_row_iff (hres : Answered id caps fits result) :
    Agrees (.ok ((caps.map (fun e =>
        .blocked e.dimension e.limit e.used e.requested e.resetsAt)).getD .allowed)) result ↔
      caps.isSome = true ∨ fits := by
  cases caps with
  | some e =>
    obtain rfl : result = .error (.quota e) := hres
    exact iff_of_true ⟨rfl, rfl, rfl, rfl⟩ (.inl rfl)
  | none =>
    simp only [isSome_none, Bool.false_eq_true, false_or]
    by_cases hft : fits
    · rw [hres.1 hft]
      exact iff_of_true trivial hft
    · obtain ⟨e, rfl⟩ := hres.2 hft
      exact iff_of_false False.elim hft

theorem agrees_noRow_iff (hres : Answered id caps fits result) (hft : fits) :
    Agrees (.ok .allowed) result ↔ caps.isSome = false := by
  cases caps with
  | some e =>
    obtain rfl : result = .error (.quota e) := hres
    exact iff_of_false False.elim (by simp)
  | none =>
    rw [hres.1 hft]
    exact iff_of_true trivial rfl

end Results

theorem preflight_agrees_iff (text : CaseMap) (now : Int) (id : String) (call : ReserveCall)
    (policy : LLMQuotaPolicy) (t : UserTables) (huser : t.userId ≠ "")
    (haccess : policy.hasLLMAccess = true) (hmodel : policy.modelAllowed text call.model = true)
    (hinput : 0 < call.estimatedInput) (houtput : 0 < call.maxOutput)
    (hfresh : id ∉ t.reservations.map Reservation.id) :
    Agrees (preflightLLMQuota now none call.estimatedInput call.maxOutput policy t)
        (reserveLLMTokens text now id none call policy t).1 ↔
      PreflightSees now policy call t := by
  unfold PreflightSees
  cases hsz : tooLarge policy call with
  | true =>
    exact iff_of_true (agrees_of_tooLarge hinput houtput huser haccess hmodel hsz) (.inl rfl)
  | false =>
    have hbre := checkCaps_isSome now (upsertUsage now t.usage) call policy
    rw [upsertUsage_today, upsertUsage_month] at hbre
    have hres := reserveTx_answered now policy hinput houtput hfresh
    rw [reserve_eq_tx hinput houtput huser haccess hmodel hsz, ← hbre]
    simp only [Bool.false_eq_true, false_or]
    by_cases hr : t.usage.isSome = true
    · obtain ⟨row, husg⟩ := isSome_iff_exists.mp hr
      rw [if_pos hr, preflight_row hinput houtput huser hsz husg]
      exact agrees_row_iff hres
    · have husg : t.usage = none := not_isSome_iff_eq_none.mp hr
      rw [if_neg hr, preflight_noRow hinput houtput huser hsz husg]
      refine agrees_noRow_iff hres ?_
      rw [husg]
      exact ⟨Tokens.fits_zero call, Tokens.fits_zero call⟩

end Agreement

def thousandADay : LLMQuotaPolicy where
  dailyInputTokens := 1000
  dailyOutputTokens := 1000
  monthlyInputTokens := 20000
  monthlyOutputTokens := 20000

def newUser : UserTables where
  userId := "u1"

theorem preflight_allows_what_reserve_refuses :
    preflightLLMQuota 0 none 2000 100 thousandADay newUser = .ok .allowed ∧
      (reserveLLMTokens asciiCaseMap 0 "r1" none ⟨"", "", "", "", 2000, 100⟩ thousandADay
        newUser).1 =
        .error (.quota ⟨.dailyInput, 1000, 0, 2000, 86400000000000⟩) := by
  decide +kernel

theorem preflight_agrees_small_call :
    Agrees (preflightLLMQuota 0 none 200 100 thousandADay newUser)
      (reserveLLMTokens asciiCaseMap 0 "r1" none ⟨"", "", "", "", 200, 100⟩ thousandADay
        newUser).1 :=
  (preflight_agrees_iff asciiCaseMap 0 "r1" ⟨"", "", "", "", 200, 100⟩ thousandADay newUser
    (by decide) (by decide) (by decide) (by decide) (by decide) (by decide)).mpr
    (.inr (by decide +kernel))

end ETradie.Billing
