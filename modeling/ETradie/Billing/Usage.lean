import ETradie.Kernel.Calendar
import ETradie.Kernel.Table
import ETradie.Kernel.Text

namespace ETradie.Billing

open Kernel Option

inductive Dimension where
  | tierNotEligible | modelNotAllowed | perCallInput
  | dailyInput | dailyOutput | monthlyInput | monthlyOutput
deriving DecidableEq

structure QuotaExceededError where
  dimension : Dimension
  (limit used requested : Int64)
  resetsAt : Int
deriving DecidableEq

structure LLMQuotaPolicy where
  (dailyInputTokens dailyOutputTokens monthlyInputTokens monthlyOutputTokens : Int64)
  (maxInputTokensPerCall softCapPercent : Int64 := 0)
  allowedModels : List (String × Bool) := []
  reservationTTL : Int := 0
deriving DecidableEq

def LLMQuotaPolicy.hasLLMAccess (p : LLMQuotaPolicy) : Bool :=
  p.dailyInputTokens > 0 && p.dailyOutputTokens > 0

variable (text : CaseMap)

def LLMQuotaPolicy.modelAllowed (p : LLMQuotaPolicy) (model : String) : Bool :=
  if p.allowedModels.isEmpty then true
  else (p.allowedModels.lookup (text.lower (trimSpace model))).getD false

structure Tokens where
  (input output : Int64 := 0)
deriving DecidableEq

structure UsageRow where
  (today month : Tokens := {})
  (blockedToday blockedMonth overshootToday overshootMonth : Nat := 0)
  tokensUsed : Int64 := 0
  (analysesToday taCyclesUsed macroCyclesUsed executionAttempts watcherCount : Int := 0)
  lastAnalysisAt : Option Int := none
  (lastResetAt monthlyWindowStart : Int)
  (lastMeteredAt softCapNotifiedAt : Option Int := none)
deriving DecidableEq

inductive ReservationStatus where
  | held | committed | refunded
deriving DecidableEq

structure ReserveCall where
  (tier provider model traceId : String := "")
  (estimatedInput maxOutput : Int64)
deriving DecidableEq

structure Reservation where
  id : String
  call : ReserveCall
  (actualInput actualOutput : Option Int64 := none)
  status : ReservationStatus := .held
  createdAt : Int
  settledAt : Option Int := none
  expiresAt : Int
deriving DecidableEq

structure UserTables where
  userId : String
  usage : Option UsageRow := none
  reservations : List Reservation := []
deriving DecidableEq

def stored (t : Int) : Int := t / 1000 * 1000

theorem nanoDay_stored (t : Int) : nanoDay (stored t) = nanoDay t := by
  unfold nanoDay stored dayNanos
  omega

theorem stored_le (t : Int) : stored t ≤ t := by
  unfold stored
  omega

theorem stored_mono {a b : Int} (h : a ≤ b) : stored a ≤ stored b := by
  unfold stored
  omega

def UsageRow.stale (row : UsageRow) (now : Int) : Bool := nanoDay row.lastResetAt < nanoDay now

variable (now : Int)

def nextDailyReset : Int := (nanoDay now + 1) * dayNanos

def zeroTime : Int := -62135596800 * 1000000000

def advanceMonths : Nat → Int → Int → Int
  | 0, _, candidate => candidate
  | fuel + 1, now, candidate =>
    if candidate ≤ now then advanceMonths fuel now (addMonth candidate) else candidate

def nextMonthlyReset (windowStart : Int) : Int :=
  if windowStart = zeroTime then
    let d := civil (nanoDay now)
    dayNumber (if d.month = 12 then ⟨d.year + 1, 1, 1⟩ else ⟨d.year, d.month + 1, 1⟩) * dayNanos
  else advanceMonths ((now - windowStart).toNat + 1) now windowStart

def greatestZero (z : ℤ) : Option Int64 := (word? z).map (fun w => if w < 0 then 0 else w)

theorem greatestZero_eq_some {z : ℤ} {w : Int64} (h : greatestZero z = some w) :
    w.toInt = max 0 z := by
  obtain ⟨v, hv, rfl⟩ := map_eq_some_iff.mp h
  have hz := word?_eq_some_iff.mp hv
  simp only [Int64.lt_iff_toInt_lt, Int64.toInt_zero, hz]
  split
  next hneg => rw [Int64.toInt_zero, max_eq_left hneg.le]
  next hpos => rw [hz, max_eq_right (not_lt.mp hpos)]

def Tokens.debit (t : Tokens) (input output : Int64) : Option Tokens :=
  (word? (t.input.toInt + input.toInt)).bind (fun i =>
    (word? (t.output.toInt + output.toInt)).map (fun o => ⟨i, o⟩))

def Tokens.shift (t : Tokens) (input output : ℤ) : Option Tokens :=
  (greatestZero (t.input.toInt + input)).bind (fun i =>
    (greatestZero (t.output.toInt + output)).map (fun o => ⟨i, o⟩))

variable {t t' : Tokens} {input output : Int64}

theorem Tokens.debit_eq_some_iff :
    t.debit input output = some t' ↔
      t'.input.toInt = t.input.toInt + input.toInt ∧
        t'.output.toInt = t.output.toInt + output.toInt := by
  unfold Tokens.debit
  simp only [bind_eq_some_iff, map_eq_some_iff, word?_eq_some_iff]
  constructor
  · rintro ⟨i, hi, o, ho, rfl⟩
    exact ⟨hi, ho⟩
  · rintro ⟨hi, ho⟩
    exact ⟨t'.input, hi, t'.output, ho, rfl⟩

theorem Tokens.shift_eq_some {input output : ℤ} (h : t.shift input output = some t') :
    t'.input.toInt = max 0 (t.input.toInt + input) ∧
      t'.output.toInt = max 0 (t.output.toInt + output) := by
  unfold Tokens.shift at h
  simp only [bind_eq_some_iff, map_eq_some_iff] at h
  obtain ⟨i, hi, o, ho, rfl⟩ := h
  exact ⟨greatestZero_eq_some hi, greatestZero_eq_some ho⟩

def UsageRow.debit (row : UsageRow) (input output : Int64) : Option UsageRow :=
  (row.today.debit input output).bind (fun today =>
    (row.month.debit input output).map (fun month => { row with today := today, month := month }))

def UsageRow.shift (row : UsageRow) (input output : ℤ) : Option UsageRow :=
  (row.today.shift input output).bind (fun today =>
    (row.month.shift input output).map (fun month => { row with today := today, month := month }))

variable {row row' : UsageRow}

theorem UsageRow.debit_eq_some (h : row.debit input output = some row') :
    row.today.debit input output = some row'.today ∧
      row.month.debit input output = some row'.month ∧
      row'.lastResetAt = row.lastResetAt ∧ row'.monthlyWindowStart = row.monthlyWindowStart := by
  unfold UsageRow.debit at h
  simp only [bind_eq_some_iff, map_eq_some_iff] at h
  obtain ⟨today, htdy, month, hmon, rfl⟩ := h
  exact ⟨htdy, hmon, rfl, rfl⟩

theorem UsageRow.shift_eq_some {input output : ℤ} (h : row.shift input output = some row') :
    row.today.shift input output = some row'.today ∧
      row.month.shift input output = some row'.month ∧
      row'.lastResetAt = row.lastResetAt ∧ row'.monthlyWindowStart = row.monthlyWindowStart := by
  unfold UsageRow.shift at h
  simp only [bind_eq_some_iff, map_eq_some_iff] at h
  obtain ⟨today, htdy, month, hmon, rfl⟩ := h
  exact ⟨htdy, hmon, rfl, rfl⟩

inductive ReserveStage where
  | begin | upsert | audit | debit | insert | commit
deriving DecidableEq

def ReserveStage.label : ReserveStage → String
  | .begin => "reserve_llm_tokens: begin tx: "
  | .upsert => "reserve_llm_tokens: upsert usage: "
  | .audit => ""
  | .debit => "reserve_llm_tokens: debit: "
  | .insert => "reserve_llm_tokens: insert reservation: "
  | .commit => "reserve_llm_tokens: commit: "

def raised {σ : Type} [DecidableEq σ] (label : σ → String) (fault : Option (σ × String))
    (stages : List σ) : Option String :=
  fault.bind (fun f => if f.1 ∈ stages then some (label f.1 ++ f.2) else none)

def bigintOutOfRange : String := "bigint out of range"
def duplicateKey : String := "duplicate key value violates unique constraint"

inductive ReserveError where
  | invalid (message : String)
  | quota (e : QuotaExceededError)
  | database (message : String)
deriving DecidableEq

variable (id : String) (fault : Option (ReserveStage × String)) (call : ReserveCall)
variable (policy : LLMQuotaPolicy)

def policyGate :
    Option QuotaExceededError :=
  if policy.hasLLMAccess = false then some ⟨.tierNotEligible, 0, 0, call.estimatedInput, now⟩
  else if policy.modelAllowed text call.model = false then
    some ⟨.modelNotAllowed, 0, 0, call.estimatedInput, now⟩
  else if policy.maxInputTokensPerCall > 0 ∧
      call.estimatedInput > policy.maxInputTokensPerCall then
    some ⟨.perCallInput, policy.maxInputTokensPerCall, 0, call.estimatedInput, now⟩
  else none

def upsertUsage : Option UsageRow → UsageRow
  | none => { lastResetAt := stored now, monthlyWindowStart := stored now }
  | some row =>
    if row.stale now then
      { row with today := {}, blockedToday := 0, lastResetAt := stored now }
    else row

def todayAt : Option UsageRow → Tokens
  | none => {}
  | some row => if row.stale now then {} else row.today

def monthAt : Option UsageRow → Tokens
  | none => {}
  | some row => row.month

variable (usage : Option UsageRow)

@[simp] theorem upsertUsage_today :
    (upsertUsage now usage).today = todayAt now usage := by
  cases usage with
  | none => rfl
  | some _ =>
    simp only [upsertUsage, todayAt]
    split <;> rfl

@[simp] theorem upsertUsage_month :
    (upsertUsage now usage).month = monthAt usage := by
  cases usage with
  | none => rfl
  | some _ =>
    simp only [upsertUsage]
    split <;> rfl

def exceeds (used requested limit : Int64) : Bool := limit > 0 && used + requested > limit

def checkCap (dimension : Dimension) (used requested limit : Int64) (resetsAt : Int) :
    Option QuotaExceededError :=
  if exceeds used requested limit then some ⟨dimension, limit, used, requested, resetsAt⟩
  else none

def checkCaps (row : UsageRow) (call : ReserveCall) (policy : LLMQuotaPolicy) :
    Option QuotaExceededError :=
  let dailyResetAt := nextDailyReset now
  let monthlyResetAt := nextMonthlyReset now row.monthlyWindowStart
  (checkCap .dailyInput row.today.input call.estimatedInput policy.dailyInputTokens
    dailyResetAt).or <|
  (checkCap .dailyOutput row.today.output call.maxOutput policy.dailyOutputTokens
    dailyResetAt).or <|
  (checkCap .monthlyInput row.month.input call.estimatedInput policy.monthlyInputTokens
    monthlyResetAt).or <|
  checkCap .monthlyOutput row.month.output call.maxOutput policy.monthlyOutputTokens monthlyResetAt

def UsageRow.blocked (row : UsageRow) : UsageRow :=
  { row with blockedToday := row.blockedToday + 1, blockedMonth := row.blockedMonth + 1 }

def reservationTTL (policy : LLMQuotaPolicy) : Int :=
  if policy.reservationTTL ≤ 0 then 300 * 1000000000 else policy.reservationTTL

def newReservation :
    Reservation where
  id := id
  call := call
  createdAt := stored now
  expiresAt := stored (now + reservationTTL policy)

def reserveTx (t : UserTables) :
    Except ReserveError String × UserTables :=
  match raised ReserveStage.label fault [.begin, .upsert] with
  | some e => (.error (.database e), t)
  | none =>
    let row := upsertUsage now t.usage
    match checkCaps now row call policy with
    | some e =>
      -- a failure of the audit update never hides the quota error
      (.error (.quota e),
        if (raised ReserveStage.label fault [.audit, .commit]).isSome then t
        else { t with usage := some row.blocked })
    | none =>
      match row.debit call.estimatedInput call.maxOutput with
      | none => (.error (.database (ReserveStage.debit.label ++ bigintOutOfRange)), t)
      | some debited =>
        if id ∈ t.reservations.map Reservation.id then
          (.error (.database (ReserveStage.insert.label ++ duplicateKey)), t)
        else
          match raised ReserveStage.label fault [.debit, .insert, .commit] with
          | some e => (.error (.database e), t)
          | none =>
            (.ok id,
              { t with
                usage := some debited
                reservations := newReservation now id call policy :: t.reservations })

def reserveLLMTokens
    (t : UserTables) : Except ReserveError String × UserTables :=
  if t.userId = "" then (.error (.invalid "reserve_llm_tokens: user_id is required"), t)
  else if call.estimatedInput < 0 ∨ call.maxOutput < 0 then
    (.error (.invalid ("reserve_llm_tokens: token counts must be non-negative (input=" ++
      toString call.estimatedInput.toInt ++ " output=" ++ toString call.maxOutput.toInt ++ ")")),
      t)
  else
    match policyGate text now call policy with
    | some e => (.error (.quota e), t)
    | none => reserveTx now id fault call policy t

inductive SettleStage where
  | begin | update | adjust | commit
deriving DecidableEq

def commitLabel : SettleStage → String
  | .begin => "commit_llm_tokens: begin tx: "
  | .update => "commit_llm_tokens: update reservation: "
  | .adjust => "commit_llm_tokens: adjust counters: "
  | .commit => "commit_llm_tokens: commit: "

def refundLabel : SettleStage → String
  | .begin => "refund_llm_tokens: begin tx: "
  | .update => "refund_llm_tokens: update reservation: "
  | .adjust => "refund_llm_tokens: roll back counters: "
  | .commit => ""

structure CommitOutcome where
  userId : String := ""
  softCapJustCrossed : Bool := false
  monthlyWindowStart : Int := zeroTime
deriving DecidableEq

def UserTables.held (t : UserTables) (id : String) : Option Reservation :=
  t.reservations.find? (fun r => r.id = id ∧ r.status = .held)

def Reservation.commit (actualInput actualOutput : Int64) (r : Reservation) :
    Reservation :=
  { r with
    status := .committed, actualInput := some actualInput, actualOutput := some actualOutput
    settledAt := some (stored now) }

def Reservation.refund (r : Reservation) : Reservation :=
  { r with status := .refunded, settledAt := some (stored now) }

def updateUsage (f : UsageRow → Option UsageRow) (usage : Option UsageRow) :
    Option (Option UsageRow) :=
  match usage with
  | none => some none
  | some row => (f row).map some

def outputRefund (maxOutput actualOutput : Int64) : ℤ :=
  max 0 (maxOutput.toInt - actualOutput.toInt)

def UsageRow.meter (r : Reservation) (actualInput actualOutput : Int64)
    (row : UsageRow) : Option UsageRow :=
  (row.shift (actualInput.toInt - r.call.estimatedInput.toInt)
    (-outputRefund r.call.maxOutput actualOutput)).bind (fun shifted =>
      (greatestZero (row.tokensUsed.toInt + (actualInput + actualOutput).toInt)).map (fun used =>
        { shifted with tokensUsed := used, lastMeteredAt := some (stored now) }))

def UsageRow.noteOvershoot (inputDelta : ℤ) (monthlyInputLimit : Int64) (row : UsageRow) :
    UsageRow :=
  if 0 < inputDelta ∧ monthlyInputLimit > 0 ∧ row.month.input > monthlyInputLimit then
    { row with overshootToday := row.overshootToday + 1, overshootMonth := row.overshootMonth + 1 }
  else row

def ceilDiv (limit pct : Int64) : Int64 := if limit ≤ 0 then 0 else (limit * pct + 99) / 100

def UsageRow.softCapCrossed (softCapPercent monthlyInputLimit monthlyOutputLimit : Int64)
    (row : UsageRow) : Bool :=
  let inputThreshold := ceilDiv monthlyInputLimit softCapPercent
  let outputThreshold := ceilDiv monthlyOutputLimit softCapPercent
  softCapPercent > 0 && softCapPercent ≤ 100 &&
    (monthlyInputLimit > 0 || monthlyOutputLimit > 0) &&
    row.softCapNotifiedAt.isNone &&
    ((inputThreshold > 0 && row.month.input ≥ inputThreshold) ||
      (outputThreshold > 0 && row.month.output ≥ outputThreshold))

def commitLLMTokens (fault : Option (SettleStage × String)) (id : String)
    (actualInput actualOutput softCapPercent monthlyInputLimit monthlyOutputLimit : Int64)
    (t : UserTables) : Except String CommitOutcome × UserTables :=
  if id = "" then (.error "commit_llm_tokens: reservation_id is required", t)
  else if actualInput < 0 ∨ actualOutput < 0 then
    (.error "commit_llm_tokens: token counts must be non-negative", t)
  else
    match raised commitLabel fault [.begin, .update] with
    | some e => (.error e, t)
    | none =>
      match t.held id with
      | none => (.ok {}, t)
      | some r =>
        match updateUsage (UsageRow.meter now r actualInput actualOutput) t.usage with
        | none => (.error (commitLabel .adjust ++ bigintOutOfRange), t)
        | some usage =>
          match raised commitLabel fault [.adjust, .commit] with
          | some e => (.error e, t)
          | none =>
            let noted := usage.map (UsageRow.noteOvershoot
              (actualInput.toInt - r.call.estimatedInput.toInt) monthlyInputLimit)
            let crossed := noted.any (UsageRow.softCapCrossed softCapPercent
              monthlyInputLimit monthlyOutputLimit)
            (.ok
              { userId := t.userId, softCapJustCrossed := crossed
                monthlyWindowStart :=
                  if crossed then (noted.map UsageRow.monthlyWindowStart).getD zeroTime
                  else zeroTime },
              { t with
                usage := noted.map (fun row =>
                  if crossed then { row with softCapNotifiedAt := some (stored now) }
                  else row)
                reservations := amend Reservation.id id
                  (Reservation.commit now actualInput actualOutput) t.reservations })

def refundLLMTokens (fault : Option (SettleStage × String)) (id : String)
    (t : UserTables) : Except String Unit × UserTables :=
  if id = "" then (.error "refund_llm_tokens: reservation_id is required", t)
  else
    match raised refundLabel fault [.begin, .update] with
    | some e => (.error e, t)
    | none =>
      match t.held id with
      | none => (.ok (), t)
      | some r =>
        match updateUsage (·.shift (-r.call.estimatedInput.toInt)
            (-r.call.maxOutput.toInt)) t.usage with
        | none => (.error (refundLabel .adjust ++ bigintOutOfRange), t)
        | some usage =>
          match raised refundLabel fault [.adjust, .commit] with
          | some e => (.error e, t)
          | none =>
            (.ok (),
              { t with
                usage := usage
                reservations := amend Reservation.id id (Reservation.refund now) t.reservations })

def staleReservations (t : UserTables) : List String :=
  (((t.reservations.filter (fun r => r.status = .held ∧ r.expiresAt ≤ now)).mergeSort
    (fun a b => a.expiresAt ≤ b.expiresAt)).take 500).map Reservation.id

def monthlyReset (fault : Option String) (windowStart : Int) (t : UserTables) :
    Except String Unit × UserTables :=
  if t.userId = "" then (.error "monthly_reset: user_id is required", t)
  else
    match fault with
    | some e => (.error ("monthly_reset: " ++ e), t)
    | none =>
      match t.usage with
      | none => (.ok (), t)
      | some row =>
        if windowStart ≤ row.monthlyWindowStart then (.ok (), t)
        else
          (.ok (),
            { t with
              usage := some
                { row with
                  month := {}, blockedMonth := 0, monthlyWindowStart := stored windowStart
                  softCapNotifiedAt := none } })

structure UsageMetrics where
  analysesToday : Int
  llmTokensUsed : Int64
  (taCyclesUsed macroCyclesUsed executionAttempts watcherCount lastResetAt : Int)
  lastAnalysisAt : Option Int
deriving DecidableEq

def UsageRow.metrics (row : UsageRow) : UsageMetrics := { row with llmTokensUsed := row.tokensUsed }

def touchUsage : Option UsageRow → UsageRow
  | none => { lastResetAt := stored now, monthlyWindowStart := stored now }
  | some row =>
    if row.stale now then { row with analysesToday := 0, lastResetAt := stored now }
    else row

def getOrUpdateUsage (fault : Option String) (t : UserTables) :
    Except String UsageMetrics × UserTables :=
  match fault with
  | some e => (.error e, t)
  | none =>
    let row := touchUsage now t.usage
    (.ok row.metrics, { t with usage := some row })

end ETradie.Billing
