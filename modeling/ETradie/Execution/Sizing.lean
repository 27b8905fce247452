import ETradie.Execution.Models
import ETradie.Kernel.Grid

namespace ETradie.Execution

open Kernel

variable (lot : ℚ)

section Formulas

variable (cfg : Config) (info : InstrumentInfo) (req : TradeRequest)

def slDistance : ℚ :=
  |req.entryPrice - req.stopLoss|

def slPips : ℚ := slDistance req / info.pipSize

def riskBudget (account : AccountInfo) : ℚ := account.balance * (req.riskPercentage / 100)

def roundToStep (lot : ℚ) : ℚ := if info.lotStep > 0 then floorTo info.lotStep lot else lot

def truncateCents : ℚ := ⌊lot * 100⌋ / 100

def rawLot (account : AccountInfo) : ℚ := riskBudget req account / (slPips info req * info.pipValue)

def roundedLot (account : AccountInfo) : ℚ :=
  truncateCents (roundToStep info (rawLot info req account))

def minLot : ℚ := if info.minLotSize > cfg.minLotSize then info.minLotSize else cfg.minLotSize

def maxLot : ℚ :=
  if info.maxLotSize > 0 ∧ info.maxLotSize < cfg.maxLotSize then info.maxLotSize
  else cfg.maxLotSize

end Formulas

def calculate (cfg : Config) (broker : BrokerReads) (req : TradeRequest) :
    Except String SizingResult := do
  let account ← broker.getAccountInfo.mapError ("sizing: get account info: " ++ ·)
  if account.balance ≤ 0 then
    throw ("sizing: account balance is " ++ fixed 2 account.balance ++ ", cannot size position")
  let info ← (broker.getInstrumentInfo req.symbol).mapError
    ("sizing: get instrument info for " ++ req.symbol ++ ": " ++ ·)
  if info.pipSize ≤ 0 then
    throw ("sizing: invalid pip size " ++ fixed 10 info.pipSize ++ " for " ++ req.symbol)
  if info.pipValue ≤ 0 then
    throw ("sizing: invalid pip value " ++ fixed 10 info.pipValue ++ " for " ++ req.symbol)
  if slDistance req ≤ 0 then
    throw ("sizing: SL distance is zero (entry=" ++ fixed 5 req.entryPrice ++
      ", sl=" ++ fixed 5 req.stopLoss ++ ")")
  if slPips info req ≤ 0 then
    throw "sizing: SL pips is zero after conversion"
  let lot := roundedLot info req account
  if lot < minLot cfg info then
    throw ("sizing: calculated lot size " ++ fixed 4 lot ++ " below minimum " ++
      fixed 4 (minLot cfg info) ++ " (balance=" ++ fixed 2 account.balance ++ ", risk=" ++
      fixed 2 req.riskPercentage ++ "%, sl_pips=" ++ fixed 1 (slPips info req) ++ ")")
  let capped := lot > maxLot cfg info
  let lotSize := if capped then maxLot cfg info else lot
  let riskAmount :=
    if capped then lotSize * slPips info req * info.pipValue else riskBudget req account
  return {
    lotSize := lotSize
    riskAmount := roundHalfAway (riskAmount * 100) / 100
    accountBalance := account.balance
    slDistancePips := roundHalfAway (slPips info req * 10) / 10
    pipValue := info.pipValue
    pipSize := info.pipSize }

structure Sized
    (cfg : Config) (req : TradeRequest)
    (account : AccountInfo) (info : InstrumentInfo)
    (r : SizingResult) : Prop where
  balance_pos : 0 < account.balance
  pipSize_pos : 0 < info.pipSize
  pipValue_pos : 0 < info.pipValue
  slDistance_pos : 0 < slDistance req
  minLot_le : minLot cfg info ≤ roundedLot info req account
  lotSize_eq : r.lotSize = min (roundedLot info req account) (maxLot cfg info)

variable {cfg : Config} {req : TradeRequest} {account : AccountInfo} {info : InstrumentInfo}
variable {r : SizingResult}

theorem calculate_sized {broker : BrokerReads} (hacc : broker.getAccountInfo = .ok account)
    (hinfo : broker.getInstrumentInfo req.symbol = .ok info) (h : calculate cfg broker req = .ok r)
    : Sized cfg req account info r := by
  simp only [calculate, hacc, hinfo, Except.mapError, bind, Except.bind, pure, Except.pure,
    throw, throwThe, MonadExceptOf.throw] at h
  split_ifs at h with hbal hpip hval hdi hpi hmin hmax
  · cases h
    refine ⟨not_le.mp hbal, not_le.mp hpip, not_le.mp hval, not_le.mp hdi, not_lt.mp hmin, ?_⟩
    exact (min_eq_right hmax.le).symm
  · cases h
    refine ⟨not_le.mp hbal, not_le.mp hpip, not_le.mp hval, not_le.mp hdi, not_lt.mp hmin, ?_⟩
    exact (min_eq_left (not_lt.mp hmax)).symm

theorem truncateCents_eq_floorTo : truncateCents lot = floorTo (1 / 100) lot := by
  simp [truncateCents, floorTo, div_eq_mul_inv]

theorem roundToStep_le (info : InstrumentInfo) (lot : ℚ) : roundToStep info lot ≤ lot := by
  unfold roundToStep
  split_ifs with hst
  · exact floorTo_le hst lot
  · rfl

theorem truncateCents_le : truncateCents lot ≤ lot := by
  rw [truncateCents_eq_floorTo]
  exact floorTo_le (by norm_num) lot

theorem minLot_eq_max (cfg : Config) (info : InstrumentInfo) :
    minLot cfg info = max cfg.minLotSize info.minLotSize := by
  unfold minLot
  split_ifs with h
  · exact (max_eq_right h.le).symm
  · exact (max_eq_left (not_lt.mp h)).symm

theorem maxLot_eq (cfg : Config) (info : InstrumentInfo) :
    maxLot cfg info =
      if 0 < info.maxLotSize then min cfg.maxLotSize info.maxLotSize else cfg.maxLotSize := by
  unfold maxLot
  by_cases hset : 0 < info.maxLotSize
  · by_cases hlt : info.maxLotSize < cfg.maxLotSize
    · rw [if_pos ⟨hset, hlt⟩, if_pos hset, min_eq_right hlt.le]
    · rw [if_neg (fun h => hlt h.2), if_pos hset, min_eq_left (not_lt.mp hlt)]
  · rw [if_neg (fun h => hset h.1), if_neg hset]

namespace Sized

theorem stopCost_pos (h : Sized cfg req account info r) : 0 < slPips info req * info.pipValue :=
  mul_pos (div_pos h.slDistance_pos h.pipSize_pos) h.pipValue_pos

theorem lotSize_le_rawLot (h : Sized cfg req account info r) :
    r.lotSize ≤ rawLot info req account := by
  calc
    r.lotSize = min (roundedLot info req account) (maxLot cfg info) := h.lotSize_eq
    _ ≤ roundedLot info req account := min_le_left _ _
    _ ≤ roundToStep info (rawLot info req account) := truncateCents_le _
    _ ≤ rawLot info req account := roundToStep_le _ _

theorem cost_le_budget (h : Sized cfg req account info r) :
    r.lotSize * slPips info req * info.pipValue ≤ riskBudget req account := by
  have hraw : r.lotSize ≤ riskBudget req account / (slPips info req * info.pipValue) :=
    h.lotSize_le_rawLot
  have hmul := (le_div_iff₀ h.stopCost_pos).mp hraw
  calc
    r.lotSize * slPips info req * info.pipValue
        = r.lotSize * (slPips info req * info.pipValue) := mul_assoc _ _ _
    _ ≤ riskBudget req account := hmul

theorem lotSize_mem_Icc (h : Sized cfg req account info r)
    (hrng : minLot cfg info ≤ maxLot cfg info) :
    r.lotSize ∈ Set.Icc (minLot cfg info) (maxLot cfg info) := by
  rw [h.lotSize_eq]
  exact ⟨le_min h.minLot_le hrng, min_le_right _ _⟩

end Sized

def eurusdRequest : TradeRequest where
  symbol := "EURUSD"
  direction := directionLong
  entryZoneLow := 1.1
  entryZoneHigh := 1.1
  stopLoss := 1.09697
  rrRatio := 3
  riskPercentage := 1

def eurusdInfo (lotStep : ℚ) : InstrumentInfo where
  pipSize := 0.0001
  pipValue := 10
  minLotSize := lotStep
  maxLotSize := 50
  lotStep := lotStep
  spread := 0.0001
  avgSpread := 0.0001

def eurusdReads (lotStep : ℚ) : BrokerReads where
  getAccountInfo := .ok ⟨10000⟩
  getInstrumentInfo := fun _ => .ok (eurusdInfo lotStep)

def eurusdSized : SizingResult where
  lotSize := lot
  riskAmount := 100
  accountBalance := 10000
  slDistancePips := 30.3
  pipValue := 10
  pipSize := 0.0001

theorem calculate_within_budget (cfg : Config) (broker : BrokerReads) (req : TradeRequest)
    (account : AccountInfo) (info : InstrumentInfo) (r : SizingResult)
    (haccount : broker.getAccountInfo = .ok account)
    (hinfo : broker.getInstrumentInfo req.symbol = .ok info)
    (h : calculate cfg broker req = .ok r) :
    r.lotSize * (|req.entryPrice - req.stopLoss| / info.pipSize) * info.pipValue
        ≤ account.balance * req.riskPercentage / 100 ∧
      (let lo := max cfg.minLotSize info.minLotSize
       let hi := if 0 < info.maxLotSize then min cfg.maxLotSize info.maxLotSize else cfg.maxLotSize
       (Set.Icc lo hi).Nonempty → r.lotSize ∈ Set.Icc lo hi) := by
  have hsiz : Sized cfg req account info r := calculate_sized haccount hinfo h
  refine ⟨?_, ?_⟩
  · have hcost := hsiz.cost_le_budget
    rw [riskBudget, ← mul_div_assoc] at hcost
    exact hcost
  · intro lo hi hne
    have hlo : minLot cfg info = lo := minLot_eq_max cfg info
    have hhi : maxLot cfg info = hi := maxLot_eq cfg info
    rw [← hlo, ← hhi] at hne ⊢
    exact hsiz.lotSize_mem_Icc (Set.nonempty_Icc.mp hne)

theorem calculate_within_budget_eurusd :
    (0.33 : ℚ) * (|eurusdRequest.entryPrice - eurusdRequest.stopLoss| / 0.0001) * 10
        ≤ 10000 * 1 / 100 ∧
      (0.33 : ℚ) ∈ Set.Icc (0.01 : ℚ) 10 := by
  have h : calculate {} (eurusdReads 0.01) eurusdRequest = .ok (eurusdSized 0.33) := by
    decide +kernel
  have hlo : max ({} : Config).minLotSize (eurusdInfo 0.01).minLotSize = 0.01 := by decide +kernel
  have hhi : (if 0 < (eurusdInfo 0.01).maxLotSize
      then min ({} : Config).maxLotSize (eurusdInfo 0.01).maxLotSize
      else ({} : Config).maxLotSize) = 10 := by
    decide +kernel
  obtain ⟨hbud, hrng⟩ :=
    calculate_within_budget {} (eurusdReads 0.01) eurusdRequest ⟨10000⟩ (eurusdInfo 0.01)
      (eurusdSized 0.33) rfl rfl h
  rw [hlo, hhi] at hrng
  exact ⟨hbud, hrng (Set.nonempty_Icc.mpr (by norm_num))⟩

/-- The whole lot steps in the lot that the risk budget buys. -/
def wholeSteps (info : InstrumentInfo) (req : TradeRequest) (account : AccountInfo) : ℤ :=
  ⌊rawLot info req account / info.lotStep⌋

/-- The whole hundredths of a lot in those steps. -/
def wholeCents (info : InstrumentInfo) (req : TradeRequest) (account : AccountInfo) : ℤ :=
  ⌊100 * info.lotStep * wholeSteps info req account⌋

theorem roundedLot_eq (hstep : 0 < info.lotStep) :
    roundedLot info req account = wholeCents info req account / 100 := by
  have hcomm : floorTo info.lotStep (rawLot info req account) * 100 =
      100 * info.lotStep * wholeSteps info req account := by
    unfold floorTo wholeSteps
    ring
  rw [roundedLot, truncateCents, roundToStep, if_pos hstep, hcomm, wholeCents]

/-- A whole number is a multiple of a fraction in lowest terms when the numerator divides it. -/
theorem exists_eq_mul_iff_num_dvd (x : ℚ) (c : ℤ) :
    (∃ n : ℤ, (c : ℚ) = n * x) ↔ x.num ∣ c := by
  have hden : (x.den : ℚ) ≠ 0 := Nat.cast_ne_zero.mpr x.den_nz
  have hnum : x * x.den = x.num := Rat.mul_den_eq_num x
  constructor
  · rintro ⟨n, hn⟩
    have hmul : c * x.den = n * x.num := by
      have hcast : (c : ℚ) * x.den = n * x.num := by rw [hn, mul_assoc, hnum]
      exact_mod_cast hcast
    have hcop : IsCoprime x.num (x.den : ℤ) := Int.isCoprime_iff_gcd_eq_one.mpr x.reduced
    exact hcop.dvd_of_dvd_mul_right ⟨n, hmul.trans (mul_comm _ _)⟩
  · rintro ⟨m, rfl⟩
    refine ⟨m * x.den, ?_⟩
    push_cast
    rw [← hnum]
    ring

theorem onGrid_cents_iff (info : InstrumentInfo) (c : ℤ) :
    OnGrid info.lotStep (c / 100 : ℚ) ↔ (100 * info.lotStep).num ∣ c := by
  rw [← exists_eq_mul_iff_num_dvd]
  refine exists_congr fun n => ?_
  rw [div_eq_iff (by norm_num)]
  constructor
  · intro h
    linear_combination h
  · intro h
    linear_combination h

theorem fine_step_dvd (hgrid : OnGrid info.lotStep (1 / 100 : ℚ)) (c : ℤ) :
    (100 * info.lotStep).num ∣ c := by
  obtain ⟨m, hm⟩ := hgrid
  refine (onGrid_cents_iff info c).mp ⟨c * m, ?_⟩
  push_cast
  linear_combination (c : ℚ) * hm

/-- The hundredths cut off a whole number of steps are fewer than one step. -/
theorem coarse_step_dvd_iff (hstep : 1 / 100 ≤ info.lotStep) (k : ℤ) :
    (100 * info.lotStep).num ∣ ⌊100 * info.lotStep * k⌋ ↔ ∃ n : ℤ, 100 * info.lotStep * k = n := by
  have hpos : (1 : ℚ) ≤ 100 * info.lotStep := by linarith
  rw [← exists_eq_mul_iff_num_dvd]
  constructor
  · rintro ⟨n, hn⟩
    have hle := Int.floor_le (100 * info.lotStep * k)
    have hlt := Int.lt_floor_add_one (100 * info.lotStep * k)
    rw [hn] at hle hlt
    -- `n` steps are at most `k` steps and less than a hundredth short of them
    have hnk : (n : ℚ) ≤ k := by nlinarith
    have hkn : (k : ℚ) < n + 1 := by nlinarith
    have heq : n = k := by
      have hle' : n ≤ k := by exact_mod_cast hnk
      have hlt' : k < n + 1 := by exact_mod_cast hkn
      omega
    refine ⟨⌊100 * info.lotStep * k⌋, ?_⟩
    rw [hn, heq]
    ring
  · rintro ⟨n, hn⟩
    refine ⟨k, ?_⟩
    rw [hn, Int.floor_intCast, ← hn]
    ring

theorem calculate_lotSize_onGrid_iff (cfg : Config) (broker : BrokerReads) (req : TradeRequest)
    (account : AccountInfo) (info : InstrumentInfo) (r : SizingResult)
    (haccount : broker.getAccountInfo = .ok account)
    (hinfo : broker.getInstrumentInfo req.symbol = .ok info) (h : calculate cfg broker req = .ok r)
    (hstep : 0 < info.lotStep) :
    let steps := wholeSteps info req account
    let cents := wholeCents info req account
    (OnGrid info.lotStep r.lotSize ↔
      if maxLot cfg info < cents / 100 then OnGrid info.lotStep (maxLot cfg info)
      else (100 * info.lotStep).num ∣ cents) ∧
    (1 / 100 ≤ info.lotStep →
      ((100 * info.lotStep).num ∣ cents ↔ ∃ n : ℤ, 100 * info.lotStep * steps = n)) ∧
    (OnGrid info.lotStep (1 / 100 : ℚ) → (100 * info.lotStep).num ∣ cents) := by
  intro steps cents
  refine ⟨?_, fun hcoarse => coarse_step_dvd_iff hcoarse steps,
    fun hfine => fine_step_dvd hfine cents⟩
  have hlot := (calculate_sized haccount hinfo h).lotSize_eq
  rw [roundedLot_eq hstep] at hlot
  split_ifs with hcap
  · rw [hlot, min_eq_right hcap.le]
  · rw [hlot, min_eq_left (not_lt.mp hcap), onGrid_cents_iff]

def largerRisk : TradeRequest := { eurusdRequest with riskPercentage := 1.82 }

/-- Of a lot step of 0.025, 24 fit into the lot. -/
theorem calculate_lotSize_onGrid_eurusd :
    calculate {} (eurusdReads 0.025) largerRisk =
        .ok { eurusdSized 0.6 with riskAmount := 182 } ∧ OnGrid (0.025 : ℚ) 0.6 := by
  have h : calculate {} (eurusdReads 0.025) largerRisk =
      .ok { eurusdSized 0.6 with riskAmount := 182 } := by
    decide +kernel
  refine ⟨h, (calculate_lotSize_onGrid_iff {} (eurusdReads 0.025) largerRisk ⟨10000⟩
    (eurusdInfo 0.025) _ rfl rfl h (by norm_num [eurusdInfo])).1.mpr ?_⟩
  rw [if_neg (by decide +kernel)]
  decide +kernel

theorem calculate_lotSize_off_grid :
    calculate {} (eurusdReads 0.025) eurusdRequest = .ok (eurusdSized 0.32) ∧
      ¬ OnGrid (eurusdInfo 0.025).lotStep (eurusdSized 0.32).lotSize := by
  refine ⟨by decide +kernel, ?_⟩
  rintro ⟨n, hn⟩
  have hsca : (5 : ℚ) * n = 64 := by
    simp only [eurusdInfo, eurusdSized] at hn
    linarith
  have hint : 5 * n = 64 := by exact_mod_cast hsca
  omega

end ETradie.Execution
