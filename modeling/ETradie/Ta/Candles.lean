import ETradie.Kernel.Text

namespace ETradie.Ta

open Kernel List

inductive Timeframe where
  | m1
  | m5
  | m15
  | m30
  | h1
  | h3
  | h4
  | h6
  | h8
  | h12
  | d1
  | w1
  | mn1
deriving DecidableEq

def Timeframe.minutes : Timeframe → Nat
  | .m1 => 1
  | .m5 => 5
  | .m15 => 15
  | .m30 => 30
  | .h1 => 60
  | .h3 => 180
  | .h4 => 240
  | .h6 => 360
  | .h8 => 480
  | .h12 => 720
  | .d1 => 1440
  | .w1 => 10080
  | .mn1 => 43200

inductive Direction where
  | bullish
  | bearish
  | neutral
deriving DecidableEq

structure Candle where
  symbol : String
  timeframe : Timeframe
  timestamp : Int
  (openPrice high low close : ℚ)
  low_pos : 0 < low
  low_le_open : low ≤ openPrice
  low_le_close : low ≤ close
  open_le_high : openPrice ≤ high
  close_le_high : close ≤ high
deriving DecidableEq

variable (symbol : String) (tf : Timeframe)

namespace Candle

def make? (timestamp : Int) (openPrice high low close : ℚ) :
    Option Candle :=
  if h : 0 < low ∧ low ≤ openPrice ∧ low ≤ close ∧ openPrice ≤ high ∧ close ≤ high then
    some
      { symbol := symbol, timeframe := tf, timestamp := timestamp, openPrice := openPrice
        high := high, low := low, close := close, low_pos := h.1, low_le_open := h.2.1
        low_le_close := h.2.2.1, open_le_high := h.2.2.2.1, close_le_high := h.2.2.2.2 }
  else none

variable (c : Candle)

def isBullish : Bool := c.openPrice < c.close

def isBearish : Bool := c.close < c.openPrice

def bodySize : ℚ := |c.close - c.openPrice|

def totalRange : ℚ := c.high - c.low

def bodyPercentage : ℚ := if c.totalRange = 0 then 0 else c.bodySize / c.totalRange * 100

def upperWick : ℚ := c.high - max c.openPrice c.close

def lowerWick : ℚ := min c.openPrice c.close - c.low

def upperWickPercentage : ℚ := if c.totalRange = 0 then 0 else c.upperWick / c.totalRange * 100

def lowerWickPercentage : ℚ := if c.totalRange = 0 then 0 else c.lowerWick / c.totalRange * 100

def date : Int := c.timestamp / 86400000000

variable {c}

theorem low_le_high : c.low ≤ c.high := c.low_le_close.trans c.close_le_high

theorem high_pos : 0 < c.high := c.low_pos.trans_le c.low_le_high

theorem close_pos : 0 < c.close := c.low_pos.trans_le c.low_le_close

end Candle

section Latest

variable {α : Type}

def latestBy (time : α → Int) : List α → Option α
  | [] => none
  | x :: xs =>
    match latestBy time xs with
    | none => some x
    | some y => if time x < time y then some y else some x

theorem latestBy_mem {time : α → Int} {xs : List α} {x : α} (h : latestBy time xs = some x) :
    x ∈ xs := by
  induction xs generalizing x with
  | nil => cases h
  | cons y xs ih =>
    unfold latestBy at h
    split at h
    · cases h
      exact mem_cons_self
    · next z hz =>
      split at h
      · cases h
        exact mem_cons_of_mem _ (ih hz)
      · cases h
        exact mem_cons_self

end Latest

structure CandleSequence where
  symbol : String
  timeframe : Timeframe
  candles : List Candle
  nonempty : candles ≠ []
  oneSymbol : ∀ c ∈ candles, ∀ c' ∈ candles, c.symbol = c'.symbol
  oneTimeframe : ∀ c ∈ candles, ∀ c' ∈ candles, c.timeframe = c'.timeframe
  sorted : candles.Pairwise (fun c c' => c.timestamp < c'.timestamp)

namespace CandleSequence

def take (s : CandleSequence) (n : Nat) (hn : 0 < n) : CandleSequence where
  symbol := s.symbol
  timeframe := s.timeframe
  candles := s.candles.take n
  nonempty := by
    rw [Ne, take_eq_nil_iff, not_or]
    exact ⟨by omega, s.nonempty⟩
  oneSymbol := fun c hc c' hc' => s.oneSymbol c (mem_of_mem_take hc) c' (mem_of_mem_take hc')
  oneTimeframe := fun c hc c' hc' => s.oneTimeframe c (mem_of_mem_take hc) c' (mem_of_mem_take hc')
  sorted := s.sorted.sublist (take_sublist _ _)

def make? (candles : List Candle) : Option CandleSequence :=
  if h : candles ≠ [] ∧ (∀ c ∈ candles, ∀ c' ∈ candles, c.symbol = c'.symbol) ∧
      (∀ c ∈ candles, ∀ c' ∈ candles, c.timeframe = c'.timeframe) ∧
      candles.Pairwise (fun c c' => c.timestamp < c'.timestamp) then
    some
      { symbol := symbol, timeframe := tf, candles := candles, nonempty := h.1, oneSymbol := h.2.1
        oneTimeframe := h.2.2.1, sorted := h.2.2.2 }
  else none

def ofPrices? (start : Int) (prices : List (ℚ × ℚ × ℚ × ℚ)) :
    Option CandleSequence :=
  (prices.zipIdx.mapM (fun p => Candle.make? symbol tf (start + p.2 * tf.minutes * 60000000)
    p.1.1 p.1.2.1 p.1.2.2.1 p.1.2.2.2)).bind (make? symbol tf)

variable {s : CandleSequence} {i j : Nat} {c c' : Candle}

theorem timestamp_lt (hi : s.candles[i]? = some c) (hj : s.candles[j]? = some c') (hlt : i < j) :
    c.timestamp < c'.timestamp := by
  obtain ⟨hilt, hic⟩ := List.getElem?_eq_some_iff.mp hi
  obtain ⟨hjlt, hjc⟩ := List.getElem?_eq_some_iff.mp hj
  rw [← hic, ← hjc]
  exact pairwise_iff_getElem.mp s.sorted i j hilt hjlt hlt

end CandleSequence

section Sides

inductive Side where
  | high
  | low
deriving DecidableEq

namespace Side

def extreme : Side → Candle → ℚ
  | .high, c => c.high
  | .low, c => c.low

def beyond : Side → (level price : ℚ) → Bool
  | .high, level, price => level < price
  | .low, level, price => price < level

def breakDirection : Side → Direction
  | .high => .bullish
  | .low => .bearish

variable {side : Side}

theorem beyond_irrefl (side : Side) (x : ℚ) : side.beyond x x = false := by
  cases side <;> simp [beyond]

theorem beyond_trans {x y z : ℚ} (hxy : side.beyond x y) (hyz : side.beyond y z) :
    side.beyond x z := by
  cases side
  · simp only [beyond, decide_eq_true_eq] at *
    exact hxy.trans hyz
  · simp only [beyond, decide_eq_true_eq] at *
    exact hyz.trans hxy

theorem beyond_extreme_of_close {c : Candle} {level : ℚ} (h : side.beyond level c.close) :
    side.beyond level (side.extreme c) := by
  cases side
  · simp only [beyond, decide_eq_true_eq] at h
    exact decide_eq_true (h.trans_le c.close_le_high)
  · simp only [beyond, decide_eq_true_eq] at h
    exact decide_eq_true (c.low_le_close.trans_lt h)

theorem extreme_pos (side : Side) (c : Candle) : 0 < side.extreme c := by
  cases side
  · exact c.high_pos
  · exact c.low_pos

end Side

end Sides

variable (price1 price2 : ℚ)

section Pips

inductive PairType where
  | metal
  | oil
  | jpy
  | index
  | crypto
  | derivP0001
  | derivP01
  | derivP1
  | standard
deriving DecidableEq

def metalStems : List String :=
  ["XAUUSD", "XAGUSD", "XPTUSD", "XPDUSD", "XAUCAD", "XAUEUR", "XAUGBP", "XAUAUD", "XAGEUR"]

def oilStems : List String := ["XBRUSD", "XTIUSD", "USOIL", "UKOIL", "BRENT", "WTI", "CL"]

def jpyStems : List String :=
  ["USDJPY", "EURJPY", "GBPJPY", "AUDJPY", "NZDJPY", "CADJPY", "CHFJPY", "SGDJPY", "ZARJPY",
    "SEKJPY", "NOKJPY", "HKDJPY", "TRYJPY", "MXNJPY"]

def indexStems : List String :=
  ["US30", "US500", "US2000", "USTEC", "NAS100", "SPX", "SPX500", "DJ30", "NDX", "NDX100",
    "DE40", "DAX", "UK100", "FTSE", "FR40", "EU50", "JP225", "AU200", "HK50", "CN50", "VIX"]

def cryptoStems : List String :=
  ["BTCUSD", "ETHUSD", "LTCUSD", "XRPUSD", "BCHUSD", "ADAUSD", "DOGEUSD", "SOLUSD", "DOTUSD",
    "LINKUSD", "AVAXUSD", "MATICUSD", "BNBUSD", "TRXUSD", "XLMUSD", "ATOMUSD", "UNIUSD",
    "AAVEUSD"]

def derivP0001Stems : List String := ["CRASH", "BOOM", "RANGE"]

def derivP01Stems : List String :=
  ["VOLATILITY", "V10", "V25", "V50", "V75", "V100", "V200", "V300", "STEP"]

def derivP1Stems : List String := ["JUMP", "DEX"]

def bareSymbol : List Char :=
  (symbol.toList.filter (fun c => c != '/' && c != '_')).takeWhile (fun c => c != '.')

def startsWithAny (stems : List String) (symbol : List Char) : Bool :=
  stems.any (·.toList.isPrefixOf symbol)

def pairType : PairType :=
  let bare := bareSymbol symbol
  if startsWithAny metalStems bare then .metal
  else if startsWithAny oilStems bare then .oil
  else if startsWithAny jpyStems bare then .jpy
  else if 6 ≤ bare.length ∧ (bare.take 6).drop 3 = "JPY".toList then .jpy
  else if 7 ≤ bare.length ∧ (bare.take 7).drop 4 = "JPY".toList then .jpy
  else if startsWithAny indexStems bare then .index
  else if startsWithAny cryptoStems bare then .crypto
  else if startsWithAny derivP0001Stems bare then .derivP0001
  else if startsWithAny derivP01Stems bare then .derivP01
  else if startsWithAny derivP1Stems bare then .derivP1
  else .standard

def pipValue : ℚ :=
  match pairType symbol with
  | .jpy => 1 / 100
  | .metal => 1 / 100
  | .oil => 1 / 100
  | .index => 1
  | .crypto => 1
  | .derivP0001 => 1
  | .derivP01 => 1
  | .derivP1 => 1
  | .standard => 1 / 10000

theorem pipValue_pos : 0 < pipValue symbol := by
  unfold pipValue
  split <;> norm_num

def pips (symbol : String) : ℚ :=
  |price1 - price2| / pipValue symbol

theorem pips_nonneg (symbol : String) : 0 ≤ pips price1 price2 symbol :=
  div_nonneg (abs_nonneg _) (pipValue_pos symbol).le

def isWithinTolerance (tolerancePips : ℚ) (symbol : String) : Bool :=
  pips price1 price2 symbol ≤ tolerancePips

def round2 (x : ℚ) : ℚ := roundHalfEven (x * 100) / 100

theorem round2_nonneg {x : ℚ} (h : 0 ≤ x) : 0 ≤ round2 x := by
  have hflo : 0 ≤ ⌊x * 100⌋ := Int.floor_nonneg.mpr (by linarith)
  have hrou : 0 ≤ roundHalfEven (x * 100) := by
    simp only [roundHalfEven]
    split_ifs <;> omega
  have hcast : (0 : ℚ) ≤ roundHalfEven (x * 100) := by exact_mod_cast hrou
  unfold round2
  linarith

end Pips

end ETradie.Ta
