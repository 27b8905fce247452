import ETradie.Ta.Candles

namespace ETradie.Ta

open List

structure SwingAnalyzer where
  (leftBars rightBars : Nat := 5)
  equalTolerancePips : ℚ := 2
  left_pos : 1 ≤ leftBars := by decide
  right_pos : 1 ≤ rightBars := by decide
  tolerance_nonneg : 0 ≤ equalTolerancePips := by decide

def SwingAnalyzer.standard : SwingAnalyzer := {}

structure Swing (side : Side) where
  symbol : String
  timeframe : Timeframe
  timestamp : Int
  price : ℚ
  (index strength leftBars rightBars : Nat)
  isEqual : Bool
  equalTolerancePips : Option ℚ
  price_pos : 0 < price
  strength_bounds : 1 ≤ strength ∧ strength ≤ 10
  left_pos : 1 ≤ leftBars
  right_pos : 1 ≤ rightBars

abbrev SwingHigh := Swing .high

abbrev SwingLow := Swing .low

namespace SwingAnalyzer

def effectiveBars (a : SwingAnalyzer) : Timeframe → Nat × Nat
  | .d1 => (3, 3)
  | .w1 => (2, 2)
  | .mn1 => (2, 1)
  | _ => (a.leftBars, a.rightBars)

def leftOf (a : SwingAnalyzer) (tf : Timeframe) : Nat := (a.effectiveBars tf).1

def rightOf (a : SwingAnalyzer) (tf : Timeframe) : Nat := (a.effectiveBars tf).2

theorem leftOf_pos (a : SwingAnalyzer) (tf : Timeframe) : 1 ≤ a.leftOf tf := by
  unfold leftOf effectiveBars
  split
  · decide
  · decide
  · decide
  · exact a.left_pos

theorem rightOf_pos (a : SwingAnalyzer) (tf : Timeframe) : 1 ≤ a.rightOf tf := by
  unfold rightOf effectiveBars
  split
  · decide
  · decide
  · decide
  · exact a.right_pos

end SwingAnalyzer

section Strength

def dominated (side : Side) (price : ℚ) (cs : List Candle) : Nat :=
  (cs.takeWhile (fun c => !side.beyond price (side.extreme c))).length

def strengthOf (total : Nat) : Nat :=
  if total < 14 then 3
  else if total < 20 then 5
  else if total < 30 then 7
  else if total < 40 then 8
  else if total < 50 then 9
  else 10

def calculateStrength (side : Side) (cs : List Candle) (index : Nat) (price : ℚ) : Nat :=
  strengthOf (dominated side price (cs.take index).reverse +
    dominated side price (cs.drop (index + 1)))

theorem strengthOf_bounds (total : Nat) : 1 ≤ strengthOf total ∧ strengthOf total ≤ 10 := by
  unfold strengthOf
  split_ifs <;> decide

end Strength

section Detection

variable (a : SwingAnalyzer) (side : Side) (s : CandleSequence)

def standsOut (side : Side) (cs : List Candle) (left right i : Nat) (price : ℚ) : Bool :=
  ((cs.drop (i - left)).take left).all (fun c => side.beyond (side.extreme c) price) &&
    ((cs.drop (i + 1)).take right).all (fun c => side.beyond (side.extreme c) price)

def checkEqual {side : Side} (a : SwingAnalyzer) (price : ℚ) (existing : List (Swing side))
    (symbol : String) : Bool :=
  (existing.drop (existing.length - 5)).any
    (fun swing => isWithinTolerance price swing.price a.equalTolerancePips symbol)

def swingAt (existing : List (Swing side)) (i : Nat) : Option (Swing side) :=
  match s.candles[i]? with
  | none => none
  | some current =>
    if standsOut side s.candles (a.leftOf s.timeframe) (a.rightOf s.timeframe) i
        (side.extreme current) then
      let isEqual := checkEqual a (side.extreme current) existing current.symbol
      some
        { symbol := current.symbol, timeframe := current.timeframe, timestamp := current.timestamp
          price := side.extreme current, index := i
          strength := calculateStrength side s.candles i (side.extreme current)
          leftBars := a.leftOf s.timeframe, rightBars := a.rightOf s.timeframe, isEqual := isEqual
          equalTolerancePips := if isEqual then some a.equalTolerancePips else none
          price_pos := side.extreme_pos current
          strength_bounds := strengthOf_bounds _
          left_pos := a.leftOf_pos s.timeframe
          right_pos := a.rightOf_pos s.timeframe }
    else none

def scanSwings : List (Swing side) → List Nat → List (Swing side)
  | found, [] => found
  | found, i :: is =>
    match swingAt a side s found i with
    | some swing => scanSwings (found ++ [swing]) is
    | none => scanSwings found is

def detectSwings : List (Swing side) :=
  scanSwings a side s []
    (List.range' (a.leftOf s.timeframe)
      (s.candles.length - a.rightOf s.timeframe - a.leftOf s.timeframe))

def detectSwingHighs : List SwingHigh := detectSwings a .high s

def detectSwingLows : List SwingLow := detectSwings a .low s

end Detection

section Found

variable {a : SwingAnalyzer} {side : Side} {s : CandleSequence}

theorem swingAt_eq_some {existing : List (Swing side)} {i : Nat} {swing : Swing side}
    (h : swingAt a side s existing i = some swing) :
    ∃ current, s.candles[i]? = some current ∧
      standsOut side s.candles (a.leftOf s.timeframe) (a.rightOf s.timeframe) i swing.price ∧
      swing.index = i ∧ swing.price = side.extreme current ∧
      swing.timestamp = current.timestamp ∧ swing.symbol = current.symbol ∧
      swing.timeframe = current.timeframe ∧
      swing.strength = calculateStrength side s.candles i swing.price := by
  revert h
  fun_cases swingAt a side s existing i
  all_goals rintro ⟨⟩
  exact ⟨_, ‹_›, ‹_›, rfl, rfl, rfl, rfl, rfl, rfl⟩

theorem scanSwings_append (found : List (Swing side)) (is : List Nat) :
    ∃ more, scanSwings a side s found is = found ++ more ∧
      (more.map Swing.index).Sublist is ∧
      ∀ swing ∈ more, ∃ existing, swingAt a side s existing swing.index = some swing := by
  induction is generalizing found with
  | nil => exact ⟨[], by simp [scanSwings], List.Sublist.refl _, by simp⟩
  | cons i is ih =>
    rw [scanSwings]
    split
    · next swing hsw =>
      obtain ⟨-, -, -, hidx, -⟩ := swingAt_eq_some hsw
      obtain ⟨more, heq, hsub, hmr⟩ := ih (found ++ [swing])
      refine ⟨swing :: more, by simp [heq], ?_, ?_⟩
      · rw [map_cons, hidx]
        exact hsub.cons_cons i
      · intro other hoth
        rcases mem_cons.mp hoth with rfl | hoth
        · exact ⟨found, by rw [hidx]; exact hsw⟩
        · exact hmr other hoth
    · obtain ⟨more, heq, hsub, hmr⟩ := ih found
      exact ⟨more, heq, hsub.cons i, hmr⟩

theorem scanSwings_scanSwings (found : List (Swing side)) (is js : List Nat) :
    scanSwings a side s found (is ++ js) =
      scanSwings a side s (scanSwings a side s found is) js := by
  induction is generalizing found with
  | nil => rfl
  | cons i is ih =>
    rw [cons_append, scanSwings, scanSwings]
    split
    · exact ih _
    · exact ih _

theorem detectSwings_sorted (a : SwingAnalyzer) (side : Side) (s : CandleSequence) :
    ((detectSwings a side s).map Swing.index).Pairwise (· < ·) := by
  obtain ⟨more, heq, hsub, -⟩ := scanSwings_append ([] : List (Swing side))
    (List.range' (a.leftOf s.timeframe)
      (s.candles.length - a.rightOf s.timeframe - a.leftOf s.timeframe))
  rw [detectSwings, heq]
  exact (pairwise_lt_range').sublist hsub

theorem mem_detectSwings {swing : Swing side} (h : swing ∈ detectSwings a side s) :
    (a.leftOf s.timeframe ≤ swing.index ∧
      swing.index < s.candles.length - a.rightOf s.timeframe) ∧
      ∃ existing, swingAt a side s existing swing.index = some swing := by
  obtain ⟨more, heq, hsub, hmr⟩ := scanSwings_append
    ([] : List (Swing side))
    (List.range' (a.leftOf s.timeframe)
      (s.candles.length - a.rightOf s.timeframe - a.leftOf s.timeframe))
  rw [detectSwings, heq] at h
  have hrng := hsub.subset (mem_map_of_mem h)
  rw [mem_range'_1] at hrng
  exact ⟨⟨hrng.1, by omega⟩, hmr swing h⟩

theorem detectSwings_timestamps (a : SwingAnalyzer) (side : Side) (s : CandleSequence) :
    (detectSwings a side s).Pairwise (fun x y => x.timestamp < y.timestamp) := by
  have hind := pairwise_map.mp (detectSwings_sorted a side s)
  refine hind.imp_of_mem ?_
  intro x y hx hy hlt
  obtain ⟨-, existing, hat⟩ := mem_detectSwings hx
  obtain ⟨-, existing', hat'⟩ := mem_detectSwings hy
  obtain ⟨current, hg, -, -, -, htm, -⟩ := swingAt_eq_some hat
  obtain ⟨current', hg', -, -, -, htm', -⟩ := swingAt_eq_some hat'
  rw [htm, htm']
  exact CandleSequence.timestamp_lt hg hg' hlt

end Found

end ETradie.Ta
