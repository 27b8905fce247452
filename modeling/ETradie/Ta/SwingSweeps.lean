import ETradie.Ta.Sweeps

/-! # The sweeps reported for one swing

What the scan of a sequence knows about one swing is whether its price is consumed and which
candles were reported for it. Every level of that price consumes it, so a swing loses its sweep
to a previous-day extreme or an earlier swing that stands at the same price. -/

namespace ETradie.Ta

open List SweepScan

variable (c : Candle) (i : Nat)

section Standing

variable {a : SweepAnalyzer} {side : Side}

variable {swing : Swing side} {st : SweepScan}

end Standing

section Scan

variable {a : SweepAnalyzer} {side : Side} {swing : Swing side}

variable {rival : Candle × Nat → Bool}

end Scan

end ETradie.Ta
