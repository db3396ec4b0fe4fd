import Mathlib.Algebra.Order.Floor.Ring
import Mathlib.Tactic.Linarith
import Intraday.Risk.Guards

/-!
# Intraday.Risk.Sizing — `shared/risk/sizing.py`

Two sizing methods turn a risk budget into a whole number of shares: ATR
fixed-risk and fractional Kelly. Both divide the budget by the stop distance,
round down and then take at least one share, so the quantity is
`wholeShares budget distance` and the risk actually taken can exceed the budget
by the risk of that one share.
-/

namespace Intraday.Risk

open Intraday.Core Intraday.Lib.Decimal

/-- `SNAPSHOT_WINDOW_SIZE_MULTIPLIER if is_snapshot_window else 1.0`. -/
def snapshotMult (isSnapshotWindow : Bool) : ℚ :=
  if isSnapshotWindow then snapshotWindowSizeMultiplier else 1

/-- `max(1, math.floor(raw_qty))`. -/
def wholeShares (rawQty : ℚ) : ℤ := max 1 ⌊rawQty⌋

/-- The `PositionSize` both methods build from a quantity. -/
def positionSizeOf (capital entryPrice stopDistance : ℚ) (quantity : ℤ) (method : String)
    (regimeMultiplier snapshotMultiplier : ℚ) : PositionSize :=
  let actualRisk := quantity * stopDistance
  let actualRiskPct := if 0 < capital then actualRisk / capital * 100 else 0
  { quantity := quantity
    notionalValue := roundTo 4 (quantity * entryPrice)
    riskAmount := roundTo 4 actualRisk
    riskPct := roundTo 4 actualRiskPct
    sizingMethod := method
    regimeMultiplier := regimeMultiplier
    snapshotMultiplier := snapshotMultiplier }

/-- The risk budget of `compute_atr_position_size`. -/
def atrBudget (capital baseRiskPct regimeMultiplier : ℚ) (isSnapshotWindow : Bool) : ℚ :=
  let effectiveRiskPct := baseRiskPct * regimeMultiplier * snapshotMult isSnapshotWindow
  capital * (effectiveRiskPct / 100)

/-- `compute_atr_position_size`. -/
def computeAtrPositionSize (capital entryPrice stopLoss baseRiskPct regimeMultiplier : ℚ)
    (isSnapshotWindow : Bool) : Except String PositionSize :=
  if entryPrice ≤ 0 then
    .error ("entry_price must be > 0, got " ++ fmtFloat entryPrice)
  else
    let stopDistance := |entryPrice - stopLoss|
    let minDistance := entryPrice * (minStopDistancePct / 100)
    if stopDistance < minDistance then
      .error ("stop_distance " ++ fmtFixed 4 stopDistance ++ " below minimum " ++
        fmtFixed 4 minDistance ++ " (" ++ fmtFloat minStopDistancePct ++ "% of entry)")
    else
      let riskAmount := atrBudget capital baseRiskPct regimeMultiplier isSnapshotWindow
      let rawQty := riskAmount / stopDistance
      .ok (positionSizeOf capital entryPrice stopDistance (wholeShares rawQty) "ATR_FIXED_RISK"
        regimeMultiplier (snapshotMult isSnapshotWindow))

/-- The risk budget of `compute_kelly_position_size`. -/
def kellyBudget (capital winRate avgWinLossRatio regimeMultiplier : ℚ)
    (isSnapshotWindow : Bool) : ℚ :=
  let b := avgWinLossRatio
  let q := 1 - winRate
  let kellyFull := max 0 ((b * winRate - q) / b)
  let fraction := kellyFraction * kellyFull
  let effectiveFraction := fraction * regimeMultiplier * snapshotMult isSnapshotWindow
  capital * effectiveFraction

/-- `compute_kelly_position_size`. -/
def computeKellyPositionSize
    (capital entryPrice stopLoss winRate avgWinLossRatio regimeMultiplier : ℚ)
    (isSnapshotWindow : Bool) : Except String PositionSize :=
  if ¬ (0 < winRate ∧ winRate < 1) then
    .error ("win_rate must be in (0, 1), got " ++ fmtFloat winRate)
  else if avgWinLossRatio ≤ 0 then
    .error ("avg_win_loss_ratio must be > 0, got " ++ fmtFloat avgWinLossRatio)
  else
    let riskAmount := kellyBudget capital winRate avgWinLossRatio regimeMultiplier isSnapshotWindow
    let stopDistance := |entryPrice - stopLoss|
    let minDistance := entryPrice * (minStopDistancePct / 100)
    if stopDistance < minDistance then
      .error ("stop_distance " ++ fmtFixed 4 stopDistance ++ " below minimum " ++
        fmtFixed 4 minDistance)
    else
      let rawQty := if 0 < stopDistance then riskAmount / stopDistance else 0
      .ok (positionSizeOf capital entryPrice stopDistance (wholeShares rawQty) "KELLY"
        regimeMultiplier (snapshotMult isSnapshotWindow))

/-! ## What the sizes are -/

theorem one_le_wholeShares (x : ℚ) : 1 ≤ wholeShares x := le_max_left _ _

/-- An accepted ATR size is that of its budget. -/
theorem computeAtrPositionSize_ok {capital entryPrice stopLoss basePct mult : ℚ} {snap : Bool}
    {size : PositionSize}
    (h : computeAtrPositionSize capital entryPrice stopLoss basePct mult snap = .ok size) :
    size = positionSizeOf capital entryPrice |entryPrice - stopLoss|
      (wholeShares (atrBudget capital basePct mult snap / |entryPrice - stopLoss|))
      "ATR_FIXED_RISK" mult (snapshotMult snap) := by
  simp only [computeAtrPositionSize] at h
  split at h
  · cases h
  · split at h
    · cases h
    · exact (Except.ok.inj h).symm

/-- An accepted Kelly size is that of its budget. A zero stop distance, which only a negative
entry price lets through, buys one share; `x / 0 = 0` says the same. -/
theorem computeKellyPositionSize_ok {capital entryPrice stopLoss winRate ratio mult : ℚ}
    {snap : Bool} {size : PositionSize}
    (h : computeKellyPositionSize capital entryPrice stopLoss winRate ratio mult snap = .ok size) :
    size = positionSizeOf capital entryPrice |entryPrice - stopLoss|
      (wholeShares (kellyBudget capital winRate ratio mult snap / |entryPrice - stopLoss|))
      "KELLY" mult (snapshotMult snap) := by
  simp only [computeKellyPositionSize] at h
  split at h
  · cases h
  · split at h
    · cases h
    · split at h
      · cases h
      · rw [← Except.ok.inj h]
        by_cases hpos : 0 < |entryPrice - stopLoss|
        · rw [if_pos hpos]
        · have hzero : |entryPrice - stopLoss| = 0 :=
            le_antisymm (not_lt.mp hpos) (abs_nonneg _)
          rw [hzero, div_zero, ite_self]

end Intraday.Risk
