import Intraday.Core.Constants

/-!
# Intraday.Risk.Models — `shared/risk/models.py`

`RiskParameters` is the complete input of one evaluation, `RiskDecision` its
output. Of the regime classification only the regime is read.
-/

namespace Intraday.Risk

/-- `MarketRegime`. -/
inductive MarketRegime where
  | bullTrend
  | bearTrend
  | meanReverting
  | highVolChaos
deriving DecidableEq, Repr

/-- The value of the string enumeration. -/
def MarketRegime.value : MarketRegime → String
  | .bullTrend => "BULL_TREND"
  | .bearTrend => "BEAR_TREND"
  | .meanReverting => "MEAN_REVERTING"
  | .highVolChaos => "HIGH_VOL_CHAOS"

/-- `RegimeClassification`, as far as the risk engine reads it. -/
structure RegimeClassification where
  regime : MarketRegime
deriving DecidableEq, Repr

/-- Result of a single guard. -/
structure RiskCheck where
  name : String
  passed : Bool
  detail : String
deriving DecidableEq, Repr

/-- `PositionSize`. -/
structure PositionSize where
  quantity : ℤ
  notionalValue : ℚ
  riskAmount : ℚ
  riskPct : ℚ
  sizingMethod : String
  regimeMultiplier : ℚ
  snapshotMultiplier : ℚ
deriving DecidableEq, Repr

/-- `OpenPosition`: what the portfolio-level guards read of an open position. -/
structure OpenPosition where
  symbol : String
  sector : String
  riskAmount : ℚ
  returns : List ℚ := []
deriving DecidableEq, Repr

/-- `RiskParameters`. -/
structure RiskParameters where
  capital : ℚ
  openPositions : List OpenPosition
  dailyPnl : ℚ
  dailyTradeCount : ℤ
  isSnapshotWindow : Bool
  regime : RegimeClassification
  proposedSector : String := "UNKNOWN"
  proposedReturns : List ℚ := []
  useKelly : Bool := false
  winRate : Option ℚ := none
  avgWinLossRatio : Option ℚ := none
  halted : Bool := false
deriving DecidableEq, Repr

/-- `RiskDecision`. -/
structure RiskDecision where
  approved : Bool
  positionSize : Option PositionSize
  rejectionReason : Option String
  checks : List RiskCheck
deriving DecidableEq, Repr

end Intraday.Risk
