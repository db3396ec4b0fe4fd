import Intraday.Lib.Clock
import Intraday.Lib.Dict

/-!
# Intraday.Backtesting.Models — `shared/backtesting/models.py`

The trades of a backtest, its metrics, its configuration and its result, and the folds of a
walk-forward run.
-/

namespace Intraday.Backtesting

open Intraday.Lib Intraday.Lib.Raise

/-- `DIRECTION_LONG`. -/
def directionLong : ℤ := 1

/-- `SlippageBucket`. -/
structure SlippageBucket where
  name : String
  startHour : ℕ
  startMinute : ℕ
  endHour : ℕ
  endMinute : ℕ
  mu : ℚ
  sigma : ℚ
deriving DecidableEq

/-- `Trade`. -/
structure Trade where
  tradeId : String
  symbol : String
  exchange : String
  strategyId : String
  direction : ℤ
  entryTime : PyDateTime
  exitTime : PyDateTime
  entryPrice : ℚ
  exitPrice : ℚ
  entrySlippageBps : ℚ
  exitSlippageBps : ℚ
  quantity : ℚ
  pnl : ℚ
  pnlPct : ℚ
deriving DecidableEq

/-- `BacktestMetrics`. -/
structure BacktestMetrics where
  sharpeRatio : ℚ
  sortinoRatio : ℚ
  maxDrawdownPct : ℚ
  winRatePct : ℚ
  expectancyPerTrade : ℚ
  profitFactor : ℚ
  calmarRatio : ℚ
  avgSlippageBps : ℚ
  totalTrades : ℤ
  tradingDays : ℤ
  totalReturnPct : ℚ
  annualizedReturnPct : ℚ
deriving DecidableEq

/-- `BacktestConfig`. -/
structure BacktestConfig where
  strategyId : String
  symbol : String
  exchange : String
  startDate : Date
  endDate : Date
  initialCapital : ℚ := 100000
  positionSizePct : ℚ := 1 / 50
  riskFreeRateAnnual : ℚ := 13 / 200
deriving DecidableEq

/-- `BacktestResult`, without the trades and the two curves, which only the reports read. -/
structure BacktestResult where
  runId : String
  config : BacktestConfig
  metrics : BacktestMetrics
  passedPromotionGate : Bool
  promotionFailures : List String
  reportHtmlPath : Option String
  reportCsvPath : Option String
  completedAt : DateTime
deriving DecidableEq

/-- The parameters of a strategy. -/
abbrev Params := Dict String ℚ

/-- `WalkForwardWindow`, with its dates by their ordinals. -/
structure WalkForwardWindow where
  windowIndex : ℕ
  inSampleStart : ℤ
  inSampleEnd : ℤ
  outOfSampleStart : ℤ
  outOfSampleEnd : ℤ
  bestParams : Params
  inSampleMetrics : BacktestMetrics
  outOfSampleMetrics : BacktestMetrics
  passedOosGate : Bool

/-- `WalkForwardResult`. -/
structure WalkForwardResult where
  strategyId : String
  symbol : String
  exchange : String
  windows : List WalkForwardWindow
  avgOosSharpe : ℚ
  avgOosDrawdownPct : ℚ
  avgOosWinRatePct : ℚ
  windowsPassed : ℕ

end Intraday.Backtesting
