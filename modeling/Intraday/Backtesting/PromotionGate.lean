import Intraday.Backtesting.Models
import Intraday.Core.Constants
import Intraday.Lib.Decimal

/-!
# Intraday.Backtesting.PromotionGate — `shared/backtesting/promotion_gate.py`

A model is promoted if it clears four gates. `run_backtest` checks them on the metrics of the run
and hands the failures on with its result.
-/

namespace Intraday.Backtesting

open Intraday.Core Intraday.Lib Intraday.Lib.Decimal

/-! `_GATE_LABELS`. -/

/-- The label of the trading days. -/
def daysLabel : String := "min_trading_days >= " ++ toString paperTradingMinDays

/-- The label of the Sharpe ratio. -/
def sharpeLabel : String := "sharpe_ratio > " ++ fmtFloat paperTradingMinSharpe

/-- The label of the win rate. -/
def winRateLabel : String := "win_rate_pct > " ++ fmtFloat paperTradingMinWinRatePct

/-- The label of the drawdown. -/
def drawdownLabel : String := "max_drawdown_pct < " ++ fmtFloat paperTradingMaxDrawdownPct

/-- `check_promotion_gate`. -/
def checkPromotionGate (metrics : BacktestMetrics) : List String :=
  (if metrics.tradingDays < paperTradingMinDays then [daysLabel] else []) ++
    (if metrics.sharpeRatio ≤ paperTradingMinSharpe then [sharpeLabel] else []) ++
    (if metrics.winRatePct ≤ paperTradingMinWinRatePct then [winRateLabel] else []) ++
    (if metrics.maxDrawdownPct ≥ paperTradingMaxDrawdownPct then [drawdownLabel] else [])

/-- No gate fails. -/
def clears (metrics : BacktestMetrics) : Bool := (checkPromotionGate metrics).isEmpty

example : [daysLabel, sharpeLabel, winRateLabel, drawdownLabel] =
    ["min_trading_days >= 20", "sharpe_ratio > 1.5", "win_rate_pct > 50.0",
      "max_drawdown_pct < 5.0"] := by decide +kernel

/-- The end of `run_backtest`, from the metrics on. -/
def finishBacktest (runId : String) (config : BacktestConfig) (metrics : BacktestMetrics)
    (completedAt : DateTime) : BacktestResult :=
  let failures := checkPromotionGate metrics
  { runId := runId
    config := config
    metrics := metrics
    passedPromotionGate := decide (failures.length = 0)
    promotionFailures := failures
    reportHtmlPath := none
    reportCsvPath := none
    completedAt := completedAt }

/-- `os.path.join` of a directory and a name. -/
def pathJoin (dir name : String) : String :=
  if name.startsWith "/" then name
  else if dir.isEmpty || dir.endsWith "/" then dir ++ name
  else dir ++ "/" ++ name

/-- What `generate_reports` returns. -/
def generateReports (result : BacktestResult) (reportDir : String) : BacktestResult :=
  { result with
    reportHtmlPath := some (pathJoin reportDir (result.runId ++ "_backtest.html"))
    reportCsvPath := some (pathJoin reportDir (result.runId ++ "_trades.csv")) }

/-- The results of backtests, before and after their reports. -/
inductive OfBacktest : BacktestResult → Prop
  | run (runId : String) (config : BacktestConfig) (metrics : BacktestMetrics)
      (completedAt : DateTime) : OfBacktest (finishBacktest runId config metrics completedAt)
  | reports {result : BacktestResult} (h : OfBacktest result) (reportDir : String) :
      OfBacktest (generateReports result reportDir)

/-- The result of a backtest carries the verdict on its metrics. -/
theorem OfBacktest.verdict {result : BacktestResult} (h : OfBacktest result) :
    result.passedPromotionGate = clears result.metrics ∧
      result.promotionFailures = checkPromotionGate result.metrics := by
  induction h with
  | run runId config metrics completedAt =>
      refine ⟨?_, rfl⟩
      rw [finishBacktest, clears, Bool.eq_iff_iff, decide_eq_true_iff, List.isEmpty_iff]
      exact List.length_eq_zero_iff
  | reports _ _ ih => exact ih

end Intraday.Backtesting
