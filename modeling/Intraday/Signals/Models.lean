import Intraday.Patterns.Models
import Intraday.Risk.Models
import Intraday.Sentiment.Models
import Intraday.Signals.Publisher

/-!
# Intraday.Signals.Models — `shared/signals/models.py`

`SignalContext` is the complete input of one signal evaluation, `GateResult` what one gate says,
and `EvaluatedSignal` the whole result: what a publisher reads of it, and the trail of its gates.
-/

namespace Intraday.Signals

open Intraday.Lib.Raise Intraday.Patterns Intraday.Risk Intraday.Sentiment

/-- `GateResult`. -/
structure GateResult where
  gateNumber : ℕ
  passed : Bool
  reason : String
  confidenceContribution : ℚ := 0
  confirmingIndicators : List String := []
  confirmingTimeframes : List String := []
  candlestickPattern : String := ""
deriving DecidableEq, Repr

/-- The indicator values of the primary timeframe: `values.get(name, {}).get(key)`. -/
abbrev IndicatorValues := String → String → Option ℚ

/-- `SignalContext`. The gates read no candles; a missing pattern snapshot is one they check
for. -/
structure SignalContext where
  symbol : String
  exchange : String
  direction : String
  strategyId : String
  regime : RegimeClassification
  indicatorValues : IndicatorValues
  patternSnapshot : Option PatternSnapshot
  multiTfPatterns : Option MultiTimeframePatterns
  currentPrice : ℚ
  currentVolume : ℚ
  avgVolume : ℚ
  atr : ℚ
  isSnapshotWindow : Bool
  sessionOpen : PyDateTime
  sessionClose : PyDateTime
  evaluatedAt : PyDateTime
  sentiment : Option MarketSentiment := none

/-- `SignalResult`: what a publisher reads, the gates and the time. -/
structure EvaluatedSignal extends SignalResult where
  gateResults : List GateResult
  failedAtGate : Option ℕ
  evaluatedAt : PyDateTime
deriving DecidableEq, Repr

end Intraday.Signals
