import Intraday.Lib.Dict
import Intraday.Lib.Raise

/-!
# Intraday.Patterns.Models — `shared/patterns/models.py`

The candles that the pattern engine reads and the snapshots that the gates consume.
-/

namespace Intraday.Patterns

open Intraday.Lib Intraday.Lib.Raise

/-- `OHLCVCandle` of `shared/storage/models.py`. -/
structure OHLCVCandle where
  time : PyDateTime
  symbol : String
  exchange : String
  openPrice : ℚ
  high : ℚ
  low : ℚ
  close : ℚ
  volume : ℤ
deriving DecidableEq, Repr

/-- `CandlestickSignal`: bars are counted from the oldest candle. -/
structure CandlestickSignal where
  name : String
  direction : ℤ
  barIndex : ℤ
deriving DecidableEq, Repr

/-- `ORBState`. -/
structure ORBState where
  orbHigh : ℚ
  orbLow : ℚ
  orbRange : ℚ
  sessionOpen : PyDateTime
  rangeFormed : Bool
  breakoutDirection : Option ℤ
  breakoutPrice : Option ℚ
deriving DecidableEq, Repr

/-- `SRLevel`. -/
structure SRLevel where
  price : ℚ
  levelType : String
  strength : ℚ
  touches : ℤ
  lastTouchBar : ℤ
deriving DecidableEq, Repr

/-- `PatternSnapshot`, without its two times. -/
structure PatternSnapshot where
  symbol : String
  exchange : String
  timeframe : String
  candlestickSignals : List CandlestickSignal
  orbState : Option ORBState
  srLevels : List SRLevel
deriving DecidableEq, Repr

/-- `MultiTimeframePatterns`, without its time. -/
structure MultiTimeframePatterns where
  symbol : String
  exchange : String
  snapshots : Dict String PatternSnapshot
  confirmedBullishPatterns : List String
  confirmedBearishPatterns : List String

end Intraday.Patterns
