import Intraday.Lib.Key
import Intraday.Lib.PyFloat

/-!
# Intraday.Ingestion.Models — `shared/ingestion/models.py`
-/

namespace Intraday.Ingestion

open Intraday.Lib

/-- `IngestionStatus`. -/
inductive IngestionStatus where
  | live
  | degraded
  | paper
deriving DecidableEq, Repr

/-- `RawTick`. -/
structure RawTick where
  symbol : String
  exchange : String
  ltp : PyFloat
  volume : ℤ
  timestampMs : ℤ
deriving DecidableEq

/-- `f"{tick.exchange}:{tick.symbol}"`. -/
def RawTick.key (t : RawTick) : String := joinKey t.exchange t.symbol

/-- `OHLCVCandle`. -/
structure OHLCVCandle where
  symbol : String
  exchange : String
  intervalSeconds : ℤ
  openPrice : PyFloat
  high : PyFloat
  low : PyFloat
  close : PyFloat
  volume : ℤ
  timestampMs : ℤ
  tickCount : ℕ
deriving DecidableEq

/-- `TickValidationError`, with its message. -/
structure TickValidationError where
  message : String
deriving DecidableEq, Repr

end Intraday.Ingestion
