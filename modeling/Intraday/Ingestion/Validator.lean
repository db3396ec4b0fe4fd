import Intraday.Core.Constants
import Intraday.Lib.Dict
import Intraday.Ingestion.Models

/-!
# Intraday.Ingestion.Validator — `shared/ingestion/validator.py`

A tick may be up to 500 ms older than the last accepted tick of its symbol, and it then becomes
the last one.
-/

namespace Intraday.Ingestion

open Intraday.Core Intraday.Lib

/-- `TickSequenceValidator`. -/
structure TickSequenceValidator where
  lastTsMs : Dict String ℤ := .empty

/-- `validate`, at `nowMs`. -/
def TickSequenceValidator.validate (v : TickSequenceValidator) (nowMs : ℤ) (tick : RawTick) :
    Except TickValidationError TickSequenceValidator :=
  if tick.ltp.le .zero then
    .error ⟨"zero/negative price: " ++ tick.symbol ++ " ltp=" ++ tick.ltp.repr⟩
  else if tick.volume < 0 then
    .error ⟨"negative volume: " ++ tick.symbol ++ " volume=" ++ toString tick.volume⟩
  else if nowMs + tickMaxFutureMs < tick.timestampMs then
    .error ⟨"timestamp in the future: " ++ tick.symbol ++ " ts=" ++ toString tick.timestampMs ++
      " now=" ++ toString nowMs⟩
  else
    match v.lastTsMs.get? tick.key with
    | some last =>
        if tick.timestampMs < last - tickMaxBackwardMs then
          .error ⟨"out-of-sequence tick: " ++ tick.symbol ++ " ts=" ++ toString tick.timestampMs ++
            " last=" ++ toString last⟩
        else .ok { lastTsMs := v.lastTsMs.set tick.key tick.timestampMs }
    | none => .ok { lastTsMs := v.lastTsMs.set tick.key tick.timestampMs }

/-- A tick that arrives, and the time at which it is validated. -/
structure Arrival where
  nowMs : ℤ
  tick : RawTick

/-- The ticks that the validator accepts, one after the other. -/
def TickSequenceValidator.accepted (v : TickSequenceValidator) : List Arrival → List RawTick
  | [] => []
  | a :: rest =>
      match v.validate a.nowMs a.tick with
      | .ok v' => a.tick :: v'.accepted rest
      | .error _ => v.accepted rest

end Intraday.Ingestion
