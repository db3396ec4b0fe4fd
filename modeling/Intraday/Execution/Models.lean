import Intraday.Lib.Proc
import Intraday.Compliance.Models

/-!
# Intraday.Execution.Models — `shared/execution/models.py` and the outside

The reports of the execution engine, and the calls it makes: to the broker, to
Redis, to the clock, to the random generator and to the dead-letter queue. A call
that can fail says so in its answer.
-/

namespace Intraday.Execution

open Intraday.Compliance

/-- `OrderStatus`. -/
inductive OrderStatus where
  | pending
  | placed
  | filled
  | partiallyFilled
  | rejected
  | cancelled
deriving DecidableEq, Repr

/-- `FillReport`. -/
structure FillReport where
  clientOrderId : String
  brokerOrderId : Option String
  symbol : String
  exchange : String
  direction : String
  filledQuantity : ℤ
  requestedQuantity : ℤ
  filledPrice : Option ℚ
  status : OrderStatus
  rejectionReason : Option String
  placedAtMs : ℤ
  filledAtMs : Option ℤ
  slippagePct : Option ℚ
  isPartial : Bool
  slQuantity : ℤ
  attemptCount : ℕ
  strategyTag : String
  complianceAuditId : String
deriving DecidableEq, Repr

/-- `DeadLetterEntry`. -/
structure DeadLetterEntry where
  clientOrderId : String
  symbol : String
  exchange : String
  lastError : String
  attemptCount : ℕ
  enqueuedAtMs : ℤ
  strategyTag : String
deriving DecidableEq, Repr

/-- What a broker call can raise, with `str(exc)`: `BrokerTransientError`,
`BrokerPermanentError`, or an exception the engine does not catch. -/
inductive BrokerError where
  | transient (message : String)
  | permanent (message : String)
  | other (message : String)
deriving DecidableEq, Repr

/-- What `redis.get` can do: return the value as bytes, return it as text (a client
with `decode_responses`), find nothing, or raise. -/
inductive GetOutcome where
  | bytes (raw : ByteArray)
  | str (value : String)
  | missing
  | exception

/-- The calls the engine makes. -/
inductive Call where
  | timeMs
  | newAuditId
  | redisGet (key : String)
  | placeOrder (tagged : TaggedOrder)
  | queryOrder (clientOrderId : String)
  | uniform (low high : ℚ≥0)
  | sleep (seconds : ℚ≥0)
  | enqueue (entry : DeadLetterEntry)
deriving DecidableEq

/-- The answers to a call. Appending to the dead-letter queue fails when its Redis
does. -/
@[reducible] def Answer : Call → Type
  | .timeMs => ℤ
  | .newAuditId => String
  | .redisGet _ => GetOutcome
  | .placeOrder _ => Except BrokerError FillReport
  | .queryOrder _ => Except BrokerError (Option FillReport)
  | .uniform low high => { x : ℚ≥0 // low ≤ x ∧ x ≤ max low high }
  | .sleep _ => Unit
  | .enqueue _ => Except String Unit

/-- A call with its answer. -/
abbrev Event := Lib.Proc.Event Call Answer

/-- A program of the engine: it returns a report, or raises. -/
abbrev Program := Lib.Proc Call Answer (Except String FillReport)

end Intraday.Execution
