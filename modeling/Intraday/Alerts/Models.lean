import Intraday.Lib.Decimal
import Intraday.Lib.Dict

/-!
# Intraday.Alerts.Models — `shared/alerts/models.py`

What is alerted, and how urgent it is.
-/

namespace Intraday.Alerts

open Intraday.Lib

/-- `AlertLevel`. -/
inductive AlertLevel where
  | info
  | warning
  | critical
deriving DecidableEq, Repr

/-- `AlertLevel.value`. -/
def AlertLevel.value : AlertLevel → String
  | .info => "INFO"
  | .warning => "WARNING"
  | .critical => "CRITICAL"

/-- `AlertType`. -/
inductive AlertType where
  | signal
  | fill
  | error
  | pnl
  | circuitBreaker
  | killSwitch
  | reconciliationMismatch
  | llmCost
  | deadLetter
  | heartbeat
deriving DecidableEq, Repr

/-- `AlertType.value`. -/
def AlertType.value : AlertType → String
  | .signal => "SIGNAL"
  | .fill => "FILL"
  | .error => "ERROR"
  | .pnl => "PNL"
  | .circuitBreaker => "CIRCUIT_BREAKER"
  | .killSwitch => "KILL_SWITCH"
  | .reconciliationMismatch => "RECONCILIATION_MISMATCH"
  | .llmCost => "LLM_COST"
  | .deadLetter => "DEAD_LETTER"
  | .heartbeat => "HEARTBEAT"

/-- `Alert`. -/
structure Alert where
  alertType : AlertType
  level : AlertLevel
  message : String
  timestampMs : ℚ
  metadata : Dict String String := Dict.empty

/-- What a channel or a dispatcher does with an alert: it returns `True` or `False`, or raises. -/
inductive Delivery where
  | accepted
  | refused
  | raised
deriving DecidableEq, Repr

/-- What comes back; `none` if it raises. -/
def Delivery.returned : Delivery → Option Bool
  | .accepted => some true
  | .refused => some false
  | .raised => none

@[simp] theorem Delivery.returned_eq_true_iff (o : Delivery) :
    o.returned = some true ↔ o = .accepted := by
  cases o with
  | accepted => simp [Delivery.returned]
  | refused => simp [Delivery.returned]
  | raised => simp [Delivery.returned]

end Intraday.Alerts
