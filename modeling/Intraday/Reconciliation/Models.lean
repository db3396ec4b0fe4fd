import Intraday.Core.Constants

/-!
# Intraday.Reconciliation.Models — `shared/reconciliation/models.py`

Positions and orders as the broker and as the system see them, and the mismatches between
the two.
-/

namespace Intraday.Reconciliation

/-- `MismatchField`. -/
inductive MismatchField where
  | quantity
  | avgPrice
  | orderStatus
  | positionMissing
  | orderMissing
  | unexpectedPosition
  | unexpectedOrder
deriving DecidableEq, Repr

/-- `BrokerPosition`. -/
structure BrokerPosition where
  symbol : String
  exchange : String
  quantity : ℤ
  avgPrice : ℚ
  product : String := "MIS"
deriving DecidableEq, Repr

/-- `BrokerOrder`. -/
structure BrokerOrder where
  orderId : String
  clientOrderId : String
  symbol : String
  exchange : String
  status : String
  quantity : ℤ
  filledQuantity : ℤ
  avgPrice : ℚ
deriving DecidableEq, Repr

/-- `InternalPosition`. -/
structure InternalPosition where
  symbol : String
  exchange : String
  quantity : ℤ
  avgPrice : ℚ
deriving DecidableEq, Repr

/-- `InternalOrder`. -/
structure InternalOrder where
  clientOrderId : String
  symbol : String
  exchange : String
  status : String
  filledQuantity : ℤ
deriving DecidableEq, Repr

/-- `ReconciliationMismatch`. -/
structure ReconciliationMismatch where
  symbol : String
  exchange : String
  field : MismatchField
  internalValue : String
  brokerValue : String
  detectedAtMs : ℤ
deriving DecidableEq, Repr

/-- `ReconciliationResult`. -/
structure ReconciliationResult where
  cycleStartedAtMs : ℤ
  cycleCompletedAtMs : ℤ
  mismatches : List ReconciliationMismatch
  symbolsBlocked : List String
  symbolsCleared : List String
deriving DecidableEq, Repr

end Intraday.Reconciliation
