import Intraday.Core.Constants

/-!
# Intraday.Compliance.Models — `shared/compliance/models.py`

The order descriptors that pass from the signal side through compliance to the
broker. Exchange, direction and order type are strings in the source and stay
strings: any text can reach the checks.
-/

namespace Intraday.Compliance

/-- A `datetime`, as far as the checks read it. -/
structure ClockTime where
  hour : Fin 24
  minute : Fin 60
  second : Fin 60
deriving DecidableEq, Repr

/-- `OrderIntent`: a proposed trade before compliance. -/
structure OrderIntent where
  symbol : String
  exchange : String
  direction : String
  orderType : String
  quantity : ℤ
  price : Option ℚ
  stopLoss : ℚ
  strategyName : String
  clientOrderId : String
  ltp : Option ℚ := none
  notionalValue : ℚ := 0
  capital : ℚ := 0
  isExit : Bool := false
  mwplPct : Option ℚ := none
  isPriority : Bool := false
deriving DecidableEq, Repr

/-- `TaggedOrder`: the order as compliance hands it to execution. -/
structure TaggedOrder where
  original : OrderIntent
  strategyTag : String
  effectiveOrderType : String
  mppPrice : Option ℚ := none
deriving DecidableEq, Repr

/-- `ComplianceViolation`. -/
structure ComplianceViolation where
  code : String
  detail : String
deriving DecidableEq, Repr

/-- `ComplianceDecision`. -/
structure ComplianceDecision where
  approved : Bool
  violations : List ComplianceViolation
  taggedOrder : Option TaggedOrder
  auditId : String
deriving DecidableEq, Repr

/-- `RecentOrder`: an own order, for the wash-trade and layering checks. -/
structure RecentOrder where
  symbol : String
  direction : String
  placedAtMs : ℤ
deriving DecidableEq, Repr

/-- The per-call context of a check: the clock, and what the caller fetched. -/
structure Context where
  nowIst : Option ClockTime := none
  nowAest : Option ClockTime := none
  recentOrders : List RecentOrder := []
  pendingOrders : List RecentOrder := []
  approvedShortList : List String := []
  nowMs : Option ℤ := none
  groupOpenMs : Option ℤ := none
deriving DecidableEq, Repr

end Intraday.Compliance
