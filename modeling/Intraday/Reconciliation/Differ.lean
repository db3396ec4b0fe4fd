import Intraday.Lib.Decimal
import Intraday.Lib.Dict
import Intraday.Lib.Key
import Intraday.Reconciliation.Models

/-!
# Intraday.Reconciliation.Differ — `shared/reconciliation/differ.py`

Both sides are turned into dictionaries first, positions by exchange and symbol and orders by
client order id, and only the dictionaries are compared: of several entries under one key the
last one is held, and the others are not seen.

`str.upper` is a parameter; nothing depends on what it does.
-/

namespace Intraday.Reconciliation

open Intraday.Core Intraday.Lib Intraday.Lib.Decimal

/-! ## Positions -/

/-- `_position_key`. -/
def positionKey (symbol exchange : String) : String := joinKey exchange symbol

/-- The key of a broker position. -/
def BrokerPosition.key (p : BrokerPosition) : String := positionKey p.symbol p.exchange

/-- The key of an internal position. -/
def InternalPosition.key (p : InternalPosition) : String := positionKey p.symbol p.exchange

/-- A mismatch of an internal position. -/
def InternalPosition.mismatch (p : InternalPosition) (field : MismatchField)
    (internalValue brokerValue : String) (ts : ℤ) : ReconciliationMismatch :=
  { symbol := p.symbol
    exchange := p.exchange
    field := field
    internalValue := internalValue
    brokerValue := brokerValue
    detectedAtMs := ts }

/-- `internal.avg_price > 0` and the broker's price is off by more than the tolerance. -/
def priceDiffers (broker : BrokerPosition) (internal : InternalPosition) : Prop :=
  0 < internal.avgPrice ∧
    reconciliationTolerancePricePct <
      |broker.avgPrice - internal.avgPrice| / internal.avgPrice

instance (broker : BrokerPosition) (internal : InternalPosition) :
    Decidable (priceDiffers broker internal) :=
  inferInstanceAs (Decidable (_ ∧ _))

/-- The first loop of `diff_positions`, on one internal position. -/
def comparePosition (ts : ℤ) (broker : Option BrokerPosition) (internal : InternalPosition) :
    List ReconciliationMismatch :=
  match broker with
  | none =>
      if internal.quantity ≠ 0 then
        [internal.mismatch .positionMissing (toString internal.quantity) "0" ts]
      else []
  | some broker =>
      (if broker.quantity ≠ internal.quantity then
        [internal.mismatch .quantity (toString internal.quantity) (toString broker.quantity) ts]
      else []) ++
      (if priceDiffers broker internal then
        [internal.mismatch .avgPrice (fmtFixed 4 internal.avgPrice) (fmtFixed 4 broker.avgPrice) ts]
      else [])

/-- The second loop of `diff_positions`, on one broker position. -/
def unexpectedPosition (ts : ℤ) (internal : Option InternalPosition) (broker : BrokerPosition) :
    List ReconciliationMismatch :=
  if internal.isNone ∧ broker.quantity ≠ 0 then
    [{ symbol := broker.symbol
       exchange := broker.exchange
       field := .unexpectedPosition
       internalValue := "0"
       brokerValue := toString broker.quantity
       detectedAtMs := ts }]
  else []

/-- `diff_positions`. -/
def diffPositions (brokerPositions : List BrokerPosition)
    (internalPositions : List InternalPosition) (ts : ℤ) : List ReconciliationMismatch :=
  let brokerMap := Dict.ofList BrokerPosition.key brokerPositions
  let internalMap := Dict.ofList InternalPosition.key internalPositions
  internalMap.entries.flatMap (fun e => comparePosition ts (brokerMap.get? e.1) e.2) ++
    brokerMap.entries.flatMap (fun e => unexpectedPosition ts (internalMap.get? e.1) e.2)

/-! ## Orders -/

/-- The first loop of `diff_orders`, on one internal order. -/
def compareOrder (upper : String → String) (ts : ℤ) (broker : Option BrokerOrder)
    (internal : InternalOrder) : List ReconciliationMismatch :=
  match broker with
  | none =>
      [{ symbol := internal.symbol
         exchange := internal.exchange
         field := .orderMissing
         internalValue := internal.status
         brokerValue := "NOT_FOUND"
         detectedAtMs := ts }]
  | some broker =>
      if upper broker.status ≠ upper internal.status then
        [{ symbol := internal.symbol
           exchange := internal.exchange
           field := .orderStatus
           internalValue := internal.status
           brokerValue := broker.status
           detectedAtMs := ts }]
      else []

/-- The second loop of `diff_orders`, on one broker order. -/
def unexpectedOrder (ts : ℤ) (internal : Option InternalOrder) (broker : BrokerOrder) :
    List ReconciliationMismatch :=
  if internal.isNone then
    [{ symbol := broker.symbol
       exchange := broker.exchange
       field := .unexpectedOrder
       internalValue := "NOT_FOUND"
       brokerValue := broker.status
       detectedAtMs := ts }]
  else []

/-- `diff_orders`. -/
def diffOrders (upper : String → String) (brokerOrders : List BrokerOrder)
    (internalOrders : List InternalOrder) (ts : ℤ) : List ReconciliationMismatch :=
  let brokerMap := Dict.ofList BrokerOrder.clientOrderId brokerOrders
  let internalMap := Dict.ofList InternalOrder.clientOrderId internalOrders
  internalMap.entries.flatMap (fun e => compareOrder upper ts (brokerMap.get? e.1) e.2) ++
    brokerMap.entries.flatMap (fun e => unexpectedOrder ts (internalMap.get? e.1) e.2)

end Intraday.Reconciliation
