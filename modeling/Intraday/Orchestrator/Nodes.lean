import Intraday.Core.Constants
import Intraday.Lib.Decimal
import Intraday.Lib.Proc
import Intraday.Lib.Python
import Intraday.Lib.RedisStore
import Intraday.Orchestrator.State

/-!
# Intraday.Orchestrator.Nodes — `shared/orchestrator/nodes.py`

The six nodes as programs that call Redis, the reconciliation block and the clock. A node
returns the keys it updates, or raises. Only two Redis calls stand outside a `try`: the
reads of the halted and the degraded key in `signal_node`.

A key that the state lacks is either missing from the dictionary a node gets, or present
with the value `None`, depending on the release of the graph library (`missingIsNone`). In
the second case `risk_node` raises on a state without P&L or positions.
-/

namespace Intraday.Orchestrator

open Intraday.Core Intraday.Lib Intraday.Lib.Decimal Intraday.Lib.Python Intraday.Lib.RedisStore

/-! ## Calls -/

/-- The nodes of the graph. -/
inductive NodeName where
  | regimeNode
  | signalNode
  | reconciliationNode
  | riskNode
  | hitlNode
  | killSwitchNode
deriving DecidableEq, Repr

/-- A call of a node to the outside. The clock is read at most once in a node. -/
inductive Call where
  | xrevrange (stream : String) (count : ℕ)
  | get (key : String)
  | blocked (symbol exchange : String)
  | utcnow (node : NodeName)
deriving DecidableEq, Repr

/-- What a call answers or raises. -/
abbrev Answer : Call → Type
  | .xrevrange _ _ => Except Exc (List Entry)
  | .get _ => Except Exc (Option ByteArray)
  | .blocked _ _ => Except Exc Bool
  | .utcnow _ => String

/-- An environment that answers the calls of one operation. -/
abbrev Env := (c : Call) → Answer c

/-- A node on a state: the update it returns, or what it raises. -/
abbrev NodeProc := Proc Call Answer (Except Exc StateDict)

/-- The node returns an update. -/
def update (u : StateDict) : NodeProc := .ret (.ok u)

/-- The node raises. -/
def raise (exc : Exc) : NodeProc := .ret (.error exc)

/-- `fields.get(name, default)`, decoded; `none` is a `UnicodeDecodeError`. -/
def fieldText (fields : Fields) (name default : String) : Option String :=
  match fields.get? name with
  | some raw => String.fromUTF8? raw
  | none => some default

/-! ## The nodes -/

/-- The update `regime_node` makes of a stream entry. -/
def regimeUpdate (fields : Fields) : StateDict :=
  match fieldText fields "regime" "" with
  | none => {}
  | some regime =>
      let confidence := ((fieldText fields "confidence" "0.0").bind parseFloat).getD 0
      if regime ≠ "" then
        { marketRegime := some regime, regimeConfidence := some confidence }
      else {}

/-- `regime_node`. -/
def regimeNode (redis : Bool) (_state : StateDict) : NodeProc :=
  if !redis then update {}
  else
    .call (.xrevrange regimeRedisStream 1) fun
      | .error _ => update {}
      | .ok [] => update {}
      | .ok (entry :: _) => update (regimeUpdate entry.fields)

/-- `state["signals_today"] + 1`; without the key the exception is caught. -/
def countSignal (state : StateDict) : NodeProc :=
  match state.signalsToday with
  | some n => update { signalsToday := some (n + 1) }
  | none => update {}

/-- `signal_node` from the read of the stream on, all inside a `try`. -/
def consumeSignal (blockedFn : Bool) (state : StateDict) : NodeProc :=
  .call (.xrevrange signalRedisStream 1) fun
    | .error _ => update {}
    | .ok [] => update {}
    | .ok (entry :: _) =>
        match fieldText entry.fields "symbol" "", fieldText entry.fields "exchange" "" with
        | some symbol, some exchange =>
            if blockedFn then
              .call (.blocked symbol exchange) fun
                | .error _ => update {}
                | .ok true => update {}
                | .ok false => countSignal state
            else countSignal state
        | _, _ => update {}

/-- `signal_node`. -/
def signalNode (redis blockedFn : Bool) (state : StateDict) : NodeProc :=
  if state.halted then update {}
  else if redis then
    .call (.get killSwitchHaltedKey) fun
      | .error exc => raise exc
      | .ok (some _) => update { killSwitchActive := some true }
      | .ok none =>
          .call (.get ingestionDegradedRedisKey) fun
            | .error exc => raise exc
            | .ok (some _) => update {}
            | .ok none =>
                if state.marketRegime = some "HIGH_VOL_CHAOS" then update {}
                else consumeSignal blockedFn state
  else update {}

/-- `reconciliation_node`. -/
def reconciliationNode (redis missingIsNone : Bool) (state : StateDict) : NodeProc :=
  .call (.utcnow .reconciliationNode) fun nowIso =>
    if !redis then update { lastReconciliationAt := some (some nowIso) }
    else
      .call (.xrevrange reconciliationMismatchRedisStream 100) fun
        | .error _ => update { lastReconciliationAt := some (some nowIso) }
        | .ok entries =>
            match state.reconciliationMismatchesToday with
            | none =>
                if missingIsNone then
                  -- `max(None, …)` raises inside the `try`
                  update { lastReconciliationAt := some (some nowIso) }
                else
                  update
                    { lastReconciliationAt := some (some nowIso)
                      reconciliationMismatchesToday := some (max 0 entries.length) }
            | some prior =>
                update
                  { lastReconciliationAt := some (some nowIso)
                    reconciliationMismatchesToday := some (max prior entries.length) }

/-- `float(x) if isinstance(x, (int, float)) else 0.0`, where a missing key counts as 0. -/
def asNumber : Option PositionField → ℚ
  | some (.number q) => q
  | some .other => 0
  | none => 0

/-- `abs(qty * avg_price)`. -/
def positionValue (pos : Position) : ℚ := |asNumber pos.quantity * asNumber pos.avgPrice|

/-- The loop of `risk_node`: the first position above the threshold. -/
def firstLarge (startingCapital : ℚ) : List (String × Position) → Option (String × ℚ)
  | [] => none
  | (symbol, pos) :: rest =>
      if 0 < startingCapital ∧ hitlCapitalThresholdPct < positionValue pos / startingCapital then
        some (symbol, positionValue pos)
      else firstLarge startingCapital rest

/-- The threshold of the circuit breaker, as a fraction of capital. -/
def circuitBreakerPct : ℚ := -1 / 50

/-- The part of `risk_node` that asks for approval of a large position. -/
def requestHitl (startingCapital : ℚ) (positions : Dict String Position) : NodeProc :=
  match firstLarge startingCapital positions.entries with
  | some (symbol, value) =>
      .call (.utcnow .riskNode) fun nowIso =>
        update
          { pendingHitlApproval := some (some
              { symbol := symbol
                positionValue := value
                capitalPct := value / startingCapital
                requestedAt := nowIso }) }
  | none => update {}

/-- The update of a broken circuit. -/
def breakCircuit (pnlPct : ℚ) (nowIso : String) : StateDict :=
  { circuitBreakerActive := some true
    lastError := some (some ("Circuit breaker: daily P&L " ++ fmtPercent 2 pnlPct))
    lastErrorAgent := some (some "risk_node")
    lastErrorAt := some (some nowIso) }

/-- `risk_node`, given its P&L. -/
def riskOn (startingCapital : ℚ) (missingIsNone : Bool) (state : StateDict) (pnlPct : ℚ) :
    NodeProc :=
  if pnlPct ≤ circuitBreakerPct ∧ ¬ state.circuitBreakerActive.getD false then
    .call (.utcnow .riskNode) fun nowIso => update (breakCircuit pnlPct nowIso)
  else if state.halted then update {}
  else
    match state.openPositions with
    | some positions => requestHitl startingCapital positions
    | none =>
        if missingIsNone then raise (.typeError "open_positions is None")
        else requestHitl startingCapital Dict.empty

/-- `risk_node`. -/
def riskNode (startingCapital : ℚ) (missingIsNone : Bool) (state : StateDict) : NodeProc :=
  match state.pnlTodayPct with
  | some pnlPct => riskOn startingCapital missingIsNone state pnlPct
  | none =>
      if missingIsNone then raise (.typeError "pnl_today_pct is None")
      else riskOn startingCapital missingIsNone state 0

/-- `hitl_node`. -/
def hitlNode (_state : StateDict) : NodeProc := update { pendingHitlApproval := some none }

/-- The update of an executed kill switch. -/
def executeKill (nowIso : String) : StateDict :=
  { killSwitchActive := some true
    pendingHitlApproval := some none
    lastError := some (some "Kill switch activated")
    lastErrorAgent := some (some "kill_switch_node")
    lastErrorAt := some (some nowIso) }

/-- `kill_switch_node`. -/
def killSwitchNode (_state : StateDict) : NodeProc :=
  .call (.utcnow .killSwitchNode) fun nowIso => update (executeKill nowIso)

end Intraday.Orchestrator
