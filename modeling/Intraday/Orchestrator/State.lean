import Mathlib.Algebra.Field.Rat
import Mathlib.Data.Option.Basic
import Intraday.Lib.Dict

/-!
# Intraday.Orchestrator.State — `shared/orchestrator/state.py`

`TradingSystemState` is the whole state of the orchestrator. Nodes and threads work on
dictionaries that may lack some of its keys: a `StateDict` has `none` for a missing key,
and serves as state, as update and as input alike.

The keys `watchlist`, `open_orders`, `strategy_ids`, `ops_last_second` and
`agent_heartbeats`, which nothing here reads or writes, are left out.
-/

namespace Intraday.Orchestrator

open Intraday.Lib

/-! ## Values -/

/-- A field of a position: an `int` or `float`, or something else. -/
inductive PositionField where
  | number (q : ℚ)
  | other
deriving DecidableEq, Repr

/-- A position, as `risk_node` reads it; `none` for a missing key. -/
structure Position where
  quantity : Option PositionField
  avgPrice : Option PositionField
deriving DecidableEq, Repr

/-- A request for human approval. -/
structure HitlRequest where
  symbol : String
  positionValue : ℚ
  capitalPct : ℚ
  requestedAt : String
deriving DecidableEq, Repr

/-- `TradingSystemState`. -/
structure TradingSystemState where
  sessionState : String
  marketDate : String
  marketRegime : String
  regimeConfidence : ℚ
  openPositions : Dict String Position
  signalsToday : ℤ
  tradesToday : ℤ
  pnlToday : ℚ
  pnlTodayPct : ℚ
  circuitBreakerActive : Bool
  killSwitchActive : Bool
  snapshotWindowActive : Bool
  pendingHitlApproval : Option HitlRequest
  lastReconciliationAt : Option String
  reconciliationMismatchesToday : ℤ
  lastError : Option String
  lastErrorAgent : Option String
  lastErrorAt : Option String

/-- `make_initial_state`, on the day `today` when no date is given. -/
def makeInitialState (today : String) (marketDate : String := "") : TradingSystemState :=
  { sessionState := "CLOSED"
    marketDate := if marketDate = "" then today else marketDate
    marketRegime := "MEAN_REVERTING"
    regimeConfidence := 0
    openPositions := Dict.empty
    signalsToday := 0
    tradesToday := 0
    pnlToday := 0
    pnlTodayPct := 0
    circuitBreakerActive := false
    killSwitchActive := false
    snapshotWindowActive := false
    pendingHitlApproval := none
    lastReconciliationAt := none
    reconciliationMismatchesToday := 0
    lastError := none
    lastErrorAgent := none
    lastErrorAt := none }

/-! ## Dictionaries -/

/-- A dictionary over the keys of `TradingSystemState`. -/
structure StateDict where
  sessionState : Option String := none
  marketDate : Option String := none
  marketRegime : Option String := none
  regimeConfidence : Option ℚ := none
  openPositions : Option (Dict String Position) := none
  signalsToday : Option ℤ := none
  tradesToday : Option ℤ := none
  pnlToday : Option ℚ := none
  pnlTodayPct : Option ℚ := none
  circuitBreakerActive : Option Bool := none
  killSwitchActive : Option Bool := none
  snapshotWindowActive : Option Bool := none
  pendingHitlApproval : Option (Option HitlRequest) := none
  lastReconciliationAt : Option (Option String) := none
  reconciliationMismatchesToday : Option ℤ := none
  lastError : Option (Option String) := none
  lastErrorAgent : Option (Option String) := none
  lastErrorAt : Option (Option String) := none

/-- The state as a dictionary with every key. -/
def TradingSystemState.toDict (s : TradingSystemState) : StateDict :=
  { sessionState := some s.sessionState
    marketDate := some s.marketDate
    marketRegime := some s.marketRegime
    regimeConfidence := some s.regimeConfidence
    openPositions := some s.openPositions
    signalsToday := some s.signalsToday
    tradesToday := some s.tradesToday
    pnlToday := some s.pnlToday
    pnlTodayPct := some s.pnlTodayPct
    circuitBreakerActive := some s.circuitBreakerActive
    killSwitchActive := some s.killSwitchActive
    snapshotWindowActive := some s.snapshotWindowActive
    pendingHitlApproval := some s.pendingHitlApproval
    lastReconciliationAt := some s.lastReconciliationAt
    reconciliationMismatchesToday := some s.reconciliationMismatchesToday
    lastError := some s.lastError
    lastErrorAgent := some s.lastErrorAgent
    lastErrorAt := some s.lastErrorAt }

namespace StateDict

variable (s u : StateDict)

/-- `s.update(u)`, and the merge of an update into a state. -/
def merge : StateDict :=
  { sessionState := u.sessionState.or s.sessionState
    marketDate := u.marketDate.or s.marketDate
    marketRegime := u.marketRegime.or s.marketRegime
    regimeConfidence := u.regimeConfidence.or s.regimeConfidence
    openPositions := u.openPositions.or s.openPositions
    signalsToday := u.signalsToday.or s.signalsToday
    tradesToday := u.tradesToday.or s.tradesToday
    pnlToday := u.pnlToday.or s.pnlToday
    pnlTodayPct := u.pnlTodayPct.or s.pnlTodayPct
    circuitBreakerActive := u.circuitBreakerActive.or s.circuitBreakerActive
    killSwitchActive := u.killSwitchActive.or s.killSwitchActive
    snapshotWindowActive := u.snapshotWindowActive.or s.snapshotWindowActive
    pendingHitlApproval := u.pendingHitlApproval.or s.pendingHitlApproval
    lastReconciliationAt := u.lastReconciliationAt.or s.lastReconciliationAt
    reconciliationMismatchesToday :=
      u.reconciliationMismatchesToday.or s.reconciliationMismatchesToday
    lastError := u.lastError.or s.lastError
    lastErrorAgent := u.lastErrorAgent.or s.lastErrorAgent
    lastErrorAt := u.lastErrorAt.or s.lastErrorAt }

/-- `state.get("kill_switch_active") or state.get("circuit_breaker_active")`. -/
def halted : Bool := s.killSwitchActive.getD false || s.circuitBreakerActive.getD false

/-- `state.get("pending_hitl_approval")`. -/
def pending : Option HitlRequest := s.pendingHitlApproval.join

/-! ## Reading a merge -/

@[simp] theorem merge_marketRegime :
    (s.merge u).marketRegime = u.marketRegime.or s.marketRegime := rfl

@[simp] theorem merge_regimeConfidence :
    (s.merge u).regimeConfidence = u.regimeConfidence.or s.regimeConfidence := rfl

@[simp] theorem merge_signalsToday :
    (s.merge u).signalsToday = u.signalsToday.or s.signalsToday := rfl

@[simp] theorem merge_pnlTodayPct :
    (s.merge u).pnlTodayPct = u.pnlTodayPct.or s.pnlTodayPct := rfl

@[simp] theorem merge_openPositions :
    (s.merge u).openPositions = u.openPositions.or s.openPositions := rfl

@[simp] theorem merge_killSwitchActive :
    (s.merge u).killSwitchActive = u.killSwitchActive.or s.killSwitchActive := rfl

@[simp] theorem merge_circuitBreakerActive :
    (s.merge u).circuitBreakerActive = u.circuitBreakerActive.or s.circuitBreakerActive := rfl

@[simp] theorem merge_pendingHitlApproval :
    (s.merge u).pendingHitlApproval = u.pendingHitlApproval.or s.pendingHitlApproval := rfl

/-- A whole state replaces whatever it is merged into. -/
@[simp] theorem merge_toDict (t : TradingSystemState) : s.merge t.toDict = t.toDict := rfl

/-- Nothing to merge. -/
@[simp] theorem merge_empty : s.merge {} = s := by
  simp [merge]

/-- The dictionary has every key. -/
def Whole : Prop := ∃ t : TradingSystemState, s = t.toDict

variable {s} in
/-- An update keeps every key. -/
theorem Whole.merge (h : s.Whole) : (s.merge u).Whole := by
  rcases h with ⟨t, rfl⟩
  refine ⟨{
    sessionState := u.sessionState.getD t.sessionState
    marketDate := u.marketDate.getD t.marketDate
    marketRegime := u.marketRegime.getD t.marketRegime
    regimeConfidence := u.regimeConfidence.getD t.regimeConfidence
    openPositions := u.openPositions.getD t.openPositions
    signalsToday := u.signalsToday.getD t.signalsToday
    tradesToday := u.tradesToday.getD t.tradesToday
    pnlToday := u.pnlToday.getD t.pnlToday
    pnlTodayPct := u.pnlTodayPct.getD t.pnlTodayPct
    circuitBreakerActive := u.circuitBreakerActive.getD t.circuitBreakerActive
    killSwitchActive := u.killSwitchActive.getD t.killSwitchActive
    snapshotWindowActive := u.snapshotWindowActive.getD t.snapshotWindowActive
    pendingHitlApproval := u.pendingHitlApproval.getD t.pendingHitlApproval
    lastReconciliationAt := u.lastReconciliationAt.getD t.lastReconciliationAt
    reconciliationMismatchesToday :=
      u.reconciliationMismatchesToday.getD t.reconciliationMismatchesToday
    lastError := u.lastError.getD t.lastError
    lastErrorAgent := u.lastErrorAgent.getD t.lastErrorAgent
    lastErrorAt := u.lastErrorAt.getD t.lastErrorAt }, ?_⟩
  simp only [StateDict.merge, TradingSystemState.toDict, Option.or_some]

end StateDict

end Intraday.Orchestrator
