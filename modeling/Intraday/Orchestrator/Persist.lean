import Intraday.Core.Constants
import Intraday.Lib.PyValue

/-!
# Intraday.Orchestrator.Persist — what `shutdown` writes

`OrchestratorGraph.shutdown` writes the state as one JSON object under `orchestrator:state`.
Here the state has every key of `TradingSystemState` with the type that it is declared with;
the objects in it, such as a position, are dictionaries of any JSON values.
-/

namespace Intraday.Orchestrator.Persist

open Intraday.Core Intraday.Lib Intraday.Lib.Python

/-- A `dict[str, object]`. -/
abbrev Record := Dict String Json

/-- `TradingSystemState`. -/
structure TradingSystemState where
  sessionState : String
  marketDate : String
  marketRegime : String
  regimeConfidence : PyFloat
  watchlist : List Record
  openPositions : Dict String Record
  openOrders : Dict String Record
  signalsToday : ℤ
  tradesToday : ℤ
  pnlToday : PyFloat
  pnlTodayPct : PyFloat
  circuitBreakerActive : Bool
  killSwitchActive : Bool
  snapshotWindowActive : Bool
  pendingHitlApproval : Option Record
  strategyIds : Dict String String
  opsLastSecond : ℤ
  agentHeartbeats : Dict String String
  lastReconciliationAt : Option String
  reconciliationMismatchesToday : ℤ
  lastError : Option String
  lastErrorAgent : Option String
  lastErrorAt : Option String

/-! ## As JSON -/

def ofRecord (r : Record) : Json := .obj r.entries

/-- A dictionary of records. -/
def ofRecords (d : Dict String Record) : Json := .obj (d.mapEntries fun _ r => ofRecord r).entries

/-- A dictionary of texts. -/
def ofTexts (d : Dict String String) : Json := .obj (d.mapEntries fun _ s => .str s).entries

/-- An optional value; `None` is `null`. -/
def ofOption {α : Type} (f : α → Json) : Option α → Json
  | none => .null
  | some a => f a

namespace TradingSystemState

/-- `dict(state)`. -/
def members (s : TradingSystemState) : List (String × Json) :=
  [("session_state", .str s.sessionState),
   ("market_date", .str s.marketDate),
   ("market_regime", .str s.marketRegime),
   ("regime_confidence", .float s.regimeConfidence),
   ("watchlist", .arr (s.watchlist.map ofRecord)),
   ("open_positions", ofRecords s.openPositions),
   ("open_orders", ofRecords s.openOrders),
   ("signals_today", .int s.signalsToday),
   ("trades_today", .int s.tradesToday),
   ("pnl_today", .float s.pnlToday),
   ("pnl_today_pct", .float s.pnlTodayPct),
   ("circuit_breaker_active", .bool s.circuitBreakerActive),
   ("kill_switch_active", .bool s.killSwitchActive),
   ("snapshot_window_active", .bool s.snapshotWindowActive),
   ("pending_hitl_approval", ofOption ofRecord s.pendingHitlApproval),
   ("strategy_ids", ofTexts s.strategyIds),
   ("ops_last_second", .int s.opsLastSecond),
   ("agent_heartbeats", ofTexts s.agentHeartbeats),
   ("last_reconciliation_at", ofOption .str s.lastReconciliationAt),
   ("reconciliation_mismatches_today", .int s.reconciliationMismatchesToday),
   ("last_error", ofOption .str s.lastError),
   ("last_error_agent", ofOption .str s.lastErrorAgent),
   ("last_error_at", ofOption .str s.lastErrorAt)]

/-- `state_to_json`. -/
def toJson (s : TradingSystemState) : String := (Json.obj s.members).dumps

/-- The keys are all different. -/
theorem nodup_members (s : TradingSystemState) : (s.members.map Prod.fst).Nodup := by
  simp [members]

/-- The state as the dictionary that a reader gets. -/
def dict (s : TradingSystemState) : Dict String Json :=
  { entries := s.members, nodup := s.nodup_members }

/-- A reader gets every key back. -/
theorem loads_toJson (s : TradingSystemState) : Json.loads s.toJson = some (.obj s.members) :=
  Json.loads_dumps _

theorem dictOf_members (s : TradingSystemState) : Json.dictOf s.members = s.dict :=
  Json.dictOf_entries s.dict

end TradingSystemState

end Intraday.Orchestrator.Persist
