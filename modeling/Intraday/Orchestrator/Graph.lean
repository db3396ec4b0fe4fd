import Intraday.Lib.StateGraph
import Intraday.Orchestrator.Nodes

/-!
# Intraday.Orchestrator.Graph — `shared/orchestrator/graph.py`

The wiring of the nodes, and `OrchestratorGraph`: the state it last got back from the graph
and the checkpointed thread behind it. The two are updated together only when an `invoke`
returns a state; a cycle that is interrupted for approval, or raises, moves the thread and
leaves the state.
-/

namespace Intraday.Orchestrator

open Intraday.Core Intraday.Lib Intraday.Lib.Python

/-- The arguments of `OrchestratorGraph`, and the release of the graph library it runs on:
`redis` and `blockedFn` say whether the client and the callback are given. -/
structure Config where
  redis : Bool
  startingCapital : ℚ := 1000000
  blockedFn : Bool
  enableHitl : Bool := true
  missingIsNone : Bool
  runtime : Runtime

/-! ## The graph -/

/-- `_route_after_risk`. -/
def routeAfterRisk (s : StateDict) : Option NodeName :=
  if s.halted then some .killSwitchNode
  else if s.pending.isSome then some .hitlNode
  else none

/-- The edges. -/
def edge : NodeName → StateDict → Option NodeName
  | .regimeNode, _ => some .signalNode
  | .signalNode, _ => some .reconciliationNode
  | .reconciliationNode, _ => some .riskNode
  | .riskNode, s => routeAfterRisk s
  | .hitlNode, _ => none
  | .killSwitchNode, _ => none

/-- The nodes, with the arguments they were made with. -/
def Config.nodeProc (cfg : Config) : NodeName → StateDict → NodeProc
  | .regimeNode, s => regimeNode cfg.redis s
  | .signalNode, s => signalNode cfg.redis cfg.blockedFn s
  | .reconciliationNode, s => reconciliationNode cfg.redis cfg.missingIsNone s
  | .riskNode, s => riskNode cfg.startingCapital cfg.missingIsNone s
  | .hitlNode, s => hitlNode s
  | .killSwitchNode, s => killSwitchNode s

/-- The compiled graph, its calls answered by `env`. -/
def Config.graph (cfg : Config) (env : Env) : StateGraph NodeName StateDict where
  entry := .regimeNode
  node n s := (cfg.nodeProc n s).eval env
  merge := StateDict.merge
  empty := {}
  next := edge
  interruptBefore n := cfg.enableHitl && n == .hitlNode

/-! ## The operations -/

/-- `OrchestratorGraph`: `_state`, and the thread of its checkpointer. -/
structure OrchestratorGraph where
  state : StateDict
  thread : Option (Checkpoint NodeName StateDict)

/-- The nodes an operation ran, and how it ended. -/
structure Report where
  visited : List NodeName
  outcome : Outcome StateDict

namespace OrchestratorGraph

variable (cfg : Config) (env : Env)

/-- `__init__`, on the day `today`. -/
def init (today : String) : OrchestratorGraph :=
  { state := (makeInitialState today).toDict, thread := none }

/-- `if result is not None: self._state = result`. -/
def adopt (o : OrchestratorGraph) (inv : Invocation NodeName StateDict) :
    OrchestratorGraph × Report :=
  ({ state :=
      match inv.outcome with
      | .returned values => values
      | .nothing => o.state
      | .raised _ => o.state
     thread := inv.thread },
   { visited := inv.visited, outcome := inv.outcome })

/-- `run_cycle`. -/
def runCycle (o : OrchestratorGraph) (inputState : Option TradingSystemState) :
    OrchestratorGraph × Report :=
  let invokeInput := (inputState.map TradingSystemState.toDict).getD o.state
  o.adopt ((cfg.graph env).invoke cfg.runtime o.thread (some invokeInput))

/-- `approve_hitl`. -/
def approveHitl (o : OrchestratorGraph) : OrchestratorGraph × Report :=
  o.adopt ((cfg.graph env).invoke cfg.runtime o.thread none)

/-- `update_state` followed by `invoke(None)`. -/
def updateAndInvoke (o : OrchestratorGraph) (u : StateDict) : OrchestratorGraph × Report :=
  match (cfg.graph env).updateState cfg.runtime o.thread u with
  | .error exc => (o, { visited := [], outcome := .raised exc })
  | .ok c => o.adopt ((cfg.graph env).invoke cfg.runtime (some c) none)

/-- `reject_hitl`. -/
def rejectHitl (o : OrchestratorGraph) : OrchestratorGraph × Report :=
  o.updateAndInvoke cfg env { pendingHitlApproval := some none }

/-- The update of `trigger_kill_switch`. -/
def killUpdate : StateDict := { killSwitchActive := some true, pendingHitlApproval := some none }

/-- `trigger_kill_switch`. The reason is logged only. -/
def triggerKillSwitch (o : OrchestratorGraph) : OrchestratorGraph × Report :=
  { o with state := o.state.merge killUpdate }.updateAndInvoke cfg env killUpdate

/-- `is_halted`. -/
def isHalted (o : OrchestratorGraph) : Bool := o.state.halted

end OrchestratorGraph

theorem adopt_returned {o : OrchestratorGraph} {inv : Invocation NodeName StateDict}
    {values : StateDict} (h : inv.outcome = .returned values) : (o.adopt inv).1.state = values := by
  simp only [OrchestratorGraph.adopt, h]

/-- `_state` after an `invoke`: what it returned, or what it was. -/
theorem adopt_state (o : OrchestratorGraph) (inv : Invocation NodeName StateDict) :
    inv.outcome = .returned (o.adopt inv).1.state ∨
      (∀ values, inv.outcome ≠ .returned values) ∧ (o.adopt inv).1.state = o.state := by
  rcases inv with ⟨visited, thread, outcome⟩
  cases outcome with
  | returned values => exact .inl rfl
  | nothing =>
      right
      constructor
      · intro values h
        exact nomatch h
      · rfl
  | raised exc =>
      right
      constructor
      · intro values h
        exact nomatch h
      · rfl

end Intraday.Orchestrator
