import Intraday.Lib.Machine
import Intraday.Orchestrator.Cycle

/-!
# Intraday.Orchestrator.Session — sequences of operations

A session is any sequence of the operations of `OrchestratorGraph`, with a restart through
the state saved in Redis among them. In every session, whatever the callers pass in and
whatever Redis does, a halted state has no pending request
(`pending_eq_none_of_halted`): the routing step lets only states that are not halted wait
for approval or end without the kill switch, and every update between cycles clears the
request.
-/

namespace Intraday.Orchestrator

open Intraday.Core Intraday.Lib Intraday.Lib.Python

/-! ## Sessions -/

/-- The orchestrator, and the state saved under `orchestrator:state`. -/
structure Session where
  orch : OrchestratorGraph
  saved : Option StateDict

/-- An operation of the session. `restart` is `shutdown` and `restore`, on the day `today`;
it says which of its two Redis calls raise. -/
inductive Op where
  | runCycle (inputState : Option TradingSystemState)
  | approveHitl
  | rejectHitl
  | triggerKillSwitch
  | restart (today : String) (setRaises getRaises : Bool)

/-- `shutdown`: the state is saved, unless there is no client or the write raises. -/
def shutdown (cfg : Config) (setRaises : Bool) (x : Session) : Session :=
  if cfg.redis && !setRaises then { x with saved := some x.orch.state } else x

/-- `restore`: a new orchestrator with the saved state over the defaults, or what the read
raises. -/
def restore (cfg : Config) (today : String) (getRaises : Bool) (x : Session) :
    Session × Report :=
  if !cfg.redis then
    (x, { visited := [], outcome := .raised (.other "'NoneType' object has no attribute 'get'") })
  else if getRaises then (x, { visited := [], outcome := .raised .redisError })
  else
    let fresh := OrchestratorGraph.init today
    ({ x with
        orch :=
          match x.saved with
          | some data => { fresh with state := fresh.state.merge data }
          | none => fresh },
     { visited := [], outcome := .nothing })

/-- One operation, its calls answered by `env`. -/
def stepSession (cfg : Config) (x : Session) (op : Op) (env : Env) : Session × Report :=
  match op with
  | .runCycle inputState =>
      let (orch, report) := x.orch.runCycle cfg env inputState
      ({ x with orch := orch }, report)
  | .approveHitl =>
      let (orch, report) := x.orch.approveHitl cfg env
      ({ x with orch := orch }, report)
  | .rejectHitl =>
      let (orch, report) := x.orch.rejectHitl cfg env
      ({ x with orch := orch }, report)
  | .triggerKillSwitch =>
      let (orch, report) := x.orch.triggerKillSwitch cfg env
      ({ x with orch := orch }, report)
  | .restart today setRaises getRaises => restore cfg today getRaises (shutdown cfg setRaises x)

/-- The session as a machine. -/
def session (cfg : Config) : Machine Session (Op × Env) Report where
  step x i := stepSession cfg x i.1 i.2

/-- A session begins with a new orchestrator and nothing saved. -/
def opening (today : String) : Session := { orch := OrchestratorGraph.init today, saved := none }

variable {cfg : Config} {env : Env} {x : Session} {s u : StateDict}
  {c : Checkpoint NodeName StateDict} {n : NodeName}

/-- The node that a checkpoint schedules, whatever answers the calls. -/
def nextNode (c : Checkpoint NodeName StateDict) : Option NodeName :=
  match c.last with
  | none => some .regimeNode
  | some n => edge n c.values

theorem scheduled_eq : (cfg.graph env).scheduled c = nextNode c := by
  rcases c with ⟨values, last⟩
  cases last with
  | none => rfl
  | some n => rfl

/-! ## No request on a halted state -/

/-- A halted state has no pending request. -/
def PendingOk (s : StateDict) : Prop := s.halted = true → s.pending = none

/-- A thread that waits for approval is not halted, and one that has ended keeps no request
on a halted state. -/
def ThreadOk (c : Checkpoint NodeName StateDict) : Prop :=
  (nextNode c = some .hitlNode → c.values.halted = false) ∧
    (nextNode c = none → PendingOk c.values)

theorem threadOk_of_next {m : NodeName} (h : nextNode c = some m) (hne : m ≠ .hitlNode) :
    ThreadOk c := by
  constructor
  · intro hnext
    exact absurd (Option.some.inj (h.symm.trans hnext)) hne
  · intro hnext
    exact nomatch h.symm.trans hnext

/-- The routing step sends only states that are not halted to approval or to the end. -/
theorem threadOk_risk (s : StateDict) : ThreadOk { values := s, last := some .riskNode } := by
  cases hs : s.halted with
  | true =>
      have hroute : nextNode { values := s, last := some .riskNode } = some .killSwitchNode :=
        routeAfterRisk_of_halted hs
      exact threadOk_of_next hroute (by decide)
  | false =>
      constructor
      · intro _
        exact hs
      · intro _ hhalted
        exact absurd (hs.symm.trans hhalted) Bool.false_ne_true

/-- An update that clears the request leaves the thread in order, whoever wrote last. -/
theorem threadOk_of_pending_none (h : s.pending = none) (last : Option NodeName) :
    ThreadOk { values := s, last := last } := by
  cases last with
  | none => exact threadOk_of_next (m := .regimeNode) rfl (by decide)
  | some n =>
      cases n with
      | regimeNode => exact threadOk_of_next (m := .signalNode) rfl (by decide)
      | signalNode => exact threadOk_of_next (m := .reconciliationNode) rfl (by decide)
      | reconciliationNode => exact threadOk_of_next (m := .riskNode) rfl (by decide)
      | riskNode => exact threadOk_risk s
      | hitlNode => exact ⟨fun hnext => (nomatch hnext), fun _ _ => h⟩
      | killSwitchNode => exact ⟨fun hnext => (nomatch hnext), fun _ _ => h⟩

theorem node_threadOk (hu : (cfg.graph env).node n s = .ok u) :
    ThreadOk { values := s.merge u, last := some n } := by
  cases n with
  | regimeNode => exact threadOk_of_next (m := .signalNode) rfl (by decide)
  | signalNode => exact threadOk_of_next (m := .reconciliationNode) rfl (by decide)
  | reconciliationNode => exact threadOk_of_next (m := .riskNode) rfl (by decide)
  | riskNode => exact threadOk_risk _
  | hitlNode =>
      obtain rfl : ({ pendingHitlApproval := some none } : StateDict) = u := Except.ok.inj hu
      exact threadOk_of_pending_none rfl _
  | killSwitchNode =>
      obtain rfl : executeKill (env (.utcnow .killSwitchNode)) = u := Except.ok.inj hu
      exact threadOk_of_pending_none rfl _

/-- What the session keeps: no halted state has a request, in memory or saved, and the thread
is in order. -/
structure InOrder (x : Session) : Prop where
  state : PendingOk x.orch.state
  thread : ∀ c, x.orch.thread = some c → ThreadOk c
  saved : ∀ d, x.saved = some d → PendingOk d

/-- After an `invoke` from a thread in order, state and thread are in order. -/
theorem adopt_inOrder (cfg : Config) (env : Env) {o : OrchestratorGraph}
    {thread : Option (Checkpoint NodeName StateDict)} (ho : PendingOk o.state)
    (hthread : ∀ c, thread = some c → ThreadOk c) (input : Option StateDict) :
    let o' := (o.adopt ((cfg.graph env).invoke cfg.runtime thread input)).1
    PendingOk o'.state ∧ ∀ c, o'.thread = some c → ThreadOk c := by
  intro o'
  have hstep : ∀ (c : Checkpoint NodeName StateDict) n u, ThreadOk c →
      (cfg.graph env).scheduled c = some n → (cfg.graph env).node n c.values = .ok u →
      ThreadOk { values := (cfg.graph env).merge c.values u, last := some n } := by
    intro c n u _ _ hu
    exact node_threadOk hu
  have hinput : ∀ u, input = some u → ThreadOk
      { values := (cfg.graph env).merge ((cfg.graph env).valuesOf thread) u, last := none } := by
    intro u _
    exact threadOk_of_next (m := .regimeNode) rfl (by decide)
  rcases StateGraph.invoke_invariant cfg.runtime hstep (fun _ => hthread) hinput with
    ⟨hafter, hreturned⟩
  refine ⟨?_, hafter⟩
  rcases adopt_state o ((cfg.graph env).invoke cfg.runtime thread input) with h | ⟨-, h⟩
  · -- a returned state is that of a thread that has ended
    rcases hreturned _ h with ⟨c, hc, hvalues, hend⟩
    rw [scheduled_eq] at hend
    have hok := (hafter c hc).2 hend
    rwa [hvalues] at hok
  · show PendingOk (o.adopt _).1.state
    rw [h]
    exact ho

/-- The updates of `reject_hitl` and `trigger_kill_switch` clear the request. -/
theorem updateAndInvoke_inOrder (cfg : Config) (env : Env) {o : OrchestratorGraph}
    (ho : PendingOk o.state) (hthread : ∀ c, o.thread = some c → ThreadOk c)
    (hu : u.pendingHitlApproval = some none) :
    let o' := (o.updateAndInvoke cfg env u).1
    PendingOk o'.state ∧ ∀ c, o'.thread = some c → ThreadOk c := by
  have hclear : ∀ (s : StateDict) last, ThreadOk { values := s.merge u, last := last } := by
    intro s last
    refine threadOk_of_pending_none ?_ last
    rw [StateDict.pending, StateDict.merge_pendingHitlApproval, hu]
    rfl
  cases hupdate : (cfg.graph env).updateState cfg.runtime o.thread u with
  | error exc =>
      simp only [OrchestratorGraph.updateAndInvoke, hupdate]
      exact ⟨ho, hthread⟩
  | ok c =>
      simp only [OrchestratorGraph.updateAndInvoke, hupdate]
      refine adopt_inOrder cfg env ho ?_ none
      intro c' hc'
      rw [← Option.some.inj hc']
      rcases StateGraph.updateState_ok hupdate with ⟨c₀, -, rfl⟩ | ⟨-, -, rfl⟩
      · exact hclear c₀.values c₀.last
      · exact hclear {} none

/-- The defaults are not halted, so the flags of a restored state are the saved ones. -/
theorem restored_halted (today : String) (d : StateDict) :
    ((makeInitialState today).toDict.merge d).halted = d.halted := by
  simp only [StateDict.halted, StateDict.merge_killSwitchActive,
    StateDict.merge_circuitBreakerActive]
  cases d.killSwitchActive <;> cases d.circuitBreakerActive <;> rfl

theorem restored_pendingOk (today : String) {d : StateDict} (hd : PendingOk d) :
    PendingOk ((makeInitialState today).toDict.merge d) := by
  intro h
  rw [restored_halted] at h
  have hnone := hd h
  rw [StateDict.pending, StateDict.merge_pendingHitlApproval]
  cases hp : d.pendingHitlApproval with
  | none => rfl
  | some request =>
      rw [StateDict.pending, hp] at hnone
      exact hnone

theorem shutdown_inOrder (h : InOrder x) (setRaises : Bool) :
    InOrder (shutdown cfg setRaises x) := by
  rw [shutdown]
  split
  · refine ⟨h.state, h.thread, ?_⟩
    intro d hd
    rw [← Option.some.inj hd]
    exact h.state
  · exact h

/-- A restore fails, or makes an orchestrator without a thread, from the saved state if there
is one. -/
theorem restore_cases (cfg : Config) (today : String) (getRaises : Bool) (x : Session) :
    ((cfg.redis = false ∨ getRaises = true) ∧ (restore cfg today getRaises x).1 = x) ∨
    (cfg.redis = true ∧ getRaises = false ∧
      ((x.saved = none ∧ (restore cfg today getRaises x).1 =
        { x with orch := OrchestratorGraph.init today }) ∨
      ∃ d, x.saved = some d ∧ (restore cfg today getRaises x).1 =
        { x with
          orch := { state := (makeInitialState today).toDict.merge d, thread := none } })) := by
  cases hredis : cfg.redis with
  | false => exact .inl ⟨.inl rfl, by simp [restore, hredis]⟩
  | true =>
  cases getRaises with
  | true => exact .inl ⟨.inr rfl, by simp [restore, hredis]⟩
  | false =>
  refine .inr ⟨rfl, rfl, ?_⟩
  cases hsaved : x.saved with
  | none => exact .inl ⟨rfl, by simp [restore, hredis, hsaved]⟩
  | some d => exact .inr ⟨d, rfl, by simp [restore, hredis, hsaved, OrchestratorGraph.init]⟩

theorem restore_inOrder (h : InOrder x) (today : String) (getRaises : Bool) :
    InOrder (restore cfg today getRaises x).1 := by
  rcases restore_cases cfg today getRaises x with
    ⟨-, heq⟩ | ⟨-, -, ⟨-, heq⟩ | ⟨d, hsaved, heq⟩⟩
  · rw [heq]
    exact h
  · rw [heq]
    refine ⟨?_, ?_, h.saved⟩
    · intro hhalted
      exact nomatch hhalted
    · intro c hc
      exact nomatch hc
  · rw [heq]
    refine ⟨restored_pendingOk today (h.saved d hsaved), ?_, h.saved⟩
    intro c hc
    exact nomatch hc

theorem next_inOrder (x : Session) (i : Op × Env) (h : InOrder x) :
    InOrder ((session cfg).next x i) := by
  rcases i with ⟨op, env⟩
  cases op with
  | runCycle inputState =>
      have ho := adopt_inOrder cfg env h.state h.thread
        (some ((inputState.map TradingSystemState.toDict).getD x.orch.state))
      exact ⟨ho.1, ho.2, h.saved⟩
  | approveHitl =>
      have ho := adopt_inOrder cfg env h.state h.thread none
      exact ⟨ho.1, ho.2, h.saved⟩
  | rejectHitl =>
      have ho := updateAndInvoke_inOrder cfg env h.state h.thread
        (u := { pendingHitlApproval := some none }) rfl
      exact ⟨ho.1, ho.2, h.saved⟩
  | triggerKillSwitch =>
      have hstate : PendingOk (x.orch.state.merge OrchestratorGraph.killUpdate) := fun _ => rfl
      have ho := updateAndInvoke_inOrder cfg env
        (o := { x.orch with state := x.orch.state.merge OrchestratorGraph.killUpdate })
        hstate h.thread (u := OrchestratorGraph.killUpdate) rfl
      exact ⟨ho.1, ho.2, h.saved⟩
  | restart today setRaises getRaises =>
      exact restore_inOrder (shutdown_inOrder h setRaises) today getRaises

/-! ## Whole sessions -/

/-- The session of the operations `ops`, from the opening on. -/
def history (cfg : Config) (today : String) (ops : List (Op × Env)) :
    List (Trans Session (Op × Env) Report) :=
  (session cfg).trans (opening today) ops

theorem opening_inOrder (today : String) : InOrder (opening today) where
  state := fun h => (nomatch h)
  thread := fun _ h => (nomatch h)
  saved := fun _ h => (nomatch h)

/-- In every session, whatever the callers pass in, a halted state has no request. -/
theorem pending_eq_none_of_halted (cfg : Config) (today : String) (ops : List (Op × Env)) :
    ∀ t ∈ history cfg today ops,
      t.post.orch.isHalted = true → t.post.orch.state.pending = none := by
  intro t ht hhalted
  have hstep : ∀ y i, InOrder y → True → InOrder ((session cfg).next y i) := by
    intro y i hy _
    exact next_inOrder y i hy
  rcases (session cfg).trans_invariant_of_allowed hstep (opening_inOrder today)
    (fun _ _ => trivial) t ht with ⟨hpre, hfire⟩
  rw [hfire] at hhalted ⊢
  exact (next_inOrder t.pre t.op hpre).state hhalted

end Intraday.Orchestrator
