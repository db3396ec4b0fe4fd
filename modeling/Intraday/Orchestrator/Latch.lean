import Intraday.Orchestrator.Session

/-!
# Intraday.Orchestrator.Latch — the halt flags over a session

The halt flags of `_state` are set by what an `invoke` returns, so they are only as good as
the thread behind it: a caller's input, a rejection on a thread without a checkpoint, or a
restart from an older saved state may replace them. They are never lost in a session whose
steps, while it is halted, all satisfy `Keeps` (`halt_latch`).

The invariant is that a halted orchestrator has a *doomed* thread: one from which only
halted states are returned, however it goes on.
-/

namespace Intraday.Orchestrator

open Intraday.Core Intraday.Lib Intraday.Lib.Python

variable {cfg : Config} {env : Env} {x : Session} {s u : StateDict}
  {c : Checkpoint NodeName StateDict} {n : NodeName}

/-! ## Doomed threads -/

/-- The nodes up to `risk_node`. -/
def BeforeRouting (c : Checkpoint NodeName StateDict) : Prop :=
  nextNode c = some .regimeNode ∨ nextNode c = some .signalNode ∨
    nextNode c = some .reconciliationNode ∨ nextNode c = some .riskNode

/-- However the thread goes on, a state it returns is halted: it is already, or `risk_node`
is still to come and will not let it pass. -/
def Doomed (cfg : Config) (c : Checkpoint NodeName StateDict) : Prop :=
  c.values.halted = true ∨ BeforeRouting c ∧ RiskStops cfg.missingIsNone c.values

theorem Doomed.halted_of_end (h : Doomed cfg c) (hend : nextNode c = none) :
    c.values.halted = true := by
  rcases h with h | ⟨hnext, -⟩
  · exact h
  · rcases hnext with hnext | hnext | hnext | hnext
    all_goals exact nomatch hend.symm.trans hnext

/-- What no node does: write the P&L, or take a halt flag back. -/
theorem node_update (hu : (cfg.graph env).node n s = .ok u) :
    u.pnlTodayPct = none ∧ (u.killSwitchActive = none ∨ u.killSwitchActive = some true) ∧
      (u.circuitBreakerActive = none ∨ u.circuitBreakerActive = some true) := by
  cases n with
  | regimeNode =>
      rcases regimeNode_eval cfg.redis s env with ⟨regime, confidence, heval⟩
      obtain rfl := Except.ok.inj (heval.symm.trans hu)
      exact ⟨rfl, .inl rfl, .inl rfl⟩
  | signalNode =>
      rcases signalNode_ok hu with rfl | ⟨n, rfl⟩
      · exact ⟨rfl, .inr rfl, .inl rfl⟩
      · exact ⟨rfl, .inl rfl, .inl rfl⟩
  | reconciliationNode =>
      rcases reconciliationNode_eval cfg.redis cfg.missingIsNone s env with ⟨at_, count, heval⟩
      obtain rfl := Except.ok.inj (heval.symm.trans hu)
      exact ⟨rfl, .inl rfl, .inl rfl⟩
  | riskNode =>
      rcases riskNode_ok hu with ⟨pnlPct, nowIso, rfl⟩ | ⟨-, rfl⟩ | ⟨-, -, pending, rfl⟩
      · exact ⟨rfl, .inl rfl, .inr rfl⟩
      · exact ⟨rfl, .inl rfl, .inl rfl⟩
      · exact ⟨rfl, .inl rfl, .inl rfl⟩
  | hitlNode =>
      obtain rfl : ({ pendingHitlApproval := some none } : StateDict) = u := Except.ok.inj hu
      exact ⟨rfl, .inl rfl, .inl rfl⟩
  | killSwitchNode =>
      obtain rfl : executeKill (env (.utcnow .killSwitchNode)) = u := Except.ok.inj hu
      exact ⟨rfl, .inr rfl, .inl rfl⟩

/-- An update that takes no flag back keeps a halted state halted. -/
theorem merge_halted (hk : u.killSwitchActive = none ∨ u.killSwitchActive = some true)
    (hcb : u.circuitBreakerActive = none ∨ u.circuitBreakerActive = some true)
    (hs : s.halted = true) : (s.merge u).halted = true := by
  rw [StateDict.halted, Bool.or_eq_true] at hs
  rw [StateDict.halted, StateDict.merge_killSwitchActive, StateDict.merge_circuitBreakerActive,
    Bool.or_eq_true]
  rcases hs with hs | hs
  · left
    rcases hk with h | h
    · rwa [h, Option.none_or]
    · rw [h]
      rfl
  · right
    rcases hcb with h | h
    · rwa [h, Option.none_or]
    · rw [h]
      rfl

theorem node_keeps_halted (hu : (cfg.graph env).node n s = .ok u) (hs : s.halted = true) :
    (s.merge u).halted = true :=
  merge_halted (node_update hu).2.1 (node_update hu).2.2 hs

theorem node_keeps_riskStops (hu : (cfg.graph env).node n s = .ok u)
    (h : RiskStops cfg.missingIsNone s) : RiskStops cfg.missingIsNone (s.merge u) := by
  rw [RiskStops, StateDict.merge_pnlTodayPct, (node_update hu).1]
  exact h

theorem node_keeps_doomed (hc : Doomed cfg c) (hnext : (cfg.graph env).scheduled c = some n)
    (hu : (cfg.graph env).node n c.values = .ok u) :
    Doomed cfg { values := c.values.merge u, last := some n } := by
  rw [scheduled_eq] at hnext
  rcases hc with hc | ⟨hbefore, hstops⟩
  · exact .inl (node_keeps_halted hu hc)
  · have hstops' := node_keeps_riskStops hu hstops
    rcases hbefore with h | h | h | h
    · obtain rfl := Option.some.inj (h.symm.trans hnext)
      exact .inr ⟨.inr (.inl rfl), hstops'⟩
    · obtain rfl := Option.some.inj (h.symm.trans hnext)
      exact .inr ⟨.inr (.inr (.inl rfl)), hstops'⟩
    · obtain rfl := Option.some.inj (h.symm.trans hnext)
      exact .inr ⟨.inr (.inr (.inr rfl)), hstops'⟩
    · -- `risk_node` itself
      obtain rfl := Option.some.inj (h.symm.trans hnext)
      exact .inl (halted_after_risk hu (.inr hstops))

/-- The run of a doomed thread leaves it doomed, and returns only halted states. -/
def StaysHalted (cfg : Config) (inv : Invocation NodeName StateDict) : Prop :=
  (∀ c, inv.thread = some c → Doomed cfg c) ∧
    ∀ values, inv.outcome = .returned values → values.halted = true

theorem loop_staysHalted (env : Env) (hc : Doomed cfg c) (limit : ℕ) (resumed : Bool) :
    StaysHalted cfg ((cfg.graph env).loop limit resumed c) := by
  rcases StateGraph.loop_invariant (fun _ _ _ => node_keeps_doomed) limit resumed hc with
    ⟨c', hthread, hc', hreturned⟩
  constructor
  · intro c'' h
    rwa [← Option.some.inj (hthread.symm.trans h)]
  · intro values h
    rcases hreturned values h with ⟨rfl, hend⟩
    rw [scheduled_eq] at hend
    exact hc'.halted_of_end hend

theorem invoke_staysHalted (cfg : Config) (env : Env)
    {thread : Option (Checkpoint NodeName StateDict)} {input : Option StateDict}
    (hthread : input = none → ∀ c, thread = some c → Doomed cfg c)
    (hinput : ∀ u, input = some u → Doomed cfg
      { values := (cfg.graph env).merge ((cfg.graph env).valuesOf thread) u, last := none }) :
    StaysHalted cfg ((cfg.graph env).invoke cfg.runtime thread input) := by
  rcases StateGraph.invoke_invariant cfg.runtime (fun _ _ _ => node_keeps_doomed) hthread
    hinput with ⟨hafter, hreturned⟩
  refine ⟨hafter, ?_⟩
  intro values h
  rcases hreturned values h with ⟨c, hc, hvalues, hend⟩
  rw [scheduled_eq] at hend
  rw [← hvalues]
  exact (hafter c hc).halted_of_end hend

/-- With the halted key in Redis, `signal_node` halts a cycle that starts at the entry. -/
theorem loop_staysHalted_of_key (hkey : KeyPresent cfg env killSwitchHaltedKey)
    (resumed : Bool) (s : StateDict) :
    StaysHalted cfg ((cfg.graph env).loop (24 + 1) resumed { values := s, last := none }) := by
  rcases afterRegime_eq cfg env s with ⟨regime, confidence, hregime, hafter⟩
  obtain ⟨u, hsignal⟩ :
      ∃ u, (signalNode cfg.redis cfg.blockedFn (afterRegime cfg env s)).eval env = .ok u := by
    rcases signalNode_eval cfg.redis cfg.blockedFn (afterRegime cfg env s) env with
      ⟨-, h | ⟨n, h⟩⟩ | ⟨hnot, -⟩
    · exact ⟨_, h⟩
    · exact ⟨_, h⟩
    · exact absurd (.inr (.inr (.inl hkey.2))) hnot
  have hsecond := loop_node (k := 23) (r := false)
    (c := { values := afterRegime cfg env s, last := some .regimeNode }) (n := .signalNode) rfl
    (by decide) hsignal
  rw [loop_node (n := .regimeNode) rfl (by decide) hregime, ← hafter, hsecond]
  exact loop_staysHalted env (.inl (signalNode_halts hsignal (.inr hkey))) 23 false

/-- A halted orchestrator has a doomed thread, or none. -/
def Secured (cfg : Config) (o : OrchestratorGraph) : Prop :=
  o.state.halted = true → ∀ c, o.thread = some c → Doomed cfg c

variable {o : OrchestratorGraph} {thread : Option (Checkpoint NodeName StateDict)}

theorem adopt_of_staysHalted {inv : Invocation NodeName StateDict} (h : StaysHalted cfg inv)
    (ho : o.state.halted = true) :
    Secured cfg (o.adopt inv).1 ∧ (o.adopt inv).1.state.halted = true := by
  constructor
  · intro _
    exact h.1
  · rcases adopt_state o inv with hreturned | ⟨-, hstate⟩
    · exact h.2 _ hreturned
    · rw [hstate]
      exact ho

/-- A state that becomes halted by an `invoke` is the state of its thread. -/
theorem adopt_secured (cfg : Config) (env : Env) (ho : o.state.halted = false)
    (input : Option StateDict) :
    Secured cfg (o.adopt ((cfg.graph env).invoke cfg.runtime thread input)).1 := by
  intro hhalted c hc
  rcases adopt_state o ((cfg.graph env).invoke cfg.runtime thread input) with h | ⟨-, h⟩
  · rcases StateGraph.invoke_returned h with ⟨c', hc', hvalues⟩
    obtain rfl := Option.some.inj (hc'.symm.trans hc)
    rw [← hvalues] at hhalted
    exact .inl hhalted
  · rw [h, ho] at hhalted
    exact absurd hhalted Bool.false_ne_true

/-- An input that must kill dooms the cycle it starts. -/
theorem invoke_of_mustKill {t : TradingSystemState} (hkill : MustKill cfg env t) :
    StaysHalted cfg ((cfg.graph env).invoke cfg.runtime thread (some t.toDict)) := by
  have hstart : ∀ s : StateDict, Doomed cfg { values := s.merge t.toDict, last := none } →
      StaysHalted cfg
        ((cfg.graph env).loop 25 false { values := s.merge t.toDict, last := none }) := by
    intro s hs
    exact loop_staysHalted env hs 25 false
  have hbefore : ∀ s, BeforeRouting { values := s, last := none } := by
    intro s
    exact .inl rfl
  rcases hkill with hk | hcb | hkey | hpnl
  · refine hstart _ (.inl ?_)
    rw [StateDict.merge_toDict, toDict_halted, hk, Bool.true_or]
  · refine hstart _ (.inl ?_)
    rw [StateDict.merge_toDict, toDict_halted, hcb, Bool.or_true]
  · exact loop_staysHalted_of_key hkey false _
  · exact hstart _ (.inr ⟨hbefore _, hpnl⟩)

/-- A halted state as input halts. -/
theorem invoke_of_halted (ho : o.state.halted = true) :
    StaysHalted cfg ((cfg.graph env).invoke cfg.runtime thread (some o.state)) := by
  refine loop_staysHalted env (.inl ?_) 25 false
  show (StateDict.merge _ o.state).halted = true
  rw [StateDict.halted, Bool.or_eq_true] at ho ⊢
  rcases ho with h | h
  · left
    cases hk : o.state.killSwitchActive with
    | none => simp [hk] at h
    | some b => simpa [hk] using h
  · right
    cases hcb : o.state.circuitBreakerActive with
    | none => simp [hcb] at h
    | some b => simpa [hcb] using h

/-- Before the routing step the next node does not depend on the state. -/
theorem BeforeRouting.update (h : BeforeRouting c) (s : StateDict) :
    BeforeRouting { c with values := s } := by
  rcases c with ⟨values, last⟩
  cases last with
  | none => exact .inl rfl
  | some n =>
      cases n with
      | regimeNode => exact .inr (.inl rfl)
      | signalNode => exact .inr (.inr (.inl rfl))
      | reconciliationNode => exact .inr (.inr (.inr rfl))
      | riskNode =>
          -- the routing step itself leads past `risk_node`
          exfalso
          revert h
          simp only [BeforeRouting, nextNode, edge, routeAfterRisk]
          split
          · simp
          · split <;> simp
      | hitlNode => simp [BeforeRouting, nextNode, edge] at h
      | killSwitchNode => simp [BeforeRouting, nextNode, edge] at h

/-- An update that takes no flag back and leaves the P&L alone keeps a thread doomed. -/
theorem Doomed.update (hc : Doomed cfg c) (hpnl : u.pnlTodayPct = none)
    (hk : u.killSwitchActive = none ∨ u.killSwitchActive = some true)
    (hcb : u.circuitBreakerActive = none ∨ u.circuitBreakerActive = some true) :
    Doomed cfg { c with values := c.values.merge u } := by
  rcases hc with hc | ⟨hbefore, hstops⟩
  · exact .inl (merge_halted hk hcb hc)
  · refine .inr ⟨hbefore.update _, ?_⟩
    rw [RiskStops, StateDict.merge_pnlTodayPct, hpnl]
    exact hstops

/-! ## What keeps the latch -/

/-- What an operation on a halted session must satisfy:

* an input state of `run_cycle` carries a halt flag or a P&L of -2% or less, or the halted
  key is in Redis;
* a rejection finds a checkpoint (or cannot start a cycle from an empty thread, or that
  cycle is stopped by the halted key or by the missing P&L);
* a restart reads back the state that it saved, or an older one that was halted too. -/
def Keeps (cfg : Config) (x : Session) (op : Op) (env : Env) : Prop :=
  match op with
  | .runCycle none => True
  | .runCycle (some t) => MustKill cfg env t
  | .approveHitl => True
  | .rejectHitl =>
      x.orch.thread.isSome ∨ cfg.runtime.updatesEmptyThread = false ∨
        KeyPresent cfg env killSwitchHaltedKey ∨ cfg.missingIsNone = true
  | .triggerKillSwitch => True
  | .restart _ setRaises getRaises =>
      cfg.redis = false ∨ getRaises = true ∨ setRaises = false ∨
        ∃ d, x.saved = some d ∧ d.halted = true

/-- The step from `o` to `o'` keeps a halted orchestrator halted, and secured. -/
def KeepsHalt (cfg : Config) (o o' : OrchestratorGraph) : Prop :=
  Secured cfg o' ∧ (o.state.halted = true → o'.state.halted = true)

theorem adopt_keepsHalt (cfg : Config) (env : Env) {input : Option StateDict}
    (h : o.state.halted = true →
      StaysHalted cfg ((cfg.graph env).invoke cfg.runtime thread input)) :
    KeepsHalt cfg o (o.adopt ((cfg.graph env).invoke cfg.runtime thread input)).1 := by
  cases hs : o.state.halted with
  | false =>
      refine ⟨adopt_secured cfg env hs input, ?_⟩
      intro hhalted
      exact absurd (hs.symm.trans hhalted) Bool.false_ne_true
  | true =>
      have hadopt := adopt_of_staysHalted (h hs) hs
      refine ⟨hadopt.1, ?_⟩
      intro _
      exact hadopt.2

theorem runCycle_keepsHalt (inputState : Option TradingSystemState)
    (hk : o.state.halted = true → ∀ t, inputState = some t → MustKill cfg env t) :
    KeepsHalt cfg o (o.runCycle cfg env inputState).1 := by
  apply adopt_keepsHalt
  intro hs
  cases inputState with
  | none => exact invoke_of_halted hs
  | some t => exact invoke_of_mustKill (hk hs t rfl)

theorem approveHitl_keepsHalt (ho : Secured cfg o) :
    KeepsHalt cfg o (o.approveHitl cfg env).1 := by
  apply adopt_keepsHalt
  intro hs
  exact invoke_staysHalted cfg env (fun _ => ho hs) (fun _ h => nomatch h)

/-- A doomed checkpoint, resumed. -/
theorem invoke_of_doomed (env : Env) (hc : Doomed cfg c) :
    StaysHalted cfg ((cfg.graph env).invoke cfg.runtime (some c) none) := by
  refine invoke_staysHalted cfg env ?_ (fun _ h => nomatch h)
  intro _ c' hc'
  rwa [← Option.some.inj hc']

theorem rejectHitl_keepsHalt (ho : Secured cfg o)
    (hk : o.state.halted = true → o.thread.isSome ∨ cfg.runtime.updatesEmptyThread = false ∨
      KeyPresent cfg env killSwitchHaltedKey ∨ cfg.missingIsNone = true) :
    KeepsHalt cfg o (o.rejectHitl cfg env).1 := by
  rw [OrchestratorGraph.rejectHitl, OrchestratorGraph.updateAndInvoke]
  cases hupdate : (cfg.graph env).updateState cfg.runtime o.thread
      { pendingHitlApproval := some none } with
  | error exc => exact ⟨ho, fun h => h⟩
  | ok c =>
      apply adopt_keepsHalt
      intro hs
      rcases StateGraph.updateState_ok hupdate with ⟨c₀, hthread, rfl⟩ | ⟨hnone, hrt, rfl⟩
      · exact invoke_of_doomed env ((ho hs c₀ hthread).update rfl (.inl rfl) (.inl rfl))
      · -- a cycle from the entry on an empty state
        rcases hk hs with h | h | hkey | hmissing
        · rw [hnone] at h
          cases h
        · exact absurd (hrt.symm.trans h) (by decide)
        · exact loop_staysHalted_of_key hkey true _
        · exact invoke_of_doomed env (.inr ⟨.inl rfl, hmissing⟩)

theorem triggerKillSwitch_keepsHalt (env : Env) :
    KeepsHalt cfg o (o.triggerKillSwitch cfg env).1 := by
  have hkilled : ∀ s : StateDict, (s.merge OrchestratorGraph.killUpdate).halted = true := by
    intro s
    exact Bool.true_or _
  rw [OrchestratorGraph.triggerKillSwitch, OrchestratorGraph.updateAndInvoke]
  cases hupdate : (cfg.graph env).updateState cfg.runtime o.thread
      OrchestratorGraph.killUpdate with
  | error exc =>
      refine ⟨?_, fun _ => hkilled _⟩
      intro _ c hc
      rw [StateGraph.updateState_error hupdate] at hc
      cases hc
  | ok c =>
      have hc : Doomed cfg c := by
        rcases StateGraph.updateState_ok hupdate with ⟨c₀, -, rfl⟩ | ⟨-, -, rfl⟩
        · exact .inl (hkilled _)
        · exact .inl (hkilled _)
      have hadopt := adopt_of_staysHalted
        (o := { o with state := o.state.merge OrchestratorGraph.killUpdate })
        (invoke_of_doomed env hc) (hkilled _)
      exact ⟨hadopt.1, fun _ => hadopt.2⟩

/-- A new orchestrator has no thread, and the flags it is given are the saved ones. -/
theorem restore_keepsHalt (today : String) (getRaises : Bool) (hx : Secured cfg x.orch)
    (hk : x.orch.state.halted = true → cfg.redis = false ∨ getRaises = true ∨
      ∃ d, x.saved = some d ∧ d.halted = true) :
    KeepsHalt cfg x.orch (restore cfg today getRaises x).1.orch := by
  rcases restore_cases cfg today getRaises x with
    ⟨-, heq⟩ | ⟨hredis, hget, ⟨hsaved, heq⟩ | ⟨d, hsaved, heq⟩⟩
  · rw [heq]
    exact ⟨hx, fun h => h⟩
  · rw [heq]
    constructor
    · intro _ c hc
      exact nomatch hc
    · intro hs
      -- nothing saved: the condition excludes it
      simpa [hredis, hget, hsaved] using hk hs
  · rw [heq]
    constructor
    · intro _ c hc
      exact nomatch hc
    · intro hs
      have hd : d.halted = true := by simpa [hredis, hget, hsaved] using hk hs
      exact (restored_halted today d).trans hd

theorem restart_keepsHalt (today : String) (setRaises getRaises : Bool)
    (hx : Secured cfg x.orch)
    (hk : x.orch.state.halted = true → cfg.redis = false ∨ getRaises = true ∨
      setRaises = false ∨ ∃ d, x.saved = some d ∧ d.halted = true) :
    KeepsHalt cfg x.orch (restore cfg today getRaises (shutdown cfg setRaises x)).1.orch := by
  rw [shutdown]
  split
  · -- the state just saved is the one that is read
    refine restore_keepsHalt (x := { x with saved := some x.orch.state }) today getRaises hx ?_
    intro hs
    exact .inr (.inr ⟨x.orch.state, rfl, hs⟩)
  · rename_i hset
    refine restore_keepsHalt today getRaises hx ?_
    intro hs
    rcases hk hs with h | h | h | h
    · exact .inl h
    · exact .inr (.inl h)
    · left
      simpa [h] using hset
    · exact .inr (.inr h)

/-- One operation of a secured session. -/
theorem next_keepsHalt (x : Session) (i : Op × Env) (hx : Secured cfg x.orch)
    (hk : x.orch.isHalted = true → Keeps cfg x i.1 i.2) :
    KeepsHalt cfg x.orch ((session cfg).next x i).orch := by
  rcases i with ⟨op, env⟩
  cases op with
  | runCycle inputState =>
      refine runCycle_keepsHalt inputState ?_
      rintro hs t rfl
      exact hk hs
  | approveHitl => exact approveHitl_keepsHalt hx
  | rejectHitl => exact rejectHitl_keepsHalt hx hk
  | triggerKillSwitch => exact triggerKillSwitch_keepsHalt env
  | restart today setRaises getRaises => exact restart_keepsHalt today setRaises getRaises hx hk

/-! ## Whole sessions -/

/-- In a session whose steps on a halted state all satisfy `Keeps`, none of them loses the
flags. -/
theorem step_halted_of_keeps {today : String} {ops : List (Op × Env)}
    (hkeeps : ∀ t ∈ history cfg today ops,
      t.pre.orch.isHalted = true → Keeps cfg t.pre t.op.1 t.op.2) :
    ∀ t ∈ history cfg today ops, t.pre.orch.isHalted = true → t.post.orch.isHalted = true := by
  intro t ht hhalted
  have hstep : ∀ y i, Secured cfg y.orch →
      (y.orch.isHalted = true → Keeps cfg y i.1 i.2) →
      Secured cfg ((session cfg).next y i).orch := by
    intro y i hy hk
    exact (next_keepsHalt y i hy hk).1
  have hopening : Secured cfg (opening today).orch := by
    intro h
    exact nomatch h
  rcases (session cfg).trans_invariant_of_allowed hstep hopening hkeeps t ht with ⟨hpre, hfire⟩
  rw [hfire]
  exact (next_keepsHalt t.pre t.op hpre (hkeeps t ht)).2 hhalted

/-- The halt latch: in a session whose steps on a halted state all satisfy `Keeps`, a halt is
seen after every later operation, and no request is pending while it lasts. -/
theorem halt_latch (cfg : Config) (today : String) (ops : List (Op × Env))
    (hkeeps : ∀ t ∈ history cfg today ops,
      t.pre.orch.isHalted = true → Keeps cfg t.pre t.op.1 t.op.2) :
    (∀ before t after, history cfg today ops = before ++ t :: after →
      t.post.orch.isHalted = true → ∀ t' ∈ after, t'.post.orch.isHalted = true) ∧
    ∀ t ∈ history cfg today ops,
      t.post.orch.isHalted = true → t.post.orch.state.pending = none := by
  refine ⟨?_, pending_eq_none_of_halted cfg today ops⟩
  intro before t after hsplit hhalted
  have hkept : ∀ t' ∈ after, t'.pre.orch.isHalted = true → t'.post.orch.isHalted = true := by
    intro t' ht'
    refine step_halted_of_keeps hkeeps t' ?_
    rw [hsplit]
    exact List.mem_append_right before (List.mem_cons_of_mem t ht')
  rcases (session cfg).trans_eq_append_cons hsplit with ⟨ops₁, i, ops₂, -, -, rfl, rfl⟩
  exact (session cfg).trans_latch (P := fun y => y.orch.isHalted = true) hkept hhalted

/-- A kill, a cycle without input, an approval and a restart. -/
def quietHalt : List (Op × Env) :=
  [(.triggerKillSwitch, quietEnv), (.runCycle none, quietEnv), (.approveHitl, quietEnv),
    (.restart "2026-07-03" false false, quietEnv)]

/-- A manual kill is still seen after the restart. -/
theorem kill_survives_restart :
    (history plainConfig "2026-07-02" quietHalt).tail.all (·.post.orch.isHalted) = true := by
  refine List.all_eq_true.mpr ((halt_latch plainConfig "2026-07-02" quietHalt ?_).1 [] _ _ rfl rfl)
  simp only [history, quietHalt, Machine.trans_cons, Machine.trans_nil, List.forall_mem_cons]
  refine ⟨fun _ => trivial, fun _ => trivial, fun _ => trivial, fun _ => ?_, ?_⟩
  · exact .inr (.inr (.inl rfl))
  · exact fun _ h => (nomatch h)

/-- A cycle started with a new state of the caller takes a manual kill back. -/
theorem fresh_input_clears_kill :
    ¬ ∀ (cfg : Config) (today : String) (ops : List (Op × Env)),
      (∀ before t after, history cfg today ops = before ++ t :: after →
        t.post.orch.isHalted = true → ∀ t' ∈ after, t'.post.orch.isHalted = true) ∧
      ∀ t ∈ history cfg today ops,
        t.post.orch.isHalted = true → t.post.orch.state.pending = none := by
  intro h
  have hlatch := (h plainConfig "2026-07-02"
    [(.triggerKillSwitch, quietEnv),
      (.runCycle (some (makeInitialState "2026-07-02")), quietEnv)]).1 [] _ _ rfl rfl
  exact absurd (hlatch _ (List.mem_singleton.mpr rfl)) (by decide +kernel)

end Intraday.Orchestrator
