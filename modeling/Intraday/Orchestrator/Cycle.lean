import Intraday.Orchestrator.Graph

/-!
# Intraday.Orchestrator.Cycle — one cycle of the orchestrator

What each node can do to the state, and from that what a whole cycle does. The halt flags
are only ever raised on the way; whatever raises one of them before the routing step sends
the cycle to `kill_switch_node`. The only exceptions that leave a cycle are those of the
two reads in `signal_node`, and they end it before `risk_node`.
-/

namespace Intraday.Orchestrator

open Intraday.Core Intraday.Lib Intraday.Lib.Python

variable {cfg : Config} {env : Env} {s : StateDict}

/-! ## What the nodes return -/

theorem regimeNode_eval (redis : Bool) (s : StateDict) (env : Env) :
    ∃ regime confidence, (regimeNode redis s).eval env =
      .ok { marketRegime := regime, regimeConfidence := confidence } := by
  cases redis with
  | false => exact ⟨none, none, rfl⟩
  | true =>
      cases hx : env (.xrevrange regimeRedisStream 1) with
      | error exc =>
          refine ⟨none, none, ?_⟩
          simp [regimeNode, update, hx]
      | ok entries =>
          cases entries with
          | nil =>
              refine ⟨none, none, ?_⟩
              simp [regimeNode, update, hx]
          | cons entry rest =>
              refine ⟨(regimeUpdate entry.fields).marketRegime,
                (regimeUpdate entry.fields).regimeConfidence, ?_⟩
              simp only [regimeNode, update, hx, Proc.eval_call, Bool.not_true, if_false,
                Bool.false_eq_true, Proc.eval_ret, Except.ok.injEq]
              rw [regimeUpdate]
              split
              · rfl
              · split <;> rfl

theorem countSignal_eval (s : StateDict) (env : Env) :
    ∃ n, (countSignal s).eval env = .ok { signalsToday := n } := by
  cases hn : s.signalsToday with
  | none => exact ⟨none, by simp [countSignal, update, hn]⟩
  | some n => exact ⟨some (n + 1), by simp [countSignal, update, hn]⟩

theorem consumeSignal_eval (blockedFn : Bool) (s : StateDict) (env : Env) :
    ∃ n, (consumeSignal blockedFn s).eval env = .ok { signalsToday := n } := by
  rw [consumeSignal, Proc.eval_call]
  split
  · exact ⟨none, rfl⟩
  · exact ⟨none, rfl⟩
  · split
    · split
      · rw [Proc.eval_call]
        split
        · exact ⟨none, rfl⟩
        · exact ⟨none, rfl⟩
        · exact countSignal_eval s env
      · exact countSignal_eval s env
    · exact ⟨none, rfl⟩

/-- The reads of `signal_node` that stand outside its `try` do not raise, or are not made. -/
def ReadsAllowed (redis : Bool) (env : Env) (s : StateDict) : Prop :=
  s.halted = true ∨ redis = false ∨ (∃ raw, env (.get killSwitchHaltedKey) = .ok (some raw)) ∨
    env (.get killSwitchHaltedKey) = .ok none ∧
      ∃ degraded, env (.get ingestionDegradedRedisKey) = .ok degraded

/-- The node returns exactly when the reads are allowed; it may raise the kill flag and
count a signal, and does not both. -/
theorem signalNode_eval (redis blockedFn : Bool) (s : StateDict) (env : Env) :
    (ReadsAllowed redis env s ∧
      ((signalNode redis blockedFn s).eval env = .ok { killSwitchActive := some true } ∨
        ∃ n, (signalNode redis blockedFn s).eval env = .ok { signalsToday := n })) ∨
    (¬ ReadsAllowed redis env s ∧ ∃ exc, (signalNode redis blockedFn s).eval env = .error exc) := by
  cases hs : s.halted with
  | true => exact .inl ⟨.inl hs, .inr ⟨none, by simp [signalNode, hs, update]⟩⟩
  | false =>
  cases redis with
  | false => exact .inl ⟨.inr (.inl rfl), .inr ⟨none, by simp [signalNode, hs, update]⟩⟩
  | true =>
  cases hget : env (.get killSwitchHaltedKey) with
  | error exc =>
      refine .inr ⟨?_, exc, by simp [signalNode, hs, hget, raise]⟩
      simp [ReadsAllowed, hs, hget]
  | ok halted =>
  cases halted with
  | some raw =>
      refine .inl ⟨.inr (.inr (.inl ⟨raw, hget⟩)), .inl ?_⟩
      simp [signalNode, hs, hget, update]
  | none =>
  cases hdeg : env (.get ingestionDegradedRedisKey) with
  | error exc =>
      refine .inr ⟨?_, exc, by simp [signalNode, hs, hget, hdeg, raise]⟩
      simp [ReadsAllowed, hs, hget, hdeg]
  | ok degraded =>
      refine .inl ⟨.inr (.inr (.inr ⟨hget, degraded, hdeg⟩)), .inr ?_⟩
      cases degraded with
      | some raw => exact ⟨none, by simp [signalNode, hs, hget, hdeg, update]⟩
      | none =>
          by_cases hchaos : s.marketRegime = some "HIGH_VOL_CHAOS"
          · exact ⟨none, by simp [signalNode, hs, hget, hdeg, hchaos, update]⟩
          · rcases consumeSignal_eval blockedFn s env with ⟨n, hn⟩
            exact ⟨n, by simp [signalNode, hs, hget, hdeg, hchaos, hn]⟩

theorem signalNode_ok {redis blockedFn : Bool} {u : StateDict}
    (h : (signalNode redis blockedFn s).eval env = .ok u) :
    u = { killSwitchActive := some true } ∨ ∃ n, u = { signalsToday := n } := by
  rcases signalNode_eval redis blockedFn s env with ⟨-, hk | ⟨n, hn⟩⟩ | ⟨-, exc, herror⟩
  · exact .inl (Except.ok.inj (h.symm.trans hk))
  · exact .inr ⟨n, Except.ok.inj (h.symm.trans hn)⟩
  · exact nomatch h.symm.trans herror

theorem reconciliationNode_eval (redis missingIsNone : Bool) (s : StateDict) (env : Env) :
    ∃ at_ count, (reconciliationNode redis missingIsNone s).eval env =
      .ok { lastReconciliationAt := at_, reconciliationMismatchesToday := count } := by
  rw [reconciliationNode, Proc.eval_call]
  split
  · exact ⟨_, none, rfl⟩
  · rw [Proc.eval_call]
    split
    · exact ⟨_, none, rfl⟩
    · split
      · split
        · exact ⟨_, none, rfl⟩
        · exact ⟨_, _, rfl⟩
      · exact ⟨_, _, rfl⟩

theorem requestHitl_eval (startingCapital : ℚ) (positions : Dict String Position) (env : Env) :
    ∃ pending, (requestHitl startingCapital positions).eval env =
      .ok { pendingHitlApproval := pending } := by
  rw [requestHitl]
  split
  · exact ⟨_, rfl⟩
  · exact ⟨none, rfl⟩

theorem halted_eq_false_iff :
    s.halted = false ↔
      s.killSwitchActive.getD false = false ∧ s.circuitBreakerActive.getD false = false :=
  Bool.or_eq_false_iff

/-- The three ways of `risk_node`: it breaks the circuit, finds the system halted, or looks
for a large position. -/
theorem riskOn_eval (startingCapital : ℚ) (missingIsNone : Bool) (s : StateDict) (pnlPct : ℚ)
    (env : Env) :
    (∃ nowIso, (riskOn startingCapital missingIsNone s pnlPct).eval env =
      .ok (breakCircuit pnlPct nowIso)) ∨
    (s.halted = true ∧ (riskOn startingCapital missingIsNone s pnlPct).eval env = .ok {}) ∨
    (s.halted = false ∧ circuitBreakerPct < pnlPct ∧
      ((∃ pending, (riskOn startingCapital missingIsNone s pnlPct).eval env =
          .ok { pendingHitlApproval := pending }) ∨
        s.openPositions = none ∧
          ∃ exc, (riskOn startingCapital missingIsNone s pnlPct).eval env = .error exc)) := by
  by_cases hcb : pnlPct ≤ circuitBreakerPct ∧ ¬ s.circuitBreakerActive.getD false
  · refine .inl ⟨env (.utcnow .riskNode), ?_⟩
    rw [riskOn, if_pos hcb]
    rfl
  · cases hs : s.halted with
    | true =>
        refine .inr (.inl ⟨rfl, ?_⟩)
        rw [riskOn, if_neg hcb, hs]
        rfl
    | false =>
        have hpnl : circuitBreakerPct < pnlPct := by
          by_contra hle
          have hunset := (halted_eq_false_iff.mp hs).2
          exact hcb ⟨not_lt.mp hle, by rw [hunset]; exact Bool.false_ne_true⟩
        refine .inr (.inr ⟨rfl, hpnl, ?_⟩)
        rw [riskOn, if_neg hcb, hs]
        cases hpos : s.openPositions with
        | some positions => exact .inl (requestHitl_eval startingCapital positions env)
        | none =>
            cases missingIsNone with
            | true => exact .inr ⟨rfl, _, rfl⟩
            | false => exact .inl (requestHitl_eval startingCapital Dict.empty env)

/-- The P&L that `risk_node` sees makes it halt, or raise. -/
def RiskStops (missingIsNone : Bool) (s : StateDict) : Prop :=
  match s.pnlTodayPct with
  | some pnlPct => pnlPct ≤ circuitBreakerPct
  | none => missingIsNone = true

/-- What `risk_node` returns: a broken circuit; nothing, when halted already; or, when it is
neither halted nor stopped, perhaps a request. -/
theorem riskNode_ok {startingCapital : ℚ} {missingIsNone : Bool} {u : StateDict}
    (h : (riskNode startingCapital missingIsNone s).eval env = .ok u) :
    (∃ pnlPct nowIso, u = breakCircuit pnlPct nowIso) ∨
    (s.halted = true ∧ u = {}) ∨
    (s.halted = false ∧ ¬ RiskStops missingIsNone s ∧
      ∃ pending, u = { pendingHitlApproval := pending }) := by
  have hcases : ∀ pnlPct, (circuitBreakerPct < pnlPct → ¬ RiskStops missingIsNone s) →
      (riskOn startingCapital missingIsNone s pnlPct).eval env = .ok u →
      (∃ pnlPct nowIso, u = breakCircuit pnlPct nowIso) ∨ (s.halted = true ∧ u = {}) ∨
      (s.halted = false ∧ ¬ RiskStops missingIsNone s ∧
        ∃ pending, u = { pendingHitlApproval := pending }) := by
    intro pnlPct hstops hu
    rcases riskOn_eval startingCapital missingIsNone s pnlPct env with
      ⟨nowIso, heval⟩ | ⟨hs, heval⟩ | ⟨hs, hlt, ⟨pending, heval⟩ | ⟨-, exc, heval⟩⟩
    · rw [heval] at hu
      exact .inl ⟨pnlPct, nowIso, (Except.ok.inj hu).symm⟩
    · rw [heval] at hu
      exact .inr (.inl ⟨hs, (Except.ok.inj hu).symm⟩)
    · rw [heval] at hu
      exact .inr (.inr ⟨hs, hstops hlt, pending, (Except.ok.inj hu).symm⟩)
    · rw [heval] at hu
      exact nomatch hu
  cases hp : s.pnlTodayPct with
  | some pnlPct =>
      simp only [riskNode, hp] at h
      exact hcases pnlPct (fun hlt => by simp [RiskStops, hp, hlt]) h
  | none =>
      cases missingIsNone with
      | true =>
          simp only [riskNode, hp, raise, if_true, Proc.eval_ret] at h
          exact nomatch h
      | false =>
          simp only [riskNode, hp, Bool.false_eq_true, if_false] at h
          exact hcases 0 (fun _ => by simp [RiskStops, hp]) h

/-- On a whole state it returns. -/
theorem riskNode_whole (startingCapital : ℚ) (missingIsNone : Bool) (env : Env)
    (hpnl : s.pnlTodayPct.isSome) (hpos : s.openPositions.isSome) :
    ∃ u, (riskNode startingCapital missingIsNone s).eval env = .ok u := by
  rcases Option.isSome_iff_exists.mp hpnl with ⟨pnlPct, hp⟩
  simp only [riskNode, hp]
  rcases riskOn_eval startingCapital missingIsNone s pnlPct env with
    ⟨nowIso, heval⟩ | ⟨-, heval⟩ | ⟨-, -, ⟨pending, heval⟩ | ⟨hnone, -⟩⟩
  · exact ⟨_, heval⟩
  · exact ⟨_, heval⟩
  · exact ⟨_, heval⟩
  · rw [hnone] at hpos
    exact nomatch hpos

/-! ## The path of a cycle -/

/-- The state after `regime_node`. -/
def afterRegime (cfg : Config) (env : Env) (s : StateDict) : StateDict :=
  match (regimeNode cfg.redis s).eval env with
  | .ok u => s.merge u
  | .error _ => s

theorem afterRegime_eq (cfg : Config) (env : Env) (s : StateDict) :
    ∃ regime confidence,
      (regimeNode cfg.redis s).eval env =
        .ok { marketRegime := regime, regimeConfidence := confidence } ∧
      afterRegime cfg env s =
        s.merge { marketRegime := regime, regimeConfidence := confidence } := by
  rcases regimeNode_eval cfg.redis s env with ⟨regime, confidence, heval⟩
  exact ⟨regime, confidence, heval, by rw [afterRegime, heval]⟩

/-- What is left of a cycle after `risk_node`. -/
def afterRisk (cfg : Config) (env : Env) (s : StateDict) : Invocation NodeName StateDict :=
  (cfg.graph env).loop 21 false { values := s, last := some .riskNode }

/-- A cycle from `s` comes to the routing step: `u` is the update of `signal_node`, `v` the
state that `risk_node` gets and `w` the state it leaves. -/
structure ReachesRouting (cfg : Config) (env : Env) (s u v w : StateDict) : Prop where
  signal : (signalNode cfg.redis cfg.blockedFn (afterRegime cfg env s)).eval env = .ok u
  reconciled : ∃ at_ count, v = ((afterRegime cfg env s).merge u).merge
    { lastReconciliationAt := at_, reconciliationMismatchesToday := count }
  risk : ∃ u', (riskNode cfg.startingCapital cfg.missingIsNone v).eval env = .ok u' ∧ w = v.merge u'

theorem interruptBefore_eq_false {n : NodeName} (h : n ≠ .hitlNode) :
    (cfg.graph env).interruptBefore n = false := by
  simp [Config.graph, h]

/-- The reads depend on the flags only, which `regime_node` leaves alone. -/
theorem readsAllowed_afterRegime (cfg : Config) (env : Env) (s : StateDict) :
    ReadsAllowed cfg.redis env (afterRegime cfg env s) ↔ ReadsAllowed cfg.redis env s := by
  rcases afterRegime_eq cfg env s with ⟨regime, confidence, -, heq⟩
  rw [heq]
  rfl

/-- A node that is no interrupt point, and returns. -/
theorem loop_node {k : ℕ} {r : Bool} {c : Checkpoint NodeName StateDict} {n : NodeName}
    {u : StateDict} (hs : (cfg.graph env).scheduled c = some n) (hne : n ≠ .hitlNode)
    (hn : (cfg.nodeProc n c.values).eval env = .ok u) :
    (cfg.graph env).loop (k + 1) r c =
      { (cfg.graph env).loop k false { values := c.values.merge u, last := some n } with
        visited := n ::
          ((cfg.graph env).loop k false { values := c.values.merge u, last := some n }).visited } :=
  StateGraph.loop_ok hs (interruptBefore_eq_false hne) hn

theorem loop_raise {k : ℕ} {r : Bool} {c : Checkpoint NodeName StateDict} {n : NodeName}
    {exc : Exc} (hs : (cfg.graph env).scheduled c = some n) (hne : n ≠ .hitlNode)
    (hn : (cfg.nodeProc n c.values).eval env = .error exc) :
    (cfg.graph env).loop (k + 1) r c =
      { visited := [n], thread := some c, outcome := .raised exc } :=
  StateGraph.loop_error hs (interruptBefore_eq_false hne) hn

/-- What `risk_node` reads passes through the nodes before it. -/
theorem whole_before_risk {u v : StateDict} (t : TradingSystemState)
    (hu : (signalNode cfg.redis cfg.blockedFn (afterRegime cfg env t.toDict)).eval env = .ok u)
    (hv : ∃ at_ count, v = ((afterRegime cfg env t.toDict).merge u).merge
      { lastReconciliationAt := at_, reconciliationMismatchesToday := count }) :
    v.pnlTodayPct = some t.pnlTodayPct ∧ v.openPositions = some t.openPositions := by
  rcases afterRegime_eq cfg env t.toDict with ⟨regime, confidence, -, hafter⟩
  rcases hv with ⟨at_, count, rfl⟩
  rw [hafter]
  rcases signalNode_ok hu with rfl | ⟨n, rfl⟩
  · exact ⟨rfl, rfl⟩
  · exact ⟨rfl, rfl⟩

/-- A cycle on a whole state either goes through four nodes to the routing step, or ends
with an exception in `signal_node`. -/
theorem invoke_cases (cfg : Config) (env : Env)
    (thread : Option (Checkpoint NodeName StateDict)) (s : TradingSystemState) :
    (ReadsAllowed cfg.redis env s.toDict ∧ ∃ u v w, ReachesRouting cfg env s.toDict u v w ∧
      (cfg.graph env).invoke cfg.runtime thread (some s.toDict) =
        { afterRisk cfg env w with
          visited := .regimeNode :: .signalNode :: .reconciliationNode :: .riskNode ::
            (afterRisk cfg env w).visited }) ∨
    (¬ ReadsAllowed cfg.redis env s.toDict ∧ ∃ exc,
      (cfg.graph env).invoke cfg.runtime thread (some s.toDict) =
        { visited := [.regimeNode, .signalNode]
          thread := some { values := afterRegime cfg env s.toDict, last := some .regimeNode }
          outcome := .raised exc }) := by
  rcases afterRegime_eq cfg env s.toDict with ⟨regime, confidence, hregime, hafter⟩
  have hinvoke : (cfg.graph env).invoke cfg.runtime thread (some s.toDict) =
      (cfg.graph env).loop (24 + 1) false { values := s.toDict, last := none } := by
    show (cfg.graph env).loop 25 false { values := StateDict.merge _ s.toDict, last := none } = _
    rw [StateDict.merge_toDict]
  rw [hinvoke, loop_node (n := .regimeNode) rfl (by decide) hregime, ← hafter]
  rw [← readsAllowed_afterRegime]
  set s₁ := afterRegime cfg env s.toDict with hs₁
  rcases signalNode_eval cfg.redis cfg.blockedFn s₁ env with ⟨hallowed, hok⟩ | ⟨hnot, exc, herror⟩
  · left
    obtain ⟨u, hsignal⟩ : ∃ u, (signalNode cfg.redis cfg.blockedFn s₁).eval env = .ok u := by
      rcases hok with h | ⟨n, h⟩
      · exact ⟨_, h⟩
      · exact ⟨_, h⟩
    rcases reconciliationNode_eval cfg.redis cfg.missingIsNone (s₁.merge u) env with
      ⟨at_, count, hrecon⟩
    rcases whole_before_risk s hsignal ⟨at_, count, rfl⟩ with ⟨hpnl, hpos⟩
    rcases riskNode_whole cfg.startingCapital cfg.missingIsNone env (Option.isSome_of_eq_some hpnl)
      (Option.isSome_of_eq_some hpos) with ⟨u', hrisk⟩
    refine ⟨hallowed, u, _, _, ⟨hsignal, ⟨at_, count, rfl⟩, u', hrisk, rfl⟩, ?_⟩
    have h2 := loop_node (k := 23) (r := false)
      (c := { values := s₁, last := some .regimeNode }) (n := .signalNode) rfl (by decide) hsignal
    have h3 := loop_node (k := 22) (r := false)
      (c := { values := s₁.merge u, last := some .signalNode }) (n := .reconciliationNode) rfl
      (by decide) hrecon
    have h4 := loop_node (k := 21) (r := false)
      (c := { values := (s₁.merge u).merge _, last := some .reconciliationNode })
      (n := .riskNode) rfl (by decide) hrisk
    rw [h2, h3, h4]
    rfl
  · right
    refine ⟨hnot, exc, ?_⟩
    have h2 := loop_raise (k := 23) (r := false)
      (c := { values := s₁, last := some .regimeNode }) (n := .signalNode) rfl (by decide) herror
    rw [h2]

/-! ## The end of a cycle -/

theorem halted_after_risk {startingCapital : ℚ} {missingIsNone : Bool} {u : StateDict}
    (hu : (riskNode startingCapital missingIsNone s).eval env = .ok u)
    (h : s.halted = true ∨ RiskStops missingIsNone s) : (s.merge u).halted = true := by
  rcases riskNode_ok hu with ⟨pnlPct, nowIso, rfl⟩ | ⟨hs, rfl⟩ | ⟨hs, hstops, -⟩
  · exact Bool.or_true _
  · rw [StateDict.merge_empty]
    exact hs
  · rcases h with h | h
    · exact absurd (hs.symm.trans h) Bool.false_ne_true
    · exact absurd h hstops

theorem routeAfterRisk_of_halted (h : s.halted = true) :
    routeAfterRisk s = some .killSwitchNode := by
  rw [routeAfterRisk, if_pos h]

/-- A halted state is routed to the kill switch. -/
theorem afterRisk_halted (h : s.halted = true) :
    afterRisk cfg env s =
      { visited := [.killSwitchNode]
        thread := some
          { values := s.merge (executeKill (env (.utcnow .killSwitchNode)))
            last := some .killSwitchNode }
        outcome := .returned (s.merge (executeKill (env (.utcnow .killSwitchNode)))) } := by
  have hroute : (cfg.graph env).scheduled { values := s, last := some .riskNode } =
      some .killSwitchNode := routeAfterRisk_of_halted h
  have hkill := loop_node (k := 20) (r := false) hroute (by decide)
    (u := executeKill (env (.utcnow .killSwitchNode))) rfl
  rw [afterRisk, hkill]
  rfl

/-- A request waits for approval, the counter untouched in the checkpoint. -/
theorem afterRisk_waits (hitl : cfg.enableHitl = true) (hs : s.halted = false)
    (hp : s.pending.isSome = true) :
    afterRisk cfg env s =
      { visited := [], thread := some { values := s, last := some .riskNode }
        outcome := .nothing } := by
  have hroute : (cfg.graph env).scheduled { values := s, last := some .riskNode } =
      some .hitlNode := by
    show routeAfterRisk s = _
    simp [routeAfterRisk, hs, hp]
  have hint : (cfg.graph env).interruptBefore .hitlNode = true := by
    show (cfg.enableHitl && true) = true
    rw [hitl]
    rfl
  rw [afterRisk, StateGraph.loop_interrupt hroute hint]

/-- Without a request that waits, the state is returned, the counter untouched. -/
theorem afterRisk_returns (cfg : Config) (env : Env)
    (h : cfg.enableHitl = false ∨ s.halted = true ∨ s.pending.isSome = false) :
    ∃ c, (afterRisk cfg env s).thread = some c ∧ c.values.signalsToday = s.signalsToday ∧
      (afterRisk cfg env s).outcome = .returned c.values := by
  cases hs : s.halted with
  | true =>
      rw [afterRisk_halted hs]
      exact ⟨_, rfl, rfl, rfl⟩
  | false =>
  cases hp : s.pending.isSome with
  | false =>
      have hroute : (cfg.graph env).scheduled { values := s, last := some .riskNode } = none := by
        show routeAfterRisk s = _
        simp [routeAfterRisk, hs, hp]
      rw [afterRisk, StateGraph.loop_end hroute]
      exact ⟨_, rfl, rfl, rfl⟩
  | true =>
      have hitl : cfg.enableHitl = false := by simpa [hs, hp] using h
      have hroute : (cfg.graph env).scheduled { values := s, last := some .riskNode } =
          some .hitlNode := by
        show routeAfterRisk s = _
        simp [routeAfterRisk, hs, hp]
      have hint : (cfg.graph env).interruptBefore .hitlNode = false := by
        show (cfg.enableHitl && true) = false
        rw [hitl]
        rfl
      have hnode : (cfg.graph env).node .hitlNode s =
          .ok { pendingHitlApproval := some none } := rfl
      rw [afterRisk, StateGraph.loop_ok hroute hint hnode]
      exact ⟨_, rfl, rfl, rfl⟩

/-- From the routing step on nothing is raised, and the counter of signals stays. -/
theorem afterRisk_ends (cfg : Config) (env : Env) (s : StateDict) :
    ∃ c, (afterRisk cfg env s).thread = some c ∧ c.values.signalsToday = s.signalsToday ∧
      ((afterRisk cfg env s).outcome = .nothing ∨
        (afterRisk cfg env s).outcome = .returned c.values) := by
  by_cases h : cfg.enableHitl = false ∨ s.halted = true ∨ s.pending.isSome = false
  · rcases afterRisk_returns cfg env h with ⟨c, hthread, hsignals, hreturned⟩
    exact ⟨c, hthread, hsignals, .inr hreturned⟩
  · simp only [not_or, Bool.not_eq_false, Bool.not_eq_true] at h
    rw [afterRisk_waits h.1 h.2.1 h.2.2]
    exact ⟨_, rfl, rfl, .inl rfl⟩

/-! ## Kill before approval -/

/-- Redis holds the key, read through a configured client. -/
def KeyPresent (cfg : Config) (env : Env) (key : String) : Prop :=
  cfg.redis = true ∧ ∃ raw, env (.get key) = .ok (some raw)

/-- No Redis call raises. -/
def NoRedisError (env : Env) : Prop :=
  (∀ key, ∃ value, env (.get key) = .ok value) ∧
    ∀ stream count, ∃ entries, env (.xrevrange stream count) = .ok entries

theorem readsAllowed_of_noRedisError (h : NoRedisError env) (redis : Bool) :
    ReadsAllowed redis env s := by
  rcases h.1 killSwitchHaltedKey with ⟨halted, hget⟩
  cases halted with
  | some raw => exact .inr (.inr (.inl ⟨raw, hget⟩))
  | none => exact .inr (.inr (.inr ⟨hget, h.1 ingestionDegradedRedisKey⟩))

theorem afterRegime_halted (cfg : Config) (env : Env) (s : StateDict) :
    (afterRegime cfg env s).halted = s.halted := by
  rcases afterRegime_eq cfg env s with ⟨regime, confidence, -, heq⟩
  rw [heq]
  rfl

/-- A halted state, or the halted key: the state is halted after `signal_node`. -/
theorem signalNode_halts {u : StateDict}
    (hu : (signalNode cfg.redis cfg.blockedFn s).eval env = .ok u)
    (h : s.halted = true ∨ KeyPresent cfg env killSwitchHaltedKey) : (s.merge u).halted = true := by
  cases hs : s.halted with
  | true =>
      rcases signalNode_ok hu with rfl | ⟨n, rfl⟩
      · exact Bool.true_or _
      · exact hs
  | false =>
      rcases h with h | ⟨hredis, raw, hget⟩
      · exact absurd (hs.symm.trans h) Bool.false_ne_true
      · have hkill : (signalNode cfg.redis cfg.blockedFn s).eval env =
            .ok { killSwitchActive := some true } := by
          simp [signalNode, hs, hredis, hget, update]
        rw [Except.ok.inj (hu.symm.trans hkill)]
        exact Bool.true_or _

/-- The flags on entry, or the halted key, halt the state before `risk_node`. -/
theorem halted_before_risk {u v w : StateDict} (h : ReachesRouting cfg env s u v w)
    (hentry : s.halted = true ∨ KeyPresent cfg env killSwitchHaltedKey) : v.halted = true := by
  rcases h with ⟨hsignal, ⟨at_, count, rfl⟩, -⟩
  rw [← afterRegime_halted cfg env] at hentry
  show ((afterRegime cfg env s).merge u).halted = true
  exact signalNode_halts hsignal hentry

/-- What keeps `signal_node` from counting: the flags, the keys, or the regime. -/
def Gated (cfg : Config) (env : Env) (s : StateDict) : Prop :=
  s.halted = true ∨ KeyPresent cfg env killSwitchHaltedKey ∨
    KeyPresent cfg env ingestionDegradedRedisKey ∨ s.marketRegime = some "HIGH_VOL_CHAOS"

theorem signalNode_gated {u : StateDict} (h : Gated cfg env s)
    (hu : (signalNode cfg.redis cfg.blockedFn s).eval env = .ok u) : u.signalsToday = none := by
  cases hs : s.halted with
  | true =>
      simp only [signalNode, hs, update, if_true, Proc.eval_ret, Except.ok.injEq] at hu
      rw [← hu]
  | false =>
  cases hredis : cfg.redis with
  | false =>
      simp only [signalNode, hs, hredis, update, if_false, Bool.false_eq_true, Proc.eval_ret,
        Except.ok.injEq] at hu
      rw [← hu]
  | true =>
  simp only [signalNode, hs, hredis, if_true, if_false, Bool.false_eq_true, Proc.eval_call] at hu
  cases hget : env (.get killSwitchHaltedKey) with
  | error exc => simp [hget, raise] at hu
  | ok halted =>
  cases halted with
  | some raw =>
      simp only [hget, update, Proc.eval_ret, Except.ok.injEq] at hu
      rw [← hu]
  | none =>
  cases hdeg : env (.get ingestionDegradedRedisKey) with
  | error exc => simp [hget, hdeg, raise] at hu
  | ok degraded =>
  cases degraded with
  | some raw =>
      simp only [hget, hdeg, update, Proc.eval_call, Proc.eval_ret, Except.ok.injEq] at hu
      rw [← hu]
  | none =>
      -- both keys are absent, so it is the regime
      have hchaos : s.marketRegime = some "HIGH_VOL_CHAOS" := by
        simpa [Gated, KeyPresent, hs, hget, hdeg] using h
      simp only [hget, hdeg, hchaos, update, Proc.eval_call, Proc.eval_ret, if_true,
        Except.ok.injEq] at hu
      rw [← hu]

/-- Only `signal_node` writes the counter on the way to the routing step. -/
theorem signalsToday_of_reaches {u v w : StateDict} (h : ReachesRouting cfg env s u v w) :
    w.signalsToday = u.signalsToday.or s.signalsToday := by
  rcases h with ⟨-, ⟨at_, count, rfl⟩, u', hrisk, rfl⟩
  rcases afterRegime_eq cfg env s with ⟨regime, confidence, -, hafter⟩
  have hnone : u'.signalsToday = none := by
    rcases riskNode_ok hrisk with ⟨pnlPct, nowIso, rfl⟩ | ⟨-, rfl⟩ | ⟨-, -, pending, rfl⟩
    · rfl
    · rfl
    · rfl
  simp [hafter, hnone]

theorem signalsToday_of_gated {u v w : StateDict} (h : ReachesRouting cfg env s u v w)
    (hgated : Gated cfg env (afterRegime cfg env s)) : w.signalsToday = s.signalsToday := by
  rw [signalsToday_of_reaches h, signalNode_gated hgated h.signal]
  rfl

/-- The ways in which a cycle is bound to the kill switch. -/
def MustKill (cfg : Config) (env : Env) (t : TradingSystemState) : Prop :=
  t.killSwitchActive = true ∨ t.circuitBreakerActive = true ∨
    KeyPresent cfg env killSwitchHaltedKey ∨ t.pnlTodayPct ≤ circuitBreakerPct

theorem toDict_halted (t : TradingSystemState) :
    t.toDict.halted = (t.killSwitchActive || t.circuitBreakerActive) := rfl

/-- A cycle that comes to the routing step ends with the kill switch. -/
theorem afterRisk_of_mustKill {t : TradingSystemState} {u v w : StateDict}
    (h : ReachesRouting cfg env t.toDict u v w) (hkill : MustKill cfg env t) :
    w.halted = true := by
  rcases h with ⟨hsignal, hrecon, u', hrisk, rfl⟩
  have hreach : ReachesRouting cfg env t.toDict u v (v.merge u') :=
    ⟨hsignal, hrecon, u', hrisk, rfl⟩
  apply halted_after_risk hrisk
  rcases hkill with hk | hcb | hkey | hpnl
  · exact .inl (halted_before_risk hreach (.inl (by rw [toDict_halted, hk, Bool.true_or])))
  · exact .inl (halted_before_risk hreach (.inl (by rw [toDict_halted, hcb, Bool.or_true])))
  · exact .inl (halted_before_risk hreach (.inr hkey))
  · right
    rw [RiskStops, (whole_before_risk t hsignal hrecon).1]
    exact hpnl

/-- With Redis answering, a cycle that must kill ends killed, without a pending request and
without `hitl_node`; and a cycle that is gated counts no signal. -/
theorem kill_preempts (cfg : Config) (env : Env) (henv : NoRedisError env)
    (o : OrchestratorGraph) (t : TradingSystemState) :
    (MustKill cfg env t → ∃ values,
      (o.runCycle cfg env (some t)).2.outcome = .returned values ∧
      (o.runCycle cfg env (some t)).1.state = values ∧
      values.killSwitchActive = some true ∧ values.pendingHitlApproval = some none ∧
      .hitlNode ∉ (o.runCycle cfg env (some t)).2.visited) ∧
    (Gated cfg env (afterRegime cfg env t.toDict) → ∃ c,
      (o.runCycle cfg env (some t)).1.thread = some c ∧
      c.values.signalsToday = some t.signalsToday ∧
      ((o.runCycle cfg env (some t)).2.outcome = .nothing ∨
        (o.runCycle cfg env (some t)).2.outcome = .returned c.values)) := by
  rcases invoke_cases cfg env o.thread t with ⟨-, u, v, w, hreach, hinvoke⟩ | ⟨hnot, -⟩
  · have hrun : o.runCycle cfg env (some t) = o.adopt _ := congrArg o.adopt hinvoke
    rw [hrun]
    constructor
    · intro hkill
      rw [afterRisk_halted (afterRisk_of_mustKill hreach hkill)]
      refine ⟨_, rfl, rfl, rfl, rfl, ?_⟩
      show NodeName.hitlNode ∉
        [.regimeNode, .signalNode, .reconciliationNode, .riskNode, .killSwitchNode]
      decide
    · intro hgated
      rcases afterRisk_ends cfg env w with ⟨c, hthread, hsignals, hend⟩
      refine ⟨c, hthread, ?_, hend⟩
      rw [hsignals, signalsToday_of_gated hreach hgated]
      rfl
  · exact absurd (readsAllowed_of_noRedisError henv cfg.redis) hnot

/-- An environment with empty streams and no keys. -/
def quietEnv : Env
  | .xrevrange _ _ => .ok []
  | .get _ => .ok none
  | .blocked _ _ => .ok false
  | .utcnow _ => "2026-07-02T10:00:00"

/-- An orchestrator with a Redis client and no block callback. -/
def plainConfig : Config :=
  { redis := true, blockedFn := false, missingIsNone := true
    runtime := { idle := .raises, updatesEmptyThread := true } }

theorem noRedisError_quietEnv : NoRedisError quietEnv :=
  ⟨fun _ => ⟨none, rfl⟩, fun _ _ => ⟨[], rfl⟩⟩

/-- A loss of 3% ends a cycle in the kill switch, although a request was pending. -/
theorem loss_preempts_pending_request :
    ∃ values, ((OrchestratorGraph.init "2026-07-02").runCycle plainConfig quietEnv (some
        { makeInitialState "2026-07-02" with
          pnlTodayPct := -3 / 100
          pendingHitlApproval := some ⟨"INFY", 75000, 3 / 40, "2026-07-02T09:59:00"⟩ })).2.outcome =
        .returned values ∧
      values.killSwitchActive = some true ∧ values.pendingHitlApproval = some none := by
  rcases (kill_preempts plainConfig quietEnv noRedisError_quietEnv
    (OrchestratorGraph.init "2026-07-02")
    { makeInitialState "2026-07-02" with
      pnlTodayPct := -3 / 100
      pendingHitlApproval := some ⟨"INFY", 75000, 3 / 40, "2026-07-02T09:59:00"⟩ }).1
    (.inr (.inr (.inr (by norm_num [circuitBreakerPct])))) with ⟨values, hreturned, -, hk, hp, -⟩
  exact ⟨values, hreturned, hk, hp⟩

/-! ## Redis failures -/

/-- The cycle completes and runs `risk_node`, and a daily loss of 2% leaves it killed. -/
def Contained (cfg : Config) (env : Env) (o : OrchestratorGraph) (t : TradingSystemState) : Prop :=
  (∀ exc, (o.runCycle cfg env (some t)).2.outcome ≠ .raised exc) ∧
    .riskNode ∈ (o.runCycle cfg env (some t)).2.visited ∧
    (t.pnlTodayPct ≤ circuitBreakerPct →
      (o.runCycle cfg env (some t)).1.state.killSwitchActive = some true)

/-- Exactly when the failures of Redis are contained: no client is configured, the system is
halted on entry, or the read of the halted key does not raise and, if it finds nothing,
neither does the read of the degraded key. -/
theorem contained_iff (cfg : Config) (env : Env) (o : OrchestratorGraph)
    (t : TradingSystemState) :
    Contained cfg env o t ↔ ReadsAllowed cfg.redis env t.toDict := by
  rcases invoke_cases cfg env o.thread t with
    ⟨hallowed, u, v, w, hreach, hinvoke⟩ | ⟨hnot, exc, hinvoke⟩
  · refine iff_of_true ?_ hallowed
    have hrun : o.runCycle cfg env (some t) = o.adopt _ := congrArg o.adopt hinvoke
    rw [Contained, hrun]
    refine ⟨?_, ?_, ?_⟩
    · intro exc
      rcases afterRisk_ends cfg env w with ⟨c, -, -, hend⟩
      show (afterRisk cfg env w).outcome ≠ .raised exc
      rcases hend with hend | hend
      · rw [hend]
        exact fun h => nomatch h
      · rw [hend]
        exact fun h => nomatch h
    · show NodeName.riskNode ∈ .regimeNode :: .signalNode :: .reconciliationNode :: .riskNode ::
        (afterRisk cfg env w).visited
      simp
    · intro hpnl
      rw [afterRisk_halted (afterRisk_of_mustKill hreach (.inr (.inr (.inr hpnl))))]
      rfl
  · refine iff_of_false ?_ hnot
    intro hcontained
    have hrun : o.runCycle cfg env (some t) = o.adopt _ := congrArg o.adopt hinvoke
    rw [Contained, hrun] at hcontained
    exact hcontained.1 exc rfl

/-- An environment in which every read of a key raises. -/
def brokenEnv : Env
  | .xrevrange _ _ => .ok []
  | .get _ => .error .redisError
  | .blocked _ _ => .ok false
  | .utcnow _ => "2026-07-02T10:00:00"

/-- A failing read of the halted key ends the cycle before `risk_node`. -/
theorem failing_read_escapes :
    ¬ ∀ (cfg : Config) (env : Env) (o : OrchestratorGraph) (t : TradingSystemState),
      Contained cfg env o t := by
  intro h
  have hcontained := h plainConfig brokenEnv (OrchestratorGraph.init "2026-07-02")
    { makeInitialState "2026-07-02" with pnlTodayPct := -3 / 100 }
  exact hcontained.1 .redisError rfl

end Intraday.Orchestrator
