import Intraday.Orchestrator.Session

/-!
# Intraday.Orchestrator.Approval — rounds of cycle and approval

A cycle asks for approval of the first position above the threshold and waits; `approve_hitl`
lets it go on and clears the request. Nothing remembers what was approved, so in a state that
stays as it is every cycle asks for the same position again: `quiet_round` says what one round
does, whatever the state, and `hitl_covers_iff` that the large positions are asked for one by
one only when there are none.
-/

namespace Intraday.Orchestrator

open Intraday.Core Intraday.Lib Intraday.Lib.Python

/-! ## Rounds -/

/-- The position exceeds the threshold share of capital. -/
def Large (startingCapital : ℚ) (pos : Position) : Prop :=
  hitlCapitalThresholdPct * startingCapital < positionValue pos

instance (startingCapital : ℚ) (pos : Position) : Decidable (Large startingCapital pos) :=
  inferInstanceAs (Decidable (_ < _))

/-- The large ones of the open positions. -/
def largePositions (startingCapital : ℚ) (positions : Dict String Position) :
    List (String × Position) :=
  positions.entries.filter fun p => decide (Large startingCapital p.2)

/-- The symbol whose approval the orchestrator waits for. -/
def requested (o : OrchestratorGraph) : Option String :=
  match o.thread with
  | none => none
  | some c => if nextNode c = some .hitlNode then c.values.pending.map HitlRequest.symbol else none

/-- A round: `run_cycle`, and `approve_hitl` after it. It replies with what was requested. -/
def rounds (cfg : Config) : Machine OrchestratorGraph (Env × Env) (Option String) where
  step o e :=
    let waiting := (o.runCycle cfg e.1 none).1
    ((waiting.approveHitl cfg e.2).1, requested waiting)

/-- As many rounds as there are large positions request each of them once, and one more cycle
requests none. -/
def Covers (cfg : Config) (positions : Dict String Position) (o : OrchestratorGraph) : Prop :=
  ∀ (envs : List (Env × Env)) (env : Env),
    envs.length = (largePositions cfg.startingCapital positions).length →
    (∀ p ∈ largePositions cfg.startingCapital positions,
      (((rounds cfg).trans o envs).map Trans.reply).count (some p.1) = 1) ∧
    requested (((rounds cfg).run o envs).runCycle cfg env none).1 = none

/-- An orchestrator with the state `t`, these positions and no request. -/
def withPositions (t : TradingSystemState) (positions : Dict String Position) :
    OrchestratorGraph :=
  { state := { t with openPositions := positions, pendingHitlApproval := none }.toDict
    thread := none }

theorem firstLarge_of_none_large {startingCapital : ℚ} {l : List (String × Position)}
    (h : ∀ p ∈ l, ¬ Large startingCapital p.2) : firstLarge startingCapital l = none := by
  induction l with
  | nil => rfl
  | cons p l ih =>
      rw [List.forall_mem_cons] at h
      have hsmall : ¬ (0 < startingCapital ∧
          hitlCapitalThresholdPct < positionValue p.2 / startingCapital) := by
        rintro ⟨hpos, hlt⟩
        exact h.1 ((lt_div_iff₀ hpos).mp hlt)
      rw [firstLarge, if_neg hsmall]
      exact ih h.2

/-! ## Between rounds -/

variable {cfg : Config} {env : Env} {positions : Dict String Position} {live : Bool}
  {s u v w : StateDict} {o : OrchestratorGraph}

/-- A whole state with these positions and no request; `live` says whether `risk_node` comes to
look at them. -/
structure Ready (positions : Dict String Position) (live : Bool) (s : StateDict) : Prop where
  whole : s.Whole
  positions : s.openPositions = some positions
  idle : s.pendingHitlApproval = some none
  live : live = true ↔ s.halted = false ∧ ∃ pnl, s.pnlTodayPct = some pnl ∧ circuitBreakerPct < pnl

/-- An update of other keys. -/
theorem Ready.merge (h : Ready positions live s) (hpos : u.openPositions = none)
    (hpending : u.pendingHitlApproval = none) (hkill : u.killSwitchActive = none)
    (hcb : u.circuitBreakerActive = none) (hpnl : u.pnlTodayPct = none) :
    Ready positions live (s.merge u) where
  whole := h.whole.merge u
  positions := by rw [StateDict.merge_openPositions, hpos, h.positions]; rfl
  idle := by rw [StateDict.merge_pendingHitlApproval, hpending, h.idle]; rfl
  live := by
    rw [h.live]
    simp [StateDict.halted, hkill, hcb, hpnl]

/-- A halted state stays out of the way of `risk_node`. -/
theorem Ready.halt (h : Ready positions false s) (hpos : u.openPositions = none)
    (hpending : u.pendingHitlApproval = none ∨ u.pendingHitlApproval = some none)
    (hhalted : (s.merge u).halted = true) : Ready positions false (s.merge u) where
  whole := h.whole.merge u
  positions := by rw [StateDict.merge_openPositions, hpos, h.positions]; rfl
  idle := by
    rcases hpending with hnone | hsome
    · rw [StateDict.merge_pendingHitlApproval, hnone, h.idle]; rfl
    · rw [StateDict.merge_pendingHitlApproval, hsome]; rfl
  live := by simp [hhalted]

theorem Ready.pending (h : Ready positions live s) : s.pending = none := by
  rw [StateDict.pending, h.idle]
  rfl

/-- The routing step as `risk_node` leaves it: halted, or with the first large position, if
there is one, as the request. -/
theorem routing_cases (h : Ready positions live v)
    (hrisk : ∃ u', (riskNode cfg.startingCapital cfg.missingIsNone v).eval env = .ok u' ∧
      w = v.merge u') :
    (live = false ∧ w.halted = true ∧ Ready positions false w) ∨
    (live = true ∧ firstLarge cfg.startingCapital positions.entries = none ∧ w = v) ∨
    ∃ request, live = true ∧ w = v.merge { pendingHitlApproval := some (some request) } ∧
      (firstLarge cfg.startingCapital positions.entries).map Prod.fst = some request.symbol := by
  rcases hrisk with ⟨u', hu', rfl⟩
  cases live with
  | true =>
      right
      rcases h.live.mp rfl with ⟨hs, pnl, hpnl, hlt⟩
      have hcb : ¬ (pnl ≤ circuitBreakerPct ∧ ¬ v.circuitBreakerActive.getD false) := by
        rintro ⟨hle, -⟩
        exact absurd hlt (not_lt.mpr hle)
      have hnode : riskNode cfg.startingCapital cfg.missingIsNone v =
          requestHitl cfg.startingCapital positions := by
        simp only [riskNode, hpnl, riskOn, if_neg hcb, hs, h.positions, Bool.false_eq_true,
          if_false]
      rw [hnode, requestHitl] at hu'
      cases hfirst : firstLarge cfg.startingCapital positions.entries with
      | none =>
          rw [hfirst] at hu'
          left
          rw [← Except.ok.inj hu', StateDict.merge_empty]
          exact ⟨rfl, rfl, rfl⟩
      | some found =>
          rw [hfirst] at hu'
          right
          exact ⟨_, rfl, by rw [← Except.ok.inj hu'], rfl⟩
  | false =>
      left
      refine ⟨rfl, ?_⟩
      rcases riskNode_ok hu' with ⟨pnlPct, nowIso, rfl⟩ | ⟨hs, rfl⟩ | ⟨hs, hstops, -⟩
      · have hhalted : (v.merge (breakCircuit pnlPct nowIso)).halted = true := Bool.or_true _
        exact ⟨hhalted, h.halt rfl (Or.inl rfl) hhalted⟩
      · rw [StateDict.merge_empty]
        exact ⟨hs, h⟩
      · -- neither halted nor stopped by the P&L: then it would look at the positions
        rcases h.whole with ⟨t, rfl⟩
        have hlt : circuitBreakerPct < t.pnlTodayPct := not_le.mp hstops
        exact absurd (h.live.mpr ⟨hs, t.pnlTodayPct, rfl, hlt⟩) Bool.false_ne_true

/-! ## One round -/

/-- What the nodes before `risk_node` leave is ready as before, unless the kill flag is raised. -/
theorem ready_before_risk (h : Ready positions live s)
    (hv : ∃ at_ count, v = ((afterRegime cfg env s).merge u).merge
      { lastReconciliationAt := at_, reconciliationMismatchesToday := count })
    (hu : (∃ n, u = { signalsToday := n }) ∨ u = { killSwitchActive := some true }) :
    Ready positions (live && u.killSwitchActive.isNone) v := by
  rcases afterRegime_eq cfg env s with ⟨regime, confidence, -, hafter⟩
  rcases hv with ⟨at_, count, rfl⟩
  have hregime : Ready positions live (afterRegime cfg env s) := by
    rw [hafter]
    exact h.merge rfl rfl rfl rfl rfl
  rcases hu with ⟨n, rfl⟩ | rfl
  · rw [Option.isNone_none, Bool.and_true]
    exact (hregime.merge rfl rfl rfl rfl rfl).merge rfl rfl rfl rfl rfl
  · rw [Option.isNone_some, Bool.and_false]
    refine Ready.merge ?_ rfl rfl rfl rfl rfl
    exact ⟨hregime.whole.merge _, hregime.positions, hregime.idle, by simp [StateDict.halted]⟩

/-- Where a cycle ends that stops before the routing step, or is halted there. -/
theorem requested_of_thread {c : Checkpoint NodeName StateDict} (h : o.thread = some c)
    (hnext : nextNode c ≠ some .hitlNode) : requested o = none := by
  simp only [requested, h]
  rw [if_neg hnext]

/-- In no environment does a cycle ask for a position when none is large. -/
theorem requested_eq_none (cfg : Config) (env : Env) (h : Ready positions live o.state)
    (hfirst : firstLarge cfg.startingCapital positions.entries = none) :
    requested (o.runCycle cfg env none).1 = none := by
  rcases o with ⟨s, thread⟩
  rcases h.whole with ⟨t, ht⟩
  obtain rfl : s = t.toDict := ht
  rcases invoke_cases cfg env thread t with
    ⟨-, u, v, w, hreach, hinvoke⟩ | ⟨-, exc, hinvoke⟩
  · have hthread : ((OrchestratorGraph.mk t.toDict thread).runCycle cfg env none).1.thread =
        (afterRisk cfg env w).thread := by
      show ((cfg.graph env).invoke cfg.runtime thread (some t.toDict)).thread = _
      rw [hinvoke]
    have hv := ready_before_risk h hreach.reconciled (signalNode_ok hreach.signal).symm
    rcases routing_cases hv hreach.risk with ⟨-, hhalted, -⟩ | ⟨hlive, -, rfl⟩ | ⟨r, -, -, hsome⟩
    · rw [afterRisk_halted hhalted] at hthread
      exact requested_of_thread hthread (by simp [nextNode, edge])
    · have hs : w.halted = false := (hv.live.mp hlive).1
      have hroute : nextNode { values := w, last := some .riskNode } = none := by
        show routeAfterRisk w = none
        simp [routeAfterRisk, hs, hv.pending]
      rw [afterRisk, StateGraph.loop_end (scheduled_eq.trans hroute)] at hthread
      refine requested_of_thread hthread ?_
      rw [hroute]
      decide
    · rw [hfirst] at hsome
      cases hsome
  · have hthread : ((OrchestratorGraph.mk t.toDict thread).runCycle cfg env none).1.thread =
        some { values := afterRegime cfg env t.toDict, last := some .regimeNode } := by
      show ((cfg.graph env).invoke cfg.runtime thread (some t.toDict)).thread = _
      rw [hinvoke]
    exact requested_of_thread hthread (by simp [nextNode, edge])

/-- Without keys and entries in Redis, `signal_node` leaves the flags alone. -/
theorem signalNode_quiet (redis blockedFn : Bool) (s : StateDict) :
    (signalNode redis blockedFn s).eval quietEnv = .ok {} := by
  cases hs : s.halted with
  | true => simp [signalNode, hs, update]
  | false =>
  cases redis with
  | false => simp [signalNode, hs, update]
  | true =>
      by_cases hregime : s.marketRegime = some "HIGH_VOL_CHAOS"
      · simp [signalNode, hs, quietEnv, hregime, update]
      · simp [signalNode, hs, quietEnv, hregime, consumeSignal, update]

/-- When nothing is left to run, `approve_hitl` changes nothing. -/
theorem approveHitl_idle {c : Checkpoint NodeName StateDict} (hthread : o.thread = some c)
    (hnext : nextNode c = none) (hvalues : c.values = o.state) :
    (o.approveHitl cfg env).1.state = o.state := by
  have hidle : (cfg.graph env).invoke cfg.runtime o.thread none =
      StateGraph.idle cfg.runtime (some c) := by
    rw [hthread]
    simp [StateGraph.invoke, scheduled_eq, hnext]
  rw [OrchestratorGraph.approveHitl, hidle]
  cases hrt : cfg.runtime.idle with
  | raises => simp [StateGraph.idle, hrt, OrchestratorGraph.adopt]
  | returnsNone => simp [StateGraph.idle, hrt, OrchestratorGraph.adopt]
  | returnsValues => simp [StateGraph.idle, hrt, OrchestratorGraph.adopt, hvalues]

/-- The request of every cycle of a quiet day. -/
def standing (cfg : Config) (positions : Dict String Position) (live : Bool) : Option String :=
  if cfg.enableHitl && live then (firstLarge cfg.startingCapital positions.entries).map Prod.fst
  else none

/-- What one round does in a quiet environment: the standing request, and the state is ready
for the same again. -/
theorem quiet_round (cfg : Config) (h : Ready positions live o.state) :
    requested (o.runCycle cfg quietEnv none).1 = standing cfg positions live ∧
      Ready positions live ((o.runCycle cfg quietEnv none).1.approveHitl cfg quietEnv).1.state := by
  rcases o with ⟨s, thread⟩
  rcases h.whole with ⟨t, ht⟩
  obtain rfl : s = t.toDict := ht
  rcases invoke_cases cfg quietEnv thread t with
    ⟨-, u, v, w, hreach, hinvoke⟩ | ⟨hnot, -⟩
  swap
  · exact absurd (readsAllowed_of_noRedisError noRedisError_quietEnv cfg.redis) hnot
  have hu : u = {} := Except.ok.inj (hreach.signal.symm.trans (signalNode_quiet _ _ _))
  have hv : Ready positions live v := by
    have hv := ready_before_risk h hreach.reconciled (Or.inl ⟨none, hu⟩)
    rwa [hu, Option.isNone_none, Bool.and_true] at hv
  set o₁ := ((OrchestratorGraph.mk t.toDict thread).runCycle cfg quietEnv none).1 with ho₁
  have hrun : o₁ = (OrchestratorGraph.adopt ⟨t.toDict, thread⟩
      ((cfg.graph quietEnv).invoke cfg.runtime thread (some t.toDict))).1 := rfl
  rw [hinvoke] at hrun
  -- a cycle that ends with a state leaves nothing for `approve_hitl`
  have hended : ∀ c, (afterRisk cfg quietEnv w).thread = some c → nextNode c = none →
      (afterRisk cfg quietEnv w).outcome = .returned c.values → Ready positions live c.values →
      requested o₁ = none ∧ Ready positions live (o₁.approveHitl cfg quietEnv).1.state := by
    intro c hthread hnext houtcome hc
    have hthread₁ : o₁.thread = some c := by rw [hrun]; exact hthread
    have hstate₁ : o₁.state = c.values := by rw [hrun]; exact adopt_returned houtcome
    constructor
    · exact requested_of_thread hthread₁ (by rw [hnext]; decide)
    · rw [approveHitl_idle hthread₁ hnext hstate₁.symm, hstate₁]
      exact hc
  rcases routing_cases hv hreach.risk with
    ⟨rfl, hhalted, hw⟩ | ⟨rfl, hfirst, rfl⟩ | ⟨r, rfl, rfl, hfirst⟩
  · -- halted: the kill switch
    have hstanding : standing cfg positions false = none := by simp [standing]
    rw [hstanding]
    have hkill := @afterRisk_halted cfg quietEnv w hhalted
    set killed := executeKill (quietEnv (.utcnow .killSwitchNode)) with hkilled
    exact hended { values := w.merge killed, last := some .killSwitchNode } (by rw [hkill]) rfl
      (by rw [hkill]) (hw.halt rfl (Or.inr rfl) rfl)
  · -- no large position
    have hstanding : standing cfg positions true = none := by simp [standing, hfirst]
    rw [hstanding]
    have hroute : nextNode { values := w, last := some .riskNode } = none := by
      show routeAfterRisk w = none
      simp [routeAfterRisk, (hv.live.mp rfl).1, hv.pending]
    have hend : afterRisk cfg quietEnv w = _ := StateGraph.loop_end (scheduled_eq.trans hroute)
    exact hended { values := w, last := some .riskNode } (by rw [hend]) hroute (by rw [hend]) hv
  · -- the first large position is requested
    set w := v.merge { pendingHitlApproval := some (some r) } with hw
    have hs : w.halted = false := (hv.live.mp rfl).1
    have hp : w.pending = some r := rfl
    have hcleared : Ready positions true (w.merge { pendingHitlApproval := some none }) :=
      ⟨(hv.whole.merge _).merge _, hv.positions, rfl, hv.live⟩
    have hroute : nextNode { values := w, last := some .riskNode } = some .hitlNode := by
      show routeAfterRisk w = _
      simp [routeAfterRisk, hs, hp]
    cases hitl : cfg.enableHitl with
    | false =>
        -- no interrupt: the request is gone when the cycle returns
        have hstanding : standing cfg positions true = none := by simp [standing, hitl]
        rw [hstanding]
        have hint : (cfg.graph quietEnv).interruptBefore .hitlNode = false := by
          show (cfg.enableHitl && true) = false
          rw [hitl]
          rfl
        have hend : afterRisk cfg quietEnv w = _ :=
          StateGraph.loop_ok (scheduled_eq.trans hroute) hint
            (show (cfg.graph quietEnv).node .hitlNode w =
              .ok { pendingHitlApproval := some none } from rfl)
        exact hended
          { values := w.merge { pendingHitlApproval := some none }, last := some .hitlNode }
          (by rw [hend]; rfl) rfl (by rw [hend]; rfl) hcleared
    | true =>
        have hstanding : standing cfg positions true = some r.symbol := by
          simp [standing, hitl, hfirst]
        rw [hstanding]
        have hwaits := @afterRisk_waits cfg quietEnv w hitl hs (by rw [hp]; rfl)
        have hthread₁ : o₁.thread = some { values := w, last := some .riskNode } := by
          rw [hrun]
          show (afterRisk cfg quietEnv w).thread = _
          rw [hwaits]
        constructor
        · simp only [requested, hthread₁]
          rw [if_pos hroute, hp]
          rfl
        · have hresume : ((cfg.graph quietEnv).invoke cfg.runtime o₁.thread none).outcome =
              .returned (w.merge { pendingHitlApproval := some none }) := by
            rw [hthread₁]
            simp only [StateGraph.invoke, scheduled_eq, hroute, Option.isNone_some,
              Bool.false_eq_true, if_false]
            rw [show StateGraph.recursionLimit = 24 + 1 from rfl,
              StateGraph.loop_resume (scheduled_eq.trans hroute)
                (show (cfg.graph quietEnv).node .hitlNode w =
                  .ok { pendingHitlApproval := some none } from rfl)]
            rfl
          rw [OrchestratorGraph.approveHitl, adopt_returned hresume]
          exact hcleared

/-! ## All rounds -/

/-- Every round of a quiet day requests the same. -/
theorem quiet_rounds (cfg : Config) (n : ℕ) (h : Ready positions live o.state) :
    ((rounds cfg).trans o (List.replicate n (quietEnv, quietEnv))).map Trans.reply =
        List.replicate n (standing cfg positions live) ∧
      Ready positions live
        ((rounds cfg).run o (List.replicate n (quietEnv, quietEnv))).state := by
  induction n generalizing o with
  | zero => exact ⟨rfl, h⟩
  | succ n ih =>
      rcases quiet_round cfg h with ⟨hreq, hnext⟩
      rcases ih (o := (rounds cfg).next o (quietEnv, quietEnv)) hnext with ⟨hrest, hready⟩
      rw [List.replicate_succ, Machine.trans_cons, List.map_cons, hrest, List.replicate_succ]
      exact ⟨congrArg (· :: _) hreq, hready⟩

theorem ready_withPositions (t : TradingSystemState) (positions : Dict String Position) :
    Ready positions
      (decide ((withPositions t positions).state.halted = false ∧
        circuitBreakerPct < t.pnlTodayPct)) (withPositions t positions).state where
  whole := ⟨_, rfl⟩
  positions := rfl
  idle := rfl
  live := by
    rw [decide_eq_true_iff]
    constructor
    · rintro ⟨hs, hlt⟩
      exact ⟨hs, t.pnlTodayPct, rfl, hlt⟩
    · rintro ⟨hs, pnl, hpnl, hlt⟩
      cases hpnl
      exact ⟨hs, hlt⟩

/-- Exactly which open positions are covered: those without a large one. -/
theorem hitl_covers_iff (cfg : Config) (t : TradingSystemState)
    (positions : Dict String Position) :
    Covers cfg positions (withPositions t positions) ↔
      ∀ p ∈ positions.entries, ¬ Large cfg.startingCapital p.2 := by
  have hready := ready_withPositions t positions
  constructor
  · intro hcovers p hp hlarge
    have hmem : p ∈ largePositions cfg.startingCapital positions :=
      List.mem_filter.mpr ⟨hp, decide_eq_true hlarge⟩
    rcases hcovers (List.replicate (largePositions cfg.startingCapital positions).length
      (quietEnv, quietEnv)) quietEnv List.length_replicate with ⟨honce, hlast⟩
    rcases quiet_rounds cfg (largePositions cfg.startingCapital positions).length hready with
      ⟨hreplies, hend⟩
    -- the request of the further cycle is that of every cycle before
    have hstanding := (quiet_round cfg hend).1.symm.trans hlast
    have hcount := honce p hmem
    rw [hreplies, hstanding, List.count_replicate] at hcount
    simp at hcount
  · intro hnone envs env hlen
    have hlarge : largePositions cfg.startingCapital positions = [] := by
      rw [largePositions, List.filter_eq_nil_iff]
      intro p hp
      rw [decide_eq_true_iff]
      exact hnone p hp
    rw [hlarge] at hlen ⊢
    obtain rfl := List.length_eq_zero_iff.mp hlen
    refine ⟨fun _ h => absurd h List.not_mem_nil, ?_⟩
    exact requested_eq_none cfg env hready (firstLarge_of_none_large hnone)

/-- Positions of 8% and 6% of capital. -/
def twoLarge : Dict String Position :=
  (Dict.empty.set "INFY" ⟨some (.number 50), some (.number 1600)⟩).set "TCS"
    ⟨some (.number 20), some (.number 3000)⟩

/-- Both rounds ask for `INFY`, and `TCS` is never asked for. -/
theorem second_large_never_requested :
    ¬ ∀ (cfg : Config) (t : TradingSystemState) (positions : Dict String Position),
      Covers cfg positions (withPositions t positions) := by
  intro h
  have hreplies : (((rounds plainConfig).trans
      (withPositions (makeInitialState "2026-07-02") twoLarge)
      [(quietEnv, quietEnv), (quietEnv, quietEnv)]).map Trans.reply) =
      [some "INFY", some "INFY"] := by decide +kernel
  have honce := (h plainConfig (makeInitialState "2026-07-02") twoLarge
    [(quietEnv, quietEnv), (quietEnv, quietEnv)] quietEnv (by decide +kernel)).1
    ("TCS", ⟨some (.number 20), some (.number 3000)⟩) (by decide +kernel)
  rw [hreplies] at honce
  revert honce
  decide

end Intraday.Orchestrator
