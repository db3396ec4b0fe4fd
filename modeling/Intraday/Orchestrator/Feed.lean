import Intraday.Api.Controls
import Intraday.Orchestrator.Streams

/-!
# Intraday.Orchestrator.Feed — signals, the pause flag and the cycles between them

Publishers append to the signals stream, the operator sets and clears the pause flag, and
the orchestrator runs its cycles, in any order. A cycle reads the newest entry of the stream
and keeps no cursor, so what it adds to `signals_today` depends on whether there is an
entry, not on whether it is new: it counts once per cycle, not once per entry
(`counted_once_iff`). The pause flag is none of its gates (`pause_honoured_iff`).
-/

namespace Intraday.Orchestrator

open Intraday.Core Intraday.Lib Intraday.Lib.Python Intraday.Lib.RedisStore
open Intraday.Signals (SignalGenerated Attempt Accepts publish dataFields publish_of_accepts
  publish_of_not_accepts)
open Intraday.Api (ControlRequest pause resume exists?_of_success)

/-! ## The system -/

/-- A call of `run_cycle`: its argument, the pairs that are blocked while it runs, and the
clock of its nodes. -/
structure CycleCall where
  inputState : Option TradingSystemState
  blocked : String → String → Bool
  clock : NodeName → String

namespace CycleCall

/-- The state the cycle starts from. -/
def input (c : CycleCall) (o : OrchestratorGraph) : StateDict :=
  (c.inputState.map TradingSystemState.toDict).getD o.state

/-- What answers the calls of the cycle. -/
def env (c : CycleCall) (store : Store) : Env := storeEnv store c.blocked c.clock

end CycleCall

/-- Redis, the orchestrator, and the length of the signals stream at its last cycle. -/
structure Feed where
  store : Store
  orch : OrchestratorGraph
  seen : ℕ

/-- What happens to the system. `put` is any other writer of a string key. -/
inductive FeedOp where
  | publish (a : Attempt)
  | pause (req : ControlRequest)
  | resume (req : ControlRequest)
  | put (key : String) (value : Option ByteArray)
  | advance (ms : ℕ)
  | cycle (c : CycleCall)

/-- The entries that were ever published to the signals stream. -/
def Feed.published (x : Feed) : ℕ := (x.store.streams signalRedisStream).length

/-- The system as a machine. The API key is `apiKey`; a cycle replies with its report. -/
def feed (cfg : Config) (serialize : SignalGenerated → ByteArray) (apiKey : String) :
    Machine Feed FeedOp (Option Report) where
  step x
    | .publish a => ({ x with store := (publish serialize x.store a).1 }, none)
    | .pause req => ({ x with store := (pause apiKey req x.store).1 }, none)
    | .resume req => ({ x with store := (resume apiKey req x.store).1 }, none)
    | .put key value => ({ x with store := x.store.put key value }, none)
    | .advance ms => ({ x with store := x.store.advance ms }, none)
    | .cycle c =>
        let (orch, report) := x.orch.runCycle cfg (c.env x.store) c.inputState
        ({ x with orch := orch, seen := x.published }, some report)

/-- The system before its first step, with any server, any whole state and any thread. -/
def Feed.opening (store : Store) (t : TradingSystemState)
    (thread : Option (Checkpoint NodeName StateDict)) : Feed :=
  { store := store
    orch := { state := t.toDict, thread := thread }
    seen := (store.streams signalRedisStream).length }

/-! ## What `signal_node` finds -/

/-- The pair that `signal_node` reads off an entry; `none` if a text does not decode. -/
def pairOf (entry : Entry) : Option (String × String) :=
  match fieldText entry.fields "symbol" "", fieldText entry.fields "exchange" "" with
  | some symbol, some exchange => some (symbol, exchange)
  | _, _ => none

/-- The pair of the newest entry, if there is one. -/
def newestPair (store : Store) : Option (String × String) :=
  (store.xrevrange signalRedisStream 1).head?.bind pairOf

/-- The reconciliation block stops the newest entry. -/
def BlockStops (cfg : Config) (store : Store) (blocked : String → String → Bool) : Prop :=
  cfg.blockedFn = true ∧ ∃ pair, newestPair store = some pair ∧ blocked pair.1 pair.2 = true

variable {cfg : Config} {env : Env} {s : StateDict} {store : Store} {c : CycleCall}

theorem consumeSignal_newest (blockedFn : Bool) (s : StateDict) (store : Store) (c : CycleCall) :
    (consumeSignal blockedFn s).eval (c.env store) =
      match newestPair store with
      | none => .ok {}
      | some pair =>
          if blockedFn && c.blocked pair.1 pair.2 then .ok {}
          else (countSignal s).eval (c.env store) := by
  have hread : c.env store (.xrevrange signalRedisStream 1) =
      .ok (store.xrevrange signalRedisStream 1) := rfl
  have hask : ∀ symbol exchange, c.env store (.blocked symbol exchange) =
      .ok (c.blocked symbol exchange) := fun _ _ => rfl
  rw [consumeSignal, Proc.eval_call, hread, newestPair]
  cases store.xrevrange signalRedisStream 1 with
  | nil => rfl
  | cons entry rest =>
      rw [List.head?_cons, Option.bind_some, pairOf]
      cases hsymbol : fieldText entry.fields "symbol" "" with
      | none => simp [hsymbol, update]
      | some symbol =>
      cases hexchange : fieldText entry.fields "exchange" "" with
      | none => simp [hsymbol, hexchange, update]
      | some exchange =>
      cases blockedFn with
      | false => simp [hsymbol, hexchange]
      | true =>
      cases hb : c.blocked symbol exchange with
      | false => simp [hsymbol, hexchange, hask, hb]
      | true => simp [hsymbol, hexchange, hask, hb, update]

/-- Past the gates, the newest entry decides. -/
theorem signalNode_newest (hredis : cfg.redis = true) (hopen : ¬ Gated cfg (c.env store) s) :
    (signalNode cfg.redis cfg.blockedFn s).eval (c.env store) =
      match newestPair store with
      | none => .ok {}
      | some pair =>
          if cfg.blockedFn && c.blocked pair.1 pair.2 then .ok {}
          else (countSignal s).eval (c.env store) :=
  (signalNode_open hredis cfg.blockedFn hopen).1.trans
    (consumeSignal_newest cfg.blockedFn s store c)

/-- A cycle from `s` forwards an entry: there is a client, no gate is closed, and the newest
entry can be read and is not blocked. -/
structure Forwards (cfg : Config) (store : Store) (c : CycleCall) (s : StateDict) : Prop where
  redis : cfg.redis = true
  opened : ¬ Gated cfg (c.env store) (afterRegime cfg (c.env store) s)
  entry : (newestPair store).isSome = true
  unblocked : ¬ BlockStops cfg store c.blocked

theorem afterRegime_signalsToday (cfg : Config) (env : Env) (s : StateDict) :
    (afterRegime cfg env s).signalsToday = s.signalsToday := by
  rcases afterRegime_eq cfg env s with ⟨regime, confidence, -, heq⟩
  rw [heq]
  rfl

theorem halted_of_open (hopen : ¬ Gated cfg env s) : s.halted = false := by
  simp only [Gated, not_or, Bool.not_eq_true] at hopen
  exact hopen.1

/-- What forwards an entry counts it. -/
theorem signalNode_counts {n : ℤ} {u : StateDict} (h : Forwards cfg store c s)
    (hn : s.signalsToday = some n)
    (hu : (signalNode cfg.redis cfg.blockedFn (afterRegime cfg (c.env store) s)).eval
      (c.env store) = .ok u) : u.signalsToday = some (n + 1) := by
  rw [signalNode_newest h.redis h.opened] at hu
  rcases Option.isSome_iff_exists.mp h.entry with ⟨pair, hpair⟩
  have hpass : ¬ (cfg.blockedFn && c.blocked pair.1 pair.2) = true := by
    intro hstops
    rw [Bool.and_eq_true] at hstops
    exact h.unblocked ⟨hstops.1, pair, hpair, hstops.2⟩
  have hcount : (afterRegime cfg (c.env store) s).signalsToday = some n := by
    rw [afterRegime_signalsToday, hn]
  simp only [hpair, if_neg hpass, countSignal, hcount, update, Proc.eval_ret,
    Except.ok.injEq] at hu
  rw [← hu]

/-- What forwards no entry counts none. -/
theorem signalNode_counts_none {u : StateDict} (h : ¬ Forwards cfg store c s)
    (hu : (signalNode cfg.redis cfg.blockedFn (afterRegime cfg (c.env store) s)).eval
      (c.env store) = .ok u) : u.signalsToday = none := by
  by_cases hgated : Gated cfg (c.env store) (afterRegime cfg (c.env store) s)
  · exact signalNode_gated hgated hu
  cases hredis : cfg.redis with
  | false =>
      simp only [signalNode, halted_of_open hgated, hredis, update, if_false,
        Bool.false_eq_true, Proc.eval_ret, Except.ok.injEq] at hu
      rw [← hu]
  | true =>
      rw [signalNode_newest hredis hgated] at hu
      cases hpair : newestPair store with
      | none =>
          rw [hpair, Except.ok.injEq] at hu
          rw [← hu]
      | some pair =>
          -- there is an entry, so the block stops it
          have hstops : (cfg.blockedFn && c.blocked pair.1 pair.2) = true := by
            by_contra hpass
            refine h ⟨hredis, hgated, by rw [hpair]; rfl, ?_⟩
            rintro ⟨hfn, pair', hpair', hb⟩
            obtain rfl := Option.some.inj (hpair.symm.trans hpair')
            exact hpass (by rw [hfn, hb]; rfl)
          simp only [hpair, if_pos hstops, Except.ok.injEq] at hu
          rw [← hu]

/-! ## What a cycle leaves -/

/-- The counter of a state. -/
def counter (s : StateDict) : ℤ := s.signalsToday.getD 0

/-- The cycle stops for approval: a request is pending, or there is a large position, and
the circuit is not broken. -/
def Interrupts (cfg : Config) (s : StateDict) : Prop :=
  cfg.enableHitl = true ∧ circuitBreakerPct < s.pnlTodayPct.getD 0 ∧
    (s.pending.isSome = true ∨
      (firstLarge cfg.startingCapital (s.openPositions.getD Dict.empty).entries).isSome = true)

instance (cfg : Config) (s : StateDict) : Decidable (Interrupts cfg s) :=
  inferInstanceAs (Decidable (_ ∧ _ ∧ (_ ∨ _)))

/-- On a state that is not halted, `risk_node` leaves a request to wait for exactly if the
circuit is not broken and there was one, or it finds a large position. -/
theorem riskNode_waits_iff {v u' : StateDict} {pnlPct : ℚ} {positions : Dict String Position}
    (hs : v.halted = false) (hpnl : v.pnlTodayPct = some pnlPct)
    (hpos : v.openPositions = some positions)
    (hu : (riskNode cfg.startingCapital cfg.missingIsNone v).eval env = .ok u') :
    ((v.merge u').halted = false ∧ (v.merge u').pending.isSome = true) ↔
      circuitBreakerPct < pnlPct ∧ (v.pending.isSome = true ∨
        (firstLarge cfg.startingCapital positions.entries).isSome = true) := by
  simp only [riskNode, hpnl, riskOn, (halted_eq_false_iff.mp hs).2, Bool.false_eq_true,
    not_false_eq_true, and_true] at hu
  by_cases hcb : pnlPct ≤ circuitBreakerPct
  · rw [if_pos hcb, Proc.eval_call] at hu
    obtain rfl := Except.ok.inj hu
    refine iff_of_false ?_ (fun h => absurd h.1 (not_lt.mpr hcb))
    rintro ⟨hhalted, -⟩
    have hbroken : (v.merge (breakCircuit pnlPct (env (.utcnow .riskNode)))).halted = true :=
      Bool.or_true _
    exact absurd (hhalted.symm.trans hbroken) Bool.false_ne_true
  · simp only [if_neg hcb, hs, hpos, requestHitl, Bool.false_eq_true, if_false] at hu
    have hlt : circuitBreakerPct < pnlPct := not_le.mp hcb
    cases hlarge : firstLarge cfg.startingCapital positions.entries with
    | none =>
        rw [hlarge] at hu
        obtain rfl : ({} : StateDict) = u' := Except.ok.inj hu
        simp [hs, hlt]
    | some found =>
        rw [hlarge, Proc.eval_call] at hu
        obtain rfl := Except.ok.inj hu
        refine iff_of_true ⟨hs, rfl⟩ ⟨hlt, .inr rfl⟩

/-- With no gate closed, `signal_node` touches nothing but the counter. -/
theorem signalNode_of_open {u : StateDict} (hopen : ¬ Gated cfg (c.env store) s)
    (hu : (signalNode cfg.redis cfg.blockedFn s).eval (c.env store) = .ok u) :
    ∃ n, u = { signalsToday := n } := by
  rcases signalNode_ok hu with rfl | h
  · exfalso
    cases hredis : cfg.redis with
    | false => simp [signalNode, halted_of_open hopen, hredis, update] at hu
    | true =>
        rcases consumeSignal_eval cfg.blockedFn s (c.env store) with ⟨n, hn⟩
        have hcontra := hu.symm.trans ((signalNode_open hredis cfg.blockedFn hopen).1.trans hn)
        simp at hcontra
  · exact h

/-- At the routing step a cycle with no gate closed waits exactly if it interrupts. -/
theorem waits_iff_interrupts {t : TradingSystemState} {u v w : StateDict}
    (h : ReachesRouting cfg (c.env store) t.toDict u v w)
    (hopen : ¬ Gated cfg (c.env store) (afterRegime cfg (c.env store) t.toDict)) :
    (cfg.enableHitl = true ∧ w.halted = false ∧ w.pending.isSome = true) ↔
      Interrupts cfg t.toDict := by
  rcases h with ⟨hsignal, hrecon, u', hrisk, rfl⟩
  rcases whole_before_risk t hsignal hrecon with ⟨hpnl, hpos⟩
  rcases afterRegime_eq cfg (c.env store) t.toDict with ⟨regime, confidence, -, hafter⟩
  -- the nodes before `risk_node` raise no flag and make no request
  have hbefore : v.halted = false ∧ v.pending = t.toDict.pending := by
    rcases signalNode_of_open hopen hsignal with ⟨n, rfl⟩
    rcases hrecon with ⟨at_, count, rfl⟩
    refine ⟨halted_of_open hopen, ?_⟩
    rw [hafter]
    rfl
  rw [riskNode_waits_iff hbefore.1 hpnl hpos hrisk, hbefore.2]
  rfl

/-- At the routing step the state has counted what the cycle forwards. -/
theorem signalsToday_at_routing {t : TradingSystemState} {u v w : StateDict}
    (h : ReachesRouting cfg (c.env store) t.toDict u v w) :
    (Forwards cfg store c t.toDict → w.signalsToday = some (t.signalsToday + 1)) ∧
      (¬ Forwards cfg store c t.toDict → w.signalsToday = some t.signalsToday) := by
  have hw := signalsToday_of_reaches h
  constructor
  · intro hforwards
    rw [hw, signalNode_counts hforwards rfl h.signal]
    rfl
  · intro hnot
    rw [hw, signalNode_counts_none hnot h.signal]
    rfl

theorem noRedisError_env (c : CycleCall) (store : Store) : NoRedisError (c.env store) :=
  ⟨fun key => ⟨store.get key, rfl⟩, fun stream count => ⟨store.xrevrange stream count, rfl⟩⟩

/-- A cycle from a whole state counts in its checkpoint what it forwards; with no gate
closed, `_state` becomes the state of that checkpoint, unless the cycle stops for
approval. -/
theorem runCycle_counts (cfg : Config) (store : Store) (c : CycleCall) (o : OrchestratorGraph)
    {t : TradingSystemState} (ht : c.input o = t.toDict) :
    ∃ cp, (o.runCycle cfg (c.env store) c.inputState).1.thread = some cp ∧
      (Forwards cfg store c t.toDict → cp.values.signalsToday = some (t.signalsToday + 1)) ∧
      (¬ Forwards cfg store c t.toDict → cp.values.signalsToday = some t.signalsToday) ∧
      (¬ Gated cfg (c.env store) (afterRegime cfg (c.env store) t.toDict) →
        (Interrupts cfg t.toDict →
          (o.runCycle cfg (c.env store) c.inputState).1.state = o.state) ∧
        (¬ Interrupts cfg t.toDict →
          (o.runCycle cfg (c.env store) c.inputState).1.state = cp.values)) := by
  have hrun : o.runCycle cfg (c.env store) c.inputState =
      o.adopt ((cfg.graph (c.env store)).invoke cfg.runtime o.thread (some t.toDict)) := by
    rw [← ht]
    rfl
  rw [hrun]
  rcases invoke_cases cfg (c.env store) o.thread t with ⟨-, u, v, w, hreach, hinvoke⟩ | ⟨hnot, -⟩
  · rw [hinvoke]
    rcases signalsToday_at_routing hreach with ⟨hforwards, hkeeps⟩
    by_cases hwaits : cfg.enableHitl = true ∧ w.halted = false ∧ w.pending.isSome = true
    · -- the count is in the checkpoint, and `_state` is as before
      rw [afterRisk_waits hwaits.1 hwaits.2.1 hwaits.2.2]
      refine ⟨_, rfl, hforwards, hkeeps, ?_⟩
      intro hopen
      have hinterrupts := (waits_iff_interrupts hreach hopen).mp hwaits
      exact ⟨fun _ => rfl, fun h => absurd hinterrupts h⟩
    · have hends : cfg.enableHitl = false ∨ w.halted = true ∨ w.pending.isSome = false := by
        by_contra h
        simp only [not_or, Bool.not_eq_false, Bool.not_eq_true] at h
        exact hwaits h
      rcases afterRisk_returns cfg (c.env store) hends with ⟨cp, hthread, hsame, hreturned⟩
      refine ⟨cp, hthread, ?_, ?_, ?_⟩
      · intro h
        rw [hsame, hforwards h]
      · intro h
        rw [hsame, hkeeps h]
      · intro hopen
        constructor
        · intro h
          exact absurd ((waits_iff_interrupts hreach hopen).mpr h) hwaits
        · intro _
          exact adopt_returned hreturned
  · -- Redis answers, so no read of the keys raises
    exact absurd (readsAllowed_of_noRedisError (noRedisError_env c store) cfg.redis) hnot

/-! ## Runs -/

variable {serialize : SignalGenerated → ByteArray} {apiKey : String} {x : Feed} {op : FeedOp}

/-- Only a cycle touches the orchestrator. -/
theorem feed_next_of_ne_cycle (h : ∀ c, op ≠ .cycle c) :
    ((feed cfg serialize apiKey).next x op).orch = x.orch ∧
      ((feed cfg serialize apiKey).next x op).seen = x.seen := by
  cases op with
  | cycle c => exact absurd rfl (h c)
  | publish a => exact ⟨rfl, rfl⟩
  | pause req => exact ⟨rfl, rfl⟩
  | resume req => exact ⟨rfl, rfl⟩
  | put key value => exact ⟨rfl, rfl⟩
  | advance ms => exact ⟨rfl, rfl⟩

theorem input_whole {o : OrchestratorGraph} (ho : o.state.Whole) (c : CycleCall) :
    (c.input o).Whole := by
  rcases c with ⟨inputState, blocked, clock⟩
  cases inputState with
  | none => exact ho
  | some t => exact ⟨t, rfl⟩

/-- A cycle leaves a whole state. -/
theorem runCycle_whole {o : OrchestratorGraph} (ho : o.state.Whole) (c : CycleCall)
    (store : Store) : (o.runCycle cfg (c.env store) c.inputState).1.state.Whole := by
  have hstep : ∀ (cp : Checkpoint NodeName StateDict) n u, cp.values.Whole →
      (cfg.graph (c.env store)).scheduled cp = some n →
      (cfg.graph (c.env store)).node n cp.values = .ok u →
      ((cfg.graph (c.env store)).merge cp.values u).Whole := by
    intro cp n u hcp _ _
    exact hcp.merge u
  have hinput : ∀ u, some (c.input o) = some u →
      ((cfg.graph (c.env store)).merge ((cfg.graph (c.env store)).valuesOf o.thread) u).Whole := by
    intro u hu
    rcases input_whole ho c with ⟨t, ht⟩
    rw [← Option.some.inj hu, ht]
    exact ⟨t, StateDict.merge_toDict _ t⟩
  have hthread : some (c.input o) = none →
      ∀ cp : Checkpoint NodeName StateDict, o.thread = some cp → cp.values.Whole := by
    intro hnone
    cases hnone
  rcases StateGraph.invoke_invariant cfg.runtime
    (I := fun cp : Checkpoint NodeName StateDict => cp.values.Whole) hstep hthread hinput with
    ⟨hafter, hreturned⟩
  -- `_state` is the state of the checkpoint, or what it was
  rcases adopt_state o ((cfg.graph (c.env store)).invoke cfg.runtime o.thread
    (some (c.input o))) with h | ⟨-, h⟩
  · rcases hreturned _ h with ⟨cp, hcp, hvalues, -⟩
    have hwhole := hafter cp hcp
    rwa [hvalues] at hwhole
  · rw [← h] at ho
    exact ho

theorem feed_next_whole (x : Feed) (op : FeedOp) (h : x.orch.state.Whole) :
    ((feed cfg serialize apiKey).next x op).orch.state.Whole := by
  by_cases hcycle : ∃ c, op = .cycle c
  · rcases hcycle with ⟨c, rfl⟩
    exact runCycle_whole h c x.store
  · rw [(feed_next_of_ne_cycle (not_exists.mp hcycle)).1]
    exact h

/-! ## Every signal once -/

/-- No gate stops a cycle. -/
def NoGateBlocks (cfg : Config) (x : Feed) : FeedOp → Prop
  | .cycle c =>
      ¬ Gated cfg (c.env x.store) (afterRegime cfg (c.env x.store) (c.input x.orch)) ∧
        ¬ BlockStops cfg x.store c.blocked
  | _ => True

/-- Since `start`, `signals_today` has grown by the number of entries that were published
before the last cycle. -/
def CountedOnce (start x : Feed) : Prop :=
  counter x.orch.state - counter start.orch.state = x.seen - start.seen

instance (start x : Feed) : Decidable (CountedOnce start x) :=
  inferInstanceAs (Decidable (_ = _))

/-- The entries that were published since the last cycle. -/
def Feed.fresh (x : Feed) : ℤ := x.published - x.seen

/-- What a cycle adds when no gate stops it: one as soon as there is an entry to read,
whether or not it is new. -/
def increment (cfg : Config) (x : Feed) : ℤ :=
  if cfg.redis = true ∧ (newestPair x.store).isSome = true then 1 else 0

/-- A cycle finds as many new entries as it counts: none if it stops for approval, and else
what it adds to the counter, which it takes from its input. -/
def InStep (cfg : Config) (x : Feed) : FeedOp → Prop
  | .cycle c =>
      (Interrupts cfg (c.input x.orch) → x.fresh = 0) ∧
        (¬ Interrupts cfg (c.input x.orch) →
          x.fresh = increment cfg x + (counter (c.input x.orch) - counter x.orch.state))
  | _ => True

instance (cfg : Config) (x : Feed) (op : FeedOp) : Decidable (InStep cfg x op) :=
  match op with
  | .cycle _ => inferInstanceAs (Decidable ((_ → _) ∧ (_ → _)))
  | .publish _ | .pause _ | .resume _ | .put _ _ | .advance _ => .isTrue trivial

/-- The counter after a cycle that no gate stops. -/
theorem counter_of_open (ho : x.orch.state.Whole) (hopen : NoGateBlocks cfg x (.cycle c)) :
    (Interrupts cfg (c.input x.orch) →
      ((feed cfg serialize apiKey).next x (.cycle c)).orch.state = x.orch.state) ∧
    (¬ Interrupts cfg (c.input x.orch) →
      counter ((feed cfg serialize apiKey).next x (.cycle c)).orch.state =
        counter (c.input x.orch) + increment cfg x) := by
  rcases input_whole ho c with ⟨t, ht⟩
  rcases hopen with ⟨hgates, hblock⟩
  rcases runCycle_counts cfg x.store c x.orch ht with ⟨cp, -, hforwards, hkeeps, hstate⟩
  rw [ht] at hgates ⊢
  refine ⟨(hstate hgates).1, ?_⟩
  intro hnot
  show counter (x.orch.runCycle cfg (c.env x.store) c.inputState).1.state = _
  rw [(hstate hgates).2 hnot, increment]
  by_cases hentry : cfg.redis = true ∧ (newestPair x.store).isSome = true
  · rw [if_pos hentry, counter, hforwards ⟨hentry.1, hgates, hentry.2, hblock⟩]
    rfl
  · have hno : ¬ Forwards cfg x.store c t.toDict := fun h => hentry ⟨h.redis, h.entry⟩
    rw [if_neg hentry, counter, hkeeps hno, add_zero]
    rfl

/-- One step keeps the count right exactly if it is in step. -/
theorem countedOnce_next_iff {start : Feed} (ho : x.orch.state.Whole)
    (hgood : CountedOnce start x) (hopen : NoGateBlocks cfg x op) :
    CountedOnce start ((feed cfg serialize apiKey).next x op) ↔ InStep cfg x op := by
  by_cases hcycle : ∃ c, op = .cycle c
  · rcases hcycle with ⟨c, rfl⟩
    rcases counter_of_open ho hopen with ⟨hstops, hadds⟩
    have hseen : ((feed cfg serialize apiKey).next x (.cycle c)).seen = x.published := rfl
    -- both sides speak of the same two differences once the old balance is taken out
    rw [CountedOnce] at hgood
    rw [CountedOnce, hseen, InStep, Feed.fresh]
    by_cases hint : Interrupts cfg (c.input x.orch)
    · rw [hstops hint]
      simp only [hint, true_implies, not_true_eq_false, false_implies, and_true]
      omega
    · rw [hadds hint]
      simp only [hint, false_implies, not_false_eq_true, true_implies, true_and]
      omega
  · rcases @feed_next_of_ne_cycle cfg serialize apiKey x op (not_exists.mp hcycle) with
      ⟨horch, hseen⟩
    have hstep : InStep cfg x op := by
      cases op with
      | cycle c => exact absurd ⟨c, rfl⟩ hcycle
      | publish a => trivial
      | pause req => trivial
      | resume req => trivial
      | put key value => trivial
      | advance ms => trivial
    refine iff_of_true ?_ hstep
    rw [CountedOnce, horch, hseen]
    exact hgood

/-- In a run without a closed gate every signal is counted once, in every state reached,
exactly if every cycle is in step with the publishers. -/
theorem counted_once_iff (cfg : Config) (serialize : SignalGenerated → ByteArray)
    (apiKey : String) (store : Store) (t : TradingSystemState)
    (thread : Option (Checkpoint NodeName StateDict)) (ops : List FeedOp)
    (hopen : ∀ x ∈ (feed cfg serialize apiKey).trans (.opening store t thread) ops,
      NoGateBlocks cfg x.pre x.op) :
    (∀ x ∈ (feed cfg serialize apiKey).trans (.opening store t thread) ops,
      CountedOnce (.opening store t thread) x.post) ↔
    ∀ x ∈ (feed cfg serialize apiKey).trans (.opening store t thread) ops,
      InStep cfg x.pre x.op := by
  have hexact : ∀ x op, x.orch.state.Whole → CountedOnce (.opening store t thread) x →
      NoGateBlocks cfg x op →
      (CountedOnce (.opening store t thread) ((feed cfg serialize apiKey).next x op) ↔
        InStep cfg x op) := by
    intro x op hx hgood hgates
    exact countedOnce_next_iff hx hgood hgates
  have hstart : CountedOnce (.opening store t thread) (.opening store t thread) := by
    rw [CountedOnce, sub_self, sub_self]
  exact (feed cfg serialize apiKey).trans_forall_iff feed_next_whole hexact ⟨t, rfl⟩ hstart hopen

/-- A cycle without an argument. -/
def plainCycle : CycleCall :=
  { inputState := none, blocked := fun _ _ => false, clock := fun _ => "2026-07-02T10:00:00" }

/-- A second signal, for TCS. -/
def tcsSignal : Attempt :=
  { infySignal with result := { infySignal.result with symbol := "TCS" }, signalId := "3f0d" }

/-- A new orchestrator on an empty server. -/
def quietFeed : Feed := .opening emptyStore (makeInitialState "2026-07-02") none

/-- The system on `plainConfig`, where a message is its symbol. -/
def plainFeed : Machine Feed FeedOp (Option Report) :=
  feed plainConfig (fun msg => msg.symbol.toByteArray) "secret"

/-- Without the two keys, the flags and the block callback, only the regime can stop a
cycle. -/
theorem noGateBlocks_of_quiet (hfn : cfg.blockedFn = false)
    (hinput : (c.input x.orch).halted = false)
    (hhalted : x.store.get killSwitchHaltedKey = none)
    (hdegraded : x.store.get ingestionDegradedRedisKey = none)
    (hregime : (afterRegime cfg (c.env x.store) (c.input x.orch)).marketRegime ≠
      some "HIGH_VOL_CHAOS") : NoGateBlocks cfg x (.cycle c) := by
  have hmissing : ∀ key, x.store.get key = none → ¬ KeyPresent cfg (c.env x.store) key := by
    rintro key hkey ⟨-, raw, hraw⟩
    cases hkey.symm.trans (Except.ok.inj hraw)
  constructor
  · rintro (h | h | h | h)
    · rw [afterRegime_halted, hinput] at h
      cases h
    · exact hmissing _ hhalted h
    · exact hmissing _ hdegraded h
    · exact hregime h
  · rintro ⟨h, -⟩
    rw [hfn] at h
    cases h

/-- One entry and one cycle. -/
theorem one_entry_is_counted_once :
    counter (plainFeed.run quietFeed [.publish infySignal, .cycle plainCycle]).orch.state = 1 ∧
      ∀ x ∈ plainFeed.trans quietFeed [.publish infySignal, .cycle plainCycle],
        CountedOnce quietFeed x.post := by
  refine ⟨by decide +kernel, ?_⟩
  refine (counted_once_iff plainConfig _ "secret" emptyStore _ none _ ?_).mpr (by decide +kernel)
  simp only [Machine.trans_cons, Machine.trans_nil, List.forall_mem_cons]
  refine ⟨trivial, ?_, by simp⟩
  exact noGateBlocks_of_quiet rfl rfl (by decide +kernel) (by decide +kernel) (by decide +kernel)

/-- A second cycle counts the entry again, and of two entries one cycle counts one. -/
theorem idle_cycles_recount_and_bursts_are_skipped :
    ((∀ x ∈ plainFeed.trans quietFeed
        [.publish infySignal, .cycle plainCycle, .cycle plainCycle],
        NoGateBlocks plainConfig x.pre x.op) ∧
      ¬ ∀ x ∈ plainFeed.trans quietFeed
        [.publish infySignal, .cycle plainCycle, .cycle plainCycle],
        CountedOnce quietFeed x.post) ∧
    (∀ x ∈ plainFeed.trans quietFeed
        [.publish infySignal, .publish tcsSignal, .cycle plainCycle],
        NoGateBlocks plainConfig x.pre x.op) ∧
      ¬ ∀ x ∈ plainFeed.trans quietFeed
        [.publish infySignal, .publish tcsSignal, .cycle plainCycle],
        CountedOnce quietFeed x.post := by
  simp only [Machine.trans_cons, Machine.trans_nil]
  refine ⟨⟨?_, by decide +kernel⟩, ?_, by decide +kernel⟩
  · simp only [List.forall_mem_cons]
    refine ⟨trivial, ?_, ?_, by simp⟩
    · exact noGateBlocks_of_quiet rfl rfl (by decide +kernel) (by decide +kernel)
        (by decide +kernel)
    · exact noGateBlocks_of_quiet rfl (by decide +kernel) (by decide +kernel) (by decide +kernel)
        (by decide +kernel)
  · simp only [List.forall_mem_cons]
    refine ⟨trivial, trivial, ?_, by simp⟩
    exact noGateBlocks_of_quiet rfl rfl (by decide +kernel) (by decide +kernel)
      (by decide +kernel)

/-! ## The pause -/

/-- `system:status:paused` is set. -/
def Feed.Paused (x : Feed) : Prop := x.store.exists? apiPauseRedisKey = true

/-- The cycle `c` increases `signals_today`: it leaves a greater one than it started with. -/
def Increases (x : Trans Feed FeedOp (Option Report)) (c : CycleCall) : Prop :=
  ∃ cp, x.post.orch.thread = some cp ∧ counter (c.input x.pre.orch) < counter cp.values

/-- A cycle increases the counter exactly if it forwards an entry. -/
theorem increases_iff (ho : x.orch.state.Whole) (c : CycleCall) :
    Increases ((feed cfg serialize apiKey).fire x (.cycle c)) c ↔
      Forwards cfg x.store c (c.input x.orch) := by
  rcases input_whole ho c with ⟨t, ht⟩
  rcases runCycle_counts cfg x.store c x.orch ht with ⟨cp, hthread, hforwards, hkeeps, -⟩
  have hinput : counter (c.input x.orch) = t.signalsToday := by
    rw [ht]
    rfl
  rw [ht]
  constructor
  · rintro ⟨cp', hthread', hlt⟩
    obtain rfl := Option.some.inj (hthread.symm.trans hthread')
    by_contra hnot
    have hsame : counter cp.values = t.signalsToday := by
      rw [counter, hkeeps hnot]
      rfl
    rw [hsame] at hlt
    exact absurd hlt (not_lt.mpr hinput.ge)
  · intro h
    refine ⟨cp, hthread, ?_⟩
    have hmore : counter cp.values = t.signalsToday + 1 := by
      rw [counter, hforwards h]
      rfl
    rw [hmore]
    exact hinput.trans_lt (lt_add_one _)

/-- In every run, no cycle under the pause flag forwards an entry exactly if each of them is
stopped by something else than the flag. -/
theorem pause_honoured_iff (cfg : Config) (serialize : SignalGenerated → ByteArray)
    (apiKey : String) (store : Store) (t : TradingSystemState)
    (thread : Option (Checkpoint NodeName StateDict)) (ops : List FeedOp) :
    (∀ x ∈ (feed cfg serialize apiKey).trans (.opening store t thread) ops,
      ∀ c, x.op = .cycle c → x.pre.Paused → ¬ Increases x c) ↔
    ∀ x ∈ (feed cfg serialize apiKey).trans (.opening store t thread) ops,
      ∀ c, x.op = .cycle c → x.pre.Paused →
        ¬ Forwards cfg x.pre.store c (c.input x.pre.orch) := by
  have hstep : ∀ x op, x.orch.state.Whole → True →
      ((feed cfg serialize apiKey).next x op).orch.state.Whole := by
    intro x op hx _
    exact feed_next_whole x op hx
  have hrun : ∀ x ∈ (feed cfg serialize apiKey).trans (.opening store t thread) ops,
      x.pre.orch.state.Whole ∧ x = (feed cfg serialize apiKey).fire x.pre x.op :=
    (feed cfg serialize apiKey).trans_invariant_of_allowed hstep ⟨t, rfl⟩ (fun _ _ => trivial)
  have hone : ∀ x ∈ (feed cfg serialize apiKey).trans (.opening store t thread) ops, ∀ c,
      x.op = .cycle c → (Increases x c ↔ Forwards cfg x.pre.store c (c.input x.pre.orch)) := by
    intro x hx c hop
    rcases hrun x hx with ⟨hwhole, hfire⟩
    rw [hop] at hfire
    rw [hfire]
    exact increases_iff hwhole c
  constructor
  · intro h x hx c hop hpaused hforwards
    exact h x hx c hop hpaused ((hone x hx c hop).mpr hforwards)
  · intro h x hx c hop hpaused hincreases
    exact h x hx c hop hpaused ((hone x hx c hop).mp hincreases)

/-- A request with the right key, whose write succeeds. -/
def operatorRequest : ControlRequest := { apiKey := some "secret", outcome := .done, error := "" }

/-- A signal is published, the operator pauses, and the next cycle forwards the signal. -/
theorem paused_cycle_forwards :
    ¬ ∀ x ∈ plainFeed.trans quietFeed
        [.publish infySignal, .pause operatorRequest, .cycle plainCycle],
      ∀ c, x.op = .cycle c → x.pre.Paused → ¬ Increases x c := by
  intro h
  set before := plainFeed.run quietFeed [.publish infySignal, .pause operatorRequest] with hbefore
  have hreply : (pause "secret" operatorRequest
      (plainFeed.run quietFeed [.publish infySignal]).store).2 =
      .ok { success := true, action := "pause", reason := "New entries paused" } := rfl
  have hpaused : before.Paused := exists?_of_success hreply rfl
  have hopen : NoGateBlocks plainConfig before (.cycle plainCycle) :=
    noGateBlocks_of_quiet rfl rfl (by decide +kernel) (by decide +kernel) (by decide +kernel)
  have hforwards : Forwards plainConfig before.store plainCycle (plainCycle.input before.orch) :=
    ⟨rfl, hopen.1, by decide +kernel, hopen.2⟩
  have hwhole : before.orch.state.Whole := ⟨makeInitialState "2026-07-02", rfl⟩
  refine h (plainFeed.fire before (.cycle plainCycle)) ?_ plainCycle rfl hpaused
    ((increases_iff hwhole plainCycle).mpr hforwards)
  simp [hbefore, Machine.run]

end Intraday.Orchestrator
