import Intraday.Orchestrator.Feed
import Intraday.Orchestrator.Session
import Intraday.Reconciliation.Agent
import Intraday.Reconciliation.Publisher

/-!
# Intraday.Orchestrator.Mismatches — the mismatch counter of the day

The reconciliation agent appends its mismatches to a stream, cycle after cycle, and
`reconciliation_node` sets `reconciliation_mismatches_today` to the number of entries that it
reads, at most 100 of the newest, unless the counter is above that already. It looks neither at
their dates nor at what they are about, so a mismatch that persists is counted again in every
cycle and one of yesterday today (`mismatches_counted_iff`).
-/

namespace Intraday.Orchestrator

open Intraday.Core Intraday.Lib Intraday.Lib.Python Intraday.Lib.RedisStore
open Intraday.Reconciliation (ReconciliationAgent ReconciliationMismatch ProtoMismatch MismatchField
  BlockRegistry Holds publishEach)

/-! ## The system -/

/-- What a mismatch is about. -/
structure MismatchKey where
  exchange : String
  symbol : String
  field : MismatchField
deriving DecidableEq, Repr

/-- The exchange, the symbol and the field of a mismatch. -/
def mismatchKey (m : ReconciliationMismatch) : MismatchKey :=
  { exchange := m.exchange, symbol := m.symbol, field := m.field }

/-- Redis, the agent and the orchestrator; the market date, and what was published so far, with
the date of its publication. -/
structure Tally where
  store : Store
  agent : ReconciliationAgent
  orch : OrchestratorGraph
  today : String
  published : List (String × MismatchKey)

/-- What happens to the system. A cycle of the agent comes with what each of its calls of `XADD`
does. -/
inductive TallyOp where
  | reconcile (c : Reconciliation.Cycle) (xadds : ℕ → Except Exc ℕ)
  | cycle (c : CycleCall)
  | advance (ms : ℕ)
  | newDay (date : String)

/-- What a cycle of the agent publishes: nothing, if a fetch raises. -/
def Tally.reconcile (upper : String → String) (serialize : ProtoMismatch → ByteArray) (x : Tally)
    (c : Reconciliation.Cycle) (xadds : ℕ → Except Exc ℕ) : Tally :=
  match c.fetched with
  | none => x
  | some s =>
      let done := x.agent.runCycle upper s c.startedAt c.completedAt c.calls
      let calls := done.2.mismatches.mapIdx fun i m => (m, xadds i)
      let out := publishEach serialize true calls x.store
      { x with
        store := out.1
        agent := done.1
        published := x.published ++ out.2.map fun m => (x.today, mismatchKey m) }

/-- The system as a machine, with a Redis client. A cycle of the orchestrator replies with its
report. -/
def tally (cfg : Config) (upper : String → String) (serialize : ProtoMismatch → ByteArray) :
    Machine Tally TallyOp (Option Report) where
  step x
    | .reconcile c xadds => (x.reconcile upper serialize c xadds, none)
    | .cycle c =>
        let (orch, report) :=
          x.orch.runCycle { cfg with redis := true } (c.env x.store) c.inputState
        ({ x with orch := orch }, some report)
    | .advance ms => ({ x with store := x.store.advance ms }, none)
    | .newDay date => ({ x with today := date }, none)

/-- The system on its first day, with nothing published. -/
def Tally.opening (nowMs : ℕ) (blocks : BlockRegistry) (today : String) : Tally where
  store := { nowMs := nowMs, strings := fun _ => none, streams := fun _ => [] }
  agent := .new blocks
  orch := .init today
  today := today
  published := []

/-- The number of different mismatches published on the market date. -/
def Tally.distinctToday (x : Tally) : ℕ :=
  ((x.published.filter (·.1 = x.today)).map Prod.snd).dedup.length

/-- A cycle of the orchestrator leaves, in its checkpoint, that number. -/
def CountsMismatches (t : Trans Tally TallyOp (Option Report)) : Prop :=
  ∀ c, t.op = .cycle c → ∃ cp, t.post.orch.thread = some cp ∧
    cp.values.reconciliationMismatchesToday = some (t.pre.distinctToday : ℤ)

/-! ## What a cycle leaves -/

variable {cfg : Config} {env : Env} {s : StateDict} {store : Store} {c : CycleCall}

/-- Only `reconciliation_node` touches the counter. -/
theorem node_keeps_mismatches {n : NodeName} {u : StateDict} (hne : n ≠ .reconciliationNode)
    (hu : (cfg.nodeProc n s).eval env = .ok u) : u.reconciliationMismatchesToday = none := by
  cases n with
  | reconciliationNode => exact absurd rfl hne
  | regimeNode =>
      rcases regimeNode_eval cfg.redis s env with ⟨regime, confidence, h⟩
      rw [← Except.ok.inj (h.symm.trans hu)]
  | signalNode =>
      rcases signalNode_ok hu with rfl | ⟨n, rfl⟩
      · rfl
      · rfl
  | riskNode =>
      rcases riskNode_ok hu with ⟨pnlPct, nowIso, rfl⟩ | ⟨-, rfl⟩ | ⟨-, -, pending, rfl⟩
      · rfl
      · rfl
      · rfl
  | hitlNode => rw [← Except.ok.inj hu]
  | killSwitchNode =>
      rw [← Except.ok.inj hu]
      rfl

/-- `reconciliation_node` raises the counter to the number of entries. -/
theorem reconciliationNode_counts {prior : ℤ} {entries : List Entry} (missingIsNone : Bool)
    (hprior : s.reconciliationMismatchesToday = some prior)
    (hread : env (.xrevrange reconciliationMismatchRedisStream 100) = .ok entries) :
    ∃ at_, (reconciliationNode true missingIsNone s).eval env =
      .ok { lastReconciliationAt := at_
            reconciliationMismatchesToday := some (max prior entries.length) } := by
  refine ⟨some (some (env (.utcnow .reconciliationNode))), ?_⟩
  simp [reconciliationNode, hprior, hread, update]

/-- The nodes after which the stream has been read. -/
def HasRead : Option NodeName → Prop
  | none | some .regimeNode | some .signalNode => False
  | some .reconciliationNode | some .riskNode | some .hitlNode | some .killSwitchNode => True

/-- The counter in a cycle: as it was before the stream is read, and then raised to `n`. -/
structure CountedAt (prior n : ℤ) (cp : Checkpoint NodeName StateDict) : Prop where
  before : ¬ HasRead cp.last → cp.values.reconciliationMismatchesToday = some prior
  after : HasRead cp.last → cp.values.reconciliationMismatchesToday = some (max prior n)

/-- The edges lead from the reading on to nodes after it, and to it from before. -/
theorem hasRead_next {values : StateDict} {last : Option NodeName} {n : NodeName}
    (h : nextNode { values := values, last := last } = some n) :
    (n = .reconciliationNode → ¬ HasRead last) ∧
      (n ≠ .reconciliationNode → (HasRead (some n) ↔ HasRead last)) := by
  cases last with
  | none =>
      cases h
      exact ⟨fun _ => id, fun _ => Iff.rfl⟩
  | some m =>
      cases m with
      | regimeNode =>
          cases h
          exact ⟨fun _ => id, fun _ => Iff.rfl⟩
      | signalNode =>
          cases h
          exact ⟨fun _ => id, fun hne => absurd rfl hne⟩
      | reconciliationNode =>
          cases h
          refine ⟨?_, fun _ => Iff.rfl⟩
          intro h
          cases h
      | riskNode =>
          have hroute : routeAfterRisk values = some n := h
          rw [routeAfterRisk] at hroute
          split at hroute
          · cases hroute
            refine ⟨?_, fun _ => Iff.rfl⟩
            intro h
            cases h
          · split at hroute
            · cases hroute
              refine ⟨?_, fun _ => Iff.rfl⟩
              intro h
              cases h
            · cases hroute
      | hitlNode => cases h
      | killSwitchNode => cases h

theorem CountedAt.step {prior : ℤ} {entries : List Entry}
    (hread : env (.xrevrange reconciliationMismatchRedisStream 100) = .ok entries)
    {cp : Checkpoint NodeName StateDict} {n : NodeName} {u : StateDict}
    (hcp : CountedAt prior entries.length cp) (hnext : nextNode cp = some n)
    (hu : (({ cfg with redis := true } : Config).nodeProc n cp.values).eval env = .ok u) :
    CountedAt prior entries.length { values := cp.values.merge u, last := some n } := by
  have hmerge : (cp.values.merge u).reconciliationMismatchesToday =
      u.reconciliationMismatchesToday.or cp.values.reconciliationMismatchesToday := rfl
  rcases hasRead_next hnext with ⟨hreads, hkeeps⟩
  by_cases hn : n = .reconciliationNode
  · -- the node itself, on a counter that no node has touched yet
    subst hn
    rcases reconciliationNode_counts cfg.missingIsNone (hcp.before (hreads rfl)) hread with
      ⟨at_, heval⟩
    refine ⟨fun h => absurd trivial h, fun _ => ?_⟩
    rw [hmerge, ← Except.ok.inj (heval.symm.trans hu)]
    rfl
  · rw [node_keeps_mismatches hn hu, Option.none_or] at hmerge
    constructor
    · intro h
      rw [hmerge]
      exact hcp.before (mt (hkeeps hn).mpr h)
    · intro h
      rw [hmerge]
      exact hcp.after ((hkeeps hn).mp h)

/-- From the routing step on, the stream has been read. -/
theorem afterRisk_hasRead (cfg : Config) (env : Env) (s : StateDict)
    {cp : Checkpoint NodeName StateDict} (h : (afterRisk cfg env s).thread = some cp) :
    HasRead cp.last := by
  have hstep : ∀ (c : Checkpoint NodeName StateDict) n u, HasRead c.last →
      (cfg.graph env).scheduled c = some n → (cfg.graph env).node n c.values = .ok u →
      HasRead (some n) := by
    intro c n u hc hnext _
    rw [scheduled_eq] at hnext
    rcases hasRead_next hnext with ⟨hreads, hkeeps⟩
    by_cases hn : n = .reconciliationNode
    · exact absurd hc (hreads hn)
    · exact (hkeeps hn).mpr hc
  have hstart : HasRead (some .riskNode) := trivial
  rcases StateGraph.loop_invariant (I := fun c : Checkpoint NodeName StateDict => HasRead c.last)
    hstep 21 false (c := { values := s, last := some .riskNode }) hstart with ⟨c', hthread, hc', -⟩
  rw [← Option.some.inj (hthread.symm.trans h)]
  exact hc'

theorem countedAt_invoke (cfg : Config) {entries : List Entry}
    (hread : env (.xrevrange reconciliationMismatchRedisStream 100) = .ok entries)
    (thread : Option (Checkpoint NodeName StateDict)) (t : TradingSystemState)
    {cp : Checkpoint NodeName StateDict}
    (h : ((({ cfg with redis := true } : Config).graph env).invoke cfg.runtime thread
      (some t.toDict)).thread = some cp) :
    CountedAt t.reconciliationMismatchesToday entries.length cp := by
  have hstep : ∀ (cp : Checkpoint NodeName StateDict) n u,
      CountedAt t.reconciliationMismatchesToday entries.length cp →
      (({ cfg with redis := true } : Config).graph env).scheduled cp = some n →
      (({ cfg with redis := true } : Config).graph env).node n cp.values = .ok u →
      CountedAt t.reconciliationMismatchesToday entries.length
        { values := cp.values.merge u, last := some n } := by
    intro cp n u hcp hnext hu
    rw [scheduled_eq] at hnext
    exact hcp.step hread hnext hu
  have hthread : some t.toDict = none → ∀ cp : Checkpoint NodeName StateDict, thread = some cp →
      CountedAt t.reconciliationMismatchesToday entries.length cp := by
    intro hnone
    cases hnone
  have hinput : ∀ u, some t.toDict = some u →
      CountedAt t.reconciliationMismatchesToday entries.length
        { values := StateDict.merge
            ((({ cfg with redis := true } : Config).graph env).valuesOf thread) u
          last := none } := by
    intro u hu
    rw [← Option.some.inj hu]
    exact ⟨fun _ => rfl, fun h => absurd h id⟩
  exact (StateGraph.invoke_invariant cfg.runtime hstep hthread hinput).1 cp h

/-- A cycle on a whole state leaves the counter raised to the number of entries it reads. -/
theorem runCycle_mismatches (cfg : Config) (store : Store) (c : CycleCall) (o : OrchestratorGraph)
    {t : TradingSystemState} (ht : c.input o = t.toDict) :
    ∃ cp, (o.runCycle { cfg with redis := true } (c.env store) c.inputState).1.thread = some cp ∧
      cp.values.reconciliationMismatchesToday = some (max t.reconciliationMismatchesToday
        (store.xrevrange reconciliationMismatchRedisStream 100).length) := by
  have hrun : o.runCycle { cfg with redis := true } (c.env store) c.inputState =
      o.adopt ((({ cfg with redis := true } : Config).graph (c.env store)).invoke cfg.runtime
        o.thread (some t.toDict)) := by
    rw [← ht]
    rfl
  rw [hrun]
  -- Redis answers, so the cycle reaches the routing step, which is after the reading
  rcases invoke_cases { cfg with redis := true } (c.env store) o.thread t with
    ⟨-, u, v, w, -, hinvoke⟩ | ⟨hnot, -⟩
  · rcases afterRisk_ends { cfg with redis := true } (c.env store) w with ⟨cp, hlast, -, -⟩
    have hthread : ((({ cfg with redis := true } : Config).graph (c.env store)).invoke cfg.runtime
        o.thread (some t.toDict)).thread = some cp := by
      rw [hinvoke]
      exact hlast
    have hcounted := countedAt_invoke cfg rfl o.thread t hthread
    exact ⟨cp, hthread, hcounted.after (afterRisk_hasRead _ _ w hlast)⟩
  · exact absurd (readsAllowed_of_noRedisError (noRedisError_env c store) true) hnot

/-! ## Runs -/

/-- What holds of the system in every run: the state is whole, and the stream holds what was
published, or its newest part. -/
structure Tally.Inv (x : Tally) : Prop where
  whole : x.orch.state.Whole
  holds : Holds x.store x.published.length

variable {upper : String → String} {serialize : ProtoMismatch → ByteArray}

theorem Tally.Inv.opening (nowMs : ℕ) (blocks : BlockRegistry) (today : String) :
    (Tally.opening nowMs blocks today).Inv :=
  { whole := ⟨makeInitialState today, rfl⟩
    holds := ⟨le_refl 0, Nat.min_le_right _ _⟩ }

theorem Tally.Inv.next {x : Tally} (h : x.Inv) (op : TallyOp) :
    ((tally cfg upper serialize).next x op).Inv := by
  cases op with
  | advance ms => exact { whole := h.whole, holds := h.holds }
  | newDay date => exact { whole := h.whole, holds := h.holds }
  | cycle c => exact { whole := runCycle_whole h.whole c x.store, holds := h.holds }
  | reconcile c xadds =>
      show (x.reconcile upper serialize c xadds).Inv
      rw [Tally.reconcile]
      cases c.fetched with
      | none => exact h
      | some s =>
          refine { whole := h.whole, holds := ?_ }
          dsimp only
          rw [List.length_append, List.length_map]
          exact h.holds.publishEach _

/-- The counter that a cycle starts with. -/
def prior (x : Tally) (c : CycleCall) : ℤ :=
  (c.input x.orch).reconciliationMismatchesToday.getD 0

/-- What was published are different mismatches of today, at most 100 of them; or there were
more, and 100 different ones today. -/
def Tally.Fresh (x : Tally) : Prop :=
  (x.published.length ≤ 100 ∧ (∀ e ∈ x.published, e.1 = x.today) ∧
      (x.published.map Prod.snd).Nodup) ∨
    (100 < x.published.length ∧ x.distinctToday = 100)

/-- A cycle starts with a counter that the stream explains, and the stream is fresh; or it
starts with the right counter, above the number of entries that it reads. -/
def Counted (x : Tally) : TallyOp → Prop
  | .cycle c =>
      (prior x c ≤ min 100 x.published.length ∧ x.Fresh) ∨
        (min 100 x.published.length < prior x c ∧ prior x c = x.distinctToday)
  | _ => True

instance (x : Tally) : Decidable x.Fresh := inferInstanceAs (Decidable (_ ∨ _))

instance (x : Tally) (op : TallyOp) : Decidable (Counted x op) :=
  match op with
  | .cycle _ => inferInstanceAs (Decidable (_ ∨ _))
  | .reconcile _ _ | .advance _ | .newDay _ => .isTrue trivial

theorem Tally.distinctToday_le (x : Tally) :
    x.distinctToday ≤ (x.published.filter (·.1 = x.today)).length := by
  have hle := (List.dedup_sublist ((x.published.filter (·.1 = x.today)).map Prod.snd)).length_le
  rwa [List.length_map] at hle

/-- The entries that a cycle reads are as many as the different mismatches of today exactly if
the stream is fresh. -/
theorem Tally.fresh_iff (x : Tally) : min 100 x.published.length = x.distinctToday ↔ x.Fresh := by
  have htoday := x.distinctToday_le
  have hall : (x.published.filter (·.1 = x.today)).length ≤ x.published.length :=
    List.length_filter_le _ _
  have hfilter : (x.published.filter (·.1 = x.today)).length = x.published.length ↔
      ∀ e ∈ x.published, e.1 = x.today := by
    simp [List.length_filter_eq_length_iff]
  by_cases hmany : 100 < x.published.length
  · rw [Fresh]
    omega
  -- with 100 entries or fewer, all of them are read
  have hsmall : min 100 x.published.length = x.published.length :=
    min_eq_right (Nat.le_of_not_lt hmany)
  rw [hsmall]
  constructor
  · intro heq
    -- neither the filter nor the removal of duplicates takes anything away
    have hdates := hfilter.mp (le_antisymm hall (heq ▸ htoday))
    have hself : x.published.filter (·.1 = x.today) = x.published := by
      simpa [List.filter_eq_self] using hdates
    rw [distinctToday, hself, ← List.length_map (f := Prod.snd)] at heq
    have hdedup := (List.dedup_sublist (x.published.map Prod.snd)).eq_of_length heq.symm
    exact Or.inl ⟨Nat.le_of_not_lt hmany, hdates, List.dedup_eq_self.mp hdedup⟩
  · rintro (⟨-, hdates, hnodup⟩ | ⟨hmore, -⟩)
    · have hself : x.published.filter (·.1 = x.today) = x.published := by
        simpa [List.filter_eq_self] using hdates
      rw [distinctToday, hself, hnodup.dedup, List.length_map]
    · exact absurd hmore hmany

/-- A cycle of the orchestrator leaves the number of different mismatches of today exactly if it
starts with a counter, and the stream with entries, that make it up. -/
theorem countsMismatches_fire_iff {x : Tally} (h : x.Inv) (op : TallyOp) :
    CountsMismatches ((tally cfg upper serialize).fire x op) ↔ Counted x op := by
  cases op with
  | advance ms => exact iff_of_true (fun c hc => nomatch hc) trivial
  | newDay date => exact iff_of_true (fun c hc => nomatch hc) trivial
  | reconcile c xadds => exact iff_of_true (fun c hc => nomatch hc) trivial
  | cycle c =>
      rcases input_whole h.whole c with ⟨t, ht⟩
      rcases runCycle_mismatches cfg x.store c x.orch ht with ⟨cp, hthread, hcount⟩
      rw [h.holds.length_xrevrange] at hcount
      have hprior : prior x c = t.reconciliationMismatchesToday := by
        rw [prior, ht]
        rfl
      have hcounts : CountsMismatches ((tally cfg upper serialize).fire x (.cycle c)) ↔
          max (prior x c) (min 100 x.published.length : ℕ) = x.distinctToday := by
        constructor
        · intro hall
          rcases hall c rfl with ⟨cp', hthread', hcount'⟩
          obtain rfl := Option.some.inj (hthread.symm.trans hthread')
          rw [hprior]
          exact Option.some.inj (hcount.symm.trans hcount')
        · intro heq c' hc'
          cases hc'
          rw [hprior] at heq
          exact ⟨cp, hthread, hcount.trans (congrArg some heq)⟩
      rw [hcounts, Counted, ← x.fresh_iff]
      omega

/-- In every run, each cycle of the orchestrator leaves the number of different mismatches that
were published on the market date exactly if each starts with a counter, and with a stream, that
make it up. -/
theorem mismatches_counted_iff (cfg : Config) (upper : String → String)
    (serialize : ProtoMismatch → ByteArray) (nowMs : ℕ) (blocks : BlockRegistry) (today : String)
    (ops : List TallyOp) :
    (∀ t ∈ (tally cfg upper serialize).trans (.opening nowMs blocks today) ops,
      CountsMismatches t) ↔
    ∀ t ∈ (tally cfg upper serialize).trans (.opening nowMs blocks today) ops,
      Counted t.pre t.op :=
  (tally cfg upper serialize).trans_forall_fire_iff (fun _ op h => h.next op)
    (fun _ op h => countsMismatches_fire_iff h op) (.opening nowMs blocks today) ops

/-- A cycle of the agent that finds ten shares of INFY, of which the system knows nothing. -/
def unexpectedShares : TallyOp :=
  .reconcile
    { fetched := some
        { brokerPositions :=
            [{ symbol := "INFY", exchange := "NSE", quantity := 10, avgPrice := 1500 }] } }
    fun _ => .ok 0

/-- The mismatch is there in two cycles of the agent, and is counted twice. -/
theorem persisting_mismatch_counted_twice :
    ¬ ∀ (cfg : Config) (upper : String → String) (serialize : ProtoMismatch → ByteArray)
      (nowMs : ℕ) (blocks : BlockRegistry) (today : String) (ops : List TallyOp),
      ∀ t ∈ (tally cfg upper serialize).trans (.opening nowMs blocks today) ops,
        CountsMismatches t := by
  intro h
  have hrun := h plainConfig id (fun _ => ByteArray.empty) 0 { redis := none } "2026-07-02"
    [unexpectedShares, unexpectedShares, .cycle plainCycle]
  simp only [Machine.trans_cons, List.forall_mem_cons] at hrun
  have hinv : ((tally plainConfig id fun _ => ByteArray.empty).run
      (.opening 0 { redis := none } "2026-07-02") [unexpectedShares, unexpectedShares]).Inv :=
    (tally plainConfig id fun _ => ByteArray.empty).run_invariant (fun _ op h => h.next op)
      (.opening 0 { redis := none } "2026-07-02") _
  have hcounted := (countsMismatches_fire_iff hinv (.cycle plainCycle)).mp hrun.2.2.1
  exact absurd hcounted (by decide +kernel)

end Intraday.Orchestrator
