import Intraday.Lib.PyValue
import Intraday.Lib.RedisStore
import Intraday.Monitor.PnlTracker
import Intraday.Monitor.Heartbeat

/-!
# Intraday.Monitor.Agent — `shared/monitor/agent.py`

`poll_once` reads the P&L, the halted key, the orchestrator's state and the mismatch stream,
checks the heartbeats, and exports a snapshot. Each read contains its own failures, but what
was read of the state is used as a dictionary with a sized entry, before the heartbeats are
checked: any other JSON value raises there, and `_run_loop` goes on to the next poll.
`poll_supervises_iff` says exactly which states let a poll through, and `loop_blind` that a
state that does not leaves the heartbeats unchecked for as long as it is there.

Floats are Python's.
-/

namespace Intraday.Monitor.Agent

open Intraday.Core Intraday.Lib Intraday.Lib.Python Intraday.Lib.RedisStore
open Intraday.Monitor HeartbeatChecker

/-! ## The reads -/

/-- What the Redis calls of one poll answer or raise. -/
structure RedisReads where
  get : String → Except Exc (Option ByteArray)
  xrevrange : String → (count : ℕ) → Except Exc { entries : List Entry // entries.length ≤ count }

/-- `PnLTracker`: the client, given by what it answers, and the starting capital. -/
structure PnLTracker where
  redis : Option RedisReads
  startingCapital : PyFloat

/-- `PnLSnapshot`. -/
structure PnLSnapshot where
  pnlToday : PyFloat
  pnlTodayPct : PyFloat
  startingCapital : PyFloat
  isCircuitBreaker : Bool
deriving DecidableEq

/-- `-0.02`. -/
def circuitBreakerThreshold : PyFloat :=
  .finite true { digits := 2, exp := -2, normal := .inl (by decide) }

namespace PnLTracker

variable (py : Builtins) (t : PnLTracker)

/-- The text under a key, decoded; `none` if there is none, or if the read or the decoding
raises. -/
def textAt (t : PnLTracker) (key : String) : Option String :=
  match t.redis with
  | none => none
  | some redis =>
      match redis.get key with
      | .ok (some raw) => String.fromUTF8? raw
      | _ => none

/-- `_read_pnl`, on the day `today`. -/
def readPnl (today : String) : PyFloat :=
  ((t.textAt (riskDailyPnlRedisKey today)).bind py.float).getD .zero

/-- `snapshot`. -/
def snapshot (today : String) : PnLSnapshot :=
  let pnlToday := t.readPnl py today
  let pnlPct :=
    if PyFloat.le t.startingCapital .zero || t.startingCapital = .nan then .zero
    else py.divide pnlToday t.startingCapital
  { pnlToday := pnlToday
    pnlTodayPct := pnlPct
    startingCapital := t.startingCapital
    isCircuitBreaker := PyFloat.le pnlPct circuitBreakerThreshold }

/-- `read_system_halted`. -/
def readSystemHalted : Bool :=
  match t.redis with
  | none => false
  | some redis =>
      match redis.get killSwitchHaltedKey with
      | .ok raw => raw.isSome
      | .error _ => false

/-- `read_orchestrator_state`: any JSON value that is there, else an empty dictionary. -/
def readOrchestratorState : Json :=
  ((t.textAt orchestratorStateRedisKey).bind py.loads).getD (.obj [])

/-- `read_reconciliation_mismatches`. -/
def readReconciliationMismatches : ℕ :=
  match t.redis with
  | none => 0
  | some redis =>
      match redis.xrevrange reconciliationMismatchRedisStream 1000 with
      | .ok entries => entries.val.length
      | .error _ => 0

theorem readReconciliationMismatches_le : t.readReconciliationMismatches ≤ 1000 := by
  rw [readReconciliationMismatches]
  cases t.redis with
  | none => exact Nat.zero_le _
  | some redis =>
      dsimp only
      cases redis.xrevrange reconciliationMismatchRedisStream 1000 with
      | ok entries => exact entries.property
      | error exc => exact Nat.zero_le _

end PnLTracker

/-! ## One poll -/

/-- `MonitorSnapshot`. -/
structure MonitorSnapshot where
  timestampMs : ℚ
  pnl : PnLSnapshot
  agentHealth : Dict String AgentHealth
  openPositionsCount : ℕ
  signalsToday : ℤ
  reconciliationMismatches : ℤ
  systemHalted : Bool

/-- `MonitorAgent`, without its thread. -/
structure MonitorAgent where
  hb : HeartbeatChecker
  lastSnapshot : Option MonitorSnapshot

/-- What a poll reads before it checks the heartbeats. -/
structure Counts where
  openPositions : ℕ
  signalsToday : ℤ
  reconciliationMismatches : ℤ
deriving DecidableEq, Repr

/-- The counts, from the state and the stream. -/
def counts (state : Json) (streamed : ℕ) : Except Exc Counts :=
  match state.asDict with
  | .error exc => .error exc
  | .ok orcState =>
      match ((orcState.get? "open_positions").getD (.obj [])).len with
      | .error exc => .error exc
      | .ok openPositionsCount =>
          .ok
            { openPositions := openPositionsCount
              signalsToday := ((orcState.get? "signals_today").getD (.int 0)).intOrZero
              reconciliationMismatches :=
                max ((orcState.get? "reconciliation_mismatches_today").getD (.int 0)).intOrZero
                  streamed }

/-- `PrometheusMetrics.update`: a gauge is set to the float of its number. The number of open
positions is a length, and every length has a float. -/
def updateMetrics (py : Builtins) (s : MonitorSnapshot) : Except Exc Unit :=
  match floatOfInt py s.signalsToday with
  | .error exc => .error exc
  | .ok _ =>
      match floatOfInt py s.reconciliationMismatches with
      | .error exc => .error exc
      | .ok _ => .ok ()

/-- The snapshot, from the counts and what `check_all` found. -/
def buildSnapshot (py : Builtins) (t : PnLTracker) (today : String) (tsMs : ℚ) (n : Counts)
    (sweep : Sweep) : MonitorSnapshot :=
  let pnlSnap := t.snapshot py today
  { timestampMs := tsMs
    pnl := pnlSnap
    agentHealth := sweep.health
    openPositionsCount := n.openPositions
    signalsToday := n.signalsToday
    reconciliationMismatches := n.reconciliationMismatches
    systemHalted := t.readSystemHalted || pnlSnap.isCircuitBreaker }

/-- How a poll ends: the agent, what `check_all` returned if it was called, and the snapshot
or the exception. -/
structure Poll where
  agent : MonitorAgent
  sweep : Option Sweep
  outcome : Except Exc MonitorSnapshot

/-- `poll_once`, at `tsMs` on the day `today`. -/
def pollOnce (py : Builtins) (t : PnLTracker) (today : String) (agent : MonitorAgent) (tsMs : ℚ)
    (env : CheckEnv) : Poll :=
  match counts (t.readOrchestratorState py) t.readReconciliationMismatches with
  -- the exception comes before the heartbeats are checked
  | .error exc => { agent := agent, sweep := none, outcome := .error exc }
  | .ok n =>
      let sweep := agent.hb.checkAll tsMs env
      let checked := { agent with hb := sweep.checker }
      let snapshot := buildSnapshot py t today tsMs n sweep
      match updateMetrics py snapshot with
      | .error exc => { agent := checked, sweep := some sweep, outcome := .error exc }
      | .ok () =>
          { agent := { checked with lastSnapshot := some snapshot }
            sweep := some sweep
            outcome := .ok snapshot }

/-! ## What a poll needs of the state -/

/-- The poll checks the heartbeats and returns a snapshot. -/
def Supervises (poll : Poll) (agent : MonitorAgent) (tsMs : ℚ) (env : CheckEnv) : Prop :=
  poll.sweep = some (agent.hb.checkAll tsMs env) ∧ ∃ snapshot, poll.outcome = .ok snapshot

/-- A value with a length. -/
def Sized : Json → Prop
  | .str _ | .arr _ | .obj _ => True
  | _ => False

/-- A counter of the state, 0 unless it is an integer. -/
def counterOf (members : List (String × Json)) (key : String) : ℤ :=
  (((Json.dictOf members).get? key).getD (.int 0)).intOrZero

/-- A state that a poll gets through with: a dictionary whose open positions, if there are any,
have a length, and whose two counters are not too large for a float. -/
def Usable : Json → Prop
  | .obj members =>
      (∀ v, (Json.dictOf members).get? "open_positions" = some v → Sized v) ∧
        (counterOf members "signals_today").natAbs < floatBound ∧
        counterOf members "reconciliation_mismatches_today" < floatBound
  | _ => False

theorem len_isOk_iff (v : Json) : (∃ n, v.len = .ok n) ↔ Sized v := by
  cases v with
  | str s => exact iff_of_true ⟨_, rfl⟩ trivial
  | arr items => exact iff_of_true ⟨_, rfl⟩ trivial
  | obj members => exact iff_of_true ⟨_, rfl⟩ trivial
  | null => exact iff_of_false (fun h => nomatch h.choose_spec) id
  | bool b => exact iff_of_false (fun h => nomatch h.choose_spec) id
  | int i => exact iff_of_false (fun h => nomatch h.choose_spec) id
  | float x => exact iff_of_false (fun h => nomatch h.choose_spec) id

theorem counts_isOk_iff (state : Json) (streamed : ℕ) :
    (∃ n, counts state streamed = .ok n) ↔ ∃ members, state = .obj members ∧
      ∀ v, (Json.dictOf members).get? "open_positions" = some v → Sized v := by
  cases state with
  | obj members =>
      have hsized : (∀ v, (Json.dictOf members).get? "open_positions" = some v → Sized v) ↔
          Sized (((Json.dictOf members).get? "open_positions").getD (.obj [])) := by
        cases (Json.dictOf members).get? "open_positions" with
        | none => exact iff_of_true (fun v h => nomatch h) trivial
        | some v => simp
      simp only [Json.obj.injEq, exists_eq_left', hsized]
      rw [← len_isOk_iff]
      simp only [counts, Json.asDict]
      cases (((Json.dictOf members).get? "open_positions").getD (.obj [])).len with
      | ok n => simp
      | error exc => simp
  | null => simp [counts, Json.asDict]
  | bool b => simp [counts, Json.asDict]
  | int i => simp [counts, Json.asDict]
  | float x => simp [counts, Json.asDict]
  | str s => simp [counts, Json.asDict]
  | arr items => simp [counts, Json.asDict]

theorem counts_obj {members : List (String × Json)} {streamed : ℕ} {n : Counts}
    (h : counts (.obj members) streamed = .ok n) :
    n.signalsToday = counterOf members "signals_today" ∧
      n.reconciliationMismatches =
        max (counterOf members "reconciliation_mismatches_today") streamed := by
  simp only [counts, Json.asDict] at h
  cases hlen : (((Json.dictOf members).get? "open_positions").getD (.obj [])).len with
  | ok k =>
      rw [hlen] at h
      cases h
      exact ⟨rfl, rfl⟩
  | error exc =>
      rw [hlen] at h
      cases h

theorem updateMetrics_isOk_iff (py : Builtins) (s : MonitorSnapshot) :
    updateMetrics py s = .ok () ↔ s.signalsToday.natAbs < floatBound ∧
      s.reconciliationMismatches.natAbs < floatBound := by
  rw [← floatOfInt_isOk_iff py, ← floatOfInt_isOk_iff py, updateMetrics]
  cases floatOfInt py s.signalsToday with
  | error exc => simp
  | ok x =>
      cases floatOfInt py s.reconciliationMismatches with
      | error exc => simp
      | ok y => simp

/-- The number of streamed mismatches is small, so it is the counter of the state that counts. -/
theorem natAbs_max_lt_iff {i : ℤ} {n : ℕ} (h : n ≤ 1000) :
    (max i n).natAbs < floatBound ↔ i < floatBound := by
  have hbound := small_lt_floatBound
  generalize floatBound = b at hbound ⊢
  omega

variable {py : Builtins} {t : PnLTracker} {today : String} {agent : MonitorAgent} {tsMs : ℚ}
  {env : CheckEnv}

/-- Exactly the states that a poll needs to check the heartbeats and to return a snapshot. -/
theorem poll_supervises_iff (py : Builtins) (t : PnLTracker) (today : String)
    (agent : MonitorAgent) (tsMs : ℚ) (env : CheckEnv) :
    Supervises (pollOnce py t today agent tsMs env) agent tsMs env ↔
      Usable (t.readOrchestratorState py) := by
  have hiff := counts_isOk_iff (t.readOrchestratorState py) t.readReconciliationMismatches
  rcases hcounts : counts (t.readOrchestratorState py) t.readReconciliationMismatches with exc | n
  · -- the poll raises before the check
    rw [hcounts] at hiff
    constructor
    · rintro ⟨hsweep, -⟩
      simp [pollOnce, hcounts] at hsweep
    · intro husable
      cases hstate : t.readOrchestratorState py with
      | obj members =>
          rw [hstate] at husable hiff
          exact absurd (hiff.mpr ⟨members, rfl, husable.1⟩) (fun h => nomatch h.choose_spec)
      | _ =>
          rw [hstate] at husable
          exact husable.elim
  · -- the check is made; the gauges decide whether there is a snapshot
    rcases hiff.mp ⟨n, hcounts⟩ with ⟨members, hstate, hsized⟩
    rw [hstate] at hcounts
    rcases counts_obj hcounts with ⟨hsignals, hrecon⟩
    have husable : Usable (t.readOrchestratorState py) ↔ n.signalsToday.natAbs < floatBound ∧
        n.reconciliationMismatches.natAbs < floatBound := by
      rw [hsignals, hrecon, natAbs_max_lt_iff t.readReconciliationMismatches_le, hstate]
      exact ⟨fun h => h.2, fun h => ⟨hsized, h⟩⟩
    rw [← hstate] at hcounts
    rw [husable]
    have hmetrics := updateMetrics_isOk_iff py
      (buildSnapshot py t today tsMs n (agent.hb.checkAll tsMs env))
    simp only [pollOnce, hcounts]
    rcases hupdate : updateMetrics py (buildSnapshot py t today tsMs n
        (agent.hb.checkAll tsMs env)) with exc | _
    · rw [hupdate] at hmetrics
      refine iff_of_false ?_ (fun h => nomatch hmetrics.mpr h)
      rintro ⟨-, snapshot, houtcome⟩
      cases houtcome
    · rw [hupdate] at hmetrics
      exact iff_of_true ⟨rfl, _, rfl⟩ (hmetrics.mp rfl)

/-- An orchestrator state that is a list. -/
def listState : RedisReads where
  get key := .ok (if key = orchestratorStateRedisKey then some (Json.arr []).dumps.toByteArray
    else none)
  xrevrange _ _ := .ok ⟨[], Nat.zero_le _⟩

/-- Built-ins that parse JSON; what they make of numbers does not matter here. -/
def parsing : Builtins where
  float _ := none
  loads := Json.loads
  divide x _ := x
  multiply x _ := x
  toFloat _ := .zero
  repr _ := ""

/-- A list under the state key keeps the poll from checking the heartbeats. -/
theorem list_state_stops_poll :
    ¬ ∀ (py : Builtins) (t : PnLTracker) (today : String) (agent : MonitorAgent) (tsMs : ℚ)
      (env : CheckEnv), Supervises (pollOnce py t today agent tsMs env) agent tsMs env := by
  intro h
  have hpoll := h parsing { redis := some listState, startingCapital := .zero } "20260702"
    { hb := HeartbeatChecker.init none none, lastSnapshot := none } 0
    { getRaises := fun _ => false, nowMs := 0, sets := fun _ => .done }
  have hread : PnLTracker.readOrchestratorState parsing
      { redis := some listState, startingCapital := .zero } = .arr [] := by
    simp only [PnLTracker.readOrchestratorState, PnLTracker.textAt, listState, if_true,
      fromUTF8?_toByteArray, Option.bind_some, parsing, Json.loads_dumps, Option.getD_some]
  have hsweep := hpoll.1
  simp only [pollOnce, hread, counts, Json.asDict] at hsweep
  cases hsweep

/-! ## The polling loop -/

/-- One turn of `_run_loop`: what the reads answer, the day, the clock and the check's calls. -/
structure Turn where
  tracker : PnLTracker
  today : String
  tsMs : ℚ
  env : CheckEnv

/-- `_run_loop`: an exception of a poll is logged only. -/
def loop (py : Builtins) : Machine MonitorAgent Turn Poll where
  step agent turn :=
    let poll := pollOnce py turn.tracker turn.today agent turn.tsMs turn.env
    (poll.agent, poll)

/-- As long as the state is no dictionary with sized open positions, no turn checks a
heartbeat, and the agent stays as it is. -/
theorem loop_blind (py : Builtins) (agent : MonitorAgent) (turns : List Turn)
    (h : ∀ turn ∈ turns, ¬ ∃ members, turn.tracker.readOrchestratorState py = .obj members ∧
      ∀ v, (Json.dictOf members).get? "open_positions" = some v → Sized v) :
    (loop py).run agent turns = agent ∧
      ∀ t ∈ (loop py).trans agent turns, t.reply.sweep = none := by
  induction turns with
  | nil => exact ⟨rfl, fun _ h => absurd h List.not_mem_nil⟩
  | cons turn turns ih =>
      rw [List.forall_mem_cons] at h
      rcases ih h.2 with ⟨hrun, hsweeps⟩
      -- one turn raises at the counts, with the agent as it was
      have hpoll : ∃ exc, pollOnce py turn.tracker turn.today agent turn.tsMs turn.env =
          { agent := agent, sweep := none, outcome := .error exc } := by
        rw [← counts_isOk_iff _ turn.tracker.readReconciliationMismatches] at h
        rcases hcounts : counts (turn.tracker.readOrchestratorState py)
            turn.tracker.readReconciliationMismatches with exc | n
        · exact ⟨exc, by simp only [pollOnce, hcounts]⟩
        · exact absurd ⟨n, hcounts⟩ h.1
      rcases hpoll with ⟨exc, hpoll⟩
      have hnext : (loop py).next agent turn = agent := by
        simp only [Machine.next, loop, hpoll]
      rw [Machine.run, Machine.trans_cons, hnext, List.forall_mem_cons]
      refine ⟨hrun, ?_, hsweeps⟩
      show (pollOnce py turn.tracker turn.today agent turn.tsMs turn.env).sweep = none
      rw [hpoll]

end Intraday.Monitor.Agent
