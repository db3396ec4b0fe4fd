import Intraday.Lib.Redis
import Intraday.Compliance.KillSwitch

/-!
# Intraday.Monitor.Heartbeat — `shared/monitor/heartbeat.py`

`HeartbeatChecker` counts the consecutive checks at which an agent is stale and calls the
Tier 3 kill switch from `max_misses` on. The call passes one keyword, `reason`, which
`KillSwitchManager.trigger_tier3` does not have: Python raises a `TypeError` before the
body of the trigger runs, and `_trigger_kill` logs it and goes on. The manager is therefore
never touched (`next_killSwitch`), whatever the history of heartbeats.
-/

namespace Intraday.Monitor

open Intraday.Core Intraday.Lib Intraday.Lib.Python Intraday.Lib.Redis Intraday.Compliance

/-! ## The checker -/

/-- `HeartbeatRecord`. -/
structure HeartbeatRecord where
  agentName : String
  lastSeenMs : ℚ
  missedCount : ℤ := 0
deriving DecidableEq, Repr

/-- `AgentHealth`. -/
structure AgentHealth where
  agentName : String
  isHealthy : Bool
  lastSeenMs : ℚ
  missedCount : ℤ
  ageSeconds : ℚ
deriving DecidableEq, Repr

/-- `HeartbeatChecker`. The Redis client is given by the database behind it. -/
structure HeartbeatChecker where
  redis : Option (Dict String Text)
  killSwitch : Option KillSwitchManager
  interval : ℤ
  maxMisses : ℤ
  records : Dict String HeartbeatRecord

/-- The key of an agent's heartbeat. -/
def heartbeatKey (agentName : String) : String :=
  monitorHeartbeatRedisKeyPrefix ++ ":" ++ agentName

/-- How the calls of one check end: whether the `get` for an agent raises, and what the
kill switch's own writes would do. -/
structure CheckEnv where
  getRaises : String → Bool
  nowMs : ℤ
  sets : String → SetOutcome

namespace HeartbeatChecker

/-- `__init__`. -/
def init (redis : Option (Dict String Text)) (killSwitch : Option KillSwitchManager)
    (interval : ℤ := heartbeatIntervalSeconds)
    (maxMisses : ℤ := maxMissedHeartbeatsBeforeKill) : HeartbeatChecker :=
  { redis := redis, killSwitch := killSwitch, interval := interval, maxMisses := maxMisses
    records := Dict.empty }

/-- `add_watched_agent`, at `nowMs`. -/
def addWatchedAgent (c : HeartbeatChecker) (agentName : String) (nowMs : ℚ) : HeartbeatChecker :=
  match c.records.get? agentName with
  | some _ => c
  | none =>
      { c with records :=
          c.records.set agentName { agentName := agentName, lastSeenMs := nowMs } }

/-- `register_heartbeat`; an exception of the write is logged only. -/
def registerHeartbeat (c : HeartbeatChecker) (agentName : String) (tsMs : ℚ)
    (setRaises : Bool) : HeartbeatChecker :=
  let redis :=
    if setRaises then c.redis else c.redis.map (·.set (heartbeatKey agentName) (.num tsMs))
  let record : HeartbeatRecord :=
    match c.records.get? agentName with
    | none => { agentName := agentName, lastSeenMs := tsMs }
    | some record => { record with lastSeenMs := tsMs, missedCount := 0 }
  { c with redis := redis, records := c.records.set agentName record }

/-- `_refresh_from_redis`: a failed read and a text that is no number change nothing. -/
def refreshFromRedis (redis : Option (Dict String Text)) (getRaises : Bool)
    (record : HeartbeatRecord) (agentName : String) : HeartbeatRecord :=
  if getRaises then record
  else
    match redis.bind (·.get? (heartbeatKey agentName)) with
    | some (.num tsMs) =>
        if record.lastSeenMs < tsMs then { record with lastSeenMs := tsMs, missedCount := 0 }
        else record
    | _ => record

/-- The parameters of `KillSwitchManager.trigger_tier3`. -/
def triggerTier3Params : List String := ["agent_name", "missed_heartbeats"]

/-- `trigger_tier3(**kwargs)`, with the arguments as they print. -/
def callTriggerTier3 (kwargs : List (String × String)) (env : CheckEnv) :
    Method KillSwitchManager KillSwitchEvent :=
  match bindKeywords triggerTier3Params kwargs with
  | .error exc => throw exc
  | .ok args =>
      KillSwitchManager.triggerTier3 (args (0 : Fin 2)) (args (1 : Fin 2)) env.nowMs env.sets

/-- `_trigger_kill`: whatever the call raises is logged only. -/
def triggerKill (killSwitch : Option KillSwitchManager) (agentName : String) (missed : ℤ)
    (env : CheckEnv) : Option KillSwitchManager :=
  let reason := "Tier 3: agent '" ++ agentName ++ "' missed " ++ toString missed ++
    " consecutive heartbeats"
  killSwitch.map fun manager => after (callTriggerTier3 [("reason", reason)] env) manager

/-- What `check_all` has gathered so far: the checker, the health report and the calls of
`_trigger_kill`. -/
structure Sweep where
  checker : HeartbeatChecker
  health : Dict String AgentHealth := Dict.empty
  kills : List (String × ℤ) := []

/-- The body of the loop of `check_all`. -/
def checkAgent (tsMs : ℚ) (env : CheckEnv) (sweep : Sweep) (agentName : String)
    (record : HeartbeatRecord) : Sweep :=
  let c := sweep.checker
  let record := refreshFromRedis c.redis (env.getRaises agentName) record agentName
  let ageSeconds := (tsMs - record.lastSeenMs) / 1000
  let stale := decide ((c.interval : ℚ) < ageSeconds)
  let record := { record with missedCount := if stale then record.missedCount + 1 else 0 }
  let kill := stale && decide (c.maxMisses ≤ record.missedCount)
  { checker :=
      { c with
        records := c.records.set agentName record
        killSwitch :=
          if kill then triggerKill c.killSwitch agentName record.missedCount env
          else c.killSwitch }
    health := sweep.health.set agentName
      { agentName := agentName
        isHealthy := decide (record.missedCount < c.maxMisses)
        lastSeenMs := record.lastSeenMs
        missedCount := record.missedCount
        ageSeconds := ageSeconds }
    kills := if kill then sweep.kills ++ [(agentName, record.missedCount)] else sweep.kills }

/-- `check_all`. -/
def checkAll (c : HeartbeatChecker) (tsMs : ℚ) (env : CheckEnv) : Sweep :=
  c.records.entries.foldl (fun sweep entry => checkAgent tsMs env sweep entry.1 entry.2)
    { checker := c }

end HeartbeatChecker

open HeartbeatChecker

/-! ## The call that never arrives -/

variable {c : HeartbeatChecker} {sweep : Sweep} {env : CheckEnv}

/-- `reason` is no parameter of `trigger_tier3`: the manager stays as it is. -/
theorem triggerKill_eq (killSwitch : Option KillSwitchManager) (agentName : String) (missed : ℤ)
    (env : CheckEnv) : triggerKill killSwitch agentName missed env = killSwitch := by
  have hcall : ∀ reason manager,
      after (callTriggerTier3 [("reason", reason)] env) manager = manager := by
    intro reason manager
    have hbad : ∃ name ∈ [("reason", reason)].map Prod.fst, name ∉ triggerTier3Params :=
      ⟨"reason", List.mem_singleton_self _, by decide⟩
    rcases bindKeywords_error hbad with ⟨message, hbind⟩
    rw [callTriggerTier3, hbind]
    rfl
  cases killSwitch with
  | none => rfl
  | some manager => exact congrArg some (hcall _ manager)

theorem checkAgent_killSwitch (tsMs : ℚ) (agentName : String) (record : HeartbeatRecord) :
    (checkAgent tsMs env sweep agentName record).checker.killSwitch = sweep.checker.killSwitch := by
  simp only [checkAgent, triggerKill_eq, ite_self]

theorem checkAll_killSwitch (tsMs : ℚ) :
    (c.checkAll tsMs env).checker.killSwitch = c.killSwitch := by
  have hloop : ∀ (entries : List (String × HeartbeatRecord)) (sweep : Sweep),
      (entries.foldl (fun sweep entry => checkAgent tsMs env sweep entry.1 entry.2)
        sweep).checker.killSwitch = sweep.checker.killSwitch := by
    intro entries
    induction entries with
    | nil => exact fun _ => rfl
    | cons entry entries ih =>
        intro sweep
        rw [List.foldl_cons, ih, checkAgent_killSwitch]
  exact hloop _ _

/-! ## Whole runs -/

/-- One use of the checker, or a heartbeat that another process writes to Redis. -/
inductive Op where
  | addWatchedAgent (agentName : String) (nowMs : ℚ)
  | registerHeartbeat (agentName : String) (tsMs : ℚ) (setRaises : Bool)
  | checkAll (tsMs : ℚ) (env : CheckEnv)
  | remoteHeartbeat (agentName : String) (value : Text)

/-- The checker in use; a check replies with its report. -/
def monitor : Machine HeartbeatChecker Op (Option (Dict String AgentHealth)) where
  step c
    | .addWatchedAgent agentName nowMs => (c.addWatchedAgent agentName nowMs, none)
    | .registerHeartbeat agentName tsMs setRaises =>
        (c.registerHeartbeat agentName tsMs setRaises, none)
    | .checkAll tsMs env => ((c.checkAll tsMs env).checker, some (c.checkAll tsMs env).health)
    | .remoteHeartbeat agentName value =>
        ({ c with redis := c.redis.map (·.set (heartbeatKey agentName) value) }, none)

/-- No use of the checker changes the manager. -/
theorem next_killSwitch (c : HeartbeatChecker) (op : Op) :
    (monitor.next c op).killSwitch = c.killSwitch := by
  cases op with
  | addWatchedAgent agentName nowMs =>
      show (c.addWatchedAgent agentName nowMs).killSwitch = _
      rw [addWatchedAgent]
      split <;> rfl
  | registerHeartbeat agentName tsMs setRaises => rfl
  | checkAll tsMs env => exact checkAll_killSwitch tsMs
  | remoteHeartbeat agentName value => rfl

/-- The transition is a check after which the consecutive stale checks of some agent number
`max_misses`. The count grows by one at each stale check, so this is when it first gets
there. -/
def ReachesMaxMisses (t : Trans HeartbeatChecker Op (Option (Dict String AgentHealth))) : Prop :=
  ∃ tsMs env, t.op = .checkAll tsMs env ∧
    ∃ agentName record, t.post.records.get? agentName = some record ∧
      record.missedCount = t.post.maxMisses

/-- `self._kill_switch.is_halted`, read by a `get` that does not raise. -/
def KillSwitchHalted (c : HeartbeatChecker) : Prop :=
  ∃ manager, c.killSwitch = some manager ∧ manager.isHalted false = .ok true

/-- The manager at any point of a run is the one the run began with. -/
theorem trans_killSwitch {killSwitch : Option KillSwitchManager} (hc : c.killSwitch = killSwitch)
    {ops : List Op} : ∀ t ∈ monitor.trans c ops, t.post.killSwitch = killSwitch := by
  intro t ht
  have hstep : ∀ c op, c.killSwitch = killSwitch → True →
      (monitor.next c op).killSwitch = killSwitch := by
    intro c op hc _
    rw [next_killSwitch, hc]
  rcases monitor.trans_invariant_of_allowed hstep hc (fun _ _ => trivial) t ht with ⟨hpre, hfire⟩
  rw [hfire]
  exact hstep t.pre t.op hpre trivial

/-- At the check where an agent reaches `max_misses`, the manager is halted in the end
exactly if it was when the run began. -/
theorem tier3_halts_iff (redis : Option (Dict String Text)) (manager : KillSwitchManager)
    (interval maxMisses : ℤ) (ops : List Op) :
    ∀ t ∈ monitor.trans (init redis (some manager) interval maxMisses) ops,
      ReachesMaxMisses t → (KillSwitchHalted t.post ↔ manager.isHalted false = .ok true) := by
  intro t ht _
  have hpost := trans_killSwitch rfl t ht
  constructor
  · rintro ⟨manager', hmanager, hhalted⟩
    rw [hpost] at hmanager
    rwa [Option.some.inj hmanager]
  · intro hhalted
    exact ⟨manager, hpost, hhalted⟩

/-- One heartbeat, then two checks, each more than an interval after the last. -/
def silentAgent : List Op :=
  let env : CheckEnv := { getRaises := fun _ => false, nowMs := 0, sets := fun _ => .done }
  [.registerHeartbeat "signal_agent" 0 false, .checkAll 31000 env, .checkAll 62000 env]

/-- The second check finds the agent at two misses. -/
theorem silentAgent_reaches (halted : Bool) :
    ∃ t ∈ monitor.trans (init none (some { redis := none, halted := halted })) silentAgent,
      ReachesMaxMisses t := by
  refine ⟨_, List.mem_cons_of_mem _ (List.mem_cons_of_mem _ (List.mem_cons_self ..)), _, _, rfl,
    "signal_agent", { agentName := "signal_agent", lastSeenMs := 0, missedCount := 2 }, ?_, rfl⟩
  cases halted <;> decide +kernel

/-- A manager that was halted before is found halted at the check. -/
theorem halted_manager_stays_halted :
    ∃ t ∈ monitor.trans (init none (some { redis := none, halted := true })) silentAgent,
      ReachesMaxMisses t ∧ KillSwitchHalted t.post := by
  rcases silentAgent_reaches true with ⟨t, ht, hreaches⟩
  exact ⟨t, ht, hreaches, (tier3_halts_iff _ _ _ _ _ t ht hreaches).mpr rfl⟩

/-- With a fresh manager the second missed heartbeat halts nothing. -/
theorem silent_agent_is_not_killed :
    ¬ ∀ (redis : Option (Dict String Text)) (manager : KillSwitchManager)
        (interval maxMisses : ℤ) (ops : List Op),
      ∀ t ∈ monitor.trans (init redis (some manager) interval maxMisses) ops,
        ReachesMaxMisses t → KillSwitchHalted t.post := by
  intro h
  rcases silentAgent_reaches false with ⟨t, ht, hreaches⟩
  rcases h _ _ _ _ _ t ht hreaches with ⟨manager, hmanager, hhalted⟩
  rw [trans_killSwitch rfl t ht] at hmanager
  rw [← Option.some.inj hmanager] at hhalted
  exact Bool.false_ne_true (Except.ok.inj hhalted)

end Intraday.Monitor
