import Intraday.Api.Controls
import Intraday.Api.Pnl
import Intraday.Execution.Gate
import Intraday.Lib.Simulation
import Intraday.Orchestrator.Feed

/-!
# Intraday.Api.Kill — `/kill` of `api/routers/controls.py`, and who sees it

`/kill` triggers a manager that is made for the one request, so all that is left of it is what its
writes have left in Redis. Five components read the flag: a submission, the script of the
publisher, `signal_node`, the monitor and the API. They decode it differently, and some compare it
with `"true"` and some with nothing.

They see the same after every sequence of requests, publishes and waits: the flag is set exactly
if some `/kill` had the API key and its first write arrived (`kill_reaches_everyone`).
-/

namespace Intraday.Api

open Intraday.Core Intraday.Lib Intraday.Lib.Python Intraday.Lib.RedisStore
open Intraday.Compliance (KillSwitchManager SetOutcome)
open Intraday.Compliance.KillSwitchManager (redisSet triggerTier2)
open Intraday.Execution (ExecutionEngine Event KillSwitchTrigger ReadsFlag getOutcomes)
open Intraday.Orchestrator (CycleCall KeyPresent)
open Intraday.Signals (Attempt SignalGenerated publish)

/-! ## The endpoint -/

/-- `self._redis.set(key, value)`, on the server. -/
def serverSet (outcome : SetOutcome) (key value : String) : Method Store Unit := do
  if outcome.written then
    modify fun s => s.put key (some value.toByteArray)
  if outcome ≠ .done then throw .redisError

/-- The writes of `trigger`. -/
def writeTrigger (kind : KillSwitchTrigger) (reason : String) (sets : String → SetOutcome) :
    Method Store Unit := do
  serverSet (sets killSwitchHaltedKey) killSwitchHaltedKey "true"
  serverSet (sets killSwitchTierKey) killSwitchTierKey (toString kind.tier)
  serverSet (sets killSwitchReasonKey) killSwitchReasonKey reason

/-- The writes of `trigger_tier2(source)`. -/
def writeTier2 (source : String) (sets : String → SetOutcome) : Method Store Unit :=
  writeTrigger .tier2ExternalApi ("Manual kill switch activated via " ++ source ++ ".") sets

/-- A call of `/kill`: its key, what its Redis writes do, and the text of what they raise. -/
structure KillRequest where
  apiKey : Option String
  sets : String → SetOutcome
  error : String

/-- `POST /kill`. -/
def kill (configured : String) (req : KillRequest) (s : Store) :
    Store × Except HttpException ControlResponse :=
  match requireApiKey configured req.apiKey with
  | .error exc => (s, .error exc)
  | .ok () =>
      (after (writeTier2 "rest_api" req.sets) s,
       .ok
        (match outcome (writeTier2 "rest_api" req.sets) s with
        | .ok () => { success := true, action := "kill", reason := "Tier 2 kill switch triggered" }
        | .error _ => { success := false, action := "kill", reason := req.error }))

/-! ## The manager and the server -/

/-- The manager has a client, and its texts are on the server. -/
def Mirrors (m : KillSwitchManager) (s : Store) : Prop :=
  ∃ db, m.redis = some db ∧
    ∀ key ∈ [killSwitchHaltedKey, killSwitchTierKey, killSwitchReasonKey],
      s.get key = (db.get? key).map String.toByteArray

/-- A write of the manager is one on the server, also if it raises. -/
theorem simulates_set (o : SetOutcome) (key value : String) :
    Simulates Mirrors (redisSet o key value) (serverSet o key value) := by
  rintro m s ⟨db, hredis, hdb⟩
  have hwrite : Mirrors { m with redis := m.redis.map (·.set key value) }
      (s.put key (some value.toByteArray)) := by
    refine ⟨db.set key value, by rw [hredis]; rfl, ?_⟩
    intro key' hkey'
    by_cases hsame : key' = key
    · subst hsame
      rw [Store.get_put_self, Dict.get?_set_self]
      rfl
    · rw [Store.get_put_of_ne _ _ hsame, Dict.get?_set_of_ne _ _ hsame, hdb key' hkey']
  cases o with
  | done => exact ⟨hwrite, rfl⟩
  | raised => exact ⟨⟨db, hredis, hdb⟩, rfl⟩
  | raisedAfterWrite => exact ⟨hwrite, rfl⟩

/-- The same three writes, by a manager. -/
def managerWrites (source : String) (sets : String → SetOutcome) :
    Method KillSwitchManager Unit := do
  redisSet (sets killSwitchHaltedKey) killSwitchHaltedKey "true"
  redisSet (sets killSwitchTierKey) killSwitchTierKey (toString 2)
  redisSet (sets killSwitchReasonKey) killSwitchReasonKey
    ("Manual kill switch activated via " ++ source ++ ".")

theorem simulates_writes (source : String) (sets : String → SetOutcome) :
    Simulates Mirrors (managerWrites source sets) (writeTier2 source sets) := by
  refine (simulates_set _ _ _).bind fun _ => ?_
  refine (simulates_set _ _ _).bind fun _ => ?_
  exact simulates_set _ _ _

/-- With a client, `trigger_tier2` is its writes and the event. -/
theorem run_triggerTier2 {m : KillSwitchManager} {db : Dict String String}
    (hredis : m.redis = some db) (source : String) (nowMs : ℤ) (sets : String → SetOutcome) :
    ∃ event, (triggerTier2 source nowMs sets).run m =
      (managerWrites source sets >>= fun _ => pure event).run
        { m with lastEvent := some event } := by
  refine ⟨{ tier := 2, reason := "Manual kill switch activated via " ++ source ++ "."
            triggeredAtMs := nowMs }, ?_⟩
  rcases m with ⟨redis, halted, lastEvent⟩
  obtain rfl : redis = some db := hredis
  rw [managerWrites, bind_assoc, funext fun _ => bind_assoc _ _ _]
  rfl

/-- `/kill` does to the server what `trigger_tier2` does to its manager, and says whether that
returned. -/
theorem kill_mirrors_trigger {configured : String} {req : KillRequest} {m : KillSwitchManager}
    {s : Store} (hauth : requireApiKey configured req.apiKey = .ok ()) (h : Mirrors m s)
    (nowMs : ℤ) :
    Mirrors (after (triggerTier2 "rest_api" nowMs req.sets) m) (kill configured req s).1 ∧
      ∃ response, (kill configured req s).2 = .ok response ∧
        (response.success = true ↔
          ∃ event, outcome (triggerTier2 "rest_api" nowMs req.sets) m = .ok event) := by
  rcases h with ⟨db, hredis, hdb⟩
  rcases run_triggerTier2 hredis "rest_api" nowMs req.sets with ⟨event, hrun⟩
  rcases simulates_writes "rest_api" req.sets { m with lastEvent := some event } s
    ⟨db, hredis, hdb⟩ with ⟨hmirrors, hends⟩
  have hkill : kill configured req s = (after (writeTier2 "rest_api" req.sets) s, .ok
      (match outcome (writeTier2 "rest_api" req.sets) s with
      | .ok () => { success := true, action := "kill", reason := "Tier 2 kill switch triggered" }
      | .error _ => { success := false, action := "kill", reason := req.error })) := by
    rw [kill, hauth]
  have hafter : after (triggerTier2 "rest_api" nowMs req.sets) m =
      after (managerWrites "rest_api" req.sets) { m with lastEvent := some event } := by
    rw [after, hrun]
    refine (after_bind_eq _ _ _).trans ?_
    split <;> rfl
  have houtcome : outcome (triggerTier2 "rest_api" nowMs req.sets) m =
      (outcome (writeTier2 "rest_api" req.sets) s).map fun _ => event := by
    rw [outcome, hrun, ← hends]
    refine (outcome_bind_eq _ _ _).trans ?_
    cases outcome (managerWrites "rest_api" req.sets) { m with lastEvent := some event } <;> rfl
  rw [hkill, hafter, houtcome]
  refine ⟨hmirrors, _, rfl, ?_⟩
  cases outcome (writeTier2 "rest_api" req.sets) s with
  | ok _ => simp [Except.map]
  | error exc => simp [Except.map]

/-! ## The server, and what happens to it -/

/-- A request of an operator, a publish, or the passing of time. -/
inductive DeskOp where
  | kill (req : KillRequest)
  | pause (req : ControlRequest)
  | resume (req : ControlRequest)
  | publish (a : Attempt)
  | advance (ms : ℕ)

/-- The server; a request is answered. -/
def desk (configured : String) (serialize : SignalGenerated → ByteArray) :
    Machine Store DeskOp (Option (Except HttpException ControlResponse)) where
  step s
    | .kill req => ((kill configured req s).1, some (kill configured req s).2)
    | .pause req => ((pause configured req s).1, some (pause configured req s).2)
    | .resume req => ((resume configured req s).1, some (resume configured req s).2)
    | .publish a => ((publish serialize s a).1, none)
    | .advance ms => (s.advance ms, none)

/-- The request sets the flag: it has the key, and its first write arrives. -/
def DeskOp.halts (configured : String) : DeskOp → Bool
  | .kill req =>
      (match requireApiKey configured req.apiKey with
      | .ok () => true
      | .error _ => false) && (req.sets killSwitchHaltedKey).written
  | _ => false

/-- The flag is set, or was never: nothing gives it a deadline. -/
def Flagged (v : Bool) (s : Store) : Prop :=
  s.strings killSwitchHaltedKey =
    if v then some { value := "true".toByteArray, deadline := none } else none

variable {configured : String} {serialize : SignalGenerated → ByteArray} {s : Store} {v : Bool}

theorem Flagged.update (h : Flagged v s) {key : String} (hkey : killSwitchHaltedKey ≠ key)
    (cell : Option Cell) :
    Flagged v { s with strings := Function.update s.strings key cell } :=
  (Function.update_of_ne hkey _ _).trans h

theorem after_serverSet (o : SetOutcome) (key value : String) (s : Store) :
    after (serverSet o key value) s =
      if o.written then s.put key (some value.toByteArray) else s := by
  cases o <;> rfl

/-- The first write of a trigger decides about the flag. -/
theorem Flagged.writeTrigger (h : Flagged v s) (kind : KillSwitchTrigger) (reason : String)
    (sets : String → SetOutcome) :
    Flagged (v || (sets killSwitchHaltedKey).written)
      (after (writeTrigger kind reason sets) s) := by
  have hother : ∀ {w : Bool} {key : String}, killSwitchHaltedKey ≠ key → ∀ o value s',
      Flagged w s' → Flagged w (after (serverSet o key value) s') := by
    intro w key hkey o value s' h'
    rw [after_serverSet]
    split
    · exact h'.update hkey _
    · exact h'
  have hfirst : Flagged (v || (sets killSwitchHaltedKey).written)
      (after (serverSet (sets killSwitchHaltedKey) killSwitchHaltedKey "true") s) := by
    rw [after_serverSet]
    cases (sets killSwitchHaltedKey).written with
    | true =>
        rw [Bool.or_true, if_pos rfl]
        show Function.update s.strings killSwitchHaltedKey _ killSwitchHaltedKey = _
        rw [Function.update_self]
        rfl
    | false =>
        rw [Bool.or_false]
        exact h
  refine after_bind (P := Flagged _) hfirst fun _ s₁ h₁ => ?_
  refine after_bind (P := Flagged _) (hother (by decide) _ _ _ h₁) fun _ s₂ h₂ => ?_
  exact hother (by decide) _ _ _ h₂

theorem Flagged.kill (h : Flagged v s) (req : KillRequest) :
    Flagged (v || (DeskOp.kill req).halts configured) (kill configured req s).1 := by
  rw [Api.kill, DeskOp.halts]
  cases requireApiKey configured req.apiKey with
  | error exc =>
      rw [Bool.false_and, Bool.or_false]
      exact h
  | ok _ =>
      rw [Bool.true_and]
      exact h.writeTrigger _ _ _

theorem Flagged.writePaused (h : Flagged v s) (action reason : String) (value : Option ByteArray)
    (req : ControlRequest) :
    Flagged v (writePaused configured action reason value req s).1 := by
  rw [Api.writePaused]
  cases requireApiKey configured req.apiKey with
  | error exc => exact h
  | ok _ =>
      dsimp only
      split
      · exact h.update (by decide) _
      · exact h

theorem Flagged.publish (h : Flagged v s) (a : Attempt) :
    Flagged v (publish serialize s a).1 := by
  by_cases hacc : Signals.Accepts s a
  · have hne : killSwitchHaltedKey ≠ a.key := (Signals.dedupKey_ne_halted _ _).symm
    rw [Signals.publish_of_accepts hacc]
    have hset := h.update hne
      (some
        { value := "1".toByteArray
          deadline := some (s.nowMs + 1000 * a.publisher.dedupWindow) })
    exact hset
  · rw [Signals.publish_of_not_accepts hacc]
    exact h

/-- The flag after one step. -/
theorem Flagged.next (h : Flagged v s) (op : DeskOp) :
    Flagged (v || op.halts configured) ((desk configured serialize).next s op) := by
  cases op with
  | kill req => exact h.kill req
  | pause req =>
      show Flagged (v || false) _
      rw [Bool.or_false]
      exact h.writePaused _ _ _ req
  | resume req =>
      show Flagged (v || false) _
      rw [Bool.or_false]
      exact h.writePaused _ _ _ req
  | publish a =>
      show Flagged (v || false) _
      rw [Bool.or_false]
      exact h.publish a
  | advance ms =>
      show Flagged (v || false) _
      rw [Bool.or_false]
      exact h

/-- The flag after a run. -/
theorem Flagged.run (h : Flagged v s) (ops : List DeskOp) :
    Flagged (v || ops.any (·.halts configured)) ((desk configured serialize).run s ops) := by
  induction ops generalizing s v with
  | nil =>
      rw [List.any_nil, Bool.or_false]
      exact h
  | cons op ops ih =>
      rw [List.any_cons, ← Bool.or_assoc]
      exact ih (h.next op)

/-! ## The readers -/

/-- What the client of the engine answers. -/
def flagRead (s : Store) : Execution.GetOutcome :=
  match s.get killSwitchHaltedKey with
  | some raw => .bytes raw
  | none => .missing

/-- What the clients of the monitor and of the API answer. -/
def serverReads (s : Store) : Monitor.Agent.RedisReads where
  get key := .ok (s.get key)
  xrevrange stream count := .ok ⟨s.xrevrange stream count, List.length_take_le _ _⟩

/-- All components read the flag as `v`. -/
structure SeenByAll (v : Bool) (s : Store) : Prop where
  engine : Execution.isHalted (flagRead s) = v
  publisher : Signals.halted s = v
  signalNode : ∀ (cfg : Orchestrator.Config) (c : CycleCall), cfg.redis = true →
    (KeyPresent cfg (c.env s) killSwitchHaltedKey ↔ v = true)
  monitor : ∀ capital, (Pnl.monitor (serverReads s) capital).readSystemHalted = v
  api : Status.boolKey (Pnl.decoded (serverReads s)) killSwitchHaltedKey = v

theorem Flagged.get (h : Flagged v s) :
    s.get killSwitchHaltedKey = if v then some "true".toByteArray else none := by
  rw [Flagged] at h
  cases v <;> simp [Store.get, Store.exists?, h]

theorem Flagged.seenByAll (h : Flagged v s) : SeenByAll v s := by
  have hget := h.get
  refine ⟨?_, ?_, ?_, ?_, ?_⟩
  · rw [flagRead, hget]
    cases v <;> simp [Execution.isHalted, Execution.readFlag]
  · rw [Signals.halted, hget]
    cases v with
    | true => decide
    | false => rfl
  · intro cfg c hredis
    have henv : c.env s (.get killSwitchHaltedKey) = .ok (s.get killSwitchHaltedKey) := rfl
    rw [KeyPresent, henv, hget]
    cases v <;> simp [hredis]
  · intro capital
    show (s.get killSwitchHaltedKey).isSome = v
    rw [hget]
    cases v <;> rfl
  · have hread : (serverReads s).get killSwitchHaltedKey =
        .ok (if v then some "true".toByteArray else none) := congrArg Except.ok hget
    rw [Status.boolKey, Pnl.decoded, hread]
    cases v <;> simp

/-! ## What the halt stops -/

/-- No order without priority is placed by a submission that reads the flag. -/
theorem not_placed_of_flagged (h : Flagged true s) {e : ExecutionEngine}
    {order : Compliance.OrderIntent} {ctx : Compliance.Context} {tr : List Event}
    {r : Except String Execution.FillReport} (hreads : ReadsFlag e order)
    (hexec : Proc.Exec (Execution.submit e order ctx) tr r)
    (hflag : getOutcomes tr = [flagRead s]) : ¬ Execution.Placed tr := by
  intro hplaced
  rcases Execution.exec_submit_placed hexec hplaced with
    ⟨nowMs, outcome, auditId, post, -, hpasses, -, -, rfl, hloop⟩
  rw [Execution.getOutcomes_append, Execution.getOutcomes_front hreads,
    Execution.getOutcomes_loop hloop] at hflag
  obtain rfl : outcome = flagRead s := (List.cons.inj hflag).1
  exact absurd ((hpasses hreads).symm.trans h.seenByAll.engine) Bool.false_ne_true

/-- A cycle from a whole state ends in the kill switch, and counts no signal. -/
theorem runCycle_of_flagged (h : Flagged true s) {cfg : Orchestrator.Config}
    (hredis : cfg.redis = true) (c : CycleCall) (o : Orchestrator.OrchestratorGraph)
    (t : Orchestrator.TradingSystemState) :
    ∃ values, (o.runCycle cfg (c.env s) (some t)).2.outcome = .returned values ∧
      values.killSwitchActive = some true ∧ values.signalsToday = some t.signalsToday := by
  have hkey := (h.seenByAll.signalNode cfg c hredis).mpr rfl
  have hallowed := Orchestrator.readsAllowed_of_noRedisError (s := t.toDict)
    (Orchestrator.noRedisError_env c s) cfg.redis
  rcases Orchestrator.invoke_cases cfg (c.env s) o.thread t with
    ⟨-, u, v, w, hreach, hinvoke⟩ | ⟨hnot, -⟩
  · have hrun : o.runCycle cfg (c.env s) (some t) = o.adopt _ := congrArg o.adopt hinvoke
    have hkilled := Orchestrator.afterRisk_of_mustKill hreach (.inr (.inr (.inl hkey)))
    have hsignals := Orchestrator.signalsToday_of_gated hreach (.inr (.inl hkey))
    rw [hrun, Orchestrator.afterRisk_halted hkilled]
    refine ⟨_, rfl, rfl, ?_⟩
    show w.signalsToday = _
    rw [hsignals]
    rfl
  · exact absurd hallowed hnot

/-- A request that is told of success has set the flag. -/
theorem halts_of_success {req : KillRequest} {response : ControlResponse}
    (h : (kill configured req s).2 = .ok response) (hsuccess : response.success = true) :
    (DeskOp.kill req).halts configured = true := by
  rw [kill] at h
  rw [DeskOp.halts]
  cases hauth : requireApiKey configured req.apiKey with
  | error exc =>
      rw [hauth] at h
      cases h
  | ok _ =>
      rw [hauth] at h
      have hresponse := Except.ok.inj h
      -- the first write did not raise, for the rest was reached
      cases hset : req.sets killSwitchHaltedKey with
      | done => rfl
      | raised =>
          have hraised : outcome (writeTier2 "rest_api" req.sets) s = .error .redisError := by
            rw [writeTier2, writeTrigger, hset]
            rfl
          rw [hraised] at hresponse
          rw [← hresponse] at hsuccess
          cases hsuccess
      | raisedAfterWrite => rfl

/-- After any sequence of requests, publishes and waits, all components agree on the flag: it is
set exactly if a `/kill` had the API key and its first write arrived. From then on nothing is
published, no order without priority is placed, and every cycle of the orchestrator ends in the
kill switch and forwards nothing. A `/kill` that reports success has set it. -/
theorem kill_reaches_everyone (configured : String) (serialize : SignalGenerated → ByteArray)
    (start : Store) (ops : List DeskOp) :
    let s₀ := start.put killSwitchHaltedKey none
    let s := (desk configured serialize).run s₀ ops
    let killed := ops.any (·.halts configured)
    SeenByAll killed s ∧
      (killed = true →
        (∀ a, (publish serialize s a).1 = s) ∧
        (∀ e order ctx tr r, ReadsFlag e order → Proc.Exec (Execution.submit e order ctx) tr r →
          getOutcomes tr = [flagRead s] → ¬ Execution.Placed tr) ∧
        ∀ cfg c o t, cfg.redis = true → ∃ values,
          (Orchestrator.OrchestratorGraph.runCycle cfg (CycleCall.env c s) o (some t)).2.outcome =
            .returned values ∧
          values.killSwitchActive = some true ∧ values.signalsToday = some t.signalsToday) ∧
      ∀ t ∈ (desk configured serialize).trans s₀ ops, ∀ req response, t.op = .kill req →
        t.reply = some (.ok response) → response.success = true → killed = true := by
  intro s₀ s killed
  have hstart : Flagged false s₀ := by
    show Function.update start.strings killSwitchHaltedKey none killSwitchHaltedKey = none
    rw [Function.update_self]
  have hflag : Flagged killed s := by
    have hrun : Flagged (false || killed) s := hstart.run ops
    rwa [Bool.false_or] at hrun
  refine ⟨hflag.seenByAll, ?_, ?_⟩
  · intro hkilled
    rw [hkilled] at hflag
    refine ⟨?_, ?_, ?_⟩
    · intro a
      refine Signals.publish_of_not_accepts ?_
      rintro ⟨-, hopen, -⟩
      rw [hflag.seenByAll.publisher] at hopen
      cases hopen
    · intro e order ctx tr r hreads hexec hread
      exact not_placed_of_flagged hflag hreads hexec hread
    · intro cfg c o t hredis
      exact runCycle_of_flagged hflag hredis c o t
  · intro t ht req response hop hreply hsuccess
    have hmem := (desk configured serialize).trans_forall_op (P := (· ∈ ops)) (fun _ h => h) t ht
    have hfire := congrArg Trans.reply ((desk configured serialize).trans_fire ht)
    rw [hreply, hop] at hfire
    have hanswer : (kill configured req t.pre).2 = .ok response := (Option.some.inj hfire).symm
    refine List.any_eq_true.mpr ⟨t.op, hmem, ?_⟩
    rw [hop]
    exact halts_of_success hanswer hsuccess

end Intraday.Api
