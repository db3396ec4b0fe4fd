import Intraday.Monitor.Heartbeat

/-!
# Intraday.Monitor.Misses — what a missed heartbeat is, over whole runs

The history of one agent is a list of marks, made from the operations alone: a sign of
life, a check that found it stale, a check that found it fresh. `check_all` goes over all
agents at once and keeps a counter for each; the checker nevertheless knows of an agent
exactly what its history says (`Tracks`, kept by every step), and a history is made only
from what concerns its agent.

So the counter is the number of stale checks since the last sign of life or fresh check,
and no agent's history touches another's.
-/

namespace Intraday.Monitor

open Intraday.Lib Intraday.Lib.Redis Intraday.Compliance HeartbeatChecker

/-! ## One round of checks -/

/-- An agent last seen at `lastSeenMs` is stale at `tsMs`. -/
def staleAt (interval : ℤ) (tsMs lastSeenMs : ℚ) : Bool :=
  decide ((interval : ℚ) < (tsMs - lastSeenMs) / 1000)

/-- The record of an agent after its round. -/
def checkedRecord (c : HeartbeatChecker) (tsMs : ℚ) (env : CheckEnv) (agentName : String)
    (record : HeartbeatRecord) : HeartbeatRecord :=
  let record := refreshFromRedis c.redis (env.getRaises agentName) record agentName
  { record with
    missedCount := if staleAt c.interval tsMs record.lastSeenMs then record.missedCount + 1 else 0 }

/-- The calls of `_trigger_kill` in an agent's round. -/
def roundKills (c : HeartbeatChecker) (tsMs : ℚ) (env : CheckEnv) (agentName : String)
    (record : HeartbeatRecord) : List (String × ℤ) :=
  let record := checkedRecord c tsMs env agentName record
  if staleAt c.interval tsMs record.lastSeenMs && decide (c.maxMisses ≤ record.missedCount) then
    [(agentName, record.missedCount)]
  else []

/-- The calls for one agent. -/
def killsOf (agentName : String) (kills : List (String × ℤ)) : List (String × ℤ) :=
  kills.filter fun kill => decide (kill.1 = agentName)

/-- What no round changes. -/
def SameSetup (c c' : HeartbeatChecker) : Prop :=
  c'.redis = c.redis ∧ c'.interval = c.interval ∧ c'.maxMisses = c.maxMisses

variable {c c' : HeartbeatChecker} {sweep : Sweep} {tsMs : ℚ} {env : CheckEnv} {a b : String}

theorem checkAgent_setup (record : HeartbeatRecord) :
    SameSetup sweep.checker (checkAgent tsMs env sweep b record).checker := ⟨rfl, rfl, rfl⟩

theorem checkAgent_records (record : HeartbeatRecord) :
    (checkAgent tsMs env sweep b record).checker.records =
      sweep.checker.records.set b (checkedRecord sweep.checker tsMs env b record) := rfl

theorem checkAgent_kills (record : HeartbeatRecord) :
    (checkAgent tsMs env sweep b record).kills =
      sweep.kills ++ roundKills sweep.checker tsMs env b record := by
  have happend : ∀ (kill : Bool) (call : String × ℤ),
      (if kill then sweep.kills ++ [call] else sweep.kills) =
        sweep.kills ++ if kill then [call] else [] := by
    intro kill call
    cases kill <;> simp
  exact happend _ _

theorem checkedRecord_congr (h : SameSetup c c') (record : HeartbeatRecord) :
    checkedRecord c' tsMs env a record = checkedRecord c tsMs env a record := by
  rcases h with ⟨hredis, hinterval, -⟩
  simp only [checkedRecord, hredis, hinterval]

theorem roundKills_congr (h : SameSetup c c') (record : HeartbeatRecord) :
    roundKills c' tsMs env a record = roundKills c tsMs env a record := by
  simp only [roundKills, checkedRecord_congr h, h.2.1, h.2.2]

theorem killsOf_append (kills kills' : List (String × ℤ)) :
    killsOf a (kills ++ kills') = killsOf a kills ++ killsOf a kills' := List.filter_append ..

theorem killsOf_roundKills_self (record : HeartbeatRecord) :
    killsOf a (roundKills c tsMs env a record) = roundKills c tsMs env a record := by
  simp only [killsOf, roundKills]
  split <;> simp

theorem killsOf_roundKills_of_ne (h : b ≠ a) (record : HeartbeatRecord) :
    killsOf a (roundKills c tsMs env b record) = [] := by
  simp only [killsOf, roundKills]
  split <;> simp [h]

/-- The loop of `check_all` over entries with distinct names: an agent has its own round, if
it has one, and the rounds of the others do not touch it. -/
theorem loop_spec (a : String) (tsMs : ℚ) (env : CheckEnv)
    {entries : List (String × HeartbeatRecord)} (hnodup : (entries.map Prod.fst).Nodup)
    (sweep : Sweep) :
    let after := entries.foldl (fun sweep entry => checkAgent tsMs env sweep entry.1 entry.2) sweep
    SameSetup sweep.checker after.checker ∧
      after.checker.records.get? a =
        ((Dict.lookup a entries).map (checkedRecord sweep.checker tsMs env a)).or
          (sweep.checker.records.get? a) ∧
      killsOf a after.kills = killsOf a sweep.kills ++
        (Dict.lookup a entries).elim [] (roundKills sweep.checker tsMs env a) := by
  induction entries generalizing sweep with
  | nil =>
      refine ⟨⟨rfl, rfl, rfl⟩, rfl, ?_⟩
      exact (List.append_nil _).symm
  | cons entry entries ih =>
      rcases entry with ⟨b, record⟩
      rw [List.map_cons, List.nodup_cons] at hnodup
      have hround : SameSetup sweep.checker (checkAgent tsMs env sweep b record).checker :=
        checkAgent_setup record
      rcases ih hnodup.2 (checkAgent tsMs env sweep b record) with ⟨hsetup, hrecords, hkills⟩
      have hchecked : checkedRecord (checkAgent tsMs env sweep b record).checker tsMs env a =
          checkedRecord sweep.checker tsMs env a := funext (checkedRecord_congr hround)
      have hcalls : roundKills (checkAgent tsMs env sweep b record).checker tsMs env a =
          roundKills sweep.checker tsMs env a := funext (roundKills_congr hround)
      rw [hchecked, checkAgent_records] at hrecords
      rw [hcalls, checkAgent_kills, killsOf_append] at hkills
      refine ⟨⟨hsetup.1.trans hround.1, hsetup.2.1.trans hround.2.1,
        hsetup.2.2.trans hround.2.2⟩, ?_, ?_⟩
      · refine hrecords.trans ?_
        by_cases hb : b = a
        · -- its own round, and its name does not come again
          subst hb
          rw [Dict.lookup_eq_none hnodup.1]
          simp [Dict.lookup]
        · rw [Dict.get?_set_of_ne _ _ (Ne.symm hb)]
          simp [Dict.lookup, hb]
      · refine hkills.trans ?_
        by_cases hb : b = a
        · subst hb
          rw [Dict.lookup_eq_none hnodup.1, killsOf_roundKills_self]
          simp [Dict.lookup]
        · rw [killsOf_roundKills_of_ne hb]
          simp [Dict.lookup, hb]

theorem checkAll_setup : SameSetup c (c.checkAll tsMs env).checker :=
  (loop_spec "" tsMs env c.records.nodup { checker := c }).1

/-- After `check_all` every agent's record has gone through its own round. -/
theorem checkAll_records (a : String) :
    (c.checkAll tsMs env).checker.records.get? a =
      (c.records.get? a).map (checkedRecord c tsMs env a) := by
  refine (loop_spec a tsMs env c.records.nodup { checker := c }).2.1.trans ?_
  show ((c.records.get? a).map (checkedRecord c tsMs env a)).or (c.records.get? a) = _
  cases c.records.get? a <;> rfl

/-- The calls for an agent are those of its round. -/
theorem checkAll_kills (a : String) :
    killsOf a (c.checkAll tsMs env).kills =
      (c.records.get? a).elim [] (roundKills c tsMs env a) :=
  (loop_spec a tsMs env c.records.nodup { checker := c }).2.2

/-! ## The history of an agent -/

/-- What happens to an agent: a sign of life (it is put under watch, registers a heartbeat,
or a newer one is read from Redis), or a check that finds it stale or fresh. -/
inductive Mark where
  | seen (tsMs : ℚ)
  | stale
  | fresh
deriving DecidableEq, Repr

/-- The time of a sign of life. -/
def Mark.time? : Mark → Option ℚ
  | .seen tsMs => some tsMs
  | _ => none

/-- The last sign of life. -/
def lastSeen (marks : List Mark) : Option ℚ := (marks.filterMap Mark.time?).getLast?

/-- The number of consecutive stale checks at the end. -/
def misses (marks : List Mark) : ℕ :=
  (marks.reverse.takeWhile fun mark => decide (mark = .stale)).length

/-- A check made at `tsMs` of an agent last seen at `last`. -/
def outcome (interval : ℤ) (tsMs last : ℚ) : Mark :=
  if staleAt interval tsMs last then .stale else .fresh

section marks

variable (marks : List Mark)

@[simp] theorem lastSeen_append_seen (tsMs : ℚ) :
    lastSeen (marks ++ [.seen tsMs]) = some tsMs := by
  simp [lastSeen, Mark.time?]

@[simp] theorem misses_append_seen (tsMs : ℚ) : misses (marks ++ [.seen tsMs]) = 0 := by
  simp [misses]

@[simp] theorem lastSeen_append_outcome (interval : ℤ) (tsMs last : ℚ) :
    lastSeen (marks ++ [outcome interval tsMs last]) = lastSeen marks := by
  rw [outcome]
  split <;> simp [lastSeen, Mark.time?]

@[simp] theorem misses_append_outcome (interval : ℤ) (tsMs last : ℚ) :
    misses (marks ++ [outcome interval tsMs last]) =
      if staleAt interval tsMs last then misses marks + 1 else 0 := by
  rw [outcome]
  split <;> simp [misses]

end marks

/-- The part of an operation that concerns one agent. -/
inductive AgentOp where
  | add (nowMs : ℚ)
  | register (tsMs : ℚ) (setRaises : Bool)
  | check (tsMs : ℚ) (getRaises : Bool)
  | remote (value : Text)

/-- What an operation is to an agent: every check is one of it, everything else concerns it
only under its name. -/
def about (a : String) : Op → Option AgentOp
  | .addWatchedAgent agentName nowMs => if agentName = a then some (.add nowMs) else none
  | .registerHeartbeat agentName tsMs setRaises =>
      if agentName = a then some (.register tsMs setRaises) else none
  | .checkAll tsMs env => some (.check tsMs (env.getRaises a))
  | .remoteHeartbeat agentName value => if agentName = a then some (.remote value) else none

/-- What is under the agent's key, if there is a Redis client, and what happened to it. -/
structure History where
  stored : Option (Option Text)
  marks : List Mark
deriving DecidableEq, Repr

namespace History

/-- The heartbeat a check reads from Redis, if it is newer than the last one seen. -/
def newer (h : History) (getRaises : Bool) (last : ℚ) : Option ℚ :=
  if getRaises then none
  else
    match h.stored.join with
    | some (.num tsMs) => if last < tsMs then some tsMs else none
    | _ => none

/-- The history after one more operation. -/
def note (interval : ℤ) (h : History) : AgentOp → History
  | .add nowMs =>
      match lastSeen h.marks with
      | some _ => h
      | none => { h with marks := h.marks ++ [.seen nowMs] }
  | .register tsMs setRaises =>
      { stored := if setRaises then h.stored else h.stored.map fun _ => some (.num tsMs)
        marks := h.marks ++ [.seen tsMs] }
  | .check tsMs getRaises =>
      match lastSeen h.marks with
      | none => h
      | some last =>
          match h.newer getRaises last with
          | none => { h with marks := h.marks ++ [outcome interval tsMs last] }
          | some read => { h with marks := h.marks ++ [.seen read] ++ [outcome interval tsMs read] }
  | .remote value => { h with stored := h.stored.map fun _ => some value }

/-- The record that the history stands for. -/
def record (h : History) (a : String) : Option HeartbeatRecord :=
  (lastSeen h.marks).map fun last =>
    { agentName := a, lastSeenMs := last, missedCount := misses h.marks }

end History

/-- The history of an agent that nobody has heard of, with a client on `redis`. -/
def History.start (redis : Option (Dict String Text)) (a : String) : History :=
  { stored := redis.map (·.get? (heartbeatKey a)), marks := [] }

/-- The history of an agent over the operations of a run. -/
def history (redis : Option (Dict String Text)) (interval : ℤ) (a : String) (ops : List Op) :
    History :=
  (ops.filterMap (about a)).foldl (History.note interval) (History.start redis a)

/-! ## The checker knows an agent's history -/

/-- The checker has of an agent what its history says, and an agent without a sign of life
has no history. -/
structure Tracks (a : String) (c : HeartbeatChecker) (h : History) : Prop where
  stored : c.redis.map (·.get? (heartbeatKey a)) = h.stored
  record : c.records.get? a = h.record a
  unseen : lastSeen h.marks = none → h.marks = []

variable {h : History} {redis : Option (Dict String Text)}

theorem heartbeatKey_injective (hkey : heartbeatKey a = heartbeatKey b) : a = b :=
  String.append_right_inj _ |>.mp hkey

theorem get?_of_setKey_of_ne (hne : b ≠ a) (value : Text) :
    (redis.map (·.set (heartbeatKey b) value)).map (·.get? (heartbeatKey a)) =
      redis.map (·.get? (heartbeatKey a)) := by
  have hkey : heartbeatKey a ≠ heartbeatKey b :=
    fun heq => hne (heartbeatKey_injective heq).symm
  cases redis with
  | none => rfl
  | some db => exact congrArg some (Dict.get?_set_of_ne db value hkey)

theorem get?_of_setKey_self (value : Text) :
    (redis.map (·.set (heartbeatKey a) value)).map (·.get? (heartbeatKey a)) =
      (redis.map (·.get? (heartbeatKey a))).map fun _ => some value := by
  cases redis with
  | none => rfl
  | some db => exact congrArg some (Dict.get?_set_self db _ value)

/-- `_refresh_from_redis` takes over the newer heartbeat, if there is one. -/
theorem refreshFromRedis_eq (htracks : Tracks a c h) (getRaises : Bool)
    (record : HeartbeatRecord) :
    refreshFromRedis c.redis getRaises record a =
      match h.newer getRaises record.lastSeenMs with
      | none => record
      | some read => { record with lastSeenMs := read, missedCount := 0 } := by
  -- both sides read the same cell
  have hstored : c.redis.bind (·.get? (heartbeatKey a)) = h.stored.join := by
    rw [← htracks.stored]
    cases c.redis <;> rfl
  rw [refreshFromRedis, History.newer, hstored]
  cases getRaises with
  | true => rfl
  | false =>
      rcases h.stored.join with _ | value
      · rfl
      · cases value with
        | word text => rfl
        | num tsMs =>
            by_cases hlt : record.lastSeenMs < tsMs <;> simp [hlt]

/-- The round of an agent adds its marks to the history. -/
theorem checkedRecord_eq (htracks : Tracks a c h) (tsMs : ℚ) (env : CheckEnv) :
    (h.record a).map (checkedRecord c tsMs env a) =
      (h.note c.interval (.check tsMs (env.getRaises a))).record a := by
  cases hlast : lastSeen h.marks with
  | none => simp [History.record, History.note, hlast]
  | some last =>
      simp only [History.record, History.note, hlast, Option.map_some, checkedRecord,
        refreshFromRedis_eq htracks]
      rcases h.newer (env.getRaises a) last with _ | read
      · simp [hlast]
      · simp [-List.append_assoc]

/-- What an operation makes of a history. -/
def History.noteOp (interval : ℤ) (a : String) (h : History) (op : Op) : History :=
  match about a op with
  | some part => h.note interval part
  | none => h

theorem note_check_unwatched (interval : ℤ) (tsMs : ℚ) (getRaises : Bool)
    (hlast : lastSeen h.marks = none) : h.note interval (.check tsMs getRaises) = h := by
  simp only [History.note, hlast]

/-- A check of a watched agent adds its outcome, after the heartbeat it may have read. -/
theorem note_check (interval : ℤ) (tsMs : ℚ) (getRaises : Bool) {last : ℚ}
    (hlast : lastSeen h.marks = some last) :
    ∃ rest last', (h.note interval (.check tsMs getRaises)).marks =
        rest ++ [outcome interval tsMs last'] ∧
      lastSeen rest = some last' ∧ (rest = h.marks ∨ misses rest = 0) := by
  rcases hnewer : h.newer getRaises last with _ | read
  · refine ⟨h.marks, last, ?_, hlast, Or.inl rfl⟩
    simp only [History.note, hlast, hnewer]
  · refine ⟨h.marks ++ [.seen read], read, ?_, lastSeen_append_seen .., Or.inr ?_⟩
    · simp only [History.note, hlast, hnewer]
    · exact misses_append_seen ..

/-- Signs of life are all a history begins with. -/
theorem note_unseen (hunseen : lastSeen h.marks = none → h.marks = []) (interval : ℤ)
    (op : AgentOp) :
    lastSeen (h.note interval op).marks = none → (h.note interval op).marks = [] := by
  cases op with
  | add nowMs =>
      cases hlast : lastSeen h.marks <;> simp [History.note, hlast]
  | register tsMs setRaises => simp [History.note]
  | check tsMs getRaises =>
      cases hlast : lastSeen h.marks with
      | none => simpa [History.note, hlast] using hunseen hlast
      | some last =>
          rcases note_check interval tsMs getRaises hlast with ⟨rest, last', hmarks, hrest, -⟩
          simp [hmarks, hrest]
  | remote value => exact hunseen

theorem tracks_addWatchedAgent (htracks : Tracks a c h) (nowMs : ℚ) :
    Tracks a (c.addWatchedAgent b nowMs) (h.noteOp c.interval a (.addWatchedAgent b nowMs)) := by
  by_cases hb : b = a
  · subst hb
    have hop : h.noteOp c.interval b (.addWatchedAgent b nowMs) =
        h.note c.interval (.add nowMs) := by
      simp [History.noteOp, about]
    rw [hop, addWatchedAgent, htracks.record]
    cases hlast : lastSeen h.marks with
    | none =>
        -- the first sign of life
        refine ⟨?_, ?_, note_unseen htracks.unseen _ _⟩
        · simpa [History.record, History.note, hlast] using htracks.stored
        · simp [History.record, History.note, hlast]
    | some last =>
        simpa [History.record, History.note, hlast] using htracks
  · have hop : h.noteOp c.interval a (.addWatchedAgent b nowMs) = h := by
      simp [History.noteOp, about, hb]
    rw [hop, addWatchedAgent]
    split
    · exact htracks
    · refine ⟨htracks.stored, ?_, htracks.unseen⟩
      exact (Dict.get?_set_of_ne _ _ (Ne.symm hb)).trans htracks.record

theorem tracks_registerHeartbeat (htracks : Tracks a c h) (tsMs : ℚ) (setRaises : Bool) :
    Tracks a (c.registerHeartbeat b tsMs setRaises)
      (h.noteOp c.interval a (.registerHeartbeat b tsMs setRaises)) := by
  by_cases hb : b = a
  · subst hb
    have hop : h.noteOp c.interval b (.registerHeartbeat b tsMs setRaises) =
        h.note c.interval (.register tsMs setRaises) := by
      simp [History.noteOp, about]
    rw [hop]
    refine ⟨?_, ?_, note_unseen htracks.unseen _ _⟩
    · cases setRaises with
      | true => exact htracks.stored
      | false =>
          refine (get?_of_setKey_self _).trans ?_
          rw [htracks.stored]
          rfl
    · refine (Dict.get?_set_self ..).trans ?_
      rw [htracks.record]
      cases hlast : lastSeen h.marks <;> simp [History.record, History.note, hlast]
  · have hop : h.noteOp c.interval a (.registerHeartbeat b tsMs setRaises) = h := by
      simp [History.noteOp, about, hb]
    rw [hop]
    refine ⟨?_, ?_, htracks.unseen⟩
    · cases setRaises with
      | true => exact htracks.stored
      | false => exact (get?_of_setKey_of_ne hb _).trans htracks.stored
    · exact (Dict.get?_set_of_ne _ _ (Ne.symm hb)).trans htracks.record

theorem tracks_checkAll (htracks : Tracks a c h) (tsMs : ℚ) (env : CheckEnv) :
    Tracks a (c.checkAll tsMs env).checker (h.noteOp c.interval a (.checkAll tsMs env)) := by
  have hop : h.noteOp c.interval a (.checkAll tsMs env) =
      h.note c.interval (.check tsMs (env.getRaises a)) := rfl
  rw [hop]
  refine ⟨?_, ?_, note_unseen htracks.unseen _ _⟩
  · rw [checkAll_setup.1, htracks.stored, History.note]
    split
    · rfl
    · split <;> rfl
  · rw [checkAll_records, htracks.record, checkedRecord_eq htracks]

theorem tracks_remoteHeartbeat (htracks : Tracks a c h) (value : Text) :
    Tracks a { c with redis := c.redis.map (·.set (heartbeatKey b) value) }
      (h.noteOp c.interval a (.remoteHeartbeat b value)) := by
  by_cases hb : b = a
  · subst hb
    have hop : h.noteOp c.interval b (.remoteHeartbeat b value) =
        h.note c.interval (.remote value) := by
      simp [History.noteOp, about]
    rw [hop]
    refine ⟨?_, htracks.record, htracks.unseen⟩
    refine (get?_of_setKey_self _).trans ?_
    rw [htracks.stored]
    rfl
  · have hop : h.noteOp c.interval a (.remoteHeartbeat b value) = h := by
      simp [History.noteOp, about, hb]
    rw [hop]
    exact ⟨(get?_of_setKey_of_ne hb _).trans htracks.stored, htracks.record, htracks.unseen⟩

/-- One step of the checker is one step of every agent's history. -/
theorem tracks_next (htracks : Tracks a c h) (op : Op) :
    Tracks a (monitor.next c op) (h.noteOp c.interval a op) := by
  cases op with
  | addWatchedAgent b nowMs => exact tracks_addWatchedAgent htracks nowMs
  | registerHeartbeat b tsMs setRaises => exact tracks_registerHeartbeat htracks tsMs setRaises
  | checkAll tsMs env => exact tracks_checkAll htracks tsMs env
  | remoteHeartbeat b value => exact tracks_remoteHeartbeat htracks value

theorem next_limits (c : HeartbeatChecker) (op : Op) :
    (monitor.next c op).interval = c.interval ∧ (monitor.next c op).maxMisses = c.maxMisses := by
  cases op with
  | addWatchedAgent b nowMs =>
      show (c.addWatchedAgent b nowMs).interval = _ ∧ (c.addWatchedAgent b nowMs).maxMisses = _
      rw [addWatchedAgent]
      split <;> exact ⟨rfl, rfl⟩
  | registerHeartbeat b tsMs setRaises => exact ⟨rfl, rfl⟩
  | checkAll tsMs env => exact checkAll_setup.2
  | remoteHeartbeat b value => exact ⟨rfl, rfl⟩

theorem run_limits (c : HeartbeatChecker) (ops : List Op) :
    (monitor.run c ops).interval = c.interval ∧ (monitor.run c ops).maxMisses = c.maxMisses := by
  have hkeep : ∀ c' op, c'.interval = c.interval ∧ c'.maxMisses = c.maxMisses →
      (monitor.next c' op).interval = c.interval ∧
        (monitor.next c' op).maxMisses = c.maxMisses := by
    intro c' op hc'
    rw [(next_limits c' op).1, (next_limits c' op).2]
    exact hc'
  exact monitor.run_invariant hkeep ⟨rfl, rfl⟩ ops

/-- A run of the checker is a run of every agent's history. -/
theorem tracks_run (htracks : Tracks a c h) (ops : List Op) :
    Tracks a (monitor.run c ops) (ops.foldl (History.noteOp c.interval a) h) := by
  induction ops generalizing c h with
  | nil => exact htracks
  | cons op ops ih =>
      have hrest := ih (tracks_next htracks op)
      rw [(next_limits c op).1] at hrest
      exact hrest

theorem history_eq_foldl (interval : ℤ) (ops : List Op) :
    history redis interval a ops =
      ops.foldl (History.noteOp interval a) (History.start redis a) := by
  rw [history, List.foldl_filterMap]
  congr 1
  funext h op
  rw [History.noteOp]
  cases about a op <;> rfl

theorem tracks_history (killSwitch : Option KillSwitchManager) (interval maxMisses : ℤ)
    (ops : List Op) :
    Tracks a (monitor.run (init redis killSwitch interval maxMisses) ops)
      (history redis interval a ops) := by
  have hstart : Tracks a (init redis killSwitch interval maxMisses) (History.start redis a) :=
    ⟨rfl, rfl, fun _ => rfl⟩
  rw [history_eq_foldl]
  exact tracks_run hstart ops

/-- The history a check leaves. -/
def historyAt (redis : Option (Dict String Text)) (interval : ℤ) (a : String) (ops : List Op)
    (tsMs : ℚ) (env : CheckEnv) : List Mark :=
  (history redis interval a (ops ++ [.checkAll tsMs env])).marks

theorem historyAt_eq (interval : ℤ) (ops : List Op) :
    historyAt redis interval a ops tsMs env =
      ((history redis interval a ops).note interval (.check tsMs (env.getRaises a))).marks := by
  simp [historyAt, history, about, List.filterMap_append]

/-- After a check there are misses to count exactly if it found the agent stale. -/
theorem staleAt_iff_misses {interval : ℤ} {getRaises : Bool} {last last' : ℚ}
    (hlast : lastSeen h.marks = some last)
    (hlast' : lastSeen (h.note interval (.check tsMs getRaises)).marks = some last') :
    staleAt interval tsMs last' = true ↔
      0 < misses (h.note interval (.check tsMs getRaises)).marks := by
  rcases note_check interval tsMs getRaises hlast with ⟨rest, last'', hmarks, hrest, -⟩
  rw [hmarks, lastSeen_append_outcome, hrest, Option.some.injEq] at hlast'
  rw [hmarks, misses_append_outcome, hlast']
  split <;> simp [*]

/-- The calls that a history asks for. -/
def killsDue (maxMisses : ℤ) (a : String) (marks : List Mark) : List (String × ℤ) :=
  if 0 < misses marks ∧ maxMisses ≤ misses marks then [(a, (misses marks : ℤ))] else []

/-- A check calls `_trigger_kill` for an agent as its history asks. -/
theorem checkAll_kills_eq (htracks : Tracks a c h) (tsMs : ℚ) (env : CheckEnv) :
    killsOf a (c.checkAll tsMs env).kills =
      killsDue c.maxMisses a (h.note c.interval (.check tsMs (env.getRaises a))).marks := by
  have hround := checkedRecord_eq htracks tsMs env
  rw [checkAll_kills, htracks.record]
  cases hlast : lastSeen h.marks with
  | none =>
      -- the agent is not watched
      have hmarks : h.marks = [] := htracks.unseen hlast
      rw [note_check_unwatched _ _ _ hlast, History.record, hlast, killsDue, hmarks]
      rfl
  | some last =>
      simp only [History.record, hlast, Option.map_some, Option.elim_some] at hround ⊢
      cases hlast' : lastSeen (h.note c.interval (.check tsMs (env.getRaises a))).marks with
      | none => simp [hlast'] at hround
      | some last' =>
          rw [hlast', Option.map_some, Option.some.injEq] at hround
          rw [roundKills, hround, killsDue]
          have hstale := staleAt_iff_misses hlast hlast'
          by_cases hmiss : 0 < misses (h.note c.interval (.check tsMs (env.getRaises a))).marks
          · simp [hstale.mpr hmiss, hmiss]
          · have hfresh : staleAt c.interval tsMs last' = false := by
              simpa [hmiss] using hstale
            simp [hfresh, hmiss]

/-! ## The bookkeeping -/

/-- A property of every check of a run, with the operations before it. -/
def AtChecks (ops : List Op) (P : List Op → ℚ → CheckEnv → Prop) : Prop :=
  ∀ before tsMs env after, ops = before ++ .checkAll tsMs env :: after → P before tsMs env

/-- The check made at `tsMs` after `ops`, by a checker that began with no agents. -/
def checkAfter (redis : Option (Dict String Text)) (killSwitch : Option KillSwitchManager)
    (interval maxMisses : ℤ) (ops : List Op) (tsMs : ℚ) (env : CheckEnv) : Sweep :=
  (monitor.run (init redis killSwitch interval maxMisses) ops).checkAll tsMs env

theorem checkAfter_records (killSwitch : Option KillSwitchManager) (interval maxMisses : ℤ)
    (ops : List Op) :
    (checkAfter redis killSwitch interval maxMisses ops tsMs env).checker.records.get? a =
      (lastSeen (historyAt redis interval a ops tsMs env)).map fun last =>
        { agentName := a
          lastSeenMs := last
          missedCount := misses (historyAt redis interval a ops tsMs env) } := by
  have hinterval := (run_limits (init redis killSwitch interval maxMisses) ops).1
  have htracks := @tracks_history a redis killSwitch interval maxMisses ops
  have hchecked := (tracks_checkAll htracks tsMs env).record
  rw [hinterval] at hchecked
  rw [historyAt_eq]
  exact hchecked

theorem checkAfter_kills (killSwitch : Option KillSwitchManager) (interval maxMisses : ℤ)
    (ops : List Op) :
    killsOf a (checkAfter redis killSwitch interval maxMisses ops tsMs env).kills =
      killsDue maxMisses a (historyAt redis interval a ops tsMs env) := by
  rcases run_limits (init redis killSwitch interval maxMisses) ops with ⟨hinterval, hmax⟩
  have htracks := @tracks_history a redis killSwitch interval maxMisses ops
  have hkills := checkAll_kills_eq htracks tsMs env
  rw [hinterval, hmax] at hkills
  rw [historyAt_eq]
  exact hkills

/-- Two runs that are the same to an agent are the same in its history. -/
theorem historyAt_congr {redis' : Option (Dict String Text)} {ops ops' : List Op} {env' : CheckEnv}
    (hredis : History.start redis' a = History.start redis a)
    (hops : ops'.filterMap (about a) = ops.filterMap (about a))
    (henv : env'.getRaises a = env.getRaises a) (interval : ℤ) :
    historyAt redis' interval a ops' tsMs env' = historyAt redis interval a ops tsMs env := by
  rw [historyAt_eq, historyAt_eq, history, history, hredis, hops, henv]

/-- A check that finds an agent fresh counts no misses. -/
theorem misses_historyAt_eq_zero {interval : ℤ} {ops : List Op}
    (hfresh : ∀ last, lastSeen (historyAt redis interval a ops tsMs env) = some last →
      (tsMs - last) / 1000 ≤ interval) :
    misses (historyAt redis interval a ops tsMs env) = 0 := by
  rw [historyAt_eq] at hfresh ⊢
  cases hlast : lastSeen (history redis interval a ops).marks with
  | none =>
      -- not watched: there is no history at all
      have hmarks : (history redis interval a ops).marks = [] :=
        (@tracks_history a redis none interval 0 ops).unseen hlast
      rw [note_check_unwatched interval tsMs (env.getRaises a) hlast, hmarks]
      rfl
  | some last =>
      rcases note_check interval tsMs (env.getRaises a) hlast with ⟨rest, last', hmarks, hrest, -⟩
      rw [hmarks, lastSeen_append_outcome] at hfresh
      have hstale : staleAt interval tsMs last' = false := by
        simpa [staleAt] using hfresh last' hrest
      rw [hmarks, misses_append_outcome, hstale]
      rfl

/-- The counter of an agent after a check is the number of consecutive stale checks since its
last sign of life or fresh check. The kill is called for it, once and with that number, when
the number is at least one and at least `max_misses`. Both depend only on what concerns the
agent, and one that is fresh at every check is never killed. -/
theorem heartbeat_bookkeeping (redis : Option (Dict String Text))
    (killSwitch : Option KillSwitchManager) (interval maxMisses : ℤ) (a : String) :
    (∀ ops tsMs env,
      let marks := historyAt redis interval a ops tsMs env
      let sweep := checkAfter redis killSwitch interval maxMisses ops tsMs env
      sweep.checker.records.get? a = (lastSeen marks).map (fun last =>
          { agentName := a, lastSeenMs := last, missedCount := misses marks }) ∧
        killsOf a sweep.kills =
          if 0 < misses marks ∧ maxMisses ≤ misses marks then [(a, (misses marks : ℤ))] else []) ∧
    (∀ redis' killSwitch' ops ops' tsMs env env',
      History.start redis' a = History.start redis a →
      ops'.filterMap (about a) = ops.filterMap (about a) →
      env'.getRaises a = env.getRaises a →
      let sweep := checkAfter redis killSwitch interval maxMisses ops tsMs env
      let sweep' := checkAfter redis' killSwitch' interval maxMisses ops' tsMs env'
      sweep'.checker.records.get? a = sweep.checker.records.get? a ∧
        killsOf a sweep'.kills = killsOf a sweep.kills) ∧
    ∀ ops,
      AtChecks ops (fun before tsMs env =>
        ∀ last, lastSeen (historyAt redis interval a before tsMs env) = some last →
          (tsMs - last) / 1000 ≤ interval) →
      AtChecks ops fun before tsMs env =>
        killsOf a (checkAfter redis killSwitch interval maxMisses before tsMs env).kills = [] := by
  refine ⟨?_, ?_, ?_⟩
  · intro ops tsMs env
    exact ⟨checkAfter_records killSwitch interval maxMisses ops,
      checkAfter_kills killSwitch interval maxMisses ops⟩
  · intro redis' killSwitch' ops ops' tsMs env env' hredis hops henv
    have hhistory :=
      @historyAt_congr tsMs env a redis redis' ops ops' env' hredis hops henv interval
    constructor
    · rw [checkAfter_records, checkAfter_records, hhistory]
    · rw [checkAfter_kills, checkAfter_kills, hhistory]
  · intro ops hfresh before tsMs env after hops
    have hzero := misses_historyAt_eq_zero (hfresh before tsMs env after hops)
    rw [checkAfter_kills, killsDue, hzero]
    simp

/-- With `max_misses` at zero a fresh check has its number of misses, and there is no call. -/
theorem fresh_check_is_not_killed :
    ¬ ∀ (redis : Option (Dict String Text)) (killSwitch : Option KillSwitchManager)
        (interval maxMisses : ℤ) (a : String) (ops : List Op) (tsMs : ℚ) (env : CheckEnv) (n : ℤ),
      (∃ record, (checkAfter redis killSwitch interval maxMisses ops tsMs
          env).checker.records.get? a = some record ∧ record.missedCount = n) →
      ((∃ kill ∈ (checkAfter redis killSwitch interval maxMisses ops tsMs env).kills,
        kill.1 = a) ↔ maxMisses ≤ n) := by
  intro h
  have hcall := (h none none 30 0 "signal_agent" [.registerHeartbeat "signal_agent" 0 false] 1000
    { getRaises := fun _ => false, nowMs := 0, sets := fun _ => .done } 0
    ⟨{ agentName := "signal_agent", lastSeenMs := 0, missedCount := 0 }, by decide +kernel,
      rfl⟩).mpr (by decide)
  revert hcall
  decide +kernel

end Intraday.Monitor
