import Intraday.Lib.Python
import Intraday.Execution.HaltRace

/-!
# Intraday.Compliance.KillSwitch — `shared/compliance/kill_switch.py`

`KillSwitchManager` with a Redis client whose every call may fail. A trigger makes three
writes, of which only the first is read back by `is_halted`; the in-memory flag is used
only by a manager that was built without a client, so a failed first write leaves nothing
behind but `last_event`.

`trigger_kept_iff` says exactly when a trigger is seen at a later point.
-/

namespace Intraday.Compliance

open Intraday.Core Intraday.Lib Intraday.Lib.Decimal Intraday.Lib.Python
open Intraday.Execution (KillSwitchTrigger Halted)

/-! ## The manager -/

/-- `KillSwitchEvent`. -/
structure KillSwitchEvent where
  tier : ℕ
  reason : String
  triggeredAtMs : ℤ
  isPriority : Bool := true
deriving DecidableEq, Repr

/-- `KillSwitchManager`. The client is given by the database behind it. -/
structure KillSwitchManager where
  redis : Option (Dict String String)
  halted : Bool := false
  lastEvent : Option KillSwitchEvent := none

/-- What a `set` does: it succeeds, or raises with the write lost, or raises although the
server made the write. -/
inductive SetOutcome where
  | done
  | raised
  | raisedAfterWrite
deriving DecidableEq, Repr

/-- The write reached the server. -/
def SetOutcome.written : SetOutcome → Bool
  | .done | .raisedAfterWrite => true
  | .raised => false

namespace KillSwitchManager

/-- `raw is not None and raw.decode() == "true"`. -/
def readsTrue (db : Dict String String) : Bool := db.get? killSwitchHaltedKey == some "true"

/-- `is_halted`; `fails` when the `get` raises. -/
def isHalted (m : KillSwitchManager) (fails : Bool) : Except Exc Bool :=
  match m.redis with
  | some db => if fails then .error .redisError else .ok (readsTrue db)
  | none => .ok m.halted

/-- `self._redis.set(key, value)`. -/
def redisSet (outcome : SetOutcome) (key value : String) : Method KillSwitchManager Unit := do
  if outcome.written then
    modify fun m => { m with redis := m.redis.map (·.set key value) }
  if outcome ≠ .done then throw .redisError

/-- `trigger`, at `nowMs`, where `sets` says what each write does. -/
def trigger (kind : KillSwitchTrigger) (reason : String) (nowMs : ℤ)
    (sets : String → SetOutcome) : Method KillSwitchManager KillSwitchEvent := do
  let event : KillSwitchEvent := { tier := kind.tier, reason := reason, triggeredAtMs := nowMs }
  modify fun m => { m with lastEvent := some event }
  if (← get).redis.isSome then
    redisSet (sets killSwitchHaltedKey) killSwitchHaltedKey "true"
    redisSet (sets killSwitchTierKey) killSwitchTierKey (toString kind.tier)
    redisSet (sets killSwitchReasonKey) killSwitchReasonKey reason
  else
    modify fun m => { m with halted := true }
  return event

/-- `trigger_tier1`. -/
def triggerTier1 (dailyPnlPct : ℚ) (nowMs : ℤ) (sets : String → SetOutcome) :
    Method KillSwitchManager KillSwitchEvent :=
  trigger .tier1CircuitBreaker
    ("Daily P&L " ++ fmtFixed 2 dailyPnlPct ++ "% breached -2% autonomous circuit breaker.")
    nowMs sets

/-- `trigger_tier2`. -/
def triggerTier2 (source : String) (nowMs : ℤ) (sets : String → SetOutcome) :
    Method KillSwitchManager KillSwitchEvent :=
  trigger .tier2ExternalApi ("Manual kill switch activated via " ++ source ++ ".") nowMs sets

/-- `trigger_tier3`, with its arguments as they print. -/
def triggerTier3 (agentName missedHeartbeats : String) (nowMs : ℤ)
    (sets : String → SetOutcome) : Method KillSwitchManager KillSwitchEvent :=
  trigger .tier3Heartbeat
    ("Agent '" ++ agentName ++ "' missed " ++ missedHeartbeats ++ " consecutive heartbeats.")
    nowMs sets

end KillSwitchManager

/-! ## One trigger -/

open KillSwitchManager

variable {m : KillSwitchManager} {db : Dict String String}

/-- The flag that `is_halted` reads. -/
def KillSwitchManager.flag (m : KillSwitchManager) : Bool :=
  match m.redis with
  | some db => readsTrue db
  | none => m.halted

theorem isHalted_eq (m : KillSwitchManager) (fails : Bool) :
    m.isHalted fails = if m.redis.isSome ∧ fails then .error .redisError else .ok m.flag := by
  cases hr : m.redis with
  | none => simp [isHalted, flag, hr]
  | some db => cases fails <;> simp [isHalted, flag, hr]

/-- A healthy Redis ends as in the race with a submission. -/
theorem trigger_done (kind : KillSwitchTrigger) (reason : String) (nowMs : ℤ) :
    (after (trigger kind reason nowMs fun _ => .done) { m with redis := some db }).redis =
      some (Execution.trigger kind reason db) := rfl

@[simp] theorem readsTrue_iff : readsTrue db = true ↔ Halted db := by
  simp [readsTrue, Halted]

theorem after_redisSet (outcome : SetOutcome) (key value : String) :
    after (redisSet outcome key value) m =
      if outcome.written then { m with redis := m.redis.map (·.set key value) } else m := by
  cases outcome <;> rfl

/-- The manager has a client, and its flag reads `v`. -/
def Reads (v : Bool) (m : KillSwitchManager) : Prop := ∃ db, m.redis = some db ∧ readsTrue db = v

theorem reads_redisSet_halted (hr : m.redis = some db) (outcome : SetOutcome) :
    Reads (readsTrue db || outcome.written)
      (after (redisSet outcome killSwitchHaltedKey "true") m) := by
  rw [after_redisSet, hr]
  cases hw : outcome.written with
  | true => exact ⟨_, rfl, by simp [readsTrue]⟩
  | false => exact ⟨db, hr, by simp⟩

/-- The other two writes do not touch it. -/
theorem reads_redisSet_other {v : Bool} {key : String} (hkey : killSwitchHaltedKey ≠ key)
    (h : Reads v m) (outcome : SetOutcome) (value : String) :
    Reads v (after (redisSet outcome key value) m) := by
  rcases h with ⟨db, hr, rfl⟩
  rw [after_redisSet, hr]
  cases outcome.written with
  | true => exact ⟨_, rfl, by rw [readsTrue, Dict.get?_set_of_ne _ _ hkey, readsTrue]⟩
  | false => exact ⟨db, hr, rfl⟩

/-- With a client, a trigger is its three writes. -/
theorem after_trigger (hr : m.redis = some db) (kind : KillSwitchTrigger) (reason : String)
    (nowMs : ℤ) (sets : String → SetOutcome) :
    ∃ event, after (trigger kind reason nowMs sets) m =
      after (do
        redisSet (sets killSwitchHaltedKey) killSwitchHaltedKey "true"
        redisSet (sets killSwitchTierKey) killSwitchTierKey (toString kind.tier)
        redisSet (sets killSwitchReasonKey) killSwitchReasonKey reason
        pure event) { m with lastEvent := some event } := by
  refine ⟨{ tier := kind.tier, reason := reason, triggeredAtMs := nowMs }, ?_⟩
  rcases m with ⟨redis, halted, lastEvent⟩
  obtain rfl : redis = some db := hr
  rfl

/-- It leaves the flag as it was unless its first write arrives. -/
theorem reads_trigger (hr : m.redis = some db) (kind : KillSwitchTrigger) (reason : String)
    (nowMs : ℤ) (sets : String → SetOutcome) :
    Reads (readsTrue db || (sets killSwitchHaltedKey).written)
      (after (trigger kind reason nowMs sets) m) := by
  rcases after_trigger hr kind reason nowMs sets with ⟨event, hafter⟩
  rw [hafter]
  have hfirst := reads_redisSet_halted (m := { m with lastEvent := some event }) hr
    (sets killSwitchHaltedKey)
  refine after_bind hfirst fun _ m₁ h₁ => ?_
  refine after_bind (reads_redisSet_other (by decide) h₁ _ _) fun _ m₂ h₂ => ?_
  exact after_bind (reads_redisSet_other (by decide) h₂ _ _) fun _ m₃ h₃ => h₃

theorem trigger_without_client (hr : m.redis = none) (kind : KillSwitchTrigger) (reason : String)
    (nowMs : ℤ) (sets : String → SetOutcome) :
    (after (trigger kind reason nowMs sets) m).redis = none ∧
      (after (trigger kind reason nowMs sets) m).halted = true := by
  rcases m with ⟨redis, halted, lastEvent⟩
  obtain rfl : redis = none := hr
  exact ⟨rfl, rfl⟩

/-! ## Whole runs -/

/-- A call of one of the three triggers. -/
inductive TriggerCall where
  | tier1 (dailyPnlPct : ℚ)
  | tier2 (source : String)
  | tier3 (agentName missedHeartbeats : String)

/-- The trigger it stands for. -/
def TriggerCall.method (nowMs : ℤ) (sets : String → SetOutcome) :
    TriggerCall → Method KillSwitchManager KillSwitchEvent
  | .tier1 dailyPnlPct => triggerTier1 dailyPnlPct nowMs sets
  | .tier2 source => triggerTier2 source nowMs sets
  | .tier3 agentName missedHeartbeats => triggerTier3 agentName missedHeartbeats nowMs sets

/-- One use of the manager, with the outcome of its every Redis call. -/
inductive Op where
  | trigger (call : TriggerCall) (nowMs : ℤ) (sets : String → SetOutcome)
  | isHalted (fails : Bool)

/-- What a use returns or raises. -/
inductive Reply where
  | event (outcome : Except Exc KillSwitchEvent)
  | halted (outcome : Except Exc Bool)

/-- The manager in use. Nobody deletes the halted key. -/
def killSwitch : Machine KillSwitchManager Op Reply where
  step m
    | .trigger call nowMs sets =>
        (after (call.method nowMs sets) m, .event (outcome (call.method nowMs sets) m))
    | .isHalted fails => (m, .halted (m.isHalted fails))

/-- A use that sets the flag: any trigger of a manager without a client, else one whose
write of the halted key arrives. -/
def Op.setsFlag (client : Bool) : Op → Bool
  | .trigger _ _ sets => !client || (sets killSwitchHaltedKey).written
  | .isHalted _ => false

theorem next_flag (m : KillSwitchManager) (op : Op) :
    (killSwitch.next m op).redis.isSome = m.redis.isSome ∧
      (killSwitch.next m op).flag = (m.flag || op.setsFlag m.redis.isSome) := by
  cases op with
  | isHalted fails => exact ⟨rfl, by simp [Op.setsFlag, Machine.next, killSwitch]⟩
  | trigger call nowMs sets =>
      obtain ⟨kind, reason, hmethod⟩ :
          ∃ kind reason, call.method nowMs sets = trigger kind reason nowMs sets := by
        cases call <;> exact ⟨_, _, rfl⟩
      show (after (call.method nowMs sets) m).redis.isSome = _ ∧
        (after (call.method nowMs sets) m).flag = _
      rw [hmethod]
      cases hr : m.redis with
      | none =>
          rcases trigger_without_client hr kind reason nowMs sets with ⟨hnone, hhalted⟩
          simp [flag, hnone, hhalted, Op.setsFlag]
      | some db =>
          rcases reads_trigger hr kind reason nowMs sets with ⟨db', hr', hreads⟩
          simp [flag, hr, hr', hreads, Op.setsFlag]

/-- The flag after a run. -/
theorem run_flag (m : KillSwitchManager) (ops : List Op) :
    (killSwitch.run m ops).redis.isSome = m.redis.isSome ∧
      (killSwitch.run m ops).flag = (m.flag || ops.any (·.setsFlag m.redis.isSome)) := by
  induction ops generalizing m with
  | nil => simp [Machine.run]
  | cons op ops ih =>
      rcases next_flag m op with ⟨hclient, hflag⟩
      rcases ih (killSwitch.next m op) with ⟨hclient', hflag'⟩
      rw [hclient] at hclient' hflag'
      exact ⟨hclient', by rw [Machine.run, hflag', hflag, List.any_cons, Bool.or_assoc]⟩

/-- The use is a trigger. -/
def Op.IsTrigger : Op → Prop
  | .trigger _ _ _ => True
  | .isHalted _ => False

/-- Without a client, every trigger counts. -/
theorem any_setsFlag_of_isTrigger {ops : List Op} (h : ∃ op ∈ ops, op.IsTrigger) :
    ops.any (·.setsFlag false) = true := by
  rcases h with ⟨op, hmem, htrigger⟩
  refine List.any_eq_true.mpr ⟨op, hmem, ?_⟩
  cases op with
  | trigger call nowMs sets => rfl
  | isHalted fails => exact htrigger.elim

/-- After a trigger, `is_halted` is true exactly when the manager has no client, or the `get`
does not raise and the halted key was set from the start or by a write that arrived. What
has been read as true is never read as false again. -/
theorem trigger_kept_iff (redis : Option (Dict String String)) (ops : List Op)
    (htriggered : ∃ op ∈ ops, op.IsTrigger) :
    (∀ fails, (killSwitch.run { redis := redis } ops).isHalted fails = .ok true ↔
      redis = none ∨ fails = false ∧
        ((∃ db, redis = some db ∧ Halted db) ∨ ∃ op ∈ ops, op.setsFlag true)) ∧
    ∀ later fails fails',
      (killSwitch.run { redis := redis } ops).isHalted fails = .ok true →
      (killSwitch.run { redis := redis } (ops ++ later)).isHalted fails' ≠ .ok false := by
  rcases run_flag { redis := redis } ops with ⟨hclient, hflag⟩
  constructor
  · intro fails
    rw [isHalted_eq, hclient, hflag]
    cases redis with
    | none => simp [any_setsFlag_of_isTrigger htriggered]
    | some db =>
        cases fails with
        | true => simp
        | false => simp [flag]
  · -- the flag of a run is a disjunction over its uses, so it only grows
    intro later fails fails' hread hback
    have htrue : (killSwitch.run { redis := redis } ops).flag = true := by
      rw [isHalted_eq] at hread
      split at hread
      · cases hread
      · exact Except.ok.inj hread
    rw [isHalted_eq, killSwitch.run_append, (run_flag _ later).2, htrue, Bool.true_or] at hback
    split at hback
    · cases hback
    · cases hback

/-- A trigger whose first write arrives and whose other two are lost is still seen. -/
theorem half_made_trigger_is_kept :
    (killSwitch.run { redis := some Dict.empty }
      [.trigger (.tier2 "telegram_bot") 1000 fun key =>
        if key = killSwitchHaltedKey then .done else .raised]).isHalted false = .ok true :=
  ((trigger_kept_iff (some Dict.empty)
    [.trigger (.tier2 "telegram_bot") 1000 fun key =>
      if key = killSwitchHaltedKey then .done else .raised]
    ⟨_, List.mem_singleton_self _, trivial⟩).1 false).mpr
    (.inr ⟨rfl, .inr ⟨_, List.mem_singleton_self _, by decide⟩⟩)

/-- A trigger whose first write is lost: the manager reads not halted, and it is not halted
in memory either. -/
theorem lost_write_loses_trigger :
    ¬ ∀ (redis : Option (Dict String String)) (ops : List Op) (fails : Bool),
      (∃ op ∈ ops, op.IsTrigger) →
      (killSwitch.run { redis := redis } ops).isHalted fails = .ok true := by
  intro h
  have hread := h (some Dict.empty) [.trigger (.tier1 (-5 / 2)) 1000 fun _ => .raised] false
    ⟨_, List.mem_singleton_self _, trivial⟩
  revert hread
  decide

end Intraday.Compliance
