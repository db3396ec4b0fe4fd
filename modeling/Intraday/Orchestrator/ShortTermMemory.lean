import Intraday.Compliance.KillSwitch
import Intraday.Lib.Key
import Intraday.Lib.RedisStore

/-!
# Intraday.Orchestrator.ShortTermMemory — `ShortTermMemory` of `shared/orchestrator/memory.py`

Values are kept in Redis with a TTL; a `put` whose Redis call raises keeps its value in a
dictionary instead, and a `get` whose Redis call raises looks there. Neither place is told when
the other is written, so the older value of a key can survive in one of them and be read from it
later.

`read_your_writes_iff` says exactly in which histories no such copy is left.
-/

namespace Intraday.Orchestrator

open Intraday.Core Intraday.Lib Intraday.Lib.RedisStore
open Intraday.Compliance (SetOutcome)
open Intraday.Lib.Python (fromUTF8?_toByteArray)

/-! ## The memory -/

/-- `ShortTermMemory`. The client is given by the server behind it. -/
structure ShortTermMemory where
  redis : Option Store
  ttlSeconds : ℕ := shortTermMemoryTtlSeconds
  keyPrefix : String := shortTermMemoryRedisKeyPrefix
  memory : Dict String String := .empty

namespace ShortTermMemory

/-- `f"{self._prefix}:{key}"`. -/
def redisKey (m : ShortTermMemory) (key : String) : String := joinKey m.keyPrefix key

/-- `put`, where `outcome` says what the `set` does. -/
def put (m : ShortTermMemory) (key value : String) (outcome : SetOutcome) : ShortTermMemory :=
  match m.redis with
  | some db =>
      let m :=
        if outcome.written then
          { m with redis := some (db.setEx (m.redisKey key) value.toByteArray m.ttlSeconds) }
        else m
      if outcome = .done then m else { m with memory := m.memory.set key value }
  | none => { m with memory := m.memory.set key value }

/-- `get`. A value that does not decode raises inside the same `try`. -/
def get (m : ShortTermMemory) (key : String) (raises : Bool) : Option String :=
  match m.redis with
  | some db =>
      if raises then m.memory.get? key
      else
        match db.get (m.redisKey key) with
        | none => none
        | some raw =>
            match String.fromUTF8? raw with
            | some text => some text
            | none => m.memory.get? key
  | none => m.memory.get? key

/-- `delete`, where `outcome` says what the Redis call does. -/
def delete (m : ShortTermMemory) (key : String) (outcome : SetOutcome) : ShortTermMemory :=
  let m :=
    match m.redis with
    | some db =>
        if outcome.written then { m with redis := some (db.put (m.redisKey key) none) } else m
    | none => m
  { m with memory := m.memory.erase key }

/-- The text that Redis has under a key. -/
def redisText (m : ShortTermMemory) (key : String) : Option String :=
  m.redis.bind fun db => (db.get (m.redisKey key)).bind String.fromUTF8?

/-- The server's clock moves on. -/
def advance (m : ShortTermMemory) (ms : ℕ) : ShortTermMemory :=
  { m with redis := m.redis.map (·.advance ms) }

end ShortTermMemory

/-! ## A history of calls -/

/-- The memory and, for each key, the value of its latest `put` unless it was deleted since. -/
structure Recall where
  memory : ShortTermMemory
  latest : String → Option String

/-- A call, with what its Redis call does, or time passing on the server. -/
inductive RecallOp where
  | put (key value : String) (outcome : SetOutcome)
  | delete (key : String) (outcome : SetOutcome)
  | get (key : String) (raises : Bool)
  | advance (ms : ℕ)
deriving DecidableEq, Repr

/-- The memory as a machine; a `get` replies with what it returns. -/
def remember : Machine Recall RecallOp (Option (Option String)) where
  step s
    | .put key value outcome =>
        ({ memory := s.memory.put key value outcome
           latest := Function.update s.latest key (some value) }, none)
    | .delete key outcome =>
        ({ memory := s.memory.delete key outcome
           latest := Function.update s.latest key none }, none)
    | .get key raises => (s, some (s.memory.get key raises))
    | .advance ms => ({ s with memory := s.memory.advance ms }, none)

/-- A new `ShortTermMemory`. What Redis has under its keys counts as put. -/
def Recall.opening (redis : Option Store) (ttlSeconds : ℕ) (keyPrefix : String) : Recall :=
  let memory : ShortTermMemory :=
    { redis := redis, ttlSeconds := ttlSeconds, keyPrefix := keyPrefix }
  { memory := memory, latest := memory.redisText }

/-- Whether or not its Redis call fails, a `get` in this state returns the latest value, or
`None`. -/
def ReadsLatest (s : Recall) : Prop :=
  ∀ key raises value, s.memory.get key raises = some value → s.latest key = some value

/-- A call leaves no other value of its key behind: a `put` that succeeds finds none in the
dictionary, a `put` whose write is lost and a `delete` that is lost find none in Redis. -/
def LeavesNoCopy (s : Recall) : RecallOp → Prop
  | .put key value .done =>
      s.memory.redis.isSome → ∀ old, s.memory.memory.get? key = some old → old = value
  | .put key value .raised => ∀ old, s.memory.redisText key = some old → old = value
  | .delete key .raised => s.memory.redisText key = none
  | _ => True

/-! ## The two places of a value -/

namespace ShortTermMemory

variable {m : ShortTermMemory} {key key' value : String} {outcome : SetOutcome}

theorem redisKey_ne (m : ShortTermMemory) (h : key' ≠ key) : m.redisKey key' ≠ m.redisKey key :=
  fun heq => h (joinKey_right_inj.mp heq)

theorem redisKey_put (key' : String) :
    (m.put key value outcome).redisKey key' = m.redisKey key' := by
  cases hredis : m.redis with
  | none => simp [put, hredis, redisKey]
  | some db => cases outcome <;> simp [put, hredis, SetOutcome.written, redisKey]

theorem redis_put {db : Store} (hredis : m.redis = some db) :
    (m.put key value outcome).redis =
      some (if outcome.written then db.setEx (m.redisKey key) value.toByteArray m.ttlSeconds
        else db) := by
  cases outcome <;> simp [put, hredis, SetOutcome.written]

/-- Everything a `put` does to Redis. -/
theorem redisText_put (m : ShortTermMemory) (key value : String) (outcome : SetOutcome)
    (key' : String) :
    (m.put key value outcome).redisText key' =
      if m.redis.isSome = true ∧ outcome.written = true ∧ key' = key then some value
      else m.redisText key' := by
  cases hredis : m.redis with
  | none => simp [put, hredis, redisText]
  | some db =>
      rw [redisText, redis_put hredis, redisKey_put, redisText, hredis]
      by_cases hwritten : outcome.written = true
      · by_cases hk : key' = key
        · simp [hwritten, hk]
        · simp [hwritten, hk, Store.get_setEx_of_ne _ _ _ (m.redisKey_ne hk)]
      · simp [hwritten]

/-- Everything a `put` does to the dictionary. -/
theorem memory_put (m : ShortTermMemory) (key value : String) (outcome : SetOutcome)
    (key' : String) :
    (m.put key value outcome).memory.get? key' =
      if (m.redis.isSome = true → outcome ≠ .done) ∧ key' = key then some value
      else m.memory.get? key' := by
  have hset : (m.memory.set key value).get? key' =
      if key' = key then some value else m.memory.get? key' := by
    by_cases hk : key' = key
    · simp [hk]
    · simp [hk, Dict.get?_set_of_ne _ _ hk]
  cases hredis : m.redis with
  | none => simp [put, hredis, hset]
  | some db => cases outcome <;> simp [put, hredis, SetOutcome.written, hset]

/-- Everything a `delete` does to Redis. -/
theorem redisText_delete (m : ShortTermMemory) (key : String) (outcome : SetOutcome)
    (key' : String) :
    (m.delete key outcome).redisText key' =
      if outcome.written = true ∧ key' = key then none else m.redisText key' := by
  cases hredis : m.redis with
  | none => simp [delete, hredis, redisText]
  | some db =>
      by_cases hwritten : outcome.written = true
      · by_cases hk : key' = key
        · simp [delete, hredis, redisText, hwritten, hk, redisKey]
        · have hne : joinKey m.keyPrefix key' ≠ joinKey m.keyPrefix key := m.redisKey_ne hk
          simp [delete, hredis, redisText, hwritten, hk, redisKey, Store.get_put_of_ne _ _ hne]
      · simp [delete, hredis, redisText, hwritten, redisKey]

/-- Everything a `delete` does to the dictionary. -/
theorem memory_delete (m : ShortTermMemory) (key : String) (outcome : SetOutcome)
    (key' : String) :
    (m.delete key outcome).memory.get? key' =
      if key' = key then none else m.memory.get? key' := by
  have herase : (m.delete key outcome).memory = m.memory.erase key := by
    cases hredis : m.redis with
    | none => simp [delete, hredis]
    | some db => cases hwritten : outcome.written <;> simp [delete, hredis, hwritten]
  rw [herase]
  by_cases hk : key' = key
  · simp [hk]
  · simp [hk, Dict.get?_erase_of_ne _ hk]

theorem redisText_of_advance {ms : ℕ} (h : (m.advance ms).redisText key = some value) :
    m.redisText key = some value := by
  cases hredis : m.redis with
  | none => simp [advance, redisText, hredis] at h
  | some db =>
      simp only [advance, redisText, hredis, Option.map_some, Option.bind_some,
        Option.bind_eq_some_iff] at h ⊢
      rcases h with ⟨raw, hraw, htext⟩
      exact ⟨raw, Store.get_of_advance hraw, htext⟩

/-- A `get` reads one of the two places. -/
theorem get_cases {raises : Bool} (h : m.get key raises = some value) :
    m.redisText key = some value ∨ m.memory.get? key = some value := by
  rw [get] at h
  cases hredis : m.redis with
  | none =>
      rw [hredis] at h
      exact .inr h
  | some db =>
      simp only [hredis] at h
      split at h
      · exact .inr h
      · split at h
        · cases h
        · rename_i raw hraw
          split at h
          · rename_i text htext
            rw [← h]
            exact .inl (by simp [redisText, hredis, hraw, htext])
          · exact .inr h

/-- Either place is read by some `get`. -/
theorem exists_get (h : m.redisText key = some value ∨ m.memory.get? key = some value) :
    ∃ raises, m.get key raises = some value := by
  rcases h with hredis | hmemory
  · rw [redisText, Option.bind_eq_some_iff] at hredis
    rcases hredis with ⟨db, hdb, hget⟩
    rw [Option.bind_eq_some_iff] at hget
    rcases hget with ⟨raw, hraw, htext⟩
    exact ⟨false, by simp [get, hdb, hraw, htext]⟩
  · refine ⟨true, ?_⟩
    cases hredis : m.redis <;> simp [get, hredis, hmemory]

end ShortTermMemory

/-! ## One call -/

open ShortTermMemory

/-- Reads are right exactly if neither place has another value than the latest. -/
theorem readsLatest_iff {m : ShortTermMemory} {latest : String → Option String} :
    ReadsLatest ⟨m, latest⟩ ↔ ∀ key value, m.redisText key = some value ∨
      m.memory.get? key = some value → latest key = some value := by
  constructor
  · intro h key value hplace
    rcases exists_get hplace with ⟨raises, hget⟩
    exact h key raises value hget
  · intro h key raises value hget
    exact h key value (get_cases hget)

/-- A `put` is right about its own key, and the other keys are as before. -/
theorem readsLatest_put_iff {m : ShortTermMemory} {latest : String → Option String}
    (h : ReadsLatest ⟨m, latest⟩) (key value : String) (outcome : SetOutcome) :
    ReadsLatest ⟨m.put key value outcome, Function.update latest key (some value)⟩ ↔
      ∀ old, (m.put key value outcome).redisText key = some old ∨
        (m.put key value outcome).memory.get? key = some old → old = value := by
  rw [readsLatest_iff] at h ⊢
  constructor
  · intro hpost old hplace
    have hlatest := hpost key old hplace
    rw [Function.update_self] at hlatest
    exact (Option.some.inj hlatest).symm
  · intro hkey key' old hplace
    by_cases hk : key' = key
    · subst hk
      rw [hkey old hplace, Function.update_self]
    · -- another key is left alone in both places
      rw [redisText_put, memory_put] at hplace
      simp only [hk, and_false, if_false] at hplace
      rw [Function.update_of_ne hk]
      exact h key' old hplace

theorem readsLatest_delete_iff {m : ShortTermMemory} {latest : String → Option String}
    (h : ReadsLatest ⟨m, latest⟩) (key : String) (outcome : SetOutcome) :
    ReadsLatest ⟨m.delete key outcome, Function.update latest key none⟩ ↔
      (m.delete key outcome).redisText key = none := by
  rw [readsLatest_iff] at h ⊢
  constructor
  · intro hpost
    by_contra hleft
    rcases Option.ne_none_iff_exists'.mp hleft with ⟨old, hold⟩
    have hlatest := hpost key old (.inl hold)
    rw [Function.update_self] at hlatest
    cases hlatest
  · intro hgone key' old hplace
    by_cases hk : key' = key
    · -- the dictionary forgets it in any case
      subst hk
      rw [memory_delete, if_pos rfl] at hplace
      rcases hplace with hplace | hplace
      · rw [hgone] at hplace
        cases hplace
      · cases hplace
    · rw [redisText_delete, memory_delete] at hplace
      simp only [hk, and_false, if_false] at hplace
      rw [Function.update_of_ne hk]
      exact h key' old hplace

theorem readsLatest_next_iff (s : Recall) (op : RecallOp) (h : ReadsLatest s) :
    ReadsLatest (remember.next s op) ↔ LeavesNoCopy s op := by
  rcases s with ⟨m, latest⟩
  cases op with
  | get key raises => exact iff_of_true h trivial
  | advance ms =>
      have hnext : remember.next ⟨m, latest⟩ (.advance ms) = ⟨m.advance ms, latest⟩ := rfl
      refine iff_of_true ?_ trivial
      rw [hnext, readsLatest_iff]
      rw [readsLatest_iff] at h
      intro key value hplace
      rcases hplace with hredis | hmemory
      · exact h key value (.inl (redisText_of_advance hredis))
      · exact h key value (.inr hmemory)
  | put key value outcome =>
      have hnext : remember.next ⟨m, latest⟩ (.put key value outcome) =
          ⟨m.put key value outcome, Function.update latest key (some value)⟩ := rfl
      have hnone : m.redis.isSome = false → m.redisText key = none := by
        intro hredis
        rw [redisText, Option.not_isSome_iff_eq_none.mp (Bool.eq_false_iff.mp hredis)]
        rfl
      rw [hnext, readsLatest_put_iff h]
      simp only [redisText_put, memory_put, and_true]
      cases hredis : m.redis.isSome with
      | false =>
          -- without a client only the dictionary is written
          cases outcome <;> simp [LeavesNoCopy, hredis, hnone hredis]
      | true =>
          cases outcome <;>
            simp [LeavesNoCopy, hredis, SetOutcome.written, or_imp, forall_and]
  | delete key outcome =>
      have hnext : remember.next ⟨m, latest⟩ (.delete key outcome) =
          ⟨m.delete key outcome, Function.update latest key none⟩ := rfl
      rw [hnext, readsLatest_delete_iff h, redisText_delete]
      cases outcome <;> simp [LeavesNoCopy, SetOutcome.written]

/-! ## Whole histories -/

theorem readsLatest_opening (redis : Option Store) (ttlSeconds : ℕ) (keyPrefix : String) :
    ReadsLatest (.opening redis ttlSeconds keyPrefix) := by
  refine readsLatest_iff.mpr ?_
  intro key value hplace
  rcases hplace with hredis | hmemory
  · exact hredis
  · cases hmemory

/-- Whatever calls fail, in every state reached a `get` returns the latest value of its key or
`None`, exactly if no call of the history leaves another value of its key behind. -/
theorem read_your_writes_iff (redis : Option Store) (ttlSeconds : ℕ) (keyPrefix : String)
    (ops : List RecallOp) :
    (∀ t ∈ remember.trans (.opening redis ttlSeconds keyPrefix) ops, ReadsLatest t.post) ↔
      ∀ t ∈ remember.trans (.opening redis ttlSeconds keyPrefix) ops, LeavesNoCopy t.pre t.op := by
  refine @Machine.trans_forall_post_iff _ _ _ remember (fun _ => True) ReadsLatest LeavesNoCopy
    (fun _ _ _ => trivial) ?_ _ trivial (readsLatest_opening redis ttlSeconds keyPrefix) ops
  intro s op _ h
  exact readsLatest_next_iff s op h

/-- A server without keys. -/
def blankStore : Store := { nowMs := 0, strings := fun _ => none, streams := fun _ => [] }

/-- The first `put` of a key reaches Redis, the second does not. -/
def lostUpdate : List RecallOp :=
  [.put "regime" "BULL" .done, .put "regime" "BEAR" .raised, .get "regime" false]

/-- The `get` after the second `put` returns the value of the first. -/
theorem get_returns_older_value :
    ¬ ∀ t ∈ remember.trans (.opening (some blankStore) 3600 "orchestrator:stm") lostUpdate,
      ReadsLatest t.post := by
  intro h
  simp only [lostUpdate, Machine.trans_cons, List.forall_mem_cons] at h
  have hget : ((remember.next (remember.next (.opening (some blankStore) 3600 "orchestrator:stm")
      (.put "regime" "BULL" .done)) (.put "regime" "BEAR" .raised)).memory.get "regime" false) =
      some "BULL" := by
    simp [remember, Machine.next, Recall.opening, ShortTermMemory.put, ShortTermMemory.get,
      SetOutcome.written, redisKey]
  have hlatest := h.2.1 "regime" false "BULL" hget
  revert hlatest
  decide

end Intraday.Orchestrator
