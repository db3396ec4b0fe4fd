import Intraday.Reconciliation.Agent

/-!
# Intraday.Reconciliation.Restarts — the blocks across restarts and Redis failures

A block lives in Redis or in memory, and the agent clears only what it remembers from its last
cycle. A restart empties the memory of both; a `delete` that raises leaves a block that the
agent has forgotten; and a `get` that raises does not see a block that is in Redis.

The service is the agent with what is due of it: a pair with a mismatch in the last completed
cycle has to be seen as blocked, and a pair without one has to be seen as free once a cycle with
working Redis found it so. `blocks_kept_of_sound` gives the steps under which every read returns
what is due.
-/

namespace Intraday.Reconciliation

open Intraday.Lib

/-! ## The service -/

/-- Something that happens to the agent: a cycle, a restart over the same Redis, the expiry of
a block key, or a call of `is_blocked`. -/
inductive ServiceOp where
  | cycle (c : Cycle)
  | restart
  | expire (key : String)
  | read (getRaises : Bool) (symbol exchange : String)

/-- The agent, and what a read of a pair has to return, if anything is said of it. -/
structure Service where
  agent : ReconciliationAgent
  due : String → String → Option Bool

/-- Every Redis call that a cycle makes succeeds. -/
def BlockCalls.Working (calls : BlockCalls) (ms : List ReconciliationMismatch)
    (last : List String) : Prop :=
  (∀ i < ms.length, calls.getRaises i = false ∧ calls.sets i = .done) ∧
    ∀ key ∈ last, calls.deletes key = .done

instance (calls : BlockCalls) (ms : List ReconciliationMismatch) (last : List String) :
    Decidable (calls.Working ms last) :=
  inferInstanceAs (Decidable (_ ∧ _))

instance (ms : List ReconciliationMismatch) (symbol exchange : String) :
    Decidable (Mismatched ms symbol exchange) :=
  inferInstanceAs (Decidable (∃ m ∈ ms, _))

/-- What is due after a completed cycle. -/
def dueAfter (ms : List ReconciliationMismatch) (working : Prop) [Decidable working]
    (due : String → String → Option Bool) (symbol exchange : String) : Option Bool :=
  if Mismatched ms symbol exchange then some true
  else if working then some false
  else if due symbol exchange = some false then some false
  else none

/-- An agent over the same Redis: what was in memory is lost. -/
def ReconciliationAgent.restarted (a : ReconciliationAgent) : ReconciliationAgent :=
  .new { redis := a.blocks.redis, ttl := a.blocks.ttl }

/-- A key that was set with an expiry time is dropped by Redis. -/
def ReconciliationAgent.expired (a : ReconciliationAgent) (key : String) : ReconciliationAgent :=
  if a.blocks.ttl.isSome then
    { a with blocks := { a.blocks with redis := a.blocks.redis.map (·.erase key) } }
  else a

/-- The service, one event at a time. It replies to reads. -/
def serviceMachine (upper : String → String) : Machine Service ServiceOp (Option Bool) where
  step s
    | .cycle c =>
        match c.fetched with
        | none => (s, none)
        | some snapshot =>
            let ms := snapshot.mismatches upper c.startedAt
            ({ agent := (s.agent.runCycle upper snapshot c.startedAt c.completedAt c.calls).1
               due := dueAfter ms (c.calls.Working ms s.agent.lastMismatchKeys) s.due }, none)
    | .restart => ({ s with agent := s.agent.restarted }, none)
    | .expire key => ({ s with agent := s.agent.expired key }, none)
    | .read getRaises symbol exchange =>
        (s, some (s.agent.blocks.isBlocked getRaises symbol exchange))

/-- A new agent over Redis, of which nothing is due yet. -/
def Service.start (ttl : Option ℕ) (redis : Finset String) : Service :=
  { agent := .new { redis := some redis, ttl := ttl }
    due := fun _ _ => none }

/-- A read returns what is due. -/
def Answers (t : Trans Service ServiceOp (Option Bool)) : Prop :=
  ∀ getRaises symbol exchange, t.op = .read getRaises symbol exchange →
    ∀ blocked, t.pre.due symbol exchange = some blocked → t.reply = some blocked

/-! ## The steps that keep what is due -/

/-- The step loses no block that is due and forgets none that is left.

* A cycle: exchange names have no colon and, if its Redis calls work, it remembers every block
  that has no mismatch now.
* A restart: no block that is due is in memory only.
* An expiry: the block is not due, or is in memory too.
* A read: the exchange name has no colon, and if the `get` raises, a block that is due is in
  memory. -/
def Sound (upper : String → String) (s : Service) : ServiceOp → Prop
  | .cycle c => ∀ snapshot, c.fetched = some snapshot →
      (∀ m ∈ snapshot.mismatches upper c.startedAt, ':' ∉ m.exchange.toList) ∧
      (c.calls.Working (snapshot.mismatches upper c.startedAt) s.agent.lastMismatchKeys →
        ∀ key ∈ s.agent.blocks.keys, (∃ k ∈ s.agent.lastMismatchKeys, registryKey k = key) ∨
          ∃ m ∈ snapshot.mismatches upper c.startedAt, registryKey m.key = key)
  | .restart => ∀ symbol exchange, s.due symbol exchange = some true →
      blockKey symbol exchange ∈ s.agent.blocks.memory →
        blockKey symbol exchange ∈ s.agent.blocks.redis.getD ∅
  | .expire key => ∀ symbol exchange, s.due symbol exchange = some true →
      blockKey symbol exchange = key → key ∈ s.agent.blocks.memory
  | .read getRaises symbol exchange => ':' ∉ exchange.toList ∧
      (getRaises = true → s.due symbol exchange = some true →
        blockKey symbol exchange ∈ s.agent.blocks.memory)

/-- A pair that is due is blocked, and a pair that is due to be free is not. -/
structure Kept (s : Service) : Prop where
  blocked : ∀ symbol exchange, s.due symbol exchange = some true →
    blockKey symbol exchange ∈ s.agent.blocks.keys
  free : ∀ symbol exchange, ':' ∉ exchange.toList → s.due symbol exchange = some false →
    blockKey symbol exchange ∉ s.agent.blocks.keys

section Steps

variable {upper : String → String} {s : Service} {ms : List ReconciliationMismatch}
  {due : String → String → Option Bool} {symbol exchange : String}

theorem mismatched_of_dueAfter {working : Prop} [Decidable working]
    (h : dueAfter ms working due symbol exchange = some true) :
    Mismatched ms symbol exchange := by
  rw [dueAfter] at h
  split at h
  · assumption
  · split at h
    · simp at h
    · split at h
      · simp at h
      · cases h

theorem of_dueAfter_false {working : Prop} [Decidable working]
    (h : dueAfter ms working due symbol exchange = some false) :
    ¬ Mismatched ms symbol exchange ∧ (working ∨ due symbol exchange = some false) := by
  rw [dueAfter] at h
  split at h
  · simp at h
  · refine ⟨‹_›, ?_⟩
    split at h
    · exact .inl ‹_›
    · split at h
      · exact .inr ‹_›
      · cases h

theorem kept_cycle {snapshot : Snapshot} {c : Cycle} (hfetched : c.fetched = some snapshot)
    (hkept : Kept s) (hsound : Sound upper s (.cycle c)) :
    Kept { agent := (s.agent.runCycle upper snapshot c.startedAt c.completedAt c.calls).1
           due := dueAfter (snapshot.mismatches upper c.startedAt)
             (c.calls.Working (snapshot.mismatches upper c.startedAt) s.agent.lastMismatchKeys)
             s.due } where
  blocked := by
    intro symbol exchange hdue
    rcases mismatched_of_dueAfter hdue with ⟨m, hm, rfl, rfl⟩
    have hkey : registryKey m.key ∈
        (s.agent.runCycle upper snapshot c.startedAt c.completedAt c.calls).1.blocks.keys :=
      mem_keys_runCycle hm
    rw [blockKey_mismatch]
    exact hkey
  free := by
    intro symbol exchange hexchange hdue hleft
    have hkey : blockKey symbol exchange ∈
        (s.agent.runCycle upper snapshot c.startedAt c.completedAt c.calls).1.blocks.keys := hleft
    rcases hsound snapshot hfetched with ⟨hnames, hremembered⟩
    rcases of_dueAfter_false hdue with ⟨hnone, hwhy⟩
    have hcurrent : ¬ ∃ m ∈ snapshot.mismatches upper c.startedAt,
        registryKey m.key = blockKey symbol exchange := by
      simp only [blockKey_eq, registryKey_inj]
      rw [exists_key_iff hnames hexchange]
      exact hnone
    rcases hwhy with hworking | hfree
    · -- with working Redis, what is left was neither remembered nor found again
      have hdeletes : ∀ k ∈ s.agent.lastMismatchKeys, (c.calls.deletes k).written = true := by
        intro k hk
        rw [hworking.2 k hk]
        rfl
      rcases keys_runCycle_of_deletes (.inr hdeletes) hkey with ⟨hold, hnot⟩ | hfound
      · rcases hremembered hworking _ hold with ⟨k, hk, heq⟩ | hfound
        · exact hnot k hk heq
        · exact hcurrent hfound
      · exact hcurrent hfound
    · rcases keys_runCycle hkey with hold | hfound
      · exact hkept.free symbol exchange hexchange hfree hold
      · exact hcurrent hfound

theorem kept_restart (hkept : Kept s) (hsound : Sound upper s .restart) :
    Kept { s with agent := s.agent.restarted } where
  blocked := by
    intro symbol exchange hdue
    rcases Finset.mem_union.mp (hkept.blocked symbol exchange hdue) with hredis | hmemory
    · exact Finset.mem_union_left _ hredis
    · exact Finset.mem_union_left _ (hsound symbol exchange hdue hmemory)
  free := by
    intro symbol exchange hexchange hdue hkey
    rcases Finset.mem_union.mp hkey with hredis | hmemory
    · exact hkept.free symbol exchange hexchange hdue (Finset.mem_union_left _ hredis)
    · cases hmemory

theorem keys_expired (a : ReconciliationAgent) (key : String) :
    (a.expired key).blocks.keys ⊆ a.blocks.keys := by
  rw [ReconciliationAgent.expired]
  split
  · refine Finset.union_subset_union ?_ (Finset.Subset.refl _)
    cases a.blocks.redis with
    | none => simp
    | some db => exact Finset.erase_subset key db
  · exact Finset.Subset.refl _

theorem mem_keys_expired {a : ReconciliationAgent} {key key' : String}
    (h : key' ∈ a.blocks.keys) (hmemory : key' = key → key' ∈ a.blocks.memory) :
    key' ∈ (a.expired key).blocks.keys := by
  rw [ReconciliationAgent.expired]
  split
  · by_cases heq : key' = key
    · exact Finset.mem_union_right _ (hmemory heq)
    · cases hredis : a.blocks.redis with
      | none => simpa [BlockRegistry.keys, hredis] using h
      | some db => simpa [BlockRegistry.keys, hredis, heq] using h
  · exact h

theorem kept_expire {key : String} (hkept : Kept s) (hsound : Sound upper s (.expire key)) :
    Kept { s with agent := s.agent.expired key } where
  blocked := by
    intro symbol exchange hdue
    refine mem_keys_expired (hkept.blocked symbol exchange hdue) ?_
    intro heq
    rw [heq]
    exact hsound symbol exchange hdue heq
  free := by
    intro symbol exchange hexchange hdue hkey
    exact hkept.free symbol exchange hexchange hdue (keys_expired _ _ hkey)

/-- The step lemma: a sound step keeps what is due. -/
theorem kept_next (hkept : Kept s) {op : ServiceOp} (hsound : Sound upper s op) :
    Kept ((serviceMachine upper).next s op) := by
  cases op with
  | cycle c =>
      cases hfetched : c.fetched with
      | none =>
          simp only [Machine.next, serviceMachine, hfetched]
          exact hkept
      | some snapshot =>
          simp only [Machine.next, serviceMachine, hfetched]
          exact kept_cycle hfetched hkept hsound
  | restart => exact kept_restart hkept hsound
  | expire key => exact kept_expire hkept hsound
  | read getRaises symbol exchange => exact hkept

/-- A sound read returns what is due. -/
theorem answers_fire (hkept : Kept s) {op : ServiceOp} (hsound : Sound upper s op) :
    Answers ((serviceMachine upper).fire s op) := by
  rintro getRaises symbol exchange hop blocked hdue
  obtain rfl : op = .read getRaises symbol exchange := hop
  rcases hsound with ⟨hexchange, hraises⟩
  refine congrArg some ?_
  cases blocked with
  | true =>
      cases hget : getRaises with
      | false =>
          exact (BlockRegistry.isBlocked_iff (.inr rfl)).mpr (hkept.blocked symbol exchange hdue)
      | true =>
          have hmemory := hraises hget hdue
          simp [BlockRegistry.isBlocked, hmemory]
  | false =>
      rw [← Bool.not_eq_true]
      intro hblocked
      exact hkept.free symbol exchange hexchange hdue
        (BlockRegistry.mem_keys_of_isBlocked hblocked)

end Steps

/-- In every run from a new agent over any Redis whose steps are sound, every read returns what
is due: `True` from the block to the cycle without the mismatch, and `False` once a cycle with
working Redis found no mismatch. -/
theorem blocks_kept_of_sound (upper : String → String) (ttl : Option ℕ) (redis : Finset String)
    (ops : List ServiceOp)
    (hsound : ∀ t ∈ (serviceMachine upper).trans (.start ttl redis) ops, Sound upper t.pre t.op) :
    ∀ t ∈ (serviceMachine upper).trans (.start ttl redis) ops, Answers t := by
  have hstart : Kept (.start ttl redis) := by
    constructor
    · intro symbol exchange hdue
      cases hdue
    · intro symbol exchange hexchange hdue
      cases hdue
  have hkept := (serviceMachine upper).trans_invariant_of_allowed
    (fun s op hs hallowed => kept_next (s := s) hs hallowed) hstart hsound
  intro t ht
  rcases hkept t ht with ⟨hpre, hfire⟩
  rw [hfire]
  exact answers_fire hpre (hsound t ht)

/-- A block that is in Redis, read with a `get` that raises. -/
def unreadBlock : List ServiceOp := [.cycle driftCycle, .read true "INFY" "NSE"]

/-- A block that is in Redis, and an agent that was restarted before the mismatch was gone. -/
def forgottenBlock : List ServiceOp :=
  [.cycle driftCycle, .restart, .cycle flatCycle, .read false "INFY" "NSE"]

/-- The first run reads a block as free, and the second a pair without mismatch as blocked. -/
theorem blocks_are_not_kept :
    ¬ (∀ t ∈ (serviceMachine id).trans (.start none ∅) unreadBlock, Answers t) ∧
      ¬ ∀ t ∈ (serviceMachine id).trans (.start none ∅) forgottenBlock, Answers t := by
  constructor
  · intro h
    have hread := h ((serviceMachine id).fire
      ((serviceMachine id).run (.start none ∅) [.cycle driftCycle]) (.read true "INFY" "NSE"))
      (by simp [unreadBlock, Machine.run]) true "INFY" "NSE" rfl true (by decide +kernel)
    exact absurd hread (by decide +kernel)
  · intro h
    have hread := h ((serviceMachine id).fire
      ((serviceMachine id).run (.start none ∅) [.cycle driftCycle, .restart, .cycle flatCycle])
      (.read false "INFY" "NSE"))
      (by simp [forgottenBlock, Machine.run]) false "INFY" "NSE" rfl false (by decide +kernel)
    exact absurd hread (by decide +kernel)

/-- The block of a drift, seen as long as it lasts. -/
def keptBlock : List ServiceOp :=
  [.cycle driftCycle, .read false "INFY" "NSE", .cycle flatCycle, .read false "INFY" "NSE"]

theorem blocks_kept_of_drift :
    ((serviceMachine id).trans (.start none ∅) keptBlock).map (·.reply) =
      [none, some true, none, some false] ∧
    ∀ t ∈ (serviceMachine id).trans (.start none ∅) keptBlock, Answers t := by
  refine ⟨by decide +kernel, blocks_kept_of_sound id none ∅ keptBlock ?_⟩
  simp only [keptBlock, Machine.trans_cons, Machine.trans_nil, List.forall_mem_cons,
    List.not_mem_nil, false_implies, implies_true, and_true]
  refine ⟨?_, ⟨by decide, nofun⟩, ?_, ⟨by decide, nofun⟩⟩
  · intro snapshot hsnapshot
    cases hsnapshot
    exact ⟨by decide +kernel, fun _ => by decide +kernel⟩
  · intro snapshot hsnapshot
    cases hsnapshot
    exact ⟨by decide +kernel, fun _ => by decide +kernel⟩

end Intraday.Reconciliation
