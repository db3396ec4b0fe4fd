import Mathlib.Data.List.Dedup
import Intraday.Lib.Machine
import Intraday.Reconciliation.BlockRegistry
import Intraday.Reconciliation.OrderDiff

/-!
# Intraday.Reconciliation.Agent — `shared/reconciliation/agent.py`

One cycle fetches both sides, blocks every symbol with a mismatch and clears the symbols whose
mismatch of the previous cycle is gone. The agent knows the previous cycle by its set of
mismatch keys only.

The four fetches come before any effect: a cycle whose fetches raise changes nothing. The
publisher and the callback raise nothing that leaves the cycle. A Python set is a list without
duplicates here; what is proved does not depend on its order.

With a registry in memory, the blocks after a cycle are exactly its mismatches
(`block_lifecycle`).
-/

namespace Intraday.Reconciliation

open Intraday.Lib
open Intraday.Compliance (SetOutcome)

/-! ## The cycle -/

/-- What the four fetches of a cycle return. -/
structure Snapshot where
  brokerPositions : List BrokerPosition := []
  brokerOrders : List BrokerOrder := []
  internalPositions : List InternalPosition := []
  internalOrders : List InternalOrder := []

/-- What the Redis calls of a cycle do: `get` and `set` for the mismatch with this index,
`delete` for this key. -/
structure BlockCalls where
  getRaises : ℕ → Bool := fun _ => false
  sets : ℕ → SetOutcome := fun _ => .done
  deletes : String → SetOutcome := fun _ => .done

/-- `f"{mismatch.exchange}:{mismatch.symbol}"`. -/
def ReconciliationMismatch.key (m : ReconciliationMismatch) : String :=
  positionKey m.symbol m.exchange

/-- `current_mismatch_keys` after the loop. -/
def mismatchKeys (ms : List ReconciliationMismatch) : List String :=
  (ms.map ReconciliationMismatch.key).dedup

/-- `ReconciliationAgent`. Its keys can be split at a colon. -/
structure ReconciliationAgent where
  blocks : BlockRegistry
  lastMismatchKeys : List String
  splits : ∀ key ∈ lastMismatchKeys, ':' ∈ key.toList

/-- A new agent over a registry. -/
def ReconciliationAgent.new (blocks : BlockRegistry) : ReconciliationAgent :=
  { blocks := blocks
    lastMismatchKeys := []
    splits := by simp }

/-- `all_mismatches`. -/
def Snapshot.mismatches (upper : String → String) (s : Snapshot) (startedAt : ℤ) :
    List ReconciliationMismatch :=
  diffPositions s.brokerPositions s.internalPositions startedAt ++
    diffOrders upper s.brokerOrders s.internalOrders startedAt

/-- The loop over the mismatches, from index `i` on: the registry after it, and the keys
appended to `symbols_blocked`. -/
def blockMismatches (calls : BlockCalls) :
    ℕ → BlockRegistry → List ReconciliationMismatch → BlockRegistry × List String
  | _, r, [] => (r, [])
  | i, r, m :: rest =>
      if r.isBlocked (calls.getRaises i) m.symbol m.exchange then
        blockMismatches calls (i + 1) r rest
      else
        let next := blockMismatches calls (i + 1) (r.block (calls.sets i) m.symbol m.exchange) rest
        (next.1, m.key :: next.2)

/-- The loop over the stale keys. -/
def clearKeys (calls : BlockCalls) : BlockRegistry → List String → BlockRegistry
  | r, [] => r
  | r, key :: rest =>
      clearKeys calls (r.clear (calls.deletes key) (splitKey key).2 (splitKey key).1) rest

theorem mem_mismatchKeys {ms : List ReconciliationMismatch} {key : String} :
    key ∈ mismatchKeys ms ↔ ∃ m ∈ ms, m.key = key := by
  rw [mismatchKeys, List.mem_dedup, List.mem_map]

/-- `run_cycle`, once the fetches returned `s`. -/
def ReconciliationAgent.runCycle (upper : String → String) (a : ReconciliationAgent)
    (s : Snapshot) (startedAt completedAt : ℤ) (calls : BlockCalls) :
    ReconciliationAgent × ReconciliationResult :=
  let allMismatches := s.mismatches upper startedAt
  let currentMismatchKeys := mismatchKeys allMismatches
  let blocked := blockMismatches calls 0 a.blocks allMismatches
  let staleKeys := a.lastMismatchKeys.filter (· ∉ currentMismatchKeys)
  ({ blocks := clearKeys calls blocked.1 staleKeys
     lastMismatchKeys := currentMismatchKeys
     splits := by
       intro key hkey
       rcases mem_mismatchKeys.mp hkey with ⟨m, -, rfl⟩
       exact colon_mem_joinKey m.exchange m.symbol },
    { cycleStartedAtMs := startedAt
      cycleCompletedAtMs := completedAt
      mismatches := allMismatches
      symbolsBlocked := blocked.2
      symbolsCleared := staleKeys })

/-! ## What the two loops do to the registry -/

section Loops

variable {calls : BlockCalls} {r : BlockRegistry} {key : String}

theorem blockKey_mismatch (m : ReconciliationMismatch) :
    blockKey m.symbol m.exchange = registryKey m.key :=
  blockKey_eq m.symbol m.exchange

theorem blockKey_splitKey (h : ':' ∈ key.toList) :
    blockKey (splitKey key).2 (splitKey key).1 = registryKey key := by
  rw [blockKey_eq, positionKey, joinKey_splitKey h]

/-- Every mismatch is blocked after the loop, and nothing else is. -/
theorem mem_keys_blockMismatches (ms : List ReconciliationMismatch) (i : ℕ) :
    key ∈ (blockMismatches calls i r ms).1.keys ↔
      key ∈ r.keys ∨ ∃ m ∈ ms, registryKey m.key = key := by
  induction ms generalizing i r with
  | nil => simp [blockMismatches]
  | cons m rest ih =>
      rw [blockMismatches]
      split
      case isTrue hblocked =>
          have hkey : registryKey m.key ∈ r.keys := by
            rw [← blockKey_mismatch]
            exact BlockRegistry.mem_keys_of_isBlocked hblocked
          rw [ih, List.exists_mem_cons_iff]
          constructor
          · rintro (h | h)
            · exact .inl h
            · exact .inr (.inr h)
          · rintro (h | rfl | h)
            · exact .inl h
            · exact .inl hkey
            · exact .inr h
      case isFalse =>
          rw [ih, BlockRegistry.keys_block, Finset.mem_insert, blockKey_mismatch,
            List.exists_mem_cons_iff, eq_comm, or_assoc, or_left_comm]

theorem blockMismatches_redis (ms : List ReconciliationMismatch) (i : ℕ) :
    (blockMismatches calls i r ms).1.redis = none ↔ r.redis = none := by
  induction ms generalizing i r with
  | nil => rfl
  | cons m rest ih =>
      rw [blockMismatches]
      split
      · exact ih (i + 1)
      · rw [ih (i + 1), BlockRegistry.block_redis_eq_none]

/-- Without a client, the loop reports the mismatches that were not blocked before. -/
theorem mem_blockMismatches (hredis : r.redis = none) (ms : List ReconciliationMismatch) (i : ℕ) :
    key ∈ (blockMismatches calls i r ms).2 ↔
      registryKey key ∉ r.keys ∧ ∃ m ∈ ms, m.key = key := by
  induction ms generalizing i r with
  | nil => simp [blockMismatches]
  | cons m rest ih =>
      have hread : r.isBlocked (calls.getRaises i) m.symbol m.exchange = true ↔
          registryKey m.key ∈ r.keys := by
        rw [← blockKey_mismatch]
        exact BlockRegistry.isBlocked_iff (.inl hredis)
      rw [blockMismatches]
      split
      case isTrue hblocked =>
          rw [ih hredis, List.exists_mem_cons_iff]
          have hkey := hread.mp hblocked
          constructor
          · rintro ⟨hnot, hmem⟩
            exact ⟨hnot, .inr hmem⟩
          · rintro ⟨hnot, rfl | hmem⟩
            · exact absurd hkey hnot
            · exact ⟨hnot, hmem⟩
      case isFalse hfree =>
          have hkey : registryKey m.key ∉ r.keys := fun h => hfree (hread.mpr h)
          have hnext := ih (r := r.block (calls.sets i) m.symbol m.exchange)
            (BlockRegistry.block_redis_eq_none.mpr hredis) (i + 1)
          rw [List.mem_cons, hnext, BlockRegistry.keys_block, blockKey_mismatch,
            Finset.mem_insert, registryKey_inj, not_or, List.exists_mem_cons_iff]
          constructor
          · rintro (rfl | ⟨⟨-, hnot⟩, hmem⟩)
            · exact ⟨hkey, .inl rfl⟩
            · exact ⟨hnot, .inr hmem⟩
          · rintro ⟨hnot, rfl | hmem⟩
            · exact .inl rfl
            · by_cases hsame : key = m.key
              · exact .inl hsame
              · exact .inr ⟨⟨hsame, hnot⟩, hmem⟩

theorem nodup_blockMismatches (hredis : r.redis = none) (ms : List ReconciliationMismatch)
    (i : ℕ) : (blockMismatches calls i r ms).2.Nodup := by
  induction ms generalizing i r with
  | nil => simp [blockMismatches]
  | cons m rest ih =>
      rw [blockMismatches]
      split
      · exact ih hredis (i + 1)
      · have hnext : (r.block (calls.sets i) m.symbol m.exchange).redis = none :=
          BlockRegistry.block_redis_eq_none.mpr hredis
        refine List.nodup_cons.mpr ⟨?_, ih hnext (i + 1)⟩
        rw [mem_blockMismatches hnext, BlockRegistry.keys_block, blockKey_mismatch]
        rintro ⟨hnot, -⟩
        exact hnot (Finset.mem_insert_self _ _)

theorem keys_clearKeys_subset (ks : List String) : (clearKeys calls r ks).keys ⊆ r.keys := by
  induction ks generalizing r with
  | nil => exact Finset.Subset.refl _
  | cons k rest ih =>
      exact Finset.Subset.trans ih (BlockRegistry.keys_clear_subset r _ _ _)

/-- Clearing keeps the blocks of other keys. -/
theorem mem_keys_clearKeys_of_ne {ks : List String} (hsplits : ∀ k ∈ ks, ':' ∈ k.toList)
    (hne : ∀ k ∈ ks, registryKey k ≠ key) (h : key ∈ r.keys) :
    key ∈ (clearKeys calls r ks).keys := by
  induction ks generalizing r with
  | nil => exact h
  | cons k rest ih =>
      rw [List.forall_mem_cons] at hsplits hne
      refine ih hsplits.2 hne.2 ?_
      refine BlockRegistry.mem_keys_clear_of_ne h ?_ _
      rw [blockKey_splitKey hsplits.1]
      exact Ne.symm hne.1

/-- Deletes that reach the server, or are not needed, clear every key. -/
theorem not_mem_keys_clearKeys {ks : List String} (hsplits : ∀ k ∈ ks, ':' ∈ k.toList)
    (hdeletes : r.redis = none ∨ ∀ k ∈ ks, (calls.deletes k).written = true) {k : String}
    (hk : k ∈ ks) : registryKey k ∉ (clearKeys calls r ks).keys := by
  induction ks generalizing r with
  | nil => cases hk
  | cons k' rest ih =>
      rw [List.forall_mem_cons] at hsplits hdeletes
      have hnext : (r.clear (calls.deletes k') (splitKey k').2 (splitKey k').1).redis = none ∨
          ∀ k ∈ rest, (calls.deletes k).written = true :=
        hdeletes.imp BlockRegistry.clear_redis_eq_none.mpr fun h => h.2
      rcases List.mem_cons.mp hk with rfl | hk
      · intro hmem
        have hkept := keys_clearKeys_subset rest hmem
        rw [← blockKey_splitKey hsplits.1] at hkept
        exact BlockRegistry.not_mem_keys_clear (hdeletes.imp_right fun h => h.1) hkept
      · exact ih hsplits.2 hnext hk

theorem clearKeys_redis (ks : List String) :
    (clearKeys calls r ks).redis = none ↔ r.redis = none := by
  induction ks generalizing r with
  | nil => rfl
  | cons k rest ih => rw [clearKeys, ih, BlockRegistry.clear_redis_eq_none]

end Loops

/-! ## What a cycle does to the registry -/

section Cycle

variable {upper : String → String} {a : ReconciliationAgent} {s : Snapshot}
  {startedAt completedAt : ℤ} {calls : BlockCalls} {key : String}

theorem runCycle_mismatches :
    (a.runCycle upper s startedAt completedAt calls).2.mismatches =
      s.mismatches upper startedAt := rfl

theorem runCycle_lastMismatchKeys :
    (a.runCycle upper s startedAt completedAt calls).1.lastMismatchKeys =
      mismatchKeys (s.mismatches upper startedAt) := rfl

theorem runCycle_redis :
    (a.runCycle upper s startedAt completedAt calls).1.blocks.redis = none ↔
      a.blocks.redis = none :=
  (clearKeys_redis _).trans (blockMismatches_redis _ 0)

theorem stale_splits (ks : List String) :
    ∀ key ∈ a.lastMismatchKeys.filter (· ∉ ks), ':' ∈ key.toList := by
  intro key hkey
  exact a.splits key (List.mem_of_mem_filter hkey)

/-- What has a mismatch is blocked after the cycle, whatever the Redis calls do. -/
theorem mem_keys_runCycle {m : ReconciliationMismatch} (hm : m ∈ s.mismatches upper startedAt) :
    registryKey m.key ∈ (a.runCycle upper s startedAt completedAt calls).1.blocks.keys := by
  refine mem_keys_clearKeys_of_ne (stale_splits _) ?_ ?_
  · -- a current key is not stale
    intro k hk heq
    rw [registryKey_inj] at heq
    have hstale := List.of_mem_filter hk
    rw [decide_eq_true_eq, heq, mem_mismatchKeys] at hstale
    exact hstale ⟨m, hm, rfl⟩
  · rw [mem_keys_blockMismatches]
    exact .inr ⟨m, hm, rfl⟩

theorem keys_runCycle
    (h : key ∈ (a.runCycle upper s startedAt completedAt calls).1.blocks.keys) :
    key ∈ a.blocks.keys ∨ ∃ m ∈ s.mismatches upper startedAt, registryKey m.key = key := by
  rw [← mem_keys_blockMismatches]
  exact keys_clearKeys_subset _ h

/-- With deletes that work, a block that is left has a mismatch, or was none of the agent's
last cycle. -/
theorem keys_runCycle_of_deletes
    (hdeletes : a.blocks.redis = none ∨
      ∀ k ∈ a.lastMismatchKeys, (calls.deletes k).written = true)
    (h : key ∈ (a.runCycle upper s startedAt completedAt calls).1.blocks.keys) :
    (key ∈ a.blocks.keys ∧ ∀ k ∈ a.lastMismatchKeys, registryKey k ≠ key) ∨
      ∃ m ∈ s.mismatches upper startedAt, registryKey m.key = key := by
  by_cases hcurrent : ∃ m ∈ s.mismatches upper startedAt, registryKey m.key = key
  · exact .inr hcurrent
  · refine .inl ⟨(keys_runCycle h).resolve_right hcurrent, ?_⟩
    intro k hk heq
    subst heq
    have hstale : k ∈ a.lastMismatchKeys.filter
        (· ∉ mismatchKeys (s.mismatches upper startedAt)) := by
      rw [List.mem_filter, decide_eq_true_eq, mem_mismatchKeys]
      refine ⟨hk, ?_⟩
      rintro ⟨m, hm, rfl⟩
      exact hcurrent ⟨m, hm, rfl⟩
    refine not_mem_keys_clearKeys (stale_splits _) ?_ hstale h
    refine hdeletes.imp (blockMismatches_redis _ 0).mpr ?_
    intro hwritten k' hk'
    exact hwritten k' (List.mem_of_mem_filter hk')

end Cycle

/-! ## What a mismatch names -/

/-- The pair has a mismatch. -/
def Mismatched (ms : List ReconciliationMismatch) (symbol exchange : String) : Prop :=
  ∃ m ∈ ms, m.symbol = symbol ∧ m.exchange = exchange

/-- No exchange name of the snapshot has a colon. -/
structure Snapshot.ColonFree (s : Snapshot) : Prop where
  brokerPositions : ∀ p ∈ s.brokerPositions, ':' ∉ p.exchange.toList
  brokerOrders : ∀ o ∈ s.brokerOrders, ':' ∉ o.exchange.toList
  internalPositions : ∀ p ∈ s.internalPositions, ':' ∉ p.exchange.toList
  internalOrders : ∀ o ∈ s.internalOrders, ':' ∉ o.exchange.toList

theorem exchange_of_mem_comparePosition {held : Option BrokerPosition} {p : InternalPosition}
    {ts : ℤ} {m : ReconciliationMismatch} (h : m ∈ comparePosition ts held p) :
    m.exchange = p.exchange := by
  cases held with
  | none => grind [comparePosition, InternalPosition.mismatch]
  | some b => grind [comparePosition, InternalPosition.mismatch]

theorem exchange_of_mem_diffPositions {broker : List BrokerPosition}
    {internal : List InternalPosition} {ts : ℤ} {m : ReconciliationMismatch}
    (h : m ∈ diffPositions broker internal ts) :
    (∃ p ∈ broker, m.exchange = p.exchange) ∨ ∃ p ∈ internal, m.exchange = p.exchange := by
  simp only [diffPositions, List.mem_append, List.mem_flatMap, Prod.exists,
    ← Dict.get?_eq_some_iff] at h
  rcases h with ⟨key, p, hp, hm⟩ | ⟨key, p, hp, hm⟩
  · exact .inr ⟨p, (Dict.get?_ofList_eq_some hp).1, exchange_of_mem_comparePosition hm⟩
  · refine .inl ⟨p, (Dict.get?_ofList_eq_some hp).1, ?_⟩
    grind [unexpectedPosition]

theorem exchange_of_mem_diffOrders {upper : String → String} {broker : List BrokerOrder}
    {internal : List InternalOrder} {ts : ℤ} {m : ReconciliationMismatch}
    (h : m ∈ diffOrders upper broker internal ts) :
    (∃ o ∈ broker, m.exchange = o.exchange) ∨ ∃ o ∈ internal, m.exchange = o.exchange := by
  rcases exists_mem_diffOrders.mp ⟨m, h, rfl, rfl⟩ with
    ⟨coid, i, hi, -, hexchange, -⟩ | ⟨coid, b, hb, -, hexchange, -⟩
  · exact .inr ⟨i, (heldInternal_mem hi).1, hexchange.symm⟩
  · exact .inl ⟨b, (heldBroker_mem hb).1, hexchange.symm⟩

theorem Snapshot.ColonFree.mismatch {upper : String → String} {s : Snapshot} (h : s.ColonFree)
    {startedAt : ℤ} {m : ReconciliationMismatch} (hm : m ∈ s.mismatches upper startedAt) :
    ':' ∉ m.exchange.toList := by
  rcases List.mem_append.mp hm with hm | hm
  · rcases exchange_of_mem_diffPositions hm with ⟨p, hp, heq⟩ | ⟨p, hp, heq⟩
    · exact heq ▸ h.brokerPositions p hp
    · exact heq ▸ h.internalPositions p hp
  · rcases exchange_of_mem_diffOrders hm with ⟨o, ho, heq⟩ | ⟨o, ho, heq⟩
    · exact heq ▸ h.brokerOrders o ho
    · exact heq ▸ h.internalOrders o ho

/-- Without colons, the key of a pair stands for the pair. -/
theorem exists_key_iff {ms : List ReconciliationMismatch}
    (h : ∀ m ∈ ms, ':' ∉ m.exchange.toList) {symbol exchange : String}
    (hexchange : ':' ∉ exchange.toList) :
    (∃ m ∈ ms, m.key = positionKey symbol exchange) ↔ Mismatched ms symbol exchange := by
  constructor
  · rintro ⟨m, hm, hkey⟩
    rcases (joinKey_inj (h m hm) hexchange).mp hkey with ⟨hexchange', hsymbol⟩
    exact ⟨m, hm, hsymbol, hexchange'⟩
  · rintro ⟨m, hm, rfl, rfl⟩
    exact ⟨m, hm, rfl⟩

/-! ## Runs with a registry in memory -/

/-- A call of `run_cycle`: what its fetches return, `none` when one of them raises, its two
readings of the clock and what its Redis calls do. -/
structure Cycle where
  fetched : Option Snapshot
  startedAt : ℤ := 0
  completedAt : ℤ := 0
  calls : BlockCalls := {}

/-- The agent, one cycle at a time. It replies with the result of a completed cycle. -/
def agentMachine (upper : String → String) :
    Machine ReconciliationAgent Cycle (Option ReconciliationResult) where
  step a c :=
    match c.fetched with
    | none => (a, none)
    | some s =>
        let done := a.runCycle upper s c.startedAt c.completedAt c.calls
        (done.1, some done.2)

/-- The mismatches of the last completed cycle. -/
def lastFound (ts : List (Trans ReconciliationAgent Cycle (Option ReconciliationResult))) :
    List ReconciliationMismatch :=
  ((ts.filterMap (·.reply)).getLast?.map (·.mismatches)).getD []

section Runs

variable {upper : String → String} {a : ReconciliationAgent} {c : Cycle}
  {res : ReconciliationResult}

/-- A completed cycle. -/
theorem exists_of_reply (h : (agentMachine upper).reply a c = some res) :
    ∃ s, c.fetched = some s ∧
      (agentMachine upper).next a c =
        (a.runCycle upper s c.startedAt c.completedAt c.calls).1 ∧
      res = (a.runCycle upper s c.startedAt c.completedAt c.calls).2 := by
  simp only [Machine.reply, Machine.next, agentMachine] at h ⊢
  cases hfetched : c.fetched with
  | none => simp [hfetched] at h
  | some s =>
      simp only [hfetched, Option.some.injEq] at h
      exact ⟨s, rfl, rfl, h.symm⟩

/-- A cycle that was cut off by its fetches changes nothing. -/
theorem next_of_reply_none (h : (agentMachine upper).reply a c = none) :
    (agentMachine upper).next a c = a := by
  simp only [Machine.reply, Machine.next, agentMachine] at h ⊢
  cases hfetched : c.fetched with
  | none => rfl
  | some s => simp [hfetched] at h

/-- The blocks are in memory, and are those of the last mismatch keys. -/
structure Exact (a : ReconciliationAgent) : Prop where
  inMemory : a.blocks.redis = none
  keys : ∀ key, key ∈ a.blocks.keys ↔ ∃ k ∈ a.lastMismatchKeys, registryKey k = key
  nodup : a.lastMismatchKeys.Nodup

theorem exact_new (ttl : Option ℕ) :
    Exact (ReconciliationAgent.new { redis := none, ttl := ttl }) where
  inMemory := rfl
  keys := by simp [ReconciliationAgent.new, BlockRegistry.keys]
  nodup := List.nodup_nil

theorem exact_runCycle (h : Exact a) (s : Snapshot) (startedAt completedAt : ℤ)
    (calls : BlockCalls) : Exact (a.runCycle upper s startedAt completedAt calls).1 where
  inMemory := runCycle_redis.mpr h.inMemory
  keys := by
    intro key
    rw [runCycle_lastMismatchKeys]
    constructor
    · intro hkey
      rcases keys_runCycle_of_deletes (.inl h.inMemory) hkey with ⟨hold, hnot⟩ | ⟨m, hm, rfl⟩
      · -- an old block is one of the last keys
        rcases (h.keys key).mp hold with ⟨k, hk, heq⟩
        exact absurd heq (hnot k hk)
      · exact ⟨m.key, mem_mismatchKeys.mpr ⟨m, hm, rfl⟩, rfl⟩
    · rintro ⟨k, hk, rfl⟩
      rcases mem_mismatchKeys.mp hk with ⟨m, hm, rfl⟩
      exact mem_keys_runCycle hm
  nodup := List.nodup_dedup _

theorem exact_next (h : Exact a) (c : Cycle) : Exact ((agentMachine upper).next a c) := by
  cases hreply : (agentMachine upper).reply a c with
  | none =>
      rw [next_of_reply_none hreply]
      exact h
  | some res =>
      rcases exists_of_reply hreply with ⟨s, -, hnext, -⟩
      rw [hnext]
      exact exact_runCycle h s _ _ _

theorem exact_run (ttl : Option ℕ) (cycles : List Cycle) :
    Exact ((agentMachine upper).run (.new { redis := none, ttl := ttl }) cycles) := by
  apply Machine.run_invariant
  · intro b c hb
    exact exact_next hb c
  · exact exact_new ttl

/-- The agent's memory is that of the last completed cycle. -/
theorem run_lastMismatchKeys (upper : String → String) (blocks : BlockRegistry)
    (cycles : List Cycle) :
    ((agentMachine upper).run (.new blocks) cycles).lastMismatchKeys =
      mismatchKeys (lastFound ((agentMachine upper).trans (.new blocks) cycles)) := by
  induction cycles using List.reverseRecOn with
  | nil => rfl
  | append_singleton cycles c ih =>
      rw [Machine.run_append, Machine.trans_append]
      generalize (agentMachine upper).run (.new blocks) cycles = b at ih
      change ((agentMachine upper).next b c).lastMismatchKeys =
        mismatchKeys (lastFound (_ ++ [(agentMachine upper).fire b c]))
      cases hreply : (agentMachine upper).reply b c with
      | none =>
          rw [next_of_reply_none hreply, ih]
          simp [lastFound, Machine.fire, hreply]
      | some res =>
          rcases exists_of_reply hreply with ⟨s, -, hnext, rfl⟩
          rw [hnext, runCycle_lastMismatchKeys]
          simp [lastFound, Machine.fire, hreply, runCycle_mismatches]

/-- The mismatches found so far name exchanges without a colon. -/
theorem colonFree_lastFound {cycles : List Cycle}
    (h : ∀ c ∈ cycles, ∀ s, c.fetched = some s → s.ColonFree) (a : ReconciliationAgent) :
    ∀ m ∈ lastFound ((agentMachine upper).trans a cycles), ':' ∉ m.exchange.toList := by
  intro m hm
  cases hlast : (((agentMachine upper).trans a cycles).filterMap (·.reply)).getLast? with
  | none => simp [lastFound, hlast] at hm
  | some res =>
      rcases List.mem_filterMap.mp (List.mem_of_getLast? hlast) with ⟨t, ht, hreply⟩
      have hop := (agentMachine upper).trans_forall_op
        (P := fun c => ∀ s, c.fetched = some s → s.ColonFree) h t ht
      rw [(agentMachine upper).trans_fire ht] at hreply
      rcases exists_of_reply hreply with ⟨s, hs, -, rfl⟩
      simp only [lastFound, hlast, Option.map_some, Option.getD_some] at hm
      exact (hop s hs).mismatch hm

section Reports

variable {s : Snapshot} {startedAt completedAt : ℤ} {calls : BlockCalls}
  {found : List ReconciliationMismatch} {key : String}

/-- After a cycle, exactly the pairs with a mismatch are blocked. -/
theorem isBlocked_runCycle (h : Exact a) (hs : s.ColonFree) {getRaises : Bool}
    {symbol exchange : String} (hexchange : ':' ∉ exchange.toList) :
    (a.runCycle upper s startedAt completedAt calls).1.blocks.isBlocked getRaises symbol
        exchange = true ↔
      Mismatched (s.mismatches upper startedAt) symbol exchange := by
  have hpost : Exact (a.runCycle upper s startedAt completedAt calls).1 :=
    exact_runCycle h s startedAt completedAt calls
  rw [BlockRegistry.isBlocked_iff (.inl hpost.inMemory), blockKey_eq, hpost.keys,
    runCycle_lastMismatchKeys, ← exists_key_iff (fun m hm => hs.mismatch hm) hexchange]
  simp only [registryKey_inj, exists_eq_right, mem_mismatchKeys]

/-- A pair stands for its key on both sides of a cycle. -/
theorem exists_pair_iff {ms ms' : List ReconciliationMismatch}
    (h : ∀ m ∈ ms, ':' ∉ m.exchange.toList) (h' : ∀ m ∈ ms', ':' ∉ m.exchange.toList) :
    (key ∉ mismatchKeys ms' ∧ ∃ m ∈ ms, m.key = key) ↔
      ∃ symbol exchange, positionKey symbol exchange = key ∧ Mismatched ms symbol exchange ∧
        ¬ Mismatched ms' symbol exchange := by
  constructor
  · rintro ⟨hnot, m, hm, rfl⟩
    refine ⟨m.symbol, m.exchange, rfl, ⟨m, hm, rfl, rfl⟩, ?_⟩
    rw [← exists_key_iff h' (h m hm), ← mem_mismatchKeys]
    exact hnot
  · rintro ⟨symbol, exchange, rfl, ⟨m, hm, rfl, rfl⟩, hnot⟩
    rw [← exists_key_iff h' (h m hm), ← mem_mismatchKeys] at hnot
    exact ⟨hnot, m, hm, rfl⟩

theorem mem_symbolsBlocked (h : Exact a) (hlast : a.lastMismatchKeys = mismatchKeys found) :
    key ∈ (a.runCycle upper s startedAt completedAt calls).2.symbolsBlocked ↔
      key ∉ mismatchKeys found ∧ ∃ m ∈ s.mismatches upper startedAt, m.key = key := by
  refine (mem_blockMismatches h.inMemory _ 0).trans ?_
  rw [h.keys, hlast]
  simp only [registryKey_inj, exists_eq_right]

theorem mem_symbolsCleared (hlast : a.lastMismatchKeys = mismatchKeys found) :
    key ∈ (a.runCycle upper s startedAt completedAt calls).2.symbolsCleared ↔
      key ∉ mismatchKeys (s.mismatches upper startedAt) ∧ ∃ m ∈ found, m.key = key := by
  refine List.mem_filter.trans ?_
  rw [hlast, decide_eq_true_eq, mem_mismatchKeys, and_comm]

end Reports

end Runs

/-- The block lifecycle. In any run with exchange names without a colon, after every completed
cycle exactly the pairs with a mismatch are blocked, and the cycle reports as blocked the pairs
that are newly mismatched and as cleared those that no longer are. -/
theorem block_lifecycle (upper : String → String) (ttl : Option ℕ) (cycles : List Cycle)
    (hnames : ∀ c ∈ cycles, ∀ s, c.fetched = some s → s.ColonFree)
    (before after : List (Trans ReconciliationAgent Cycle (Option ReconciliationResult)))
    (t : Trans ReconciliationAgent Cycle (Option ReconciliationResult))
    (res : ReconciliationResult)
    (hrun : (agentMachine upper).trans (.new { redis := none, ttl := ttl }) cycles =
      before ++ t :: after)
    (hres : t.reply = some res) :
    (∀ getRaises symbol exchange, ':' ∉ exchange.toList →
      (t.post.blocks.isBlocked getRaises symbol exchange = true ↔
        Mismatched res.mismatches symbol exchange)) ∧
    (res.symbolsBlocked.Nodup ∧ ∀ key, key ∈ res.symbolsBlocked ↔
      ∃ symbol exchange, positionKey symbol exchange = key ∧
        Mismatched res.mismatches symbol exchange ∧
        ¬ Mismatched (lastFound before) symbol exchange) ∧
    (res.symbolsCleared.Nodup ∧ ∀ key, key ∈ res.symbolsCleared ↔
      ∃ symbol exchange, positionKey symbol exchange = key ∧
        Mismatched (lastFound before) symbol exchange ∧
        ¬ Mismatched res.mismatches symbol exchange) := by
  rcases (agentMachine upper).trans_eq_append_cons hrun with ⟨cs₁, c, cs₂, rfl, rfl, rfl, -⟩
  have hpre : Exact ((agentMachine upper).run (.new { redis := none, ttl := ttl }) cs₁) :=
    exact_run ttl cs₁
  have hlast := run_lastMismatchKeys upper { redis := none, ttl := ttl } cs₁
  have hfound : ∀ m ∈ lastFound ((agentMachine upper).trans (.new { redis := none, ttl := ttl })
      cs₁), ':' ∉ m.exchange.toList := by
    refine colonFree_lastFound ?_ _
    intro c' hc'
    exact hnames c' (List.mem_append_left _ hc')
  rcases exists_of_reply hres with ⟨s, hs, hnext, rfl⟩
  have hfree : s.ColonFree := hnames c (by simp) s hs
  have hnow : ∀ m ∈ s.mismatches upper c.startedAt, ':' ∉ m.exchange.toList :=
    fun m hm => hfree.mismatch hm
  refine ⟨?_, ⟨?_, ?_⟩, ?_, ?_⟩
  · intro getRaises symbol exchange hexchange
    change ((agentMachine upper).next _ c).blocks.isBlocked getRaises symbol exchange = true ↔ _
    rw [hnext]
    exact isBlocked_runCycle hpre hfree hexchange
  · exact nodup_blockMismatches hpre.inMemory _ 0
  · intro key
    exact (mem_symbolsBlocked hpre hlast).trans (exists_pair_iff hnow hfound)
  · exact hpre.nodup.filter _
  · intro key
    exact (mem_symbolsCleared hlast).trans (exists_pair_iff hfound hnow)

/-- The broker holds 5 shares where the system knows of 10. -/
def driftCycle : Cycle :=
  { fetched := some
      { brokerPositions :=
          [{ symbol := "INFY", exchange := "NSE", quantity := 5, avgPrice := 1800 }]
        internalPositions :=
          [{ symbol := "INFY", exchange := "NSE", quantity := 10, avgPrice := 1800 }] } }

/-- Both sides hold nothing. -/
def flatCycle : Cycle := { fetched := some {} }

/-- A drift that was blocked is cleared by the next cycle without it. -/
theorem block_lifecycle_drift :
    let a := (agentMachine id).next (.new { redis := none }) driftCycle
    let done := a.runCycle id {} 0 0 {}
    done.2.symbolsCleared = ["NSE:INFY"] ∧ "NSE:INFY" ∈ done.2.symbolsCleared ∧
      ¬ done.1.blocks.isBlocked false "INFY" "NSE" = true := by
  have hnames : ∀ c ∈ [driftCycle, flatCycle], ∀ s, c.fetched = some s → s.ColonFree := by
    intro c hc s hs
    simp only [List.mem_cons, List.not_mem_nil, or_false] at hc
    rcases hc with rfl | rfl
    · cases hs
      constructor <;> simp
    · cases hs
      constructor <;> simp
  have h := block_lifecycle id none [driftCycle, flatCycle] hnames
    [(agentMachine id).fire (.new { redis := none }) driftCycle] []
    ((agentMachine id).fire ((agentMachine id).next (.new { redis := none }) driftCycle) flatCycle)
    _ rfl rfl
  have hbefore : Mismatched (lastFound
      [(agentMachine id).fire (.new { redis := none }) driftCycle]) "INFY" "NSE" := by
    rw [Mismatched]
    decide +kernel
  have hgone : ¬ Mismatched [] "INFY" "NSE" := by
    rw [Mismatched]
    decide
  refine ⟨by decide +kernel, ?_, ?_⟩
  · exact (h.2.2.2 "NSE:INFY").mpr ⟨"INFY", "NSE", rfl, hbefore, hgone⟩
  · intro hblocked
    exact hgone ((h.1 false "INFY" "NSE" (by decide)).mp hblocked)

end Intraday.Reconciliation
