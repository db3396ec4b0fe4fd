import Mathlib.Data.Finset.Basic
import Intraday.Compliance.KillSwitch
import Intraday.Reconciliation.Differ

/-!
# Intraday.Reconciliation.BlockRegistry — `shared/reconciliation/block_registry.py`

A block is a key in Redis or, when the write raised or there is no client, in memory. A block
that went to Redis is not kept in memory, so that a read that raises does not see it.
-/

namespace Intraday.Reconciliation

open Intraday.Core Intraday.Lib
open Intraday.Compliance (SetOutcome)

/-! ## Keys -/

/-- The Redis key of an `exchange:symbol` key. -/
def registryKey (key : String) : String := reconciliationBlockedRedisKeyPrefix ++ ":" ++ key

/-- `_block_key`. -/
def blockKey (symbol exchange : String) : String :=
  reconciliationBlockedRedisKeyPrefix ++ ":" ++ exchange ++ ":" ++ symbol

theorem blockKey_eq (symbol exchange : String) :
    blockKey symbol exchange = registryKey (positionKey symbol exchange) := by
  simp only [blockKey, registryKey, positionKey, joinKey, String.append_assoc]

theorem registryKey_inj {key key' : String} : registryKey key = registryKey key' ↔ key = key' := by
  constructor
  · intro h
    exact String.append_right_inj _ |>.mp h
  · rintro rfl
    rfl

/-! ## The registry -/

/-- `BlockRegistry`. The client is given by the block keys that its database holds. -/
structure BlockRegistry where
  redis : Option (Finset String)
  ttl : Option ℕ := none
  memory : Finset String := ∅

namespace BlockRegistry

variable {r : BlockRegistry} {symbol exchange key : String}

/-- `block`; `outcome` is what the `set` does. -/
def block (r : BlockRegistry) (outcome : SetOutcome) (symbol exchange : String) :
    BlockRegistry :=
  let key := blockKey symbol exchange
  match r.redis with
  | none => { r with memory := insert key r.memory }
  | some db =>
      match outcome with
      | .done => { r with redis := some (insert key db) }
      | .raised => { r with memory := insert key r.memory }
      | .raisedAfterWrite =>
          { r with redis := some (insert key db), memory := insert key r.memory }

/-- `clear`; `outcome` is what the `delete` does. -/
def clear (r : BlockRegistry) (outcome : SetOutcome) (symbol exchange : String) :
    BlockRegistry :=
  let key := blockKey symbol exchange
  { r with
    redis := r.redis.map fun db => if outcome.written then db.erase key else db
    memory := r.memory.erase key }

/-- `is_blocked`; `getRaises` when the `get` raises. -/
def isBlocked (r : BlockRegistry) (getRaises : Bool) (symbol exchange : String) : Bool :=
  let key := blockKey symbol exchange
  if key ∈ r.memory then true
  else
    match r.redis with
    | none => false
    | some db => if getRaises then false else decide (key ∈ db)

/-- The keys that are blocked, wherever they are held. -/
def keys (r : BlockRegistry) : Finset String := r.redis.getD ∅ ∪ r.memory

/-- A block is held, whatever the write does. -/
theorem keys_block (r : BlockRegistry) (outcome : SetOutcome) (symbol exchange : String) :
    (r.block outcome symbol exchange).keys = insert (blockKey symbol exchange) r.keys := by
  cases hredis : r.redis with
  | none => simp [keys, block, hredis]
  | some db =>
      cases outcome with
      | done => simp [keys, block, hredis]
      | raised => simp [keys, block, hredis]
      | raisedAfterWrite =>
          simp only [keys, block, hredis, Option.getD_some]
          ext key
          simp only [Finset.mem_union, Finset.mem_insert]
          tauto

theorem keys_clear_subset (r : BlockRegistry) (outcome : SetOutcome) (symbol exchange : String) :
    (r.clear outcome symbol exchange).keys ⊆ r.keys := by
  intro key hkey
  cases hredis : r.redis with
  | none =>
      simp only [keys, clear, hredis, Option.map_none, Option.getD_none, Finset.mem_union,
        Finset.mem_erase] at hkey ⊢
      tauto
  | some db =>
      cases hwritten : outcome.written with
      | false =>
          simp only [keys, clear, hredis, hwritten, Option.map_some, Option.getD_some,
            Finset.mem_union, Finset.mem_erase] at hkey ⊢
          tauto
      | true =>
          simp only [keys, clear, hredis, hwritten, Option.map_some, Option.getD_some,
            Finset.mem_union, Finset.mem_erase, if_true] at hkey ⊢
          tauto

/-- Clearing a key keeps the others. -/
theorem mem_keys_clear_of_ne (h : key ∈ r.keys) (hne : key ≠ blockKey symbol exchange)
    (outcome : SetOutcome) : key ∈ (r.clear outcome symbol exchange).keys := by
  cases hredis : r.redis with
  | none => simpa [keys, clear, hredis, hne] using h
  | some db =>
      cases hwritten : outcome.written with
      | false => simpa [keys, clear, hredis, hwritten, hne] using h
      | true => simpa [keys, clear, hredis, hwritten, hne] using h

/-- A delete that reaches the server, or is not needed, removes the block. -/
theorem not_mem_keys_clear {outcome : SetOutcome} (h : r.redis = none ∨ outcome.written = true) :
    blockKey symbol exchange ∉ (r.clear outcome symbol exchange).keys := by
  cases hredis : r.redis with
  | none => simp [keys, clear, hredis]
  | some db =>
      have hwritten : outcome.written = true := h.resolve_left (by simp [hredis])
      simp [keys, clear, hredis, hwritten]

/-- A read that does not raise sees a block wherever it is held. -/
theorem isBlocked_iff {getRaises : Bool} (h : r.redis = none ∨ getRaises = false) :
    r.isBlocked getRaises symbol exchange = true ↔ blockKey symbol exchange ∈ r.keys := by
  by_cases hmem : blockKey symbol exchange ∈ r.memory
  · simp [isBlocked, keys, hmem]
  · cases hredis : r.redis with
    | none => simp [isBlocked, keys, hredis, hmem]
    | some db =>
        have hread : getRaises = false := h.resolve_left (by simp [hredis])
        simp [isBlocked, keys, hredis, hread, hmem]

theorem mem_keys_of_isBlocked {getRaises : Bool}
    (h : r.isBlocked getRaises symbol exchange = true) : blockKey symbol exchange ∈ r.keys := by
  by_cases hread : r.redis = none ∨ getRaises = false
  · exact (isBlocked_iff hread).mp h
  · -- the read raised: only memory was seen
    rw [not_or, Bool.not_eq_false] at hread
    rw [isBlocked] at h
    split at h
    · exact Finset.mem_union_right _ ‹_›
    · cases hredis : r.redis with
      | none => exact absurd hredis hread.1
      | some db => simp [hredis, hread.2] at h

@[simp] theorem block_redis_eq_none {outcome : SetOutcome} :
    (r.block outcome symbol exchange).redis = none ↔ r.redis = none := by
  cases hredis : r.redis with
  | none => simp [block, hredis]
  | some db => cases outcome <;> simp [block, hredis]

@[simp] theorem clear_redis_eq_none {outcome : SetOutcome} :
    (r.clear outcome symbol exchange).redis = none ↔ r.redis = none := by
  simp [clear]

end BlockRegistry

end Intraday.Reconciliation
