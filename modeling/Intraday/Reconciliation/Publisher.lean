import Intraday.Lib.Python
import Intraday.Lib.RedisStore
import Intraday.Reconciliation.Models

/-!
# Intraday.Reconciliation.Publisher — `shared/reconciliation/publisher.py`

Every mismatch of a cycle is appended to the stream `reconciliation:mismatches`, also one that
was there in the cycle before. The stream is trimmed now and then, but never below its 10000
newest entries (`Holds`), and a failing call loses its mismatch and nothing else.

`SerializeToString` is a parameter.
-/

namespace Intraday.Reconciliation

open Intraday.Core Intraday.Lib Intraday.Lib.Python Intraday.Lib.RedisStore

/-- `MismatchField.value`. -/
def MismatchField.value : MismatchField → String
  | .quantity => "quantity"
  | .avgPrice => "avg_price"
  | .orderStatus => "order_status"
  | .positionMissing => "position_missing"
  | .orderMissing => "order_missing"
  | .unexpectedPosition => "unexpected_position"
  | .unexpectedOrder => "unexpected_order"

/-- The message `ReconciliationMismatch`. -/
structure ProtoMismatch where
  symbol : String
  field : String
  internalValue : String
  brokerValue : String
  detectedAtMs : ℤ
deriving DecidableEq, Repr

/-- The message that `publish` fills in. -/
def ReconciliationMismatch.proto (m : ReconciliationMismatch) : ProtoMismatch :=
  { symbol := m.symbol
    field := m.field.value
    internalValue := m.internalValue
    brokerValue := m.brokerValue
    detectedAtMs := m.detectedAtMs }

/-- The fields of the entry. -/
def ReconciliationMismatch.fields (serialize : ProtoMismatch → ByteArray)
    (m : ReconciliationMismatch) : Fields :=
  ((((Dict.empty.set "proto" (serialize m.proto)).set "symbol" m.symbol.toByteArray).set
    "exchange" m.exchange.toByteArray).set "field" m.field.value.toByteArray).set
    "detected_at_ms" (toString m.detectedAtMs).toByteArray

/-- `stream_maxlen`. -/
def streamMaxlen : ℕ := 10000

/-- `MismatchPublisher.publish`: the server, and the id of the entry. The call of `XADD` raises,
or may drop so many old entries. -/
def publish (serialize : ProtoMismatch → ByteArray) (redis : Bool) (xadd : Except Exc ℕ)
    (store : Store) (m : ReconciliationMismatch) : Store × Option EntryId :=
  if !redis then (store, none)
  else
    match xadd with
    | .error _ => (store, none)
    | .ok evicted =>
        (store.xaddMaxlen reconciliationMismatchRedisStream streamMaxlen evicted
          (m.fields serialize),
         some (store.nextId reconciliationMismatchRedisStream))

/-- The calls of `publish` in one cycle: the server, and the mismatches that were published. -/
def publishEach (serialize : ProtoMismatch → ByteArray) (redis : Bool) :
    List (ReconciliationMismatch × Except Exc ℕ) → Store → Store × List ReconciliationMismatch
  | [], store => (store, [])
  | (m, xadd) :: rest, store =>
      let done := publish serialize redis xadd store m
      let others := publishEach serialize redis rest done.1
      (others.1, if done.2.isSome then m :: others.2 else others.2)

/-! ## What the stream holds -/

/-- Of `n` published entries, the stream holds all, or the 10000 newest at least. -/
def Holds (store : Store) (n : ℕ) : Prop :=
  (store.streams reconciliationMismatchRedisStream).length ≤ n ∧
    min streamMaxlen n ≤ (store.streams reconciliationMismatchRedisStream).length

variable {serialize : ProtoMismatch → ByteArray} {redis : Bool} {store : Store} {n : ℕ}

theorem Holds.publish (h : Holds store n) (xadd : Except Exc ℕ) (m : ReconciliationMismatch) :
    Holds (publish serialize redis xadd store m).1
      (n + if (publish serialize redis xadd store m).2.isSome then 1 else 0) := by
  cases redis with
  | false => exact h
  | true =>
      cases xadd with
      | error exc => exact h
      | ok evicted =>
          rcases h with ⟨hle, hge⟩
          simp only [Holds, Reconciliation.publish, Bool.not_true, Bool.false_eq_true, if_false,
            Store.xaddMaxlen, Function.update_self, List.length_drop, List.length_append,
            List.length_singleton, Option.isSome_some, if_true]
          omega

/-- A cycle adds what it published. -/
theorem Holds.publishEach (h : Holds store n)
    (calls : List (ReconciliationMismatch × Except Exc ℕ)) :
    Holds (publishEach serialize redis calls store).1
      (n + (publishEach serialize redis calls store).2.length) := by
  induction calls generalizing store n with
  | nil => exact h
  | cons call rest ih =>
      -- a call that raises does not count, and is not in the stream
      have hrest := ih (@Holds.publish serialize redis store n h call.2 call.1)
      rw [Reconciliation.publishEach]
      dsimp only
      split
      · next hsome =>
          rw [if_pos hsome, Nat.add_assoc, Nat.add_comm 1] at hrest
          exact hrest
      · next hnone =>
          rw [if_neg hnone] at hrest
          exact hrest

/-- What a reader of the newest 100 entries finds. -/
theorem Holds.length_xrevrange (h : Holds store n) :
    (store.xrevrange reconciliationMismatchRedisStream 100).length = min 100 n := by
  rcases h with ⟨hle, hge⟩
  have hmax : streamMaxlen = 10000 := rfl
  rw [Store.xrevrange, List.length_take, List.length_reverse]
  omega

end Intraday.Reconciliation
