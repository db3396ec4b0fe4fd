import Intraday.Lib.FallbackQueue
import Intraday.Lib.Json
import Intraday.Lib.Machine
import Intraday.Ingestion.Models

/-!
# Intraday.Ingestion.Buffer — `shared/ingestion/buffer.py`

Ticks are queued as JSON texts, in a Redis list or, when there is no client or `rpush` raises, in
memory. A drain takes from memory first. A Redis call succeeds or raises without effect.

A text that was written by `push` decodes to its tick, so the buffer is a queue of ticks
(`drain_ofQueue`), and no tick is lost or drained twice (`buffer_conserves`).

The time of the last drain and the thresholds of `should_flush` are left out.
-/

namespace Intraday.Ingestion

open Intraday.Lib

/-! ## Ticks as JSON -/

/-- `_tick_to_json`. -/
def tickToJson (tick : RawTick) : String :=
  Json.dumps (.obj
    [("symbol", .str tick.symbol),
      ("exchange", .str tick.exchange),
      ("ltp", .float tick.ltp),
      ("volume", .int tick.volume),
      ("timestamp_ms", .int tick.timestampMs)])

/-- What makes `_json_to_tick` raise: a `KeyError` or `ValueError`, which `drain` skips, or any
other exception. -/
inductive DecodeError where
  | skipped
  | other
deriving DecidableEq, Repr

/-- What `float` and `int` make of the JSON values that `push` never writes in their place. -/
structure Conversions where
  toFloat : Json → Except DecodeError PyFloat
  toInt : Json → Except DecodeError ℤ

namespace Conversions

variable (conv : Conversions)

/-- `float(value)`. -/
def float : Json → Except DecodeError PyFloat
  | .float x => .ok x
  | v => conv.toFloat v

/-- `int(value)`. -/
def int : Json → Except DecodeError ℤ
  | .int i => .ok i
  | v => conv.toInt v

end Conversions

/-- `d[key]`. -/
def item (members : List (String × Json)) (key : String) : Except DecodeError Json :=
  match Json.getItem members key with
  | some v => .ok v
  | none => .error .skipped

/-- A name of a tick; one that is no string makes no tick here. -/
def text : Json → Except DecodeError String
  | .str s => .ok s
  | _ => .error .other

/-- `_json_to_tick`. -/
def jsonToTick (conv : Conversions) (raw : String) : Except DecodeError RawTick :=
  match Json.loads raw with
  | none => .error .skipped
  | some (.obj d) => do
      let symbol ← item d "symbol" >>= text
      let exchange ← item d "exchange" >>= text
      let ltp ← item d "ltp" >>= conv.float
      let volume ← item d "volume" >>= conv.int
      let timestampMs ← item d "timestamp_ms" >>= conv.int
      return {
        symbol := symbol, exchange := exchange, ltp := ltp, volume := volume,
        timestampMs := timestampMs }
  | some _ => .error .other

/-- A tick is decoded to itself. -/
theorem jsonToTick_tickToJson (conv : Conversions) (tick : RawTick) :
    jsonToTick conv (tickToJson tick) = .ok tick := by
  rw [jsonToTick, tickToJson, Json.loads_dumps]
  rfl

/-! ## The buffer -/

/-- `TickBuffer`. The client is given by the list that its database holds. -/
structure TickBuffer where
  redis : Option (List String)
  memory : List String
deriving DecidableEq, Repr

/-- Which Redis calls of a drain raise. -/
structure DrainCalls where
  llenRaises : Bool := false
  lrangeRaises : Bool := false
  ltrimRaises : Bool := false

/-- The loop that decodes texts: the ticks, and whether an exception cut it off. -/
def decodeAll (conv : Conversions) : List String → List RawTick × Bool
  | [] => ([], false)
  | raw :: rest =>
      match jsonToTick conv raw with
      | .ok tick => (tick :: (decodeAll conv rest).1, (decodeAll conv rest).2)
      | .error .skipped => decodeAll conv rest
      | .error .other => ([], true)

namespace TickBuffer

/-- `push`. -/
def push (b : TickBuffer) (rpushRaises : Bool) (tick : RawTick) : TickBuffer :=
  let payload := tickToJson tick
  match b.redis with
  | some queue =>
      if rpushRaises then { b with memory := b.memory ++ [payload] }
      else { b with redis := some (queue ++ [payload]) }
  | none => { b with memory := b.memory ++ [payload] }

/-- `pending_count`. -/
def pendingCount (b : TickBuffer) (llenRaises : Bool) : ℕ :=
  let redisCount :=
    match b.redis with
    | some queue => if llenRaises then 0 else queue.length
    | none => 0
  redisCount + b.memory.length

/-- The Redis part of `drain`, for `remaining` ticks: the list after it, and what is decoded. An
exception after the `ltrim` keeps the ticks decoded so far. -/
def drainRedis (conv : Conversions) (queue : List String) (remaining : ℕ) (calls : DrainCalls) :
    List String × List RawTick :=
  if calls.lrangeRaises then (queue, [])
  else
    let raw := queue.take remaining
    if raw ≠ [] ∧ calls.ltrimRaises then (queue, [])
    else (queue.drop raw.length, (decodeAll conv raw).1)

/-- `drain` once its limit is known; `none` when an exception leaves it. -/
def drainUpTo (conv : Conversions) (b : TickBuffer) (limit : ℕ) (calls : DrainCalls) :
    TickBuffer × Option (List RawTick) :=
  let memoryTake := min limit b.memory.length
  let fromMemory := decodeAll conv (b.memory.take memoryTake)
  let trimmed := { b with memory := b.memory.drop memoryTake }
  if fromMemory.2 then (trimmed, none)
  else
    let remaining := limit - fromMemory.1.length
    match b.redis with
    | some queue =>
        if 0 < remaining then
          let fromRedis := drainRedis conv queue remaining calls
          ({ trimmed with redis := some fromRedis.1 }, some (fromMemory.1 ++ fromRedis.2))
        else (trimmed, some fromMemory.1)
    | none => (trimmed, some fromMemory.1)

/-- `drain`. -/
def drain (conv : Conversions) (b : TickBuffer) (n : Option ℕ) (calls : DrainCalls) :
    TickBuffer × Option (List RawTick) :=
  b.drainUpTo conv (n.getD (b.pendingCount calls.llenRaises)) calls

end TickBuffer

/-! ## The buffer as a queue of ticks -/

/-- The buffer that holds a queue of ticks. -/
def TickBuffer.ofQueue (q : FallbackQueue RawTick) : TickBuffer :=
  { redis := (q.map tickToJson).remote
    memory := (q.map tickToJson).fallback }

variable (conv : Conversions)

theorem decodeAll_map (ticks : List RawTick) :
    decodeAll conv (ticks.map tickToJson) = (ticks, false) := by
  induction ticks with
  | nil => rfl
  | cons tick rest ih => simp [decodeAll, jsonToTick_tickToJson, ih]

theorem push_ofQueue (q : FallbackQueue RawTick) (rpushRaises : Bool) (tick : RawTick) :
    (TickBuffer.ofQueue q).push rpushRaises tick = .ofQueue (q.push rpushRaises tick) := by
  rcases q with ⟨remote, fallback⟩
  cases remote with
  | none => simp [TickBuffer.ofQueue, TickBuffer.push, FallbackQueue.push, FallbackQueue.map]
  | some xs =>
      cases rpushRaises <;>
        simp [TickBuffer.ofQueue, TickBuffer.push, FallbackQueue.push, FallbackQueue.map]

theorem drainRedis_map (xs : List RawTick) (remaining : ℕ) (calls : DrainCalls) :
    TickBuffer.drainRedis conv (xs.map tickToJson) remaining calls =
      let taken := if calls.lrangeRaises || calls.ltrimRaises then [] else xs.take remaining
      ((xs.drop taken.length).map tickToJson, taken) := by
  cases hlrange : calls.lrangeRaises with
  | true => simp [TickBuffer.drainRedis, hlrange]
  | false =>
      have htake : (xs.map tickToJson).take remaining = (xs.take remaining).map tickToJson :=
        List.map_take.symm
      simp only [TickBuffer.drainRedis, hlrange, htake, decodeAll_map, List.length_map,
        Bool.false_or, ne_eq, List.map_eq_nil_iff, List.map_drop, Bool.false_eq_true, if_false]
      cases hltrim : calls.ltrimRaises with
      | false => simp
      | true =>
          -- the trim is called only if something was read
          by_cases hnil : xs.take remaining = []
          · simp [hnil]
          · simp [hnil]

/-- A drain takes from the queue. -/
theorem drainUpTo_ofQueue (q : FallbackQueue RawTick) (limit : ℕ) (calls : DrainCalls) :
    (TickBuffer.ofQueue q).drainUpTo conv limit calls =
      let taken := q.take limit (calls.lrangeRaises || calls.ltrimRaises)
      (.ofQueue taken.2, some taken.1) := by
  rcases q with ⟨remote, fallback⟩
  simp only [TickBuffer.ofQueue, FallbackQueue.map, TickBuffer.drainUpTo]
  have htake : (fallback.map tickToJson).take (min limit (fallback.map tickToJson).length) =
      (fallback.take limit).map tickToJson := by
    rw [← List.take_eq_take_min, List.map_take]
  have hdrop : (fallback.map tickToJson).drop (min limit (fallback.map tickToJson).length) =
      (fallback.drop limit).map tickToJson := by
    rw [← List.drop_eq_drop_min, List.map_drop]
  simp only [htake, hdrop, decodeAll_map, Bool.false_eq_true, if_false]
  cases remote with
  | none => simp [FallbackQueue.take, FallbackQueue.fromRemote]
  | some xs =>
      simp only [Option.map_some]
      split
      · simp [drainRedis_map, FallbackQueue.take, FallbackQueue.fromRemote]
      case isFalse hnone =>
          -- memory alone reached the limit
          have hzero : limit - (fallback.take limit).length = 0 := by omega
          simp only [FallbackQueue.take, FallbackQueue.fromRemote, Option.getD_some, hzero,
            List.take_zero, ite_self, List.append_nil, List.length_nil, Option.map_some,
            List.drop_zero]

/-! ## Runs -/

/-- A call of the buffer. -/
inductive BufferOp where
  | push (rpushRaises : Bool) (tick : RawTick)
  | drain (n : Option ℕ) (calls : DrainCalls)

/-- The buffer, one call at a time. It replies with what a call drains, `none` when an exception
leaves the call. -/
def bufferMachine (conv : Conversions) : Machine TickBuffer BufferOp (Option (List RawTick)) where
  step b
    | .push rpushRaises tick => (b.push rpushRaises tick, some [])
    | .drain n calls => b.drain conv n calls

/-- The tick that a call pushes. -/
def BufferOp.pushed : BufferOp → List RawTick
  | .push _ tick => [tick]
  | .drain _ _ => []

/-- The ticks that the calls of a run drain. -/
def drained (ts : List (Trans TickBuffer BufferOp (Option (List RawTick)))) : List RawTick :=
  ts.flatMap fun t => t.reply.getD []

/-- What waits in the buffer are these ticks. -/
def TickBuffer.Holds (b : TickBuffer) (ticks : List RawTick) : Prop :=
  b.redis.getD [] ++ b.memory = ticks.map tickToJson

theorem holds_ofQueue (q : FallbackQueue RawTick) : (TickBuffer.ofQueue q).Holds q.items := by
  rcases q with ⟨remote, fallback⟩
  cases remote with
  | none => simp [TickBuffer.Holds, TickBuffer.ofQueue, FallbackQueue.map, FallbackQueue.items]
  | some xs => simp [TickBuffer.Holds, TickBuffer.ofQueue, FallbackQueue.map, FallbackQueue.items]

/-- One call: the buffer stays a queue of ticks, nothing is lost and a drain keeps to its
limit. -/
theorem next_ofQueue (q : FallbackQueue RawTick) (op : BufferOp) :
    ∃ q' ticks, (bufferMachine conv).next (.ofQueue q) op = .ofQueue q' ∧
      (bufferMachine conv).reply (.ofQueue q) op = some ticks ∧
      (ticks ++ q'.items).Perm (q.items ++ op.pushed) ∧
      ∀ n calls, op = .drain (some n) calls → ticks.length ≤ n := by
  cases op with
  | push rpushRaises tick =>
      refine ⟨q.push rpushRaises tick, [], push_ofQueue q rpushRaises tick, rfl, ?_, ?_⟩
      · exact (q.items_push rpushRaises tick).trans
          (List.perm_append_singleton tick q.items).symm
      · intro n calls hop
        cases hop
  | drain n calls =>
      have hdrain := drainUpTo_ofQueue conv q
        (n.getD ((TickBuffer.ofQueue q).pendingCount calls.llenRaises)) calls
      refine ⟨_, _, congrArg Prod.fst hdrain, congrArg Prod.snd hdrain, ?_, ?_⟩
      · rw [BufferOp.pushed, List.append_nil]
        exact q.items_take _ _
      · intro m calls' hop
        cases hop
        exact q.length_take_le _ _

theorem run_ofQueue (q : FallbackQueue RawTick) (ops : List BufferOp) :
    ∃ q', (bufferMachine conv).run (.ofQueue q) ops = .ofQueue q' ∧
      (drained ((bufferMachine conv).trans (.ofQueue q) ops) ++ q'.items).Perm
        (q.items ++ ops.flatMap BufferOp.pushed) := by
  induction ops generalizing q with
  | nil => exact ⟨q, rfl, by simp [drained]⟩
  | cons op ops ih =>
      rcases next_ofQueue conv q op with ⟨q', ticks, hnext, hreply, hperm, -⟩
      rcases ih q' with ⟨q'', hrun, hrest⟩
      refine ⟨q'', by rw [Machine.run, hnext, hrun], ?_⟩
      rw [Machine.trans_cons, hnext]
      calc drained ((bufferMachine conv).fire (.ofQueue q) op ::
            (bufferMachine conv).trans (.ofQueue q') ops) ++ q''.items
          = ticks ++ (drained ((bufferMachine conv).trans (.ofQueue q') ops) ++ q''.items) := by
            simp [drained, Machine.fire, hreply]
        List.Perm _ (ticks ++ (q'.items ++ ops.flatMap BufferOp.pushed)) := hrest.append_left ticks
        _ = ticks ++ q'.items ++ ops.flatMap BufferOp.pushed := by rw [List.append_assoc]
        List.Perm _ (q.items ++ op.pushed ++ ops.flatMap BufferOp.pushed) := hperm.append_right _
        _ = q.items ++ (op :: ops).flatMap BufferOp.pushed := by
            rw [List.flatMap_cons, List.append_assoc]

/-- Along a run the buffer is a queue of ticks. -/
theorem trans_ofQueue (q : FallbackQueue RawTick) (ops : List BufferOp) :
    ∀ t ∈ (bufferMachine conv).trans (.ofQueue q) ops,
      ∃ q', t = (bufferMachine conv).fire (.ofQueue q') t.op := by
  induction ops generalizing q with
  | nil => simp
  | cons op ops ih =>
      rcases next_ofQueue conv q op with ⟨q', ticks, hnext, -⟩
      rw [Machine.trans_cons, List.forall_mem_cons, hnext]
      exact ⟨⟨q, rfl⟩, ih q'⟩

/-- A new buffer, with or without a client. -/
def TickBuffer.new (client : Bool) : TickBuffer :=
  { redis := if client then some [] else none, memory := [] }

/-- Conservation: whichever Redis calls raise, the ticks drained and the ticks that still wait
are the ticks pushed; every drain returns, with at most as many ticks as asked for; and a
tick is decoded to itself. -/
theorem buffer_conserves (conv : Conversions) (client : Bool) (ops : List BufferOp) :
    (∃ pending, ((bufferMachine conv).run (.new client) ops).Holds pending ∧
      (drained ((bufferMachine conv).trans (.new client) ops) ++ pending).Perm
        (ops.flatMap BufferOp.pushed)) ∧
    (∀ t ∈ (bufferMachine conv).trans (.new client) ops, ∃ ticks, t.reply = some ticks ∧
      ∀ n calls, t.op = .drain (some n) calls → ticks.length ≤ n) ∧
    ∀ tick, jsonToTick conv (tickToJson tick) = .ok tick := by
  have hnew : TickBuffer.new client =
      .ofQueue { remote := if client then some [] else none, fallback := [] } := by
    cases client <;> rfl
  rw [hnew]
  refine ⟨?_, ?_, jsonToTick_tickToJson conv⟩
  · rcases run_ofQueue conv
      { remote := if client then some [] else none, fallback := [] } ops with ⟨q, hrun, hperm⟩
    refine ⟨q.items, hrun ▸ holds_ofQueue q, hperm.trans (List.Perm.of_eq ?_)⟩
    cases client <;> rfl
  · intro t ht
    rcases trans_ofQueue conv _ ops t ht with ⟨q, hfire⟩
    rcases next_ofQueue conv q t.op with ⟨q', ticks, -, hreply, -, hlimit⟩
    rw [hfire]
    exact ⟨ticks, hreply, hlimit⟩

end Intraday.Ingestion
