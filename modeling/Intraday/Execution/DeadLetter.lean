import Intraday.Compliance.KillSwitch
import Intraday.Execution.Outcome
import Intraday.Lib.Json
import Intraday.Lib.Machine

/-!
# Intraday.Execution.DeadLetter — `shared/execution/dead_letter.py`

The queue of orders that the engine gave up on. It is the last step of a failed submission, and
nothing there catches its own failures: an `rpush` that raises makes `submit` raise. `size` asks
Redis only through a client of the class `redis.Redis` and counts the memory otherwise, and
`peek(0)` returns everything, because `-0` is the start of a list.

* `settled_loop` says, of the broker's answers, when a submission ends in the queue;
* `dead_letter_complete_iff` says exactly in which histories the queue is complete and its
  readers tell the truth.
-/

namespace Intraday.Execution

open Intraday.Core Intraday.Lib Intraday.Lib.Proc Intraday.Lib.Python Intraday.Compliance

/-! ## The queue -/

/-- A client: the lists of its database, and whether it is an instance of `redis.Redis`. -/
structure ListClient where
  lists : String → List String
  isRedis : Bool

/-- `DeadLetterQueue`. -/
structure DeadLetterQueue where
  redis : Option ListClient
  memory : List String

namespace DeadLetterQueue

/-- The payload of an entry. -/
def payload (entry : DeadLetterEntry) : String :=
  Json.dumps (.obj
    [("client_order_id", .str entry.clientOrderId),
      ("symbol", .str entry.symbol),
      ("exchange", .str entry.exchange),
      ("last_error", .str entry.lastError),
      ("attempt_count", .int entry.attemptCount),
      ("enqueued_at_ms", .int entry.enqueuedAtMs),
      ("strategy_tag", .str entry.strategyTag)])

/-- The entry that `peek` makes of a payload. A field of another type than `enqueue` writes
makes no entry here. -/
def decode (raw : String) : Except Exc DeadLetterEntry :=
  match Json.loads raw with
  | some (.obj d) => do
      let clientOrderId ← Json.textItem d "client_order_id"
      let symbol ← Json.textItem d "symbol"
      let exchange ← Json.textItem d "exchange"
      let lastError ← Json.textItem d "last_error"
      let attemptCount ← Json.intItem d "attempt_count"
      let enqueuedAtMs ← Json.intItem d "enqueued_at_ms"
      let strategyTag ← Json.textItem d "strategy_tag"
      return {
        clientOrderId := clientOrderId, symbol := symbol, exchange := exchange
        lastError := lastError, attemptCount := attemptCount.toNat
        enqueuedAtMs := enqueuedAtMs, strategyTag := strategyTag }
  | some _ => .error (.typeError "the payload is no object")
  | none => .error (.other "JSONDecodeError")

/-- An entry is decoded to itself. -/
theorem decode_payload (entry : DeadLetterEntry) : decode (payload entry) = .ok entry := by
  rw [decode, payload, Json.loads_dumps]
  rfl

/-- `enqueue`, where `rpush` says what the Redis call does and `error` is the text of what it
raises. -/
def enqueue (q : DeadLetterQueue) (entry : DeadLetterEntry) (rpush : SetOutcome)
    (error : String) : DeadLetterQueue × Except String Unit :=
  match q.redis with
  | some c =>
      let pushed := c.lists dlqRedisKey ++ [payload entry]
      (if rpush.written then
        { q with redis := some { c with lists := Function.update c.lists dlqRedisKey pushed } }
       else q, if rpush = .done then .ok () else .error error)
  | none => ({ q with memory := q.memory ++ [payload entry] }, .ok ())

/-- `LRANGE key start -1`, and `l[start:]`. -/
def sliceFrom (l : List String) (start : ℤ) : List String :=
  l.drop (if start < 0 then (l.length + start).toNat else start.toNat)

/-- `peek`. -/
def peek (q : DeadLetterQueue) (count : ℤ) (lrangeRaises : Bool) :
    Except Exc (List DeadLetterEntry) :=
  match q.redis with
  | some c =>
      if lrangeRaises then .error .redisError
      else (sliceFrom (c.lists dlqRedisKey) (-count)).mapM decode
  | none => (sliceFrom q.memory (-count)).mapM decode

/-- `size`. -/
def size (q : DeadLetterQueue) (llenRaises : Bool) : Except Exc ℕ :=
  match q.redis with
  | some c =>
      if c.isRedis then
        if llenRaises then .error .redisError else .ok (c.lists dlqRedisKey).length
      else .ok q.memory.length
  | none => .ok q.memory.length

/-- The payloads that are recorded: in Redis, or in memory without a client. -/
def recorded (q : DeadLetterQueue) : List String :=
  match q.redis with
  | some c => c.lists dlqRedisKey
  | none => q.memory

end DeadLetterQueue

/-! ## Giving up on an order -/

/-- The error that a broker call raised. -/
def brokerError? : Event → Option BrokerError
  | ⟨.placeOrder _, .error err⟩ => some err
  | ⟨.queryOrder _, .error err⟩ => some err
  | _ => none

/-- The errors of a run's broker calls, in order. -/
def brokerErrors (tr : List Event) : List BrokerError := tr.filterMap brokerError?

/-- A permanent rejection. -/
def BrokerError.isPermanent : BrokerError → Bool
  | .permanent _ => true
  | _ => false

/-- A failed attempt that is retried. -/
def BrokerError.isTransient : BrokerError → Bool
  | .transient _ => true
  | _ => false

/-- The broker rejected the order for good, or all attempts failed. -/
def GaveUp (e : ExecutionEngine) (tr : List Event) : Prop :=
  (brokerErrors tr).any BrokerError.isPermanent = true ∨
    0 < e.attempts ∧ (brokerErrors tr).countP BrokerError.isTransient = e.attempts

/-- What is appended to the dead-letter queue by an event. -/
def enqueued? : Event → Option (DeadLetterEntry × Except String Unit)
  | ⟨.enqueue entry, ans⟩ => some (entry, ans)
  | _ => none

/-- The entries of a run, with the queue's answers. -/
def enqueued (tr : List Event) : List (DeadLetterEntry × Except String Unit) :=
  tr.filterMap enqueued?

/-- What a submission makes of the queue's answer: a rejection, or the queue's exception. -/
def Answered (order : OrderIntent) (r : Except String FillReport) : Except String Unit → Prop
  | .ok () => ∃ report, r = .ok report ∧ IsRejection order report
  | .error exc => r = .error exc

/-- How a run of the loop with `left` attempts ends: without the queue, before its attempts are
used up; or with one entry for its order, after a permanent rejection or after all attempts. -/
def Ticket.Settled (t : Ticket) (left : ℕ) (tr : List Event) (r : Except String FillReport) :
    Prop :=
  (enqueued tr = [] ∧ (brokerErrors tr).any BrokerError.isPermanent = false ∧
    (brokerErrors tr).countP BrokerError.isTransient < left) ∨
  ∃ attempt lastError ms ans, enqueued tr = [(t.entry attempt lastError ms, ans)] ∧
    ((brokerErrors tr).any BrokerError.isPermanent = true ∨
      (brokerErrors tr).countP BrokerError.isTransient = left) ∧ Answered t.order r ans

section Settling

variable {t : Ticket} {left attempt : ℕ} {tr : List Event} {r : Except String FillReport}

theorem Ticket.settled_deadLetter {lastError : String}
    (h : Exec (t.deadLetter attempt lastError) tr r) :
    ∃ ms ans, enqueued tr = [(t.entry attempt lastError ms, ans)] ∧ brokerErrors tr = [] ∧
      Answered t.order r ans := by
  rcases exec_call_iff.mp h with ⟨ms, tr₁, rfl, h₁⟩
  rcases exec_call_iff.mp h₁ with ⟨ans, tr₂, rfl, h₂⟩
  refine ⟨ms, ans, ?_⟩
  cases ans with
  | error exc =>
      rcases exec_ret_iff.mp h₂ with ⟨rfl, rfl⟩
      exact ⟨rfl, rfl, rfl⟩
  | ok u =>
      rcases exec_makeRejectedFill h₂ with ⟨ms', report, rfl, rfl, hrej⟩
      exact ⟨rfl, rfl, report, rfl, hrej⟩

/-- An event that is neither a broker's error nor an entry changes nothing. -/
theorem Ticket.Settled.cons {ev : Event} (herr : brokerError? ev = none)
    (hent : enqueued? ev = none) (h : t.Settled left tr r) : t.Settled left (ev :: tr) r := by
  rw [Ticket.Settled, brokerErrors, enqueued, List.filterMap_cons_none herr,
    List.filterMap_cons_none hent]
  exact h

/-- A failed attempt uses up one attempt. -/
theorem Ticket.Settled.cons_transient {ev : Event} {exc : String}
    (herr : brokerError? ev = some (.transient exc)) (hent : enqueued? ev = none)
    (h : t.Settled left tr r) : t.Settled (left + 1) (ev :: tr) r := by
  have herrors : brokerErrors (ev :: tr) = .transient exc :: brokerErrors tr :=
    List.filterMap_cons_some herr
  have hentries : enqueued (ev :: tr) = enqueued tr := List.filterMap_cons_none hent
  have hany : (brokerErrors (ev :: tr)).any BrokerError.isPermanent =
      (brokerErrors tr).any BrokerError.isPermanent := by
    rw [herrors]
    rfl
  have hcount : (brokerErrors (ev :: tr)).countP BrokerError.isTransient =
      (brokerErrors tr).countP BrokerError.isTransient + 1 := by
    rw [herrors]
    exact List.countP_cons_of_pos rfl
  rw [Ticket.Settled, hany, hcount, hentries]
  rcases h with ⟨hnone, hperm, hlt⟩ | ⟨attempt, lastError, ms, ans, hone, hgave, hans⟩
  · exact .inl ⟨hnone, hperm, by omega⟩
  · refine .inr ⟨attempt, lastError, ms, ans, hone, ?_, hans⟩
    rcases hgave with hperm | hall
    · exact .inl hperm
    · exact .inr (by omega)

/-- The `except` clauses, after a broker call that raised. -/
theorem Ticket.settled_onError {ev : Event} {err : BrokerError} {retry : String → Program}
    (herr : brokerError? ev = some err) (hent : enqueued? ev = none)
    (hretry : ∀ exc tr r, Exec (retry exc) tr r → t.Settled left tr r)
    (h : Exec (t.onError left attempt retry err) tr r) : t.Settled (left + 1) (ev :: tr) r := by
  cases err with
  | permanent exc =>
      rcases settled_deadLetter h with ⟨ms, ans, hone, hnone, hans⟩
      refine .inr ⟨attempt, exc, ms, ans, ?_, .inl ?_, hans⟩
      · rw [enqueued, List.filterMap_cons_none hent]
        exact hone
      · rw [brokerErrors, List.filterMap_cons_some herr]
        rfl
  | transient exc =>
      refine Settled.cons_transient herr hent ?_
      rw [Ticket.onError] at h
      split at h
      · -- the last attempt goes on without a pause
        exact hretry exc tr r h
      · rcases exec_call_iff.mp h with ⟨jitter, tr₁, rfl, h₁⟩
        rcases exec_call_iff.mp h₁ with ⟨u, tr₂, rfl, h₂⟩
        exact ((hretry exc tr₂ r h₂).cons rfl rfl).cons rfl rfl
  | other exc =>
      rcases exec_ret_iff.mp h with ⟨rfl, rfl⟩
      have herrors : brokerErrors [ev] = [.other exc] := by
        rw [brokerErrors, List.filterMap_cons_some herr]
        rfl
      refine .inl ⟨?_, ?_, ?_⟩
      · rw [enqueued, List.filterMap_cons_none hent]
        rfl
      · rw [herrors]
        rfl
      · rw [herrors]
        exact Nat.succ_pos left

/-- A report of the broker's ends the loop before its attempts are used up. -/
theorem Ticket.settled_reported {ev : Event} (herr : brokerError? ev = none)
    (hent : enqueued? ev = none) : t.Settled (left + 1) [ev] r := by
  refine .inl ⟨?_, ?_, ?_⟩
  · rw [enqueued, List.filterMap_cons_none hent]
    rfl
  · rw [brokerErrors, List.filterMap_cons_none herr]
    rfl
  · rw [brokerErrors, List.filterMap_cons_none herr]
    exact Nat.succ_pos left

theorem Ticket.settled_place {retry : String → Program}
    (hretry : ∀ exc tr r, Exec (retry exc) tr r → t.Settled left tr r)
    (h : Exec (t.place left attempt retry) tr r) : t.Settled (left + 1) tr r := by
  rcases exec_call_iff.mp h with ⟨res, tr', rfl, h'⟩
  cases res with
  | ok fill =>
      rcases exec_ret_iff.mp h' with ⟨rfl, rfl⟩
      exact settled_reported rfl rfl
  | error err => exact settled_onError rfl rfl hretry h'

/-- Every run of the loop ends in one of the two ways. -/
theorem Ticket.settled_loop {lastError : String}
    (h : Exec (t.attemptLoop left attempt lastError) tr r) : t.Settled left tr r := by
  induction left generalizing attempt lastError tr r with
  | zero =>
      rcases settled_deadLetter h with ⟨ms, ans, hone, hnone, hans⟩
      refine .inr ⟨attempt, lastError, ms, ans, hone, .inr ?_, hans⟩
      rw [hnone]
      rfl
  | succ left ih =>
      have hretry : ∀ exc tr r,
          Exec (t.attemptLoop left (attempt + 1) exc) tr r → t.Settled left tr r :=
        fun exc tr r hrun => ih hrun
      rw [Ticket.attemptLoop, Ticket.attemptOnce] at h
      split at h
      · -- a retry: the query comes first
        rcases exec_call_iff.mp h with ⟨res, tr', rfl, h'⟩
        cases res with
        | ok found =>
            cases found with
            | none => exact (settled_place hretry h').cons rfl rfl
            | some existing =>
                rcases exec_ret_iff.mp h' with ⟨rfl, rfl⟩
                exact settled_reported rfl rfl
        | error err => exact settled_onError rfl rfl hretry h'
      · exact settled_place hretry h

end Settling

/-! ## A submission that gave up -/

section Submission

variable {e : ExecutionEngine} {order : OrderIntent} {ctx : Context} {tr : List Event}
  {r : Except String FillReport}

theorem brokerErrors_eq_nil (h : ∀ ev ∈ tr, ¬ IsBroker ev.1) : brokerErrors tr = [] := by
  rw [brokerErrors, List.filterMap_eq_nil_iff]
  rintro ⟨c, ans⟩ hev
  have hc := h _ hev
  cases c <;> first | rfl | exact absurd trivial hc

theorem enqueued_eq_nil (h : ∀ ev ∈ tr, ¬ IsEnqueue ev.1) : enqueued tr = [] := by
  rw [enqueued, List.filterMap_eq_nil_iff]
  rintro ⟨c, ans⟩ hev
  have hc := h _ hev
  cases c <;> first | rfl | exact absurd trivial hc

/-- The entry is about the order. -/
def EntryOf (order : OrderIntent) (entry : DeadLetterEntry) : Prop :=
  entry.clientOrderId = order.clientOrderId ∧ entry.symbol = order.symbol ∧
    entry.exchange = order.exchange

/-- A submission that gave up on its order hands exactly one entry to the queue. -/
theorem exec_submit_gaveUp (h : Exec (submit e order ctx) tr r) (hgave : GaveUp e tr) :
    ∃ entry ans, enqueued tr = [(entry, ans)] ∧ EntryOf order entry ∧ Answered order r ans := by
  rcases exec_submit h with ⟨hnone, _⟩ | ⟨nowMs, outcome, auditId, post, _, _, _, rfl, hloop⟩
  · -- no broker call, so no error of the broker's
    have herrors := brokerErrors_eq_nil hnone
    rw [GaveUp, herrors] at hgave
    rcases hgave with hperm | ⟨hpos, hcount⟩
    · cases hperm
    · have hzero : e.attempts = 0 := hcount.symm
      omega
  · have herrors : brokerErrors (front e order ctx nowMs outcome auditId ++ post) =
        brokerErrors post := by
      rw [brokerErrors, List.filterMap_append]
      exact congrArg (· ++ brokerErrors post) (brokerErrors_eq_nil not_isBroker_front)
    have hentries : enqueued (front e order ctx nowMs outcome auditId ++ post) =
        enqueued post := by
      rw [enqueued, List.filterMap_append]
      exact congrArg (· ++ enqueued post) (enqueued_eq_nil not_isEnqueue_front)
    rw [GaveUp, herrors] at hgave
    rw [hentries]
    rcases Ticket.settled_loop hloop with
      ⟨_, hperm, hlt⟩ | ⟨attempt, lastError, ms, ans, hone, _, hans⟩
    · rcases hgave with hperm' | ⟨_, hcount⟩
      · rw [hperm] at hperm'
        cases hperm'
      · omega
    · exact ⟨_, ans, hone, ⟨rfl, rfl, rfl⟩, hans⟩

end Submission

/-! ## Submissions and readers of one queue -/

/-- A call of `submit`. Its `n`-th call to the outside is answered by `answers n`, except for
the calls to the queue. -/
structure Submission where
  engine : ExecutionEngine
  order : OrderIntent
  ctx : Context
  answers : ℕ → (c : Call) → Answer c
  rpush : SetOutcome
  error : String

namespace Submission

/-- The answer to a call, with the calls made so far and the queue as state. -/
def answer (s : Submission) (st : ℕ × DeadLetterQueue) :
    (c : Call) → (ℕ × DeadLetterQueue) × Answer c
  | .enqueue entry =>
      ((st.1 + 1, (st.2.enqueue entry s.rpush s.error).1),
       (st.2.enqueue entry s.rpush s.error).2)
  | c => ((st.1 + 1, st.2), s.answers st.1 c)

/-- The submission, with `q` as its queue. -/
def run (s : Submission) (q : DeadLetterQueue) :
    Served (ℕ × DeadLetterQueue) Call Answer (Except String FillReport) :=
  (submit s.engine s.order s.ctx).serve s.answer (0, q)

/-- The broker attempts of the submission were exhausted, or its order was permanently
rejected. -/
def GivesUp (s : Submission) (q : DeadLetterQueue) : Prop := GaveUp s.engine (s.run q).trace

end Submission

/-- A submission, or a reader of the queue with what its Redis call does. -/
inductive DeadLetterOp where
  | submit (s : Submission)
  | size (llenRaises : Bool)
  | peek (n : ℕ) (lrangeRaises : Bool)

/-- What a call returns. -/
inductive DeadLetterReply where
  | report (r : Except String FillReport)
  | size (n : Except Exc ℕ)
  | entries (l : Except Exc (List DeadLetterEntry))

/-- The queue with its engine and its readers as a machine. -/
def deadLetters : Machine DeadLetterQueue DeadLetterOp DeadLetterReply where
  step q
    | .submit s => ((s.run q).state.2, .report (s.run q).result)
    | .size llenRaises => (q, .size (q.size llenRaises))
    | .peek n lrangeRaises => (q, .entries (q.peek n lrangeRaises))

open DeadLetterQueue (payload)

/-- The queue is complete and its readers tell the truth: a submission that gives up records one
entry for its order and returns a rejection, `size` is the number of entries, and `peek(n)` the
last `n` of them. -/
def Complete (t : Trans DeadLetterQueue DeadLetterOp DeadLetterReply) : Prop :=
  match t.op with
  | .submit s => s.GivesUp t.pre →
      (∃ entry, EntryOf s.order entry ∧ t.post.recorded = t.pre.recorded ++ [payload entry]) ∧
        ∃ report, t.reply = .report (.ok report) ∧ report.status = .rejected
  | .size _ => t.reply = .size (.ok t.pre.recorded.length)
  | .peek n _ => ∃ entries,
      entries.map payload = t.pre.recorded.drop (t.pre.recorded.length - n) ∧
        t.reply = .entries (.ok entries)

/-- The Redis call of the queue works, or there is no client; `size` needs a client of the class
`redis.Redis` unless the queue is empty, and `peek` a positive count unless it is. -/
def QueueWorks (q : DeadLetterQueue) : DeadLetterOp → Prop
  | .submit s => s.GivesUp q → q.redis.isSome = true → s.rpush = .done
  | .size llenRaises => ∀ c, q.redis = some c →
      if c.isRedis then llenRaises = false else q.recorded = []
  | .peek n lrangeRaises => (q.redis.isSome = true → lrangeRaises = false) ∧
      (0 < n ∨ q.recorded = [])

/-! ## What a submission does to the queue -/

namespace DeadLetterQueue

variable {q : DeadLetterQueue}

/-- What is recorded are entries, and with a client none of them is in memory. -/
def Inv (q : DeadLetterQueue) : Prop :=
  (∃ entries : List DeadLetterEntry, q.recorded = entries.map payload) ∧
    (q.redis.isSome = true → q.memory = [])

/-- Everything `enqueue` can do. -/
theorem enqueue_cases (q : DeadLetterQueue) (entry : DeadLetterEntry) (rpush : SetOutcome)
    (error : String) :
    ((q.enqueue entry rpush error).1.recorded = q.recorded ++ [payload entry] ∨
      (q.enqueue entry rpush error).1 = q ∧ q.redis.isSome = true ∧ rpush ≠ .done) ∧
    ((q.redis.isSome = true → q.memory = []) →
      (q.enqueue entry rpush error).1.redis.isSome = true →
        (q.enqueue entry rpush error).1.memory = []) := by
  cases hredis : q.redis with
  | none => simp [enqueue, hredis, recorded]
  | some c =>
      cases rpush <;> simp [enqueue, hredis, recorded, SetOutcome.written]

theorem inv_enqueue (h : q.Inv) (entry : DeadLetterEntry) (rpush : SetOutcome) (error : String) :
    (q.enqueue entry rpush error).1.Inv := by
  rcases h with ⟨⟨entries, hentries⟩, hmemory⟩
  rcases enqueue_cases q entry rpush error with ⟨hrecorded | ⟨hsame, _⟩, hmem⟩
  · refine ⟨⟨entries ++ [entry], ?_⟩, hmem hmemory⟩
    rw [hrecorded, hentries, List.map_append]
    rfl
  · refine ⟨⟨entries, ?_⟩, hmem hmemory⟩
    rw [hsame, hentries]

/-- The queue answers with success exactly if there is no client or its `rpush` works. -/
theorem enqueue_ok_iff (q : DeadLetterQueue) (entry : DeadLetterEntry) (rpush : SetOutcome)
    (error : String) :
    (q.enqueue entry rpush error).2 = .ok () ↔ (q.redis.isSome = true → rpush = .done) := by
  cases hredis : q.redis with
  | none => simp [enqueue, hredis]
  | some c => cases rpush <;> simp [enqueue, hredis]

theorem recorded_enqueue (entry : DeadLetterEntry) {rpush : SetOutcome} (error : String)
    (h : q.redis.isSome = true → rpush = .done) :
    (q.enqueue entry rpush error).1.recorded = q.recorded ++ [payload entry] := by
  rcases (enqueue_cases q entry rpush error).1 with hrecorded | ⟨_, hsome, hfails⟩
  · exact hrecorded
  · exact absurd (h hsome) hfails

end DeadLetterQueue

namespace Submission

variable (s : Submission)

/-- The queue after these entries, which it answered so. -/
def Records : List (DeadLetterEntry × Except String Unit) → DeadLetterQueue →
    DeadLetterQueue → Prop
  | [], q, q' => q' = q
  | (entry, ans) :: rest, q, q' =>
      ans = (q.enqueue entry s.rpush s.error).2 ∧
        Records rest (q.enqueue entry s.rpush s.error).1 q'

/-- A program changes the queue by its entries only. -/
theorem records_serve (p : Program) (st : ℕ × DeadLetterQueue) :
    s.Records (enqueued (p.serve s.answer st).trace) st.2 (p.serve s.answer st).state.2 := by
  induction p generalizing st with
  | ret a => rfl
  | call c k ih =>
      cases c with
      | enqueue entry => exact ⟨rfl, ih _ _⟩
      | _ => exact ih _ _

theorem inv_of_records {l : List (DeadLetterEntry × Except String Unit)} {q q' : DeadLetterQueue}
    (h : s.Records l q q') (hq : q.Inv) : q'.Inv := by
  induction l generalizing q with
  | nil =>
      have hq' : q' = q := h
      rw [hq']
      exact hq
  | cons x rest ih => exact ih h.2 (DeadLetterQueue.inv_enqueue hq x.1 s.rpush s.error)

/-- A submission that gives up makes one entry for its order, and returns what the queue
answers. -/
theorem run_of_givesUp {q : DeadLetterQueue} (h : s.GivesUp q) :
    ∃ entry, EntryOf s.order entry ∧
      (s.run q).state.2 = (q.enqueue entry s.rpush s.error).1 ∧
      Answered s.order (s.run q).result (q.enqueue entry s.rpush s.error).2 := by
  have hexec : Exec (submit s.engine s.order s.ctx) (s.run q).trace (s.run q).result :=
    exec_serve s.answer _ _
  rcases exec_submit_gaveUp hexec h with ⟨entry, ans, hone, hentry, hans⟩
  have hrecords : s.Records (enqueued (s.run q).trace) q (s.run q).state.2 :=
    s.records_serve _ _
  rw [hone] at hrecords
  rcases hrecords with ⟨rfl, hstate⟩
  exact ⟨entry, hentry, hstate, hans⟩

end Submission

/-! ## What the readers return -/

namespace DeadLetterQueue

variable {q : DeadLetterQueue}

theorem mapM_decode (entries : List DeadLetterEntry) :
    (entries.map payload).mapM decode = Except.ok entries := by
  induction entries with
  | nil => rfl
  | cons entry rest ih =>
      rw [List.map_cons, List.mapM_cons, decode_payload, ih]
      rfl

/-- A negative index counts from the end, and zero from the start. -/
theorem sliceFrom_neg (l : List String) (n : ℕ) :
    sliceFrom l (-n) = if n = 0 then l else l.drop (l.length - n) := by
  rw [sliceFrom]
  by_cases hn : n = 0
  · simp [hn]
  · have hneg : -(n : ℤ) < 0 := by omega
    have hdrop : ((l.length : ℤ) + -(n : ℤ)).toNat = l.length - n := by omega
    rw [if_pos hneg, if_neg hn, hdrop]

theorem peek_eq (q : DeadLetterQueue) (n : ℕ) (lrangeRaises : Bool) :
    q.peek n lrangeRaises =
      if q.redis.isSome = true ∧ lrangeRaises = true then .error .redisError
      else (sliceFrom q.recorded (-n)).mapM decode := by
  cases hredis : q.redis with
  | none => simp [peek, hredis, recorded]
  | some c => cases lrangeRaises <;> simp [peek, hredis, recorded]

/-- `peek(n)` returns the last `n` entries exactly if its call works and `n` is positive or
there are none. -/
theorem peek_exact_iff (h : q.Inv) (n : ℕ) (lrangeRaises : Bool) :
    (∃ entries, entries.map payload = q.recorded.drop (q.recorded.length - n) ∧
      q.peek n lrangeRaises = .ok entries) ↔
      (q.redis.isSome = true → lrangeRaises = false) ∧ (0 < n ∨ q.recorded = []) := by
  rcases h with ⟨⟨all, hall⟩, _⟩
  rw [peek_eq, sliceFrom_neg, hall, List.length_map, ← List.map_drop]
  by_cases hraises : q.redis.isSome = true ∧ lrangeRaises = true
  · rw [if_pos hraises]
    constructor
    · rintro ⟨entries, _, hbad⟩
      cases hbad
    · rintro ⟨hworks, _⟩
      rw [hworks hraises.1] at hraises
      cases hraises.2
  · have hworks : q.redis.isSome = true → lrangeRaises = false := by
      intro hsome
      exact Bool.eq_false_iff.mpr fun hr => hraises ⟨hsome, hr⟩
    rw [if_neg hraises]
    by_cases hn : n = 0
    · -- the whole list is returned instead of nothing
      subst hn
      rw [if_pos rfl, mapM_decode, Nat.sub_zero, List.drop_length]
      constructor
      · rintro ⟨entries, hentries, hok⟩
        have hnil : entries = [] := List.map_eq_nil_iff.mp hentries
        have hall' : all = entries := Except.ok.inj hok
        refine ⟨hworks, .inr ?_⟩
        rw [hall', hnil]
        rfl
      · rintro ⟨_, hpos | hnil⟩
        · omega
        · exact ⟨all, hnil, rfl⟩
    · rw [if_neg hn, mapM_decode]
      refine iff_of_true ⟨_, rfl, rfl⟩ ⟨hworks, .inl ?_⟩
      omega

/-- `size` is the number of entries exactly if its client can be asked, or there are none. -/
theorem size_exact_iff (h : q.Inv) (llenRaises : Bool) :
    q.size llenRaises = .ok q.recorded.length ↔
      ∀ c, q.redis = some c → if c.isRedis then llenRaises = false else q.recorded = [] := by
  rcases h with ⟨_, hmemory⟩
  cases hredis : q.redis with
  | none => simp [size, hredis, recorded]
  | some c =>
      have hmem : q.memory = [] := hmemory (by rw [hredis]; rfl)
      cases hclass : c.isRedis with
      | true => cases llenRaises <;> simp [size, hredis, recorded, hclass]
      | false =>
          -- the memory is counted, which is empty
          have hsize : q.size llenRaises = .ok 0 := by
            simp [size, hredis, hclass, hmem]
          rw [hsize]
          constructor
          · intro hok c' hc'
            cases hc'
            rw [hclass]
            exact List.length_eq_zero_iff.mp (Except.ok.inj hok).symm
          · intro hall
            have hnil := hall c rfl
            rw [hclass] at hnil
            rw [show q.recorded = [] from hnil]
            rfl

end DeadLetterQueue

/-! ## Whole histories -/

theorem inv_deadLetters (q : DeadLetterQueue) (op : DeadLetterOp) (h : q.Inv) :
    (deadLetters.next q op).Inv := by
  cases op with
  | submit s => exact s.inv_of_records (s.records_serve _ _) h
  | size llenRaises => exact h
  | peek n lrangeRaises => exact h

theorem complete_iff (q : DeadLetterQueue) (op : DeadLetterOp) (h : q.Inv) :
    Complete (deadLetters.fire q op) ↔ QueueWorks q op := by
  cases op with
  | size llenRaises =>
      rw [QueueWorks, ← DeadLetterQueue.size_exact_iff h]
      constructor
      · intro hreply
        exact DeadLetterReply.size.inj hreply
      · intro hsize
        exact congrArg DeadLetterReply.size hsize
  | peek n lrangeRaises =>
      rw [QueueWorks, ← DeadLetterQueue.peek_exact_iff h]
      refine exists_congr fun entries => and_congr_right fun _ => ?_
      constructor
      · intro hreply
        exact DeadLetterReply.entries.inj hreply
      · intro hpeek
        exact congrArg DeadLetterReply.entries hpeek
  | submit s =>
      constructor
      · intro hcomplete hgives
        -- a report came back, so the one enqueue of the run did not raise
        rcases s.run_of_givesUp hgives with ⟨entry, _, _, hans⟩
        rcases (hcomplete hgives).2 with ⟨report, hreport, _⟩
        have hresult : (s.run q).result = .ok report := DeadLetterReply.report.inj hreport
        refine (DeadLetterQueue.enqueue_ok_iff q entry s.rpush s.error).mp ?_
        cases hq : (q.enqueue entry s.rpush s.error).2 with
        | ok u => rfl
        | error exc =>
            rw [hq] at hans
            have hraised : (s.run q).result = .error exc := hans
            rw [hraised] at hresult
            cases hresult
      · intro hworks hgives
        have hgives : s.GivesUp q := hgives
        have hdone := hworks hgives
        rcases s.run_of_givesUp hgives with ⟨entry, hentry, hstate, hans⟩
        rw [(DeadLetterQueue.enqueue_ok_iff q entry s.rpush s.error).mpr hdone] at hans
        rcases hans with ⟨report, hreport, hrej⟩
        refine ⟨⟨entry, hentry, ?_⟩, report, ?_, hrej.1⟩
        · have hpost : (deadLetters.fire q (.submit s)).post = (s.run q).state.2 := rfl
          rw [hpost, hstate]
          exact DeadLetterQueue.recorded_enqueue entry s.error hdone
        · exact congrArg DeadLetterReply.report hreport

/-- A queue with these entries: in the database of a client, or in memory. -/
def DeadLetterQueue.holding (isRedis : Option Bool) (entries : List DeadLetterEntry) :
    DeadLetterQueue :=
  match isRedis with
  | some isRedis =>
      { redis := some
          { lists := Function.update (fun _ => []) dlqRedisKey (entries.map payload)
            isRedis := isRedis }
        memory := [] }
  | none => { redis := none, memory := entries.map payload }

theorem inv_holding (isRedis : Option Bool) (entries : List DeadLetterEntry) :
    (DeadLetterQueue.holding isRedis entries).Inv := by
  cases isRedis with
  | none => exact ⟨⟨entries, rfl⟩, Bool.noConfusion⟩
  | some isRedis =>
      refine ⟨⟨entries, ?_⟩, fun _ => rfl⟩
      simp [DeadLetterQueue.recorded, DeadLetterQueue.holding]

/-- Whatever submissions and readers share a queue and whichever of its Redis calls fail: in
every call of the history the queue is complete and its readers tell the truth, exactly if the
queue works in every call. -/
theorem dead_letter_complete_iff (isRedis : Option Bool) (entries : List DeadLetterEntry)
    (ops : List DeadLetterOp) :
    (∀ t ∈ deadLetters.trans (.holding isRedis entries) ops, Complete t) ↔
      ∀ t ∈ deadLetters.trans (.holding isRedis entries) ops, QueueWorks t.pre t.op :=
  deadLetters.trans_forall_fire_iff inv_deadLetters complete_iff (inv_holding isRedis entries) ops

/-! ### Three ways to miss -/

/-- The broker refuses every order for good. -/
def refusingAnswers : (c : Call) → Answer c
  | .placeOrder _ => .error (.permanent "margin exceeded")
  | .queryOrder _ => .ok none
  | .timeMs => (0 : ℤ)
  | .newAuditId => "AUD-1"
  | .redisGet _ => .missing
  | .uniform low high => ⟨max low high, le_max_left low high, le_rfl⟩
  | .sleep _ => ()
  | .enqueue _ => .ok ()

/-- A refused submission whose `rpush` fails. -/
def refusedSubmission : Submission where
  engine := .init (.init (fun _ => none) (some true)) false
  order := paperOrder
  ctx := {}
  answers := fun _ => refusingAnswers
  rpush := .raised
  error := "Connection refused"

theorem refusedSubmission_givesUp (q : DeadLetterQueue) : refusedSubmission.GivesUp q := by
  have hcomp : Compliant refusedSubmission.engine paperOrder {} 0 :=
    violationsOf_other (by decide) (by decide)
  have htrace : (refusedSubmission.run q).trace =
      ⟨.timeMs, (0 : ℤ)⟩ :: ⟨.newAuditId, "AUD-1"⟩ ::
        ((route refusedSubmission.engine paperOrder {} 0 "AUD-1").serve refusedSubmission.answer
          (2, q)).trace := rfl
  refine .inl ?_
  rw [htrace, route_of_compliant hcomp]
  rfl

/-- An entry of the queue. -/
def sampleEntry : DeadLetterEntry :=
  { clientOrderId := "ORD-7", symbol := "BHP", exchange := "PAPER", lastError := "read timed out"
    attemptCount := 4, enqueuedAtMs := 0, strategyTag := "ORB" }

/-- The `rpush` of a refused order fails; a client of another class is asked for its size; and
no entries are asked for. -/
theorem dead_letter_misses :
    (¬ ∀ t ∈ deadLetters.trans (.holding (some true) []) [.submit refusedSubmission],
      Complete t) ∧
    (¬ ∀ t ∈ deadLetters.trans (.holding (some false) [sampleEntry]) [.size false], Complete t) ∧
    ¬ ∀ t ∈ deadLetters.trans (.holding none [sampleEntry]) [.peek 0 false], Complete t := by
  refine ⟨?_, ?_, ?_⟩
  · intro h
    have hworks := (complete_iff _ _ (inv_holding _ _)).mp (h _ List.mem_cons_self)
    have hdone := hworks (refusedSubmission_givesUp _) rfl
    cases hdone
  · intro h
    have hworks := (complete_iff _ _ (inv_holding _ _)).mp (h _ List.mem_cons_self)
    have hnil := hworks _ rfl
    cases hnil
  · intro h
    have hworks := (complete_iff _ _ (inv_holding _ _)).mp (h _ List.mem_cons_self)
    rcases hworks.2 with hpos | hnil
    · omega
    · cases hnil

end Intraday.Execution
