import Intraday.Execution.Runs

/-!
# Intraday.Execution.Broker — `BrokerAdapter`, and what a submission does to one

A broker is a state with the two operations the engine calls, under the contract of
`brokers/base.py`. `replay` is the submission loop seen from the broker: the calls it
makes in turn and how it ends. `endsLike_loop` says that every run of the loop
against the broker ends so, and that there is one.
-/

namespace Intraday.Execution

open Intraday.Core Intraday.Lib Intraday.Lib.Proc Intraday.Compliance

/-- Working at the broker, or filled. -/
def OrderStatus.isLive : OrderStatus → Bool
  | .pending => true
  | .placed => true
  | .filled => true
  | .partiallyFilled => true
  | .rejected => false
  | .cancelled => false

/-- Whether a broker record is of a live or filled order. -/
def isLiveRecord (record : Option FillReport) : Bool := record.any (·.status.isLive)

/-- `BrokerAdapter`, with the record it keeps under a client order id, and the contract of
`brokers/base.py`. A call that raises may still have changed the state: `place_order` may
have recorded the order before a transient error. -/
structure Broker (σ : Type) where
  placeOrder : TaggedOrder → σ → Except BrokerError FillReport × σ
  queryOrder : String → σ → Except BrokerError (Option FillReport) × σ
  record : σ → String → Option FillReport
  /-- `place_order` returns the record of the order. -/
  place_truthful : ∀ {tagged s fill s'}, placeOrder tagged s = (.ok fill, s') →
    record s' tagged.original.clientOrderId = some fill
  /-- `query_order`, when it returns, returns the record, or `None` if there is none. -/
  query_truthful : ∀ {id s found s'}, queryOrder id s = (.ok found, s') → record s' id = found
  /-- Asking for an order neither places nor kills it. -/
  query_keeps : ∀ {id s res s'}, queryOrder id s = (res, s') →
    isLiveRecord (record s' id) = isLiveRecord (record s id)
  /-- A permanent error (invalid order, insufficient funds) places nothing. -/
  permanent_keeps : ∀ {tagged s exc s'}, placeOrder tagged s = (.error (.permanent exc), s') →
    isLiveRecord (record s' tagged.original.clientOrderId) =
      isLiveRecord (record s tagged.original.clientOrderId)

namespace Broker

variable {σ : Type} (b : Broker σ)

/-- The broker holds a live or filled order under the id. -/
def Live (s : σ) (id : String) : Prop := isLiveRecord (b.record s id) = true

instance (s : σ) (id : String) : Decidable (b.Live s id) := inferInstanceAs (Decidable (_ = true))

/-- One event of a run, from the broker's side. -/
def Step (s : σ) : Event → σ → Prop
  | ⟨.placeOrder tagged, res⟩, s' => b.placeOrder tagged s = (res, s')
  | ⟨.queryOrder id, res⟩, s' => b.queryOrder id s = (res, s')
  | _, s' => s' = s

/-- The broker calls of a trace are answered by `b`, which moves from `s` to `s'`. -/
def Answers : σ → List Event → σ → Prop
  | s, [], s' => s' = s
  | s, ev :: tr, s' => ∃ s₁, b.Step s ev s₁ ∧ Answers s₁ tr s'

variable {b} {s s' : σ} {tr tr₁ tr₂ : List Event}

theorem answers_append :
    b.Answers s (tr₁ ++ tr₂) s' ↔ ∃ s₁, b.Answers s tr₁ s₁ ∧ b.Answers s₁ tr₂ s' := by
  induction tr₁ generalizing s with
  | nil => simp [Answers]
  | cons ev tr₁ ih =>
      simp only [List.cons_append, Answers, ih]
      constructor
      · rintro ⟨s₁, hstep, s₂, h₁, h₂⟩
        exact ⟨s₂, ⟨s₁, hstep, h₁⟩, h₂⟩
      · rintro ⟨s₂, ⟨s₁, hstep, h₁⟩, h₂⟩
        exact ⟨s₁, hstep, s₂, h₁, h₂⟩

theorem step_of_not_isBroker {ev : Event} (h : ¬ IsBroker ev.1) : b.Step s ev s' ↔ s' = s := by
  rcases ev with ⟨c, res⟩
  cases c <;> first | exact Iff.rfl | exact absurd trivial h

theorem step_placeOrder_iff {tagged : TaggedOrder} {res : Except BrokerError FillReport} :
    b.Step s ⟨.placeOrder tagged, res⟩ s' ↔
      res = (b.placeOrder tagged s).1 ∧ s' = (b.placeOrder tagged s).2 := by
  rw [Broker.Step, eq_comm, Prod.ext_iff]

theorem step_queryOrder_iff {id : String} {res : Except BrokerError (Option FillReport)} :
    b.Step s ⟨.queryOrder id, res⟩ s' ↔
      res = (b.queryOrder id s).1 ∧ s' = (b.queryOrder id s).2 := by
  rw [Broker.Step, eq_comm, Prod.ext_iff]

/-- A trace without broker calls leaves the broker alone. -/
theorem answers_of_not_isBroker (h : ∀ ev ∈ tr, ¬ IsBroker ev.1) :
    b.Answers s tr s' ↔ s' = s := by
  induction tr with
  | nil => exact Iff.rfl
  | cons ev tr ih =>
      rw [List.forall_mem_cons] at h
      simp only [Answers, step_of_not_isBroker h.1, ih h.2, exists_eq_left]

/-- What both operations keep is kept by a whole run. -/
theorem answers_invariant (inv : σ → Prop)
    (hplace : ∀ tagged s, inv s → inv (b.placeOrder tagged s).2)
    (hquery : ∀ id s, inv s → inv (b.queryOrder id s).2) (h : b.Answers s tr s') (hs : inv s) :
    inv s' := by
  induction tr generalizing s with
  | nil =>
      obtain rfl : s' = s := h
      exact hs
  | cons ev tr ih =>
      rcases h with ⟨s₁, hstep, hrest⟩
      refine ih hrest ?_
      rcases ev with ⟨c, res⟩
      -- only two of the calls move the broker
      cases c with
      | placeOrder tagged =>
          have hmove : b.placeOrder tagged s = (res, s₁) := hstep
          simpa [hmove] using hplace tagged s hs
      | queryOrder id =>
          have hmove : b.queryOrder id s = (res, s₁) := hstep
          simpa [hmove] using hquery id s hs
      | _ =>
          obtain rfl : s₁ = s := hstep
          exact hs

end Broker

/-! ## The loop, seen from the broker -/

/-- How the submission loop ends: with a report of the broker, in the dead-letter queue,
or with an exception it does not catch. -/
inductive Ending where
  | reported (fill : FillReport)
  | deadLettered
  | raised
deriving DecidableEq

namespace Ticket

variable {σ : Type} (b : Broker σ) (t : Ticket)

/-- After an error of the broker: `next` is the rest of the loop. -/
def replayError (next : σ → Ending × σ) : BrokerError → σ → Ending × σ
  | .permanent _, s => (.deadLettered, s)
  | .transient _, s => next s
  | .other _, s => (.raised, s)

/-- `place_order` and what follows it. -/
def replayPlace (next : σ → Ending × σ) (s : σ) : Ending × σ :=
  match b.placeOrder t.tagged s with
  | (.ok fill, s') => (.reported fill, s')
  | (.error err, s') => replayError next err s'

/-- The retries, with `left` attempts to go: each one queries first. -/
def replayRetries : ℕ → σ → Ending × σ
  | 0, s => (.deadLettered, s)
  | left + 1, s =>
      match b.queryOrder t.order.clientOrderId s with
      | (.ok (some existing), s') => (.reported existing, s')
      | (.ok none, s') => t.replayPlace b (replayRetries left) s'
      | (.error err, s') => replayError (replayRetries left) err s'

/-- The whole loop: the first attempt places at once. -/
def replay : ℕ → σ → Ending × σ
  | 0, s => (.deadLettered, s)
  | left + 1, s => t.replayPlace b (t.replayRetries b left) s

end Ticket

section Recorded

variable {σ : Type} {b : Broker σ} {t : Ticket} {next : σ → Ending × σ}

/-- A report of the broker is the broker's record. -/
def Ticket.Recorded (b : Broker σ) (t : Ticket) (ending : Ending × σ) : Prop :=
  ∀ fill, ending.1 = .reported fill →
    b.record ending.2 t.tagged.original.clientOrderId = some fill

theorem Ticket.recorded_replayError (hnext : ∀ s, t.Recorded b (next s)) (err : BrokerError)
    (s : σ) : t.Recorded b (replayError next err s) := by
  cases err with
  | permanent exc => exact fun fill h => nomatch h
  | transient exc => exact hnext s
  | other exc => exact fun fill h => nomatch h

theorem Ticket.recorded_replayPlace (hnext : ∀ s, t.Recorded b (next s)) (s : σ) :
    t.Recorded b (t.replayPlace b next s) := by
  rw [replayPlace]
  rcases hp : b.placeOrder t.tagged s with ⟨res, s'⟩
  cases res with
  | ok fill =>
      intro fill' h
      rcases Ending.reported.inj h with rfl
      exact b.place_truthful hp
  | error err => exact recorded_replayError hnext err s'

theorem Ticket.recorded_replayRetries (hid : t.tagged.original = t.order) (left : ℕ) (s : σ) :
    t.Recorded b (t.replayRetries b left s) := by
  induction left generalizing s with
  | zero => exact fun fill h => nomatch h
  | succ left ih =>
      rw [replayRetries, ← hid]
      rcases hq : b.queryOrder t.tagged.original.clientOrderId s with ⟨res, s'⟩
      cases res with
      | error err => exact recorded_replayError ih err s'
      | ok found =>
          cases found with
          | none => exact recorded_replayPlace ih s'
          | some existing =>
              intro fill h
              rcases Ending.reported.inj h with rfl
              exact b.query_truthful hq

theorem Ticket.recorded_replay (hid : t.tagged.original = t.order) (attempts : ℕ) (s : σ) :
    t.Recorded b (t.replay b attempts s) := by
  cases attempts with
  | zero => exact fun fill h => nomatch h
  | succ left => exact recorded_replayPlace (recorded_replayRetries hid left) s

end Recorded

/-- The order went to the dead-letter queue. -/
def DeadLettered (tr : List Event) : Prop := ∃ entry res, (⟨.enqueue entry, res⟩ : Event) ∈ tr

/-- What a run shows of an ending. -/
def Ticket.Shows (t : Ticket) (tr : List Event) (r : Except String FillReport) : Ending → Prop
  | .reported fill => (∃ attempt, r = .ok (finalize fill t.auditId attempt)) ∧ ¬ DeadLettered tr
  | .deadLettered => DeadLettered tr ∧ ∀ report, r = .ok report → IsRejection t.order report
  | .raised => (∃ exc, r = .error exc) ∧ ¬ DeadLettered tr

section Loop

variable {σ : Type} {b : Broker σ} {t : Ticket} {s s' : σ} {tr : List Event}
  {r : Except String FillReport} {left attempt : ℕ}

theorem not_deadLettered_nil : ¬ DeadLettered [] := by
  rintro ⟨entry, res, h⟩
  exact nomatch h

/-- An event that is not the dead-letter step changes nothing in what a run shows. -/
theorem Ticket.shows_cons {ev : Event} (h : ¬ IsEnqueue ev.1) {ending : Ending} :
    t.Shows (ev :: tr) r ending ↔ t.Shows tr r ending := by
  have hdead : DeadLettered (ev :: tr) ↔ DeadLettered tr := by
    constructor
    · rintro ⟨entry, res, hmem⟩
      rcases List.mem_cons.mp hmem with rfl | hmem
      · exact absurd trivial h
      · exact ⟨entry, res, hmem⟩
    · rintro ⟨entry, res, hmem⟩
      exact ⟨entry, res, List.mem_cons_of_mem _ hmem⟩
  cases ending <;> simp only [Ticket.Shows, hdead]

/-- What a program does to the broker, run from `s`: it ends like `ending`. -/
def Ticket.EndsLike (b : Broker σ) (t : Ticket) (p : Program) (s : σ) (ending : Ending × σ) :
    Prop :=
  (∀ tr r s', Exec p tr r → b.Answers s tr s' → s' = ending.2 ∧ t.Shows tr r ending.1) ∧
  ∃ tr r, Exec p tr r ∧ b.Answers s tr ending.2

/-- A returned value shows its ending. -/
theorem Ticket.endsLike_ret {a : Except String FillReport} {ending : Ending}
    (h : t.Shows [] a ending) : t.EndsLike b (.ret a) s (ending, s) := by
  refine ⟨?_, [], a, .ret a, rfl⟩
  intro tr r s' hexec hans
  rcases exec_ret_iff.mp hexec with ⟨rfl, rfl⟩
  exact ⟨hans, h⟩

/-- A call that is neither the broker's nor the dead-letter step can be skipped, whatever
its answer. -/
theorem Ticket.endsLike_call {c : Call} {k : Answer c → Program} {ending : Ending × σ}
    (hbroker : ¬ IsBroker c) (hqueue : ¬ IsEnqueue c) (ans : Answer c)
    (h : ∀ res, t.EndsLike b (k res) s ending) : t.EndsLike b (.call c k) s ending := by
  constructor
  · intro tr r s' hexec hans
    rcases exec_call_iff.mp hexec with ⟨res, tr', rfl, hk⟩
    rcases hans with ⟨s₁, hstep, hrest⟩
    rcases (Broker.step_of_not_isBroker hbroker).mp hstep with rfl
    rcases (h res).1 tr' r s' hk hrest with ⟨hs, hshow⟩
    exact ⟨hs, (Ticket.shows_cons hqueue).mpr hshow⟩
  · rcases (h ans).2 with ⟨tr, r, hk, hans⟩
    exact ⟨⟨c, ans⟩ :: tr, r, .call hk, s, (Broker.step_of_not_isBroker hbroker).mpr rfl, hans⟩

/-- A call to the broker moves the broker. -/
theorem Ticket.endsLike_broker {c : Call} {k : Answer c → Program} {ending : Ending × σ}
    {ans : Answer c} {s₁ : σ} (hqueue : ¬ IsEnqueue c)
    (hstep : ∀ res s', b.Step s ⟨c, res⟩ s' ↔ res = ans ∧ s' = s₁)
    (h : t.EndsLike b (k ans) s₁ ending) : t.EndsLike b (.call c k) s ending := by
  constructor
  · intro tr r s' hexec hans
    rcases exec_call_iff.mp hexec with ⟨res, tr', rfl, hk⟩
    rcases hans with ⟨s₂, hfirst, hrest⟩
    rcases (hstep res s₂).mp hfirst with ⟨rfl, rfl⟩
    rcases h.1 tr' r s' hk hrest with ⟨hs, hshow⟩
    exact ⟨hs, (Ticket.shows_cons hqueue).mpr hshow⟩
  · rcases h.2 with ⟨tr, r, hk, hans⟩
    exact ⟨⟨c, ans⟩ :: tr, r, .call hk, s₁, (hstep ans s₁).mpr ⟨rfl, rfl⟩, hans⟩

/-- The answer of the dead-letter queue does not change that the order is rejected. -/
theorem exec_rejectAll {lastError : String} {res : Except String Unit}
    (h : Exec (t.rejectAll attempt lastError res) tr r) :
    (∀ ev ∈ tr, ¬ IsBroker ev.1) ∧ ∀ report, r = .ok report → IsRejection t.order report := by
  cases res with
  | error exc =>
      rw [Ticket.rejectAll, exec_ret_iff] at h
      rcases h with ⟨rfl, rfl⟩
      exact ⟨by simp, fun report heq => nomatch heq⟩
  | ok u =>
      rcases exec_makeRejectedFill h with ⟨now, report, rfl, rfl, hrej⟩
      refine ⟨by simp [IsBroker], ?_⟩
      intro report' heq
      rcases Except.ok.inj heq with rfl
      exact hrej

theorem Ticket.endsLike_deadLetter (lastError : String) :
    t.EndsLike b (t.deadLetter attempt lastError) s (.deadLettered, s) := by
  refine Ticket.endsLike_call id id (0 : ℤ) fun enqueuedAtMs => ⟨?_, ?_⟩
  · intro tr r s' hexec hans
    rcases exec_call_iff.mp hexec with ⟨res, tr', rfl, hk⟩
    rcases hans with ⟨s₁, hs₁, hrest⟩
    obtain rfl : s₁ = s := hs₁
    rcases exec_rejectAll hk with ⟨hnone, hrej⟩
    exact ⟨(Broker.answers_of_not_isBroker hnone).mp hrest, ⟨_, res, List.mem_cons_self⟩, hrej⟩
  · -- a run exists: let the queue raise
    refine ⟨[⟨.enqueue _, .error "queue down"⟩], _, .call (.ret _), ?_⟩
    exact ⟨s, rfl, rfl⟩

/-- The error handling of the loop follows `replayError`. -/
theorem Ticket.endsLike_onError {retry : String → Program} {next : σ → Ending × σ}
    (hretry : ∀ exc s, t.EndsLike b (retry exc) s (next s)) (err : BrokerError) :
    t.EndsLike b (t.onError left attempt retry err) s (replayError next err s) := by
  cases err with
  | permanent exc => exact endsLike_deadLetter exc
  | transient exc =>
      rw [Ticket.onError]
      split
      · exact hretry exc s
      · -- the back-off: two calls the broker does not see
        refine endsLike_call id id ⟨0, le_rfl, le_max_left _ _⟩ ?_
        intro jitter
        exact endsLike_call id id () fun _ => hretry exc s
  | other exc => exact endsLike_ret ⟨⟨exc, rfl⟩, not_deadLettered_nil⟩

theorem Ticket.endsLike_place {retry : String → Program} {next : σ → Ending × σ}
    (hretry : ∀ exc s, t.EndsLike b (retry exc) s (next s)) :
    t.EndsLike b (t.place left attempt retry) s (t.replayPlace b next s) := by
  refine endsLike_broker id (fun _ _ => Broker.step_placeOrder_iff) ?_
  rcases hres : b.placeOrder t.tagged s with ⟨res, s₁⟩
  rw [replayPlace, hres]
  cases res with
  | ok fill => exact endsLike_ret ⟨⟨attempt, rfl⟩, not_deadLettered_nil⟩
  | error err => exact endsLike_onError hretry err

/-- The retries of the loop follow `replayRetries`. -/
theorem Ticket.endsLike_retries (left attempt : ℕ) (lastError : String) (s : σ) :
    t.EndsLike b (t.attemptLoop left (attempt + 1) lastError) s (t.replayRetries b left s) := by
  induction left generalizing attempt lastError s with
  | zero => exact endsLike_deadLetter lastError
  | succ left ih =>
      have hretry := fun exc s => ih (attempt + 1) exc s
      -- a retry is never the first attempt, so it queries
      rw [Ticket.attemptLoop, Ticket.attemptOnce, if_pos (by omega)]
      refine endsLike_broker id (fun _ _ => Broker.step_queryOrder_iff) ?_
      rcases hres : b.queryOrder t.order.clientOrderId s with ⟨res, s₁⟩
      rw [replayRetries, hres]
      cases res with
      | error err => exact endsLike_onError hretry err
      | ok found =>
          cases found with
          | none => exact endsLike_place hretry
          | some existing => exact endsLike_ret ⟨⟨_, rfl⟩, not_deadLettered_nil⟩

/-- The submission loop follows `replay`. -/
theorem Ticket.endsLike_loop (left : ℕ) (s : σ) :
    t.EndsLike b (t.attemptLoop left 0 "") s (t.replay b left s) := by
  cases left with
  | zero => exact endsLike_deadLetter ""
  | succ left => exact endsLike_place fun exc s => endsLike_retries left 0 exc s

end Loop

/-! ## A submission, seen from the broker -/

section Submission

variable {σ : Type} {b : Broker σ} {e : ExecutionEngine} {order : OrderIntent} {ctx : Context}
  {s s' : σ} {tr : List Event} {r : Except String FillReport}

/-- A submission leaves the broker alone and rejects the order, or runs the loop against
it. -/
theorem exec_submit_broker (h : Exec (submit e order ctx) tr r) (hans : b.Answers s tr s') :
    ((∀ ev ∈ tr, ¬ IsBroker ev.1) ∧ s' = s ∧ ∃ report, r = .ok report ∧ IsRejection order report) ∨
    ∃ nowMs auditId post, ClockAllows ctx nowMs ∧ Compliant e order ctx nowMs ∧
      s' = ((ticket e order auditId).replay b e.attempts s).2 ∧
      (ticket e order auditId).Shows post r ((ticket e order auditId).replay b e.attempts s).1 ∧
      (DeadLettered tr ↔ DeadLettered post) ∧
      ((∃ ev ∈ tr, IsBroker ev.1) → e.attempts ≠ 0) := by
  rcases exec_submit h with
    ⟨hnone, hrej⟩ | ⟨nowMs, outcome, auditId, post, hclock, -, hcomp, rfl, hloop⟩
  · exact .inl ⟨hnone, (Broker.answers_of_not_isBroker hnone).mp hans, hrej⟩
  · -- the front does not touch the broker, so the loop starts where the submission did
    rcases Broker.answers_append.mp hans with ⟨s₁, hfront, hpost⟩
    rcases (Broker.answers_of_not_isBroker not_isBroker_front).mp hfront with rfl
    rcases (Ticket.endsLike_loop e.attempts s₁).1 post r s' hloop hpost with ⟨hs, hshow⟩
    refine .inr ⟨nowMs, auditId, post, hclock, hcomp, hs, hshow, ⟨?_, ?_⟩, ?_⟩
    · rintro ⟨entry, res, hmem⟩
      rcases List.mem_append.mp hmem with hmem | hmem
      · exact absurd trivial (not_isEnqueue_front _ hmem)
      · exact ⟨entry, res, hmem⟩
    · rintro ⟨entry, res, hmem⟩
      exact ⟨entry, res, List.mem_append_right _ hmem⟩
    · -- without attempts the loop goes straight to the dead-letter queue
      rintro ⟨ev, hmem, hbroker⟩ h0
      rw [h0] at hloop
      have hpost := mem_loop_of_isBroker hmem hbroker
      exact ((Ticket.deadLetter_settles _ _ _).of_mem hloop ev hpost).not_isBroker hbroker

end Submission

end Intraday.Execution
