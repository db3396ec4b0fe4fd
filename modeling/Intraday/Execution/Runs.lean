import Intraday.Execution.Engine

/-!
# Intraday.Execution.Runs — the runs of `submit`

Every run of `submit` in an arbitrary environment: whatever the clock, Redis, the
broker and the dead-letter queue answer. `exec_submit` takes a run apart: it
settles without the broker, or it is a front (clock, flag, audit id) followed by a
run of the submission loop. `exec_submit_of_loop` puts one together.
-/

namespace Intraday.Execution

open Intraday.Core Intraday.Lib Intraday.Lib.Proc Intraday.Compliance

/-! ## Calls and traces -/

/-- The call submits an order to the broker. -/
def IsPlace : Call → Prop
  | .placeOrder _ => True
  | _ => False

/-- The trace reaches `place_order`. -/
def Placed (tr : List Event) : Prop := ∃ ev ∈ tr, IsPlace ev.1

/-- A call to the broker. -/
def IsBroker : Call → Prop
  | .placeOrder _ => True
  | .queryOrder _ => True
  | _ => False

/-- The dead-letter step. -/
def IsEnqueue : Call → Prop
  | .enqueue _ => True
  | _ => False

theorem IsPlace.isBroker {c : Call} (h : IsPlace c) : IsBroker c := by
  cases c <;> trivial

/-- The outcome of a Redis read. -/
def getOutcome? : Event → Option GetOutcome
  | ⟨.redisGet _, outcome⟩ => some outcome
  | _ => none

/-- The Redis reads of a trace, in order. -/
def getOutcomes (tr : List Event) : List GetOutcome := tr.filterMap getOutcome?

theorem getOutcomes_eq_nil {tr : List Event} (h : ∀ ev ∈ tr, ∀ key, ev.1 ≠ .redisGet key) :
    getOutcomes tr = [] := by
  rw [getOutcomes, List.filterMap_eq_nil_iff]
  rintro ⟨c, ans⟩ hev
  cases c <;> first | rfl | exact absurd rfl (h _ hev _)

@[simp] theorem getOutcomes_append (tr₁ tr₂ : List Event) :
    getOutcomes (tr₁ ++ tr₂) = getOutcomes tr₁ ++ getOutcomes tr₂ := List.filterMap_append

/-- The calls of a rejection and of the dead-letter step. -/
def IsSettling : Call → Prop
  | .timeMs => True
  | .enqueue _ => True
  | _ => False

theorem IsSettling.not_isBroker {c : Call} (h : IsSettling c) : ¬ IsBroker c := by
  cases c <;> first | exact h.elim | exact id

/-- The calls of the submission loop. -/
def Ticket.IsLoopCall (t : Ticket) : Call → Prop
  | .newAuditId => False
  | .redisGet _ => False
  | .placeOrder tagged => tagged = t.tagged
  | .queryOrder clientOrderId => clientOrderId = t.order.clientOrderId
  | _ => True

theorem makeRejectedFill_settles (order : OrderIntent) (reason strategyTag auditId : String)
    (attemptCount : ℕ) :
    (makeRejectedFill order reason strategyTag auditId attemptCount).OnlyCalls IsSettling :=
  ⟨trivial, fun _ => trivial⟩

theorem Ticket.deadLetter_settles (t : Ticket) (attempt : ℕ) (lastError : String) :
    (t.deadLetter attempt lastError).OnlyCalls IsSettling := by
  refine ⟨trivial, fun _ => ⟨trivial, ?_⟩⟩
  intro res
  cases res with
  | error exc => trivial
  | ok u => exact makeRejectedFill_settles _ _ _ _ _

theorem IsSettling.isLoopCall (t : Ticket) (c : Call) (h : IsSettling c) : t.IsLoopCall c := by
  cases c <;> trivial

theorem Ticket.onError_loopCalls {t : Ticket} {left attempt : ℕ} {retry : String → Program}
    (hretry : ∀ exc, (retry exc).OnlyCalls t.IsLoopCall) (err : BrokerError) :
    (t.onError left attempt retry err).OnlyCalls t.IsLoopCall := by
  cases err with
  | permanent exc => exact (t.deadLetter_settles attempt exc).mono (IsSettling.isLoopCall t)
  | transient exc =>
      rw [Ticket.onError]
      split
      · exact hretry exc
      · exact ⟨trivial, fun _ => ⟨trivial, fun _ => hretry exc⟩⟩
  | other exc => trivial

theorem Ticket.place_loopCalls {t : Ticket} {left attempt : ℕ} {retry : String → Program}
    (hretry : ∀ exc, (retry exc).OnlyCalls t.IsLoopCall) :
    (t.place left attempt retry).OnlyCalls t.IsLoopCall := by
  refine ⟨rfl, ?_⟩
  intro r
  cases r with
  | ok fill => trivial
  | error err => exact onError_loopCalls hretry err

/-- The loop places no order but the tagged one, queries no id but its own, and never
reads Redis. -/
theorem Ticket.attemptLoop_loopCalls (t : Ticket) (left attempt : ℕ) (lastError : String) :
    (t.attemptLoop left attempt lastError).OnlyCalls t.IsLoopCall := by
  induction left generalizing attempt lastError with
  | zero => exact (t.deadLetter_settles attempt lastError).mono (IsSettling.isLoopCall t)
  | succ left ih =>
      have hretry := fun exc => ih (attempt + 1) exc
      rw [Ticket.attemptLoop, Ticket.attemptOnce]
      split
      · -- a retry: the query comes first
        refine ⟨rfl, ?_⟩
        intro r
        match r with
        | .ok (some existing) => trivial
        | .ok none => exact place_loopCalls hretry
        | .error err => exact onError_loopCalls hretry err
      · exact place_loopCalls hretry

/-! ## Runs of `submit`, taken apart -/

section Runs

variable {e : ExecutionEngine} {order : OrderIntent} {ctx : Context} {tr : List Event}
  {r : Except String FillReport} {nowMs : ℤ} {outcome : GetOutcome} {auditId : String}

/-- A clock reading `submit` can work with: the caller's, when it gave one. -/
def ClockAllows (ctx : Context) (nowMs : ℤ) : Prop := ∀ t, ctx.nowMs = some t → nowMs = t

/-- The reading of the clock a run starts with, if it makes one. -/
def clockEvents (ctx : Context) (nowMs : ℤ) : List Event :=
  if ctx.nowMs = none then [⟨.timeMs, nowMs⟩] else []

/-- The halted flag is read: the order has no priority and a client is configured. -/
def ReadsFlag (e : ExecutionEngine) (order : OrderIntent) : Prop :=
  order.isPriority = false ∧ e.redis = true

instance : Decidable (ReadsFlag e order) := inferInstanceAs (Decidable (_ ∧ _))

/-- The reading of the halted flag, if there is one. -/
def flagEvents (e : ExecutionEngine) (order : OrderIntent) (outcome : GetOutcome) : List Event :=
  if ReadsFlag e order then [⟨.redisGet killSwitchHaltedKey, outcome⟩] else []

/-- The events of a run up to its compliance decision. -/
def front (e : ExecutionEngine) (order : OrderIntent) (ctx : Context) (nowMs : ℤ)
    (outcome : GetOutcome) (auditId : String) : List Event :=
  clockEvents ctx nowMs ++ (flagEvents e order outcome ++ [⟨.newAuditId, auditId⟩])

theorem exec_submit_iff :
    Exec (submit e order ctx) tr r ↔
      ∃ nowMs tr', ClockAllows ctx nowMs ∧ tr = clockEvents ctx nowMs ++ tr' ∧
        Exec (precheck e order ctx nowMs) tr' r := by
  unfold submit clockEvents ClockAllows
  cases hnow : ctx.nowMs with
  | some t =>
      constructor
      · intro h
        exact ⟨t, tr, by simp, by simp, h⟩
      · rintro ⟨nowMs, tr', hall, rfl, h⟩
        rcases hall t rfl with rfl
        simpa using h
  | none =>
      constructor
      · intro h
        rcases exec_call_iff.mp h with ⟨nowMs, tr', rfl, hpre⟩
        exact ⟨nowMs, tr', by simp, by simp, hpre⟩
      · rintro ⟨nowMs, tr', -, rfl, h⟩
        exact .call h

theorem precheck_of_reads (h : ReadsFlag e order) (nowMs : ℤ) :
    precheck e order ctx nowMs =
      .call (.redisGet killSwitchHaltedKey) fun outcome =>
        if isHalted outcome then
          makeRejectedFill order "System is halted — kill switch active" "" "" 0
        else
          gate e order ctx nowMs := by
  rw [precheck, h.1, h.2]
  rfl

theorem precheck_of_not_reads (h : ¬ ReadsFlag e order) (nowMs : ℤ) :
    precheck e order ctx nowMs = gate e order ctx nowMs := by
  have hb : (!order.isPriority && e.redis) = false := by
    rw [Bool.eq_false_iff]
    intro hb
    simp only [Bool.and_eq_true, Bool.not_eq_true'] at hb
    exact h hb
  rw [precheck, hb]
  rfl

/-- A run of the pre-check is rejected on the flag, or goes on to compliance. -/
theorem exec_precheck_iff :
    Exec (precheck e order ctx nowMs) tr r ↔
      ∃ outcome tr', tr = flagEvents e order outcome ++ tr' ∧
        ((ReadsFlag e order ∧ isHalted outcome = true ∧
          Exec (makeRejectedFill order "System is halted — kill switch active" "" "" 0) tr' r) ∨
        ((ReadsFlag e order → isHalted outcome = false) ∧
          Exec (gate e order ctx nowMs) tr' r)) := by
  by_cases hreads : ReadsFlag e order
  · rw [precheck_of_reads hreads, exec_call_iff]
    apply exists_congr
    intro outcome
    apply exists_congr
    intro tr'
    rw [flagEvents, if_pos hreads]
    apply and_congr_right
    intro _
    cases isHalted outcome <;> simp [hreads]
  · -- no read, so the outcome is a dummy
    rw [precheck_of_not_reads hreads]
    constructor
    · intro h
      exact ⟨.missing, tr, by simp [flagEvents, hreads], .inr ⟨fun hr => absurd hr hreads, h⟩⟩
    · rintro ⟨outcome, tr', rfl, ⟨hr, -⟩ | ⟨-, h⟩⟩
      · exact absurd hr hreads
      · simpa [flagEvents, hreads] using h

/-- A run of compliance is rejected, or enters the submission loop. -/
theorem exec_gate_iff :
    Exec (gate e order ctx nowMs) tr r ↔
      ∃ auditId tr', tr = ⟨.newAuditId, auditId⟩ :: tr' ∧
        Exec (route e order ctx nowMs auditId) tr' r :=
  exec_call_iff

/-- A run that reaches the submission loop is a front followed by a run of the loop. -/
theorem exec_submit_of_loop {post : List Event} (hclock : ClockAllows ctx nowMs)
    (hflag : ReadsFlag e order → isHalted outcome = false) (hcomp : Compliant e order ctx nowMs)
    (h : Exec ((ticket e order auditId).attemptLoop e.attempts 0 "") post r) :
    Exec (submit e order ctx) (front e order ctx nowMs outcome auditId ++ post) r := by
  rw [← route_of_compliant hcomp auditId] at h
  refine exec_submit_iff.mpr ⟨nowMs, flagEvents e order outcome ++ ⟨.newAuditId, auditId⟩ :: post,
    hclock, by simp [front], ?_⟩
  exact exec_precheck_iff.mpr
    ⟨outcome, _, rfl, .inr ⟨hflag, exec_gate_iff.mpr ⟨auditId, post, rfl, h⟩⟩⟩

/-- A report of the engine's own, for an order that is not with the broker. -/
def IsRejection (order : OrderIntent) (report : FillReport) : Prop :=
  report.status = .rejected ∧ report.brokerOrderId = none ∧
    report.clientOrderId = order.clientOrderId

theorem exec_makeRejectedFill {reason strategyTag : String} {attemptCount : ℕ}
    (h : Exec (makeRejectedFill order reason strategyTag auditId attemptCount) tr r) :
    ∃ t report, tr = [⟨.timeMs, t⟩] ∧ r = .ok report ∧ IsRejection order report := by
  rcases exec_call_iff.mp h with ⟨t, tr', rfl, hret⟩
  rcases exec_ret_iff.mp hret with ⟨rfl, rfl⟩
  exact ⟨t, _, rfl, rfl, rfl, rfl, rfl⟩

/-- The readings of clock and flag are no calls to the broker. -/
theorem not_isBroker_readings {rest : List Event} (h : ∀ ev ∈ rest, ¬ IsBroker ev.1) :
    ∀ ev ∈ clockEvents ctx nowMs ++ (flagEvents e order outcome ++ rest), ¬ IsBroker ev.1 := by
  have hclock : ∀ ev ∈ clockEvents ctx nowMs, ¬ IsBroker ev.1 := by
    unfold clockEvents
    split <;> simp [IsBroker]
  have hflag : ∀ ev ∈ flagEvents e order outcome, ¬ IsBroker ev.1 := by
    unfold flagEvents
    split <;> simp [IsBroker]
  simp only [List.forall_mem_append]
  exact ⟨hclock, hflag, h⟩

theorem not_isBroker_front :
    ∀ ev ∈ front e order ctx nowMs outcome auditId, ¬ IsBroker ev.1 :=
  not_isBroker_readings (by simp [IsBroker])

/-- The broker calls of a run are those of its loop. -/
theorem mem_loop_of_isBroker {post : List Event} {ev : Event}
    (hmem : ev ∈ front e order ctx nowMs outcome auditId ++ post) (h : IsBroker ev.1) :
    ev ∈ post := by
  rcases List.mem_append.mp hmem with hfront | hpost
  · exact absurd h (not_isBroker_front ev hfront)
  · exact hpost

theorem not_isEnqueue_front :
    ∀ ev ∈ front e order ctx nowMs outcome auditId, ¬ IsEnqueue ev.1 := by
  simp only [front, List.forall_mem_append, List.forall_mem_singleton]
  refine ⟨?_, ?_, id⟩
  · unfold clockEvents
    split <;> simp [IsEnqueue]
  · unfold flagEvents
    split <;> simp [IsEnqueue]

theorem getOutcomes_clockEvents : getOutcomes (clockEvents ctx nowMs) = [] := by
  unfold clockEvents
  split <;> rfl

theorem getOutcomes_flagEvents (h : ReadsFlag e order) :
    getOutcomes (flagEvents e order outcome) = [outcome] := by
  rw [flagEvents, if_pos h]
  rfl

theorem getOutcomes_front (h : ReadsFlag e order) :
    getOutcomes (front e order ctx nowMs outcome auditId) = [outcome] := by
  rw [front, getOutcomes_append, getOutcomes_append, getOutcomes_clockEvents,
    getOutcomes_flagEvents h]
  rfl

theorem getOutcomes_loop {t : Ticket} {left attempt : ℕ} {lastError : String}
    (h : Exec (t.attemptLoop left attempt lastError) tr r) : getOutcomes tr = [] := by
  apply getOutcomes_eq_nil
  intro ev hev key heq
  have hcall := (t.attemptLoop_loopCalls left attempt lastError).of_mem h ev hev
  rw [heq] at hcall
  exact hcall

/-- Every run of `submit` either settles without calling the broker, or is a front
followed by a run of the loop. -/
theorem exec_submit (h : Exec (submit e order ctx) tr r) :
    ((∀ ev ∈ tr, ¬ IsBroker ev.1) ∧ ∃ report, r = .ok report ∧ IsRejection order report) ∨
    ∃ nowMs outcome auditId post, ClockAllows ctx nowMs ∧
      (ReadsFlag e order → isHalted outcome = false) ∧ Compliant e order ctx nowMs ∧
      tr = front e order ctx nowMs outcome auditId ++ post ∧
      Exec ((ticket e order auditId).attemptLoop e.attempts 0 "") post r := by
  rcases exec_submit_iff.mp h with ⟨nowMs, tr₁, hclock, rfl, hpre⟩
  rcases exec_precheck_iff.mp hpre with ⟨outcome, tr₂, rfl, ⟨-, -, hhalt⟩ | ⟨hflag, hgate⟩⟩
  · -- the kill switch is active
    rcases exec_makeRejectedFill hhalt with ⟨t, report, rfl, rfl, hrej⟩
    exact .inl ⟨not_isBroker_readings (by simp [IsBroker]), report, rfl, hrej⟩
  · rcases exec_gate_iff.mp hgate with ⟨auditId, post, rfl, hroute⟩
    by_cases hcomp : Compliant e order ctx nowMs
    · -- compliance passes, and the rest is the loop
      rw [route_of_compliant hcomp] at hroute
      exact .inr ⟨nowMs, outcome, auditId, post, hclock, hflag, hcomp, by simp [front], hroute⟩
    · -- compliance rejects
      rcases route_of_not_compliant hcomp auditId with ⟨reason, heq⟩
      rw [heq] at hroute
      rcases exec_makeRejectedFill hroute with ⟨t, report, rfl, rfl, hrej⟩
      exact .inl ⟨not_isBroker_readings (by simp [IsBroker]), report, rfl, hrej⟩

end Runs

end Intraday.Execution
