import Intraday.Execution.Broker

/-!
# Intraday.Execution.Outcome — is the final report true?

A broker may record an order and still answer with a timeout. The engine finds out by
the query before the next attempt; where no such query comes, or none returns, it
dead-letters and rejects an order that is live at the broker. `Resolves` says, of the
broker alone, when the ambiguity is resolved in time.
-/

namespace Intraday.Execution

open Intraday.Core Intraday.Lib Intraday.Lib.Proc Intraday.Compliance

namespace Broker

variable {σ : Type} (b : Broker σ)

/-- Of the next `left` queries for the id, one returns before any raises a permanent
error. (One that raises something else ends the submission without a report.) -/
def QueryAnswers (id : String) : ℕ → σ → Prop
  | 0, _ => False
  | left + 1, s =>
      match b.queryOrder id s with
      | (.ok _, _) => True
      | (.error (.transient _), s') => QueryAnswers id left s'
      | (.error (.permanent _), _) => False
      | (.error (.other _), _) => True

/-- What `place_order` may do with `left` attempts to follow: if it times out and the order
is live, a query has to answer; if it refuses for good, no order may be live already. -/
def PlaceResolves (tagged : TaggedOrder) (left : ℕ) (next : σ → Prop) (s : σ) : Prop :=
  match b.placeOrder tagged s with
  | (.ok _, _) => True
  | (.error (.transient _), s') =>
      if b.Live s' tagged.original.clientOrderId then
        b.QueryAnswers tagged.original.clientOrderId left s'
      else next s'
  | (.error (.permanent _), _) => ¬ b.Live s tagged.original.clientOrderId
  | (.error (.other _), _) => True

/-- The same of all retries, from a state without a live order. -/
def RetriesResolve (tagged : TaggedOrder) : ℕ → σ → Prop
  | 0, _ => True
  | left + 1, s =>
      match b.queryOrder tagged.original.clientOrderId s with
      | (.ok none, s') => b.PlaceResolves tagged left (RetriesResolve tagged left) s'
      | (.error (.transient _), s') => RetriesResolve tagged left s'
      | _ => True

/-- In a submission of at most `attempts` attempts, every `place_order` that raises and
leaves a live order is followed by a `query_order` that returns. -/
def Resolves (tagged : TaggedOrder) : ℕ → σ → Prop
  | 0, _ => True
  | left + 1, s => b.PlaceResolves tagged left (b.RetriesResolve tagged left) s

end Broker

section Endings

variable {σ : Type} {b : Broker σ} {t : Ticket} {left : ℕ} {s : σ}

/-- The loop gave up on an order that is live at the broker. -/
def Ticket.Untrue (b : Broker σ) (t : Ticket) (ending : Ending × σ) : Prop :=
  ending.1 = .deadLettered ∧ b.Live ending.2 t.tagged.original.clientOrderId

@[simp] theorem Ticket.not_untrue_reported {fill : FillReport} :
    ¬ t.Untrue b (.reported fill, s) := fun h => nomatch h.1

@[simp] theorem Ticket.not_untrue_raised : ¬ t.Untrue b (.raised, s) := fun h => nomatch h.1

@[simp] theorem Ticket.untrue_deadLettered :
    t.Untrue b (.deadLettered, s) ↔ b.Live s t.tagged.original.clientOrderId :=
  ⟨fun h => h.2, fun h => ⟨rfl, h⟩⟩

theorem Broker.live_of_query {id : String} {res : Except BrokerError (Option FillReport)} {s' : σ}
    (h : b.queryOrder id s = (res, s')) : b.Live s' id ↔ b.Live s id := by
  rw [Broker.Live, Broker.Live, b.query_keeps h]

/-- A query does not find nothing while the order is live. -/
theorem Broker.not_live_of_query_none {id : String} {s' : σ}
    (h : b.queryOrder id s = (.ok none, s')) : ¬ b.Live s' id := by
  rw [Broker.Live, b.query_truthful h]
  exact Bool.false_ne_true

variable (hid : t.tagged.original = t.order)

include hid

/-- From a live order, the retries end untrue exactly when no query answers. -/
theorem Ticket.untrue_retries_of_live
    (hlive : b.Live s t.tagged.original.clientOrderId) :
    t.Untrue b (t.replayRetries b left s) ↔
      ¬ b.QueryAnswers t.tagged.original.clientOrderId left s := by
  induction left generalizing s with
  | zero => simpa [Ticket.replayRetries, Broker.QueryAnswers] using hlive
  | succ left ih =>
      rw [Ticket.replayRetries, Broker.QueryAnswers, ← hid]
      rcases hq : b.queryOrder t.tagged.original.clientOrderId s with ⟨res, s'⟩
      have hlive' : b.Live s' t.tagged.original.clientOrderId := (Broker.live_of_query hq).mpr hlive
      cases res with
      | ok found =>
          cases found with
          | none =>
              -- a truthful query cannot miss a live order
              exact absurd hlive' (Broker.not_live_of_query_none hq)
          | some existing => simp
      | error err =>
          cases err with
          | transient exc => exact ih hlive'
          | permanent exc => simpa [Ticket.replayError] using hlive'
          | other exc => simp [Ticket.replayError]

/-- An attempt ends untrue exactly when it does not resolve, if the retries after it do
so. -/
theorem Ticket.untrue_place_iff
    (hnext : ∀ s, ¬ b.Live s t.tagged.original.clientOrderId →
      (t.Untrue b (t.replayRetries b left s) ↔ ¬ b.RetriesResolve t.tagged left s)) :
    t.Untrue b (t.replayPlace b (t.replayRetries b left) s) ↔
      ¬ b.PlaceResolves t.tagged left (b.RetriesResolve t.tagged left) s := by
  rw [Ticket.replayPlace, Broker.PlaceResolves]
  rcases hp : b.placeOrder t.tagged s with ⟨res, s'⟩
  cases res with
  | ok fill => simp
  | error err =>
      cases err with
      | transient exc =>
          -- the timeout is ambiguous: the order may have been recorded
          by_cases hlive : b.Live s' t.tagged.original.clientOrderId
          · simp only [Ticket.replayError, if_pos hlive]
            exact Ticket.untrue_retries_of_live hid hlive
          · simp only [Ticket.replayError, if_neg hlive]
            exact hnext s' hlive
      | permanent exc =>
          simp only [Ticket.replayError, Ticket.untrue_deadLettered, not_not]
          rw [Broker.Live, Broker.Live, b.permanent_keeps hp]
      | other exc => simp [Ticket.replayError]

/-- From a state without a live order, the retries end untrue exactly when they do not
resolve. -/
theorem Ticket.untrue_retries_iff (hlive : ¬ b.Live s t.tagged.original.clientOrderId) :
    t.Untrue b (t.replayRetries b left s) ↔ ¬ b.RetriesResolve t.tagged left s := by
  induction left generalizing s with
  | zero => simpa [Ticket.replayRetries, Broker.RetriesResolve] using hlive
  | succ left ih =>
      rw [Ticket.replayRetries, Broker.RetriesResolve, ← hid]
      rcases hq : b.queryOrder t.tagged.original.clientOrderId s with ⟨res, s'⟩
      have hlive' : ¬ b.Live s' t.tagged.original.clientOrderId :=
        fun h => hlive ((Broker.live_of_query hq).mp h)
      cases res with
      | ok found =>
          cases found with
          | none => exact Ticket.untrue_place_iff hid fun s hs => ih hs
          | some existing => simp
      | error err =>
          cases err with
          | transient exc => exact ih hlive'
          | permanent exc => simpa [Ticket.replayError] using hlive'
          | other exc => simp [Ticket.replayError]

/-- The loop ends untrue exactly when the broker's answers do not resolve. -/
theorem Ticket.untrue_replay_iff {attempts : ℕ} (hattempts : attempts ≠ 0) :
    t.Untrue b (t.replay b attempts s) ↔ ¬ b.Resolves t.tagged attempts s := by
  rcases Nat.exists_eq_succ_of_ne_zero hattempts with ⟨left, rfl⟩
  exact Ticket.untrue_place_iff hid fun s hs => Ticket.untrue_retries_iff hid hs

end Endings

/-! ## The outcome of a submission -/

section Submission

variable {σ : Type} {b : Broker σ} {e : ExecutionEngine} {order : OrderIntent} {ctx : Context}
  {s : σ}

/-- Whenever `submit` calls the broker and then rejects or dead-letters the order, the
broker holds no live or filled order under its id. -/
def TruthfulOutcome (b : Broker σ) (e : ExecutionEngine) (order : OrderIntent) (ctx : Context)
    (s : σ) : Prop :=
  ∀ tr r s', Exec (submit e order ctx) tr r → b.Answers s tr s' → (∃ ev ∈ tr, IsBroker ev.1) →
    ((∃ report, r = .ok report ∧ report.status = .rejected) ∨ DeadLettered tr) →
    ¬ b.Live s' order.clientOrderId

/-- A rejection that comes from the broker is the broker's own record. -/
theorem not_live_of_reported {auditId : String} {fill : FillReport} {ending : Ending × σ}
    (hrec : (ticket e order auditId).Recorded b ending) (hend : ending.1 = .reported fill)
    (hrej : fill.status = .rejected) : ¬ b.Live ending.2 order.clientOrderId := by
  have hrecord : b.record ending.2 order.clientOrderId = some fill := hrec fill hend
  rw [Broker.Live, hrecord]
  simp [isLiveRecord, hrej, OrderStatus.isLive]

/-- A loop with an attempt to make calls the broker. -/
theorem exec_loop_calls_broker {t : Ticket} {attempts : ℕ} (h0 : attempts ≠ 0) {tr : List Event}
    {r : Except String FillReport} (h : Exec (t.attemptLoop attempts 0 "") tr r) :
    ∃ ev ∈ tr, IsBroker ev.1 := by
  rcases Nat.exists_eq_succ_of_ne_zero h0 with ⟨left, rfl⟩
  rcases exec_call_iff.mp h with ⟨res, tr', rfl, -⟩
  exact ⟨_, List.mem_cons_self, trivial⟩

/-- If the report is always true, the broker's answers resolve. -/
theorem resolves_of_truthful (htrue : TruthfulOutcome b e order ctx s) {nowMs : ℤ}
    (hclock : ClockAllows ctx nowMs) (hcomp : Compliant e order ctx nowMs) :
    b.Resolves (taggedFor e.registry order) e.attempts s := by
  -- otherwise the loop has an untrue ending, and a submission that runs into it
  by_contra hres
  have h0 : e.attempts ≠ 0 := fun h0 => hres (h0 ▸ trivial)
  have hends := Ticket.endsLike_loop (b := b) (t := ticket e order "") e.attempts s
  have huntrue : (ticket e order "").Untrue b ((ticket e order "").replay b e.attempts s) :=
    (Ticket.untrue_replay_iff rfl h0).mpr hres
  rcases huntrue with ⟨hdead, hlive⟩
  rcases hends.2 with ⟨post, r, hloop, hans⟩
  have hshow := (hends.1 post r _ hloop hans).2
  rw [hdead] at hshow
  refine htrue (front e order ctx nowMs .missing "" ++ post) r _
    (exec_submit_of_loop hclock (fun _ => isHalted_missing) hcomp hloop)
    (Broker.answers_append.mpr
      ⟨s, (Broker.answers_of_not_isBroker not_isBroker_front).mpr rfl, hans⟩) ?_ ?_ hlive
  · rcases exec_loop_calls_broker h0 hloop with ⟨ev, hev, hbroker⟩
    exact ⟨ev, List.mem_append_right _ hev, hbroker⟩
  · rcases hshow.1 with ⟨entry, res, hmem⟩
    exact .inr ⟨entry, res, List.mem_append_right _ hmem⟩

/-- If the broker's answers resolve, the report is always true. -/
theorem truthful_of_resolves
    (hres : (∃ nowMs, ClockAllows ctx nowMs ∧ Compliant e order ctx nowMs) →
      b.Resolves (taggedFor e.registry order) e.attempts s) : TruthfulOutcome b e order ctx s := by
  intro tr r s' hexec hans hcalls hend
  rcases exec_submit_broker hexec hans with
    ⟨hnone, -⟩ | ⟨nowMs, auditId, post, hclock, hcomp, rfl, hshow, hdead, h0⟩
  · rcases hcalls with ⟨ev, hev, hbroker⟩
    exact absurd hbroker (hnone ev hev)
  · have hrec := Ticket.recorded_replay (b := b) (t := ticket e order auditId) rfl e.attempts s
    have huntrue : ¬ (ticket e order auditId).Untrue b
        ((ticket e order auditId).replay b e.attempts s) := fun h =>
      (Ticket.untrue_replay_iff rfl (h0 hcalls)).mp h (hres ⟨nowMs, hclock, hcomp⟩)
    cases hending : ((ticket e order auditId).replay b e.attempts s).1 with
    | reported fill =>
        -- a rejection of the broker's own is its record
        rw [hending] at hshow
        rcases hshow with ⟨⟨attempt, rfl⟩, hnot⟩
        rcases hend with ⟨report, heq, hrej⟩ | hqueue
        · rcases Except.ok.inj heq with rfl
          exact not_live_of_reported hrec hending hrej
        · exact absurd (hdead.mp hqueue) hnot
    | deadLettered => exact fun hlive => huntrue ⟨hending, hlive⟩
    | raised =>
        rw [hending] at hshow
        rcases hshow with ⟨⟨exc, rfl⟩, hnot⟩
        rcases hend with ⟨report, heq, -⟩ | hqueue
        · exact nomatch heq
        · exact absurd (hdead.mp hqueue) hnot

/-- The final report is true exactly when the broker's answers resolve in time, for an order
that compliance lets through at all. -/
theorem truthful_outcome_iff (b : Broker σ) (e : ExecutionEngine) (order : OrderIntent)
    (ctx : Context) (s : σ) :
    TruthfulOutcome b e order ctx s ↔
      ((∃ nowMs, ClockAllows ctx nowMs ∧ Compliant e order ctx nowMs) →
        b.Resolves (taggedFor e.registry order) e.attempts s) :=
  ⟨fun htrue ⟨_, hclock, hcomp⟩ => resolves_of_truthful htrue hclock hcomp, truthful_of_resolves⟩

/-! ### An order lost to a timeout -/

/-- The record of an order the broker has accepted. -/
def acceptedRecord (tagged : TaggedOrder) : FillReport :=
  { clientOrderId := tagged.original.clientOrderId, brokerOrderId := some "B-1"
    symbol := tagged.original.symbol, exchange := tagged.original.exchange
    direction := tagged.original.direction, filledQuantity := 0
    requestedQuantity := tagged.original.quantity, filledPrice := none, status := .placed
    rejectionReason := none, placedAtMs := 0, filledAtMs := none, slippagePct := none
    isPartial := false, slQuantity := 0, attemptCount := 1, strategyTag := tagged.strategyTag
    complianceAuditId := "" }

/-- A broker that accepts every order and whose answer to `place_order` is always lost. -/
def lostAnswerBroker : Broker (String → Option FillReport) where
  placeOrder tagged book :=
    (.error (.transient "read timed out"), fun id =>
      if id = tagged.original.clientOrderId then some (acceptedRecord tagged) else book id)
  queryOrder id book := (.ok (book id), book)
  record book id := book id
  place_truthful h := nomatch congrArg Prod.fst h
  query_truthful h := by
    rcases Prod.mk.inj h with ⟨hfound, rfl⟩
    exact Except.ok.inj hfound
  query_keeps h := by
    rcases Prod.mk.inj h with ⟨-, rfl⟩
    rfl
  permanent_keeps h := nomatch congrArg Prod.fst h

/-- An order without priority that passes on `PAPER`. -/
def paperOrder : OrderIntent :=
  { symbol := "BHP", exchange := "PAPER", direction := "LONG", orderType := "LIMIT", quantity := 10
    price := some 45, stopLoss := 44, strategyName := "ORB_BREAKOUT", clientOrderId := "ORD-7" }

/-- Without retries the timeout is the last word: the engine rejects the order while it is
live at the broker. -/
theorem lost_answer_rejects_live_order :
    ¬ ∀ (b : Broker (String → Option FillReport)) (e : ExecutionEngine) (order : OrderIntent)
      (ctx : Context) (s : String → Option FillReport), TruthfulOutcome b e order ctx s := by
  intro h
  let e : ExecutionEngine := .init (.init (fun _ => none) (some true)) false (some 0) (some 0)
  have hcomp : Compliant e paperOrder {} 0 := violationsOf_other (by decide) (by decide)
  have hres := resolves_of_truthful (h lostAnswerBroker e paperOrder {} fun _ => none)
    (fun t ht => nomatch ht) hcomp
  -- the one attempt leaves the order live, and of the next zero queries none answers
  exact hres

end Submission

end Intraday.Execution
