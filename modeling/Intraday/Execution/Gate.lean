import Intraday.Execution.Runs

/-!
# Intraday.Execution.Gate — what reaches the broker

Which orders `submit` can hand to `place_order`, over every run in every
environment:

* only the tagged order of an approved compliance decision is placed;
* no step asks for a stop loss, so an order is placed with whatever it carries;
* a failed read of the halted flag lets the order through.
-/

namespace Intraday.Execution

open Intraday.Core Intraday.Lib Intraday.Lib.Proc Intraday.Compliance

variable {e : ExecutionEngine} {order : OrderIntent} {ctx : Context} {tr : List Event}
  {r : Except String FillReport} {nowMs : ℤ} {outcome : GetOutcome}

/-! ## Reaching `place_order` -/

/-- Nothing but the halted flag keeps the order from the broker: `max_retries` allows
an attempt and compliance passes at some reading of the clock. -/
def CanPlace (e : ExecutionEngine) (order : OrderIntent) (ctx : Context) : Prop :=
  0 ≤ e.maxRetries ∧ ∃ nowMs, ClockAllows ctx nowMs ∧ Compliant e order ctx nowMs

theorem attempts_eq_zero_iff : e.attempts = 0 ↔ e.maxRetries < 0 := by
  unfold ExecutionEngine.attempts
  omega

theorem exists_attempts_eq_succ (h : 0 ≤ e.maxRetries) : ∃ left, e.attempts = left + 1 := by
  apply Nat.exists_eq_succ_of_ne_zero
  intro h0
  exact absurd (attempts_eq_zero_iff.mp h0) (not_lt.mpr h)

/-- With an attempt to make, some run of the loop places the order. -/
theorem Ticket.exists_exec_placing (t : Ticket) (left : ℕ) :
    ∃ tr r, Exec (t.attemptLoop (left + 1) 0 "") tr r ∧ Placed tr := by
  refine ⟨[⟨.placeOrder t.tagged, .error (.other "connection reset")⟩], .error "connection reset",
    .call (.ret _), _, List.mem_singleton_self _, trivial⟩

/-- A run that places the order went through the flag and compliance, and placed what
compliance tagged. -/
theorem exec_submit_placed (h : Exec (submit e order ctx) tr r) (hplaced : Placed tr) :
    ∃ nowMs outcome auditId post, ClockAllows ctx nowMs ∧
      (ReadsFlag e order → isHalted outcome = false) ∧ Compliant e order ctx nowMs ∧
      0 ≤ e.maxRetries ∧ tr = front e order ctx nowMs outcome auditId ++ post ∧
      Exec ((ticket e order auditId).attemptLoop e.attempts 0 "") post r := by
  rcases hplaced with ⟨ev, hev, hplace⟩
  rcases exec_submit h with
    ⟨hnone, -⟩ | ⟨nowMs, outcome, auditId, post, hclock, hflag, hcomp, rfl, hloop⟩
  · exact absurd hplace.isBroker (hnone ev hev)
  · refine ⟨nowMs, outcome, auditId, post, hclock, hflag, hcomp, ?_, rfl, hloop⟩
    -- without an attempt the loop only dead-letters
    by_contra hneg
    rw [attempts_eq_zero_iff.mpr (not_le.mp hneg)] at hloop
    have hpost : ev ∈ post := mem_loop_of_isBroker hev hplace.isBroker
    exact ((Ticket.deadLetter_settles _ _ _).of_mem hloop ev hpost).not_isBroker hplace.isBroker

theorem canPlace_of_placed (h : Exec (submit e order ctx) tr r) (hplaced : Placed tr) :
    CanPlace e order ctx := by
  rcases exec_submit_placed h hplaced with ⟨nowMs, -, -, -, hclock, -, hcomp, hretries, -⟩
  exact ⟨hretries, nowMs, hclock, hcomp⟩

/-- Every read of the flag that does not come out as halted has a run that places the
order. -/
theorem exists_run_placing (hcan : CanPlace e order ctx) (hout : isHalted outcome = false) :
    ∃ tr r, Exec (submit e order ctx) tr r ∧ Placed tr ∧
      (ReadsFlag e order → getOutcomes tr = [outcome]) := by
  rcases hcan with ⟨hretries, nowMs, hclock, hcomp⟩
  -- the flag lets it through, compliance passes, and the first attempt is made
  rcases exists_attempts_eq_succ hretries with ⟨left, hleft⟩
  rcases (ticket e order "").exists_exec_placing left with ⟨post, r, hloop, hplaced⟩
  rw [← hleft] at hloop
  refine ⟨_, r, exec_submit_of_loop hclock (fun _ => hout) hcomp hloop, ?_, ?_⟩
  · rcases hplaced with ⟨ev, hev, hplace⟩
    exact ⟨ev, List.mem_append_right _ hev, hplace⟩
  · intro hreads
    rw [getOutcomes_append, getOutcomes_front hreads, getOutcomes_loop hloop, List.append_nil]

/-! ## Only what compliance approved -/

/-- The order a run places is the one compliance tagged. -/
theorem exec_loop_tagged {auditId : String} {left attempt : ℕ} {lastError : String}
    (h : Exec ((ticket e order auditId).attemptLoop left attempt lastError) tr r)
    {tagged : TaggedOrder} {res : Except BrokerError FillReport}
    (hev : (⟨.placeOrder tagged, res⟩ : Event) ∈ tr) : tagged = taggedFor e.registry order :=
  ((ticket e order auditId).attemptLoop_loopCalls left attempt lastError).of_mem h _ hev

theorem mem_front_clock (h : ctx.nowMs = none) {auditId : String} :
    (⟨.timeMs, nowMs⟩ : Event) ∈ front e order ctx nowMs outcome auditId := by
  simp [front, clockEvents, h]

theorem mem_front_audit {auditId : String} :
    (⟨.newAuditId, auditId⟩ : Event) ∈ front e order ctx nowMs outcome auditId := by
  simp [front]

/-- Soundness of the compliance gate. Whatever the environment does, `submit` places
only the tagged order of the approved decision it drew; a decision is approved
exactly when it found no violation and exactly when it carries an order; and an
approval has the guarantees of its market. -/
theorem compliance_gate_sound (e : ExecutionEngine) (order : OrderIntent) (ctx : Context) :
    (∀ tr r, Exec (submit e order ctx) tr r →
      ∀ tagged res, (⟨.placeOrder tagged, res⟩ : Event) ∈ tr →
        ∃ nowMs auditId, ClockAllows ctx nowMs ∧
          (ctx.nowMs = none → (⟨.timeMs, nowMs⟩ : Event) ∈ tr) ∧
          (⟨.newAuditId, auditId⟩ : Event) ∈ tr ∧
          (complianceDec e order ctx nowMs auditId).approved = true ∧
          (complianceDec e order ctx nowMs auditId).taggedOrder = some tagged) ∧
    ∀ auditId clockMs dec, dec = check e.registry auditId clockMs order ctx →
      (dec.approved = true ↔ dec.violations = []) ∧
      (dec.approved = true ↔ dec.taggedOrder.isSome) ∧
      (order.exchange = "NSE" ∨ order.exchange = "BSE" →
        ∀ tagged, dec.taggedOrder = some tagged → IndiaSound e.registry order ctx tagged) ∧
      (order.exchange = "ASX" → dec.approved = true →
        AsxSound order ctx (ctx.nowMs.getD clockMs)) := by
  constructor
  · intro tr r h tagged res hev
    rcases exec_submit_placed h ⟨_, hev, trivial⟩ with
      ⟨nowMs, outcome, auditId, post, hclock, -, hcomp, -, rfl, hloop⟩
    refine ⟨nowMs, auditId, hclock, fun hnone => List.mem_append_left _ (mem_front_clock hnone),
      List.mem_append_left _ mem_front_audit, complianceDec_approved_iff.mpr hcomp, ?_⟩
    have hpost : (⟨.placeOrder tagged, res⟩ : Event) ∈ post := mem_loop_of_isBroker hev trivial
    rw [complianceDec_of_compliant hcomp, exec_loop_tagged hloop hpost]
  · rintro auditId clockMs dec rfl
    refine ⟨?_, check_taggedOrder_isSome.symm, fun hm tagged ht => ?_, check_asx_sound⟩
    · rw [check_approved_iff, check_violations]
    · have hindia : order.exchange ∈ indiaExchanges := by simpa [indiaExchanges] using hm
      exact check_india_sound hindia ht

/-! ## No trade without a stop loss -/

/-- The price an entry is measured from: its limit, or the last traded price. -/
def entryReference (order : OrderIntent) : Option ℚ := order.price.or order.ltp

/-- The stop loss the rule asks of an entry: positive, and on the losing side of the
entry reference. -/
def StopLossSound (order : OrderIntent) : Prop :=
  0 < order.stopLoss ∧
    ∃ ref, entryReference order = some ref ∧
      (order.direction = "LONG" → order.stopLoss < ref) ∧
      (order.direction = "SHORT" → ref < order.stopLoss)

/-- The rule is kept exactly when the order happens to keep it, or cannot be placed at
all: no step of the path looks at the stop loss. -/
theorem stop_loss_rule_iff (e : ExecutionEngine) (order : OrderIntent) (ctx : Context) :
    (∀ tr r, Exec (submit e order ctx) tr r → Placed tr → StopLossSound order) ↔
      (StopLossSound order ∨ ¬ CanPlace e order ctx) := by
  constructor
  · intro h
    by_cases hcan : CanPlace e order ctx
    · rcases exists_run_placing hcan isHalted_missing with
        ⟨tr, r, hexec, hplaced, -⟩
      exact .inl (h tr r hexec hplaced)
    · exact .inr hcan
  · rintro (hsound | hcan) tr r hexec hplaced
    · exact hsound
    · exact absurd (canPlace_of_placed hexec hplaced) hcan

/-- An engine with the generic credential and a Redis client. -/
def genericEngine (maxRetries : ℤ) : ExecutionEngine :=
  .init (.init (fun _ => none) (some true)) true (some maxRetries) (some 0)

/-- A limit entry that carries no stop: `stop_loss=0.0`. -/
def entryWithoutStop : OrderIntent :=
  { symbol := "RELIANCE", exchange := "NSE", direction := "LONG", orderType := "LIMIT"
    quantity := 10, price := some 2500, stopLoss := 0, strategyName := "EMA_VWAP_TREND"
    clientOrderId := "ORD-1" }

/-- An entry without a stop loss reaches the broker. -/
theorem entry_without_stop_is_placed :
    ¬ ∀ (e : ExecutionEngine) (order : OrderIntent) (ctx : Context), order.isExit = false →
      ∀ tr r, Exec (submit e order ctx) tr r → Placed tr → StopLossSound order := by
  intro h
  have hcan : CanPlace (genericEngine 3) entryWithoutStop { nowMs := some 0 } :=
    ⟨by decide, 0, fun t ht => Option.some.inj ht, by decide +kernel⟩
  rcases exists_run_placing hcan isHalted_missing with
    ⟨tr, r, hexec, hplaced, -⟩
  have hsound := h (genericEngine 3) entryWithoutStop { nowMs := some 0 } rfl tr r hexec hplaced
  exact absurd hsound.1 (by decide +kernel)

/-! ## The halted flag, when it cannot be read -/

/-- The flag was read, and it is not set. -/
def ReadUnset : GetOutcome → Prop
  | .bytes raw => ∃ value, String.fromUTF8? raw = some value ∧ value ≠ "true"
  | .str value => value ≠ "true"
  | .missing => True
  | .exception => False

/-- The reads that let an order through although the flag is set or unknown: the client
raised, the bytes are not UTF-8, or a decoding client returned the text `"true"`. -/
def FailsOpen : GetOutcome → Prop
  | .bytes raw => String.fromUTF8? raw = none
  | .str value => value = "true"
  | .missing => False
  | .exception => True

theorem isHalted_of_failsOpen (h : FailsOpen outcome) : isHalted outcome = false := by
  cases outcome with
  | bytes raw => simp [isHalted, readFlag, show String.fromUTF8? raw = none from h]
  | str value => rfl
  | missing => rfl
  | exception => rfl

theorem not_readUnset_of_failsOpen (h : FailsOpen outcome) : ¬ ReadUnset outcome := by
  cases outcome with
  | bytes raw =>
      rintro ⟨value, hv, -⟩
      rw [show String.fromUTF8? raw = none from h] at hv
      exact nomatch hv
  | str value => exact not_not.mpr h
  | missing => exact h.elim
  | exception => exact id

theorem readUnset_of_not_halted (hopen : ¬ FailsOpen outcome) (h : isHalted outcome = false) :
    ReadUnset outcome := by
  cases outcome with
  | bytes raw =>
      rcases Option.ne_none_iff_exists'.mp hopen with ⟨value, hv⟩
      simp only [isHalted, readFlag, hv, Option.map_some, Option.getD_some,
        beq_eq_false_iff_ne] at h
      exact ⟨value, hv, h⟩
  | str value => exact hopen
  | missing => trivial
  | exception => exact absurd trivial hopen

/-- Compliance and the loop do not read Redis. -/
theorem gate_reads_nothing (h : Exec (gate e order ctx nowMs) tr r) : getOutcomes tr = [] := by
  rcases exec_gate_iff.mp h with ⟨auditId, tr', rfl, hroute⟩
  by_cases hcomp : Compliant e order ctx nowMs
  · rw [route_of_compliant hcomp] at hroute
    show getOutcomes tr' = []
    exact getOutcomes_loop hroute
  · rcases route_of_not_compliant hcomp auditId with ⟨reason, heq⟩
    rw [heq] at hroute
    rcases exec_makeRejectedFill hroute with ⟨t, report, rfl, -⟩
    rfl

/-- A submission of an order without priority reads the flag exactly once. -/
theorem exec_submit_reads_once (hreads : ReadsFlag e order) (h : Exec (submit e order ctx) tr r) :
    ∃ outcome, getOutcomes tr = [outcome] := by
  rcases exec_submit_iff.mp h with ⟨nowMs, tr₁, -, rfl, hpre⟩
  rcases exec_precheck_iff.mp hpre with ⟨outcome, tr₂, rfl, hrest⟩
  refine ⟨outcome, ?_⟩
  rw [getOutcomes_append, getOutcomes_append, getOutcomes_clockEvents,
    getOutcomes_flagEvents hreads]
  rcases hrest with ⟨-, -, hrej⟩ | ⟨-, hgate⟩
  · rcases exec_makeRejectedFill hrej with ⟨t, report, rfl, -⟩
    rfl
  · rw [gate_reads_nothing hgate]
    rfl

/-- The halt check is fail-closed on exactly the reads that do not fail open, and on
orders that cannot be placed anyway. -/
theorem halt_check_fail_closed_iff (e : ExecutionEngine) (order : OrderIntent) (ctx : Context)
    (hpriority : order.isPriority = false) (hredis : e.redis = true) :
    (∀ tr r, Exec (submit e order ctx) tr r → ∃ outcome, getOutcomes tr = [outcome]) ∧
    ∀ outcome,
      (∀ tr r, Exec (submit e order ctx) tr r → getOutcomes tr = [outcome] → Placed tr →
        ReadUnset outcome) ↔
      (¬ FailsOpen outcome ∨ ¬ CanPlace e order ctx) := by
  have hreads : ReadsFlag e order := ⟨hpriority, hredis⟩
  refine ⟨fun tr r h => exec_submit_reads_once hreads h, fun outcome => ⟨fun h => ?_, ?_⟩⟩
  · -- a read that fails open has a run that places the order
    by_contra hneg
    rw [not_or, not_not, not_not] at hneg
    rcases hneg with ⟨hopen, hcan⟩
    rcases exists_run_placing hcan (isHalted_of_failsOpen hopen) with ⟨tr, r, hexec, hplaced, hout⟩
    exact not_readUnset_of_failsOpen hopen (h tr r hexec (hout hreads) hplaced)
  · rintro (hopen | hcan) tr r hexec hout hplaced
    · rcases exec_submit_placed hexec hplaced with
        ⟨nowMs, outcome', auditId, post, -, hflag, -, -, rfl, hloop⟩
      -- the one read of the run is the one the pre-check decided on
      rw [getOutcomes_append, getOutcomes_front hreads, getOutcomes_loop hloop] at hout
      obtain rfl : outcome' = outcome := (List.cons.inj hout).1
      exact readUnset_of_not_halted hopen (hflag hreads)
    · exact absurd (canPlace_of_placed hexec hplaced) hcan

/-- A limit entry with a stop. -/
def limitEntry : OrderIntent := { entryWithoutStop with stopLoss := 2450 }

theorem limitEntry_canPlace : CanPlace (genericEngine 3) limitEntry { nowMs := some 0 } :=
  ⟨by decide, 0, fun t ht => Option.some.inj ht, by decide +kernel⟩

/-- For the same entry, a read of the text `"false"` is fail-closed and a raising client is
not. -/
theorem halt_check_limit_entry :
    (∀ tr r, Exec (submit (genericEngine 3) limitEntry { nowMs := some 0 }) tr r →
      getOutcomes tr = [.bytes "false".toByteArray] → Placed tr →
        ReadUnset (.bytes "false".toByteArray)) ∧
    ¬ ∀ tr r, Exec (submit (genericEngine 3) limitEntry { nowMs := some 0 }) tr r →
      getOutcomes tr = [.exception] → Placed tr → ReadUnset .exception := by
  have h := (halt_check_fail_closed_iff (genericEngine 3) limitEntry { nowMs := some 0 } rfl rfl).2
  constructor
  · refine (h (.bytes "false".toByteArray)).mpr (.inl ?_)
    simp [FailsOpen]
  · rw [h .exception, not_or, not_not, not_not]
    exact ⟨trivial, limitEntry_canPlace⟩

/-- Redis down, and the entry is placed. -/
theorem redis_down_lets_entry_through :
    ¬ ∀ (e : ExecutionEngine) (order : OrderIntent) (ctx : Context), order.isPriority = false →
      e.redis = true → ∀ outcome tr r, Exec (submit e order ctx) tr r →
        getOutcomes tr = [outcome] → Placed tr → ReadUnset outcome := by
  intro h
  rcases exists_run_placing limitEntry_canPlace (show isHalted .exception = false from rfl) with
    ⟨tr, r, hexec, hplaced, hout⟩
  exact h _ _ _ rfl rfl .exception tr r hexec (hout ⟨rfl, rfl⟩) hplaced

end Intraday.Execution
