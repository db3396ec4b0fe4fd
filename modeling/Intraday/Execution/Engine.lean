import Intraday.Compliance.Engine
import Intraday.Execution.Models
import Intraday.Lib.Python

/-!
# Intraday.Execution.Engine — `ExecutionEngine.submit`

The only entry point for orders: the kill-switch check, compliance, and the
submission loop with its query before every retry. Each part of `submit` that can
be reached after a call is a program of its own, so that a run can be followed
from call to call.
-/

namespace Intraday.Execution

open Intraday.Core Intraday.Lib Intraday.Compliance

/-! ## Orders the engine builds itself -/

/-- `make_sl_exit_order`. -/
def makeSlExitOrder (symbol exchange direction : String) (quantity : ℤ) (stopLoss : ℚ)
    (clientOrderId strategyName : String) (ltp : Option ℚ) : OrderIntent :=
  { symbol := symbol
    exchange := exchange
    direction := if direction = "LONG" then "SHORT" else "LONG"
    orderType := "SL"
    quantity := quantity
    price := some stopLoss
    stopLoss := stopLoss
    strategyName := strategyName
    clientOrderId := clientOrderId
    ltp := ltp
    isExit := true
    isPriority := true }

/-- `make_kill_switch_liquidation_order`. -/
def makeKillSwitchLiquidationOrder (symbol exchange direction : String) (quantity : ℤ) (ltp : ℚ)
    (clientOrderId strategyName : String) : OrderIntent :=
  { symbol := symbol
    exchange := exchange
    direction := if direction = "LONG" then "SHORT" else "LONG"
    orderType := "MARKET"
    quantity := quantity
    price := none
    stopLoss := ltp * (95 / 100)
    strategyName := strategyName
    clientOrderId := clientOrderId
    ltp := some ltp
    isExit := true
    isPriority := true }

/-! ## The halted flag -/

/-- `raw is not None and raw.decode() == "true"`; `none` when evaluating it raises.
A `str` has no `decode`. -/
def readFlag : GetOutcome → Option Bool
  | .bytes raw => (String.fromUTF8? raw).map (· == "true")
  | .str _ => none
  | .missing => some false
  | .exception => none

/-- `_HaltedFlag.is_halted` on a configured client: any exception reads as not
halted. -/
def isHalted (outcome : GetOutcome) : Bool := (readFlag outcome).getD false

@[simp] theorem isHalted_missing : isHalted .missing = false := rfl

/-! ## The engine -/

/-- `ExecutionEngine`: what a submission reads of it. `redis` says whether a client
for the halted flag is configured. -/
structure ExecutionEngine where
  registry : StrategyRegistry
  redis : Bool
  maxRetries : ℤ
  baseDelay : ℚ≥0

/-- `ExecutionEngine.__init__`: the defaults of the retry parameters. -/
def ExecutionEngine.init (registry : StrategyRegistry) (redis : Bool)
    (maxRetries : Option ℤ := none) (retryBaseDelay : Option ℚ≥0 := none) : ExecutionEngine :=
  { registry := registry
    redis := redis
    maxRetries := maxRetries.getD Core.maxRetries
    baseDelay := retryBaseDelay.getD retryBaseDelaySeconds }

/-- `_make_rejected_fill`. -/
def makeRejectedFill (order : OrderIntent) (reason strategyTag auditId : String)
    (attemptCount : ℕ) : Program :=
  .call .timeMs fun nowMs => .ret <| .ok
    { clientOrderId := order.clientOrderId
      brokerOrderId := none
      symbol := order.symbol
      exchange := order.exchange
      direction := order.direction
      filledQuantity := 0
      requestedQuantity := order.quantity
      filledPrice := none
      status := .rejected
      rejectionReason := some reason
      placedAtMs := nowMs
      filledAtMs := none
      slippagePct := none
      isPartial := false
      slQuantity := 0
      attemptCount := attemptCount
      strategyTag := strategyTag
      complianceAuditId := auditId }

/-- `_finalize`. -/
def finalize (fill : FillReport) (auditId : String) (attempt : ℕ) : FillReport :=
  { fill with attemptCount := attempt, complianceAuditId := auditId }

/-- What the submission loop keeps: the engine, the order as compliance tagged it
and the audit id. -/
structure Ticket where
  engine : ExecutionEngine
  order : OrderIntent
  tagged : TaggedOrder
  auditId : String

namespace Ticket

variable (t : Ticket)

/-- The entry for the dead-letter queue. -/
def entry (attempt : ℕ) (lastError : String) (enqueuedAtMs : ℤ) : DeadLetterEntry :=
  { clientOrderId := t.order.clientOrderId
    symbol := t.order.symbol
    exchange := t.order.exchange
    lastError := lastError
    attemptCount := attempt
    enqueuedAtMs := enqueuedAtMs
    strategyTag := t.tagged.strategyTag }

/-- The report of a dead-lettered order; the queue itself may have raised. -/
def rejectAll (attempt : ℕ) (lastError : String) : Except String Unit → Program
  | .error exc => .ret (.error exc)
  | .ok () =>
      makeRejectedFill t.order ("All " ++ toString attempt ++ " attempts failed: " ++ lastError)
        t.tagged.strategyTag t.auditId attempt

/-- Step 4 of `submit`: dead-letter the order and reject it. -/
def deadLetter (attempt : ℕ) (lastError : String) : Program :=
  .call .timeMs fun enqueuedAtMs =>
    .call (.enqueue (t.entry attempt lastError enqueuedAtMs)) (t.rejectAll attempt lastError)

/-- The wait before the next attempt: exponential, with jitter. -/
def backoff (attempt : ℕ) (retry : Program) : Program :=
  .call (.uniform 0 (1 / 10)) fun jitter =>
    .call (.sleep (t.engine.baseDelay * (2 ^ (attempt - 1) : ℕ) + jitter.val)) fun _ => retry

/-- The `except` clauses of the loop. `left` attempts remain, and `retry` is the
loop with the error as `last_error`. -/
def onError (left attempt : ℕ) (retry : String → Program) : BrokerError → Program
  | .permanent exc => t.deadLetter attempt exc
  | .transient exc => if left = 0 then retry exc else t.backoff attempt (retry exc)
  | .other exc => .ret (.error exc)

/-- After `place_order`. -/
def afterPlace (left attempt : ℕ) (retry : String → Program) :
    Except BrokerError FillReport → Program
  | .ok fill => .ret (.ok (finalize fill t.auditId attempt))
  | .error exc => t.onError left attempt retry exc

/-- `place_order` and what follows it. -/
def place (left attempt : ℕ) (retry : String → Program) : Program :=
  .call (.placeOrder t.tagged) (t.afterPlace left attempt retry)

/-- After `query_order`: an order the broker already has is not placed again. -/
def afterQuery (left attempt : ℕ) (retry : String → Program) :
    Except BrokerError (Option FillReport) → Program
  | .ok (some existing) => .ret (.ok (finalize existing t.auditId attempt))
  | .ok none => t.place left attempt retry
  | .error exc => t.onError left attempt retry exc

/-- One attempt: the query before a retry, then `place_order`. -/
def attemptOnce (left attempt : ℕ) (retry : String → Program) : Program :=
  if 1 < attempt then
    .call (.queryOrder t.order.clientOrderId) (t.afterQuery left attempt retry)
  else
    t.place left attempt retry

/-- The loop `while attempt <= max_retries`, with `left = max_retries + 1 - attempt`
attempts to go. -/
def attemptLoop : ℕ → ℕ → String → Program
  | 0, attempt, lastError => t.deadLetter attempt lastError
  | left + 1, attempt, _ =>
      t.attemptOnce left (attempt + 1) fun exc => attemptLoop left (attempt + 1) exc

end Ticket

/-- The attempts `max_retries` allows: one more than it, and none when it is negative. -/
def ExecutionEngine.attempts (e : ExecutionEngine) : ℕ := (e.maxRetries + 1).toNat

/-- The compliance decision of a submission. -/
def complianceDec (e : ExecutionEngine) (order : OrderIntent) (ctx : Context) (nowMs : ℤ)
    (auditId : String) : ComplianceDecision :=
  check e.registry auditId nowMs order { ctx with nowMs := some nowMs }

/-- The outcome of compliance: a rejection, or the submission loop. -/
def route (e : ExecutionEngine) (order : OrderIntent) (ctx : Context) (nowMs : ℤ)
    (auditId : String) : Program :=
  let dec := complianceDec e order ctx nowMs auditId
  if !dec.approved then
    makeRejectedFill order ("; ".intercalate (dec.violations.map (·.detail))) "" dec.auditId 0
  else
    match dec.taggedOrder with
    | none => .ret (.error "AssertionError")
    | some tagged =>
        Ticket.attemptLoop
          { engine := e, order := order, tagged := tagged, auditId := dec.auditId }
          e.attempts 0 ""

/-- Steps 2 and 3 of `submit`: compliance, with a fresh audit id, then the loop. -/
def gate (e : ExecutionEngine) (order : OrderIntent) (ctx : Context) (nowMs : ℤ) : Program :=
  .call .newAuditId (route e order ctx nowMs)

/-- Step 1 of `submit`: the kill-switch pre-check. -/
def precheck (e : ExecutionEngine) (order : OrderIntent) (ctx : Context) (nowMs : ℤ) : Program :=
  if !order.isPriority && e.redis then
    .call (.redisGet killSwitchHaltedKey) fun outcome =>
      if isHalted outcome then
        makeRejectedFill order "System is halted — kill switch active" "" "" 0
      else
        gate e order ctx nowMs
  else
    gate e order ctx nowMs

/-- `ExecutionEngine.submit`. -/
def submit (e : ExecutionEngine) (order : OrderIntent) (ctx : Context) : Program :=
  match ctx.nowMs with
  | some nowMs => precheck e order ctx nowMs
  | none => .call .timeMs (precheck e order ctx)

/-! ## Compliance, as the loop sees it -/

section Route

variable {e : ExecutionEngine} {order : OrderIntent} {ctx : Context} {nowMs : ℤ}

/-- The order passes compliance at `nowMs`. -/
def Compliant (e : ExecutionEngine) (order : OrderIntent) (ctx : Context) (nowMs : ℤ) : Prop :=
  violationsOf e.registry nowMs order { ctx with nowMs := some nowMs } = []

instance : Decidable (Compliant e order ctx nowMs) :=
  inferInstanceAs (Decidable (_ = ([] : List ComplianceViolation)))

/-- The ticket of an approved submission. -/
def ticket (e : ExecutionEngine) (order : OrderIntent) (auditId : String) : Ticket :=
  { engine := e, order := order, tagged := taggedFor e.registry order, auditId := auditId }

theorem complianceDec_approved_iff {auditId : String} :
    (complianceDec e order ctx nowMs auditId).approved = true ↔ Compliant e order ctx nowMs :=
  check_approved_iff

theorem complianceDec_of_compliant (h : Compliant e order ctx nowMs) (auditId : String) :
    complianceDec e order ctx nowMs auditId =
      { approved := true, violations := [], auditId := auditId
        taggedOrder := some (taggedFor e.registry order) } :=
  check_of_nil h

theorem route_of_compliant (h : Compliant e order ctx nowMs) (auditId : String) :
    route e order ctx nowMs auditId = (ticket e order auditId).attemptLoop e.attempts 0 "" := by
  rw [route, complianceDec_of_compliant h]
  rfl

theorem route_of_not_compliant (h : ¬ Compliant e order ctx nowMs) (auditId : String) :
    ∃ reason, route e order ctx nowMs auditId = makeRejectedFill order reason "" auditId 0 := by
  have hrej : (complianceDec e order ctx nowMs auditId).approved = false := by
    rw [← Bool.not_eq_true, complianceDec_approved_iff]
    exact h
  have haudit : (complianceDec e order ctx nowMs auditId).auditId = auditId := check_auditId
  refine ⟨"; ".intercalate
    ((complianceDec e order ctx nowMs auditId).violations.map (·.detail)), ?_⟩
  simp only [route, hrej, Bool.not_false, if_true, haudit]

end Route

end Intraday.Execution
