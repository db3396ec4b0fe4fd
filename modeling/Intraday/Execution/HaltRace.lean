import Intraday.Lib.Machine
import Intraday.Lib.Dict
import Intraday.Execution.Gate

/-!
# Intraday.Execution.HaltRace — the kill switch against a running submission

`KillSwitchManager.trigger` sets the halted flag while a submission is under way. The
two are interleaved call by call, with a Redis that answers truthfully and an
environment that is otherwise arbitrary. `submit` reads the flag once, before
compliance, so the submission is exposed from that read to the end of its loop: the
`InWindow` points. A trigger outside the window is always obeyed, and one inside it can
always be followed by an attempt.
-/

namespace Intraday.Execution

open Intraday.Core Intraday.Lib Intraday.Lib.Proc Intraday.Compliance

/-! ## The shared state -/

/-- `KillSwitchTrigger`. -/
inductive KillSwitchTrigger where
  | tier1CircuitBreaker
  | tier2ExternalApi
  | tier3Heartbeat
deriving DecidableEq, Repr

/-- `int(trigger_type.value[4])`. -/
def KillSwitchTrigger.tier : KillSwitchTrigger → ℕ
  | .tier1CircuitBreaker => 1
  | .tier2ExternalApi => 2
  | .tier3Heartbeat => 3

/-- `KillSwitchManager.trigger` on its Redis. Only the first of the three keys is read by
a submission, so the three writes are one step. -/
def trigger (kind : KillSwitchTrigger) (reason : String) (redis : Dict String String) :
    Dict String String :=
  ((redis.set killSwitchHaltedKey "true").set killSwitchTierKey (toString kind.tier)).set
    killSwitchReasonKey reason

/-- `redis.get` of a client that returns bytes. -/
def redisGet (redis : Dict String String) (key : String) : GetOutcome :=
  match redis.get? key with
  | some value => .bytes value.toByteArray
  | none => .missing

/-- The halted flag is set. -/
def Halted (redis : Dict String String) : Prop := redis.get? killSwitchHaltedKey = some "true"

theorem halted_trigger (kind : KillSwitchTrigger) (reason : String) (redis : Dict String String) :
    Halted (trigger kind reason redis) := by
  rw [Halted, trigger, Dict.get?_set_of_ne _ _ (by decide), Dict.get?_set_of_ne _ _ (by decide),
    Dict.get?_set_self]

/-- The pre-check reads the flag as it is. -/
theorem isHalted_redisGet {redis : Dict String String} :
    isHalted (redisGet redis killSwitchHaltedKey) = true ↔ Halted redis := by
  unfold redisGet Halted
  cases redis.get? killSwitchHaltedKey with
  | none => simp [isHalted, readFlag]
  | some value => simp [isHalted, readFlag]

/-- An environment whose Redis holds `redis`. -/
def withRedis (redis : Dict String String) (env : (c : Call) → Answer c) : (c : Call) → Answer c
  | .redisGet key => redisGet redis key
  | c => env c

/-! ## The interleaving -/

/-- What is left of the submission, and the Redis it shares with the kill switch. -/
structure Race where
  prog : Program
  redis : Dict String String

/-- A step of either party: a trigger, or the next call of the submission, answered by
`env`. -/
inductive Move where
  | trigger (kind : KillSwitchTrigger) (reason : String)
  | engine (env : (c : Call) → Answer c)

/-- The move is a trigger. -/
def Move.IsTrigger : Move → Prop
  | .trigger _ _ => True
  | .engine _ => False

/-- The interleaving. A move of the submission replies with the call it makes. -/
def race : Machine Race Move (Option Call) where
  step s
    | .trigger kind reason => ({ s with redis := trigger kind reason s.redis }, none)
    | .engine env => ({ s with prog := s.prog.advance (withRedis s.redis env) }, s.prog.nextCall)

/-- In this step an attempt starts, and the flag is set. -/
def AttemptWhileHalted (t : Trans Race Move (Option Call)) : Prop :=
  (∃ tagged, t.reply = some (.placeOrder tagged)) ∧ Halted t.pre.redis

/-! ## The window -/

section Window

variable {e : ExecutionEngine} {order : OrderIntent} {ctx : Context} {p : Program}

/-- The points of a submission between its read of the halted flag and the end of its
loop, for an order that goes to the broker. A submission that does not read the flag is in
the window from the start. -/
inductive InWindow (e : ExecutionEngine) (order : OrderIntent) (ctx : Context) :
    Program → Prop where
  | clock (hreads : ¬ ReadsFlag e order) (hnow : ctx.nowMs = none) (hcan : CanPlace e order ctx) :
      InWindow e order ctx (submit e order ctx)
  | compliance {nowMs : ℤ} (hcomp : Compliant e order ctx nowMs) (hretries : 0 ≤ e.maxRetries) :
      InWindow e order ctx (gate e order ctx nowMs)
  | attempt {auditId : String} {left attempt : ℕ} {lastError : String} :
      InWindow e order ctx ((ticket e order auditId).attemptLoop (left + 1) attempt lastError)
  | placing {auditId : String} {left attempt : ℕ} :
      InWindow e order ctx ((ticket e order auditId).place left attempt
        fun exc => (ticket e order auditId).attemptLoop left attempt exc)
  | backoff {auditId : String} {left attempt : ℕ} {lastError : String} :
      InWindow e order ctx ((ticket e order auditId).backoff attempt
        ((ticket e order auditId).attemptLoop (left + 1) attempt lastError))
  | sleeping {auditId : String} {seconds : ℚ≥0} {left attempt : ℕ} {lastError : String} :
      InWindow e order ctx (.call (.sleep seconds) fun _ =>
        (ticket e order auditId).attemptLoop (left + 1) attempt lastError)

/-- No attempt can follow. -/
def NoPlace (p : Program) : Prop := p.OnlyCalls fun c => ¬ IsPlace c

/-- The flag is still to be read. -/
def Unread (e : ExecutionEngine) (order : OrderIntent) (ctx : Context) (p : Program) : Prop :=
  ReadsFlag e order ∧ (p = submit e order ctx ∨ ∃ nowMs, p = precheck e order ctx nowMs)

theorem NoPlace.of_settling (h : p.OnlyCalls IsSettling) : NoPlace p :=
  h.mono fun _ hc hplace => hc.not_isBroker hplace.isBroker

/-- Compliance rejects the order, or `max_retries` allows no attempt. -/
theorem gate_noPlace {nowMs : ℤ} (h : ¬ (Compliant e order ctx nowMs ∧ 0 ≤ e.maxRetries)) :
    NoPlace (gate e order ctx nowMs) := by
  refine ⟨id, ?_⟩
  intro auditId
  by_cases hcomp : Compliant e order ctx nowMs
  · have hretries : e.maxRetries < 0 := not_le.mp fun h0 => h ⟨hcomp, h0⟩
    rw [route_of_compliant hcomp, attempts_eq_zero_iff.mpr hretries]
    exact NoPlace.of_settling (Ticket.deadLetter_settles _ _ _)
  · rcases route_of_not_compliant hcomp auditId with ⟨reason, heq⟩
    rw [heq]
    exact NoPlace.of_settling (makeRejectedFill_settles _ _ _ _ _)

/-- Compliance leads into the window, or to a rejection. -/
theorem gate_inWindow_or (nowMs : ℤ) :
    InWindow e order ctx (gate e order ctx nowMs) ∨ NoPlace (gate e order ctx nowMs) := by
  by_cases h : Compliant e order ctx nowMs ∧ 0 ≤ e.maxRetries
  · exact .inl (.compliance h.1 h.2)
  · exact .inr (gate_noPlace h)

theorem noPlace_ret (a : Except String FillReport) : NoPlace (.ret a) := trivial

/-- The loop of the submission, with `left` attempts after this one. -/
def retryLoop (e : ExecutionEngine) (order : OrderIntent) (auditId : String) (left attempt : ℕ) :
    String → Program := fun exc => (ticket e order auditId).attemptLoop left attempt exc

/-- After an error the loop goes on, or it is over. -/
theorem onError_inWindow_or {auditId : String} {left attempt : ℕ} (err : BrokerError) :
    InWindow e order ctx ((ticket e order auditId).onError left attempt
        (retryLoop e order auditId left attempt) err) ∨
      NoPlace ((ticket e order auditId).onError left attempt
        (retryLoop e order auditId left attempt) err) := by
  cases err with
  | permanent exc => exact .inr (.of_settling (Ticket.deadLetter_settles _ _ _))
  | transient exc =>
      cases left with
      | zero => exact .inr (.of_settling (Ticket.deadLetter_settles _ _ _))
      | succ left => exact .inl .backoff
  | other exc => exact .inr (noPlace_ret _)

theorem afterPlace_inWindow_or {auditId : String} {left attempt : ℕ}
    (res : Except BrokerError FillReport) :
    InWindow e order ctx ((ticket e order auditId).afterPlace left attempt
        (retryLoop e order auditId left attempt) res) ∨
      NoPlace ((ticket e order auditId).afterPlace left attempt
        (retryLoop e order auditId left attempt) res) := by
  cases res with
  | ok fill => exact .inr (noPlace_ret _)
  | error err => exact onError_inWindow_or err

theorem afterQuery_inWindow_or {auditId : String} {left attempt : ℕ}
    (res : Except BrokerError (Option FillReport)) :
    InWindow e order ctx ((ticket e order auditId).afterQuery left attempt
        (retryLoop e order auditId left attempt) res) ∨
      NoPlace ((ticket e order auditId).afterQuery left attempt
        (retryLoop e order auditId left attempt) res) := by
  match res with
  | .ok (some existing) => exact .inr (noPlace_ret _)
  | .ok none => exact .inl .placing
  | .error err => exact onError_inWindow_or err

/-- From the window a call leads into the window, or out of the loop. -/
theorem InWindow.advance (h : InWindow e order ctx p) (env : (c : Call) → Answer c) :
    InWindow e order ctx (p.advance env) ∨ NoPlace (p.advance env) := by
  cases h with
  | clock hreads hnow hcan =>
      have hadv : (submit e order ctx).advance env = gate e order ctx (env .timeMs) := by
        rw [submit, hnow]
        exact precheck_of_not_reads hreads _
      rw [hadv]
      exact gate_inWindow_or _
  | @compliance nowMs hcomp hretries =>
      -- the audit id is drawn, and the loop starts
      have hadv : (gate e order ctx nowMs).advance env =
          route e order ctx nowMs (env .newAuditId) := rfl
      rcases exists_attempts_eq_succ hretries with ⟨left, hleft⟩
      rw [hadv, route_of_compliant hcomp, hleft]
      exact .inl .attempt
  | @attempt auditId left attempt lastError =>
      rw [Ticket.attemptLoop, Ticket.attemptOnce]
      by_cases hretry : 1 < attempt + 1
      · rw [if_pos hretry]
        exact afterQuery_inWindow_or _
      · -- the first attempt has nothing to query for
        rw [if_neg hretry]
        exact afterPlace_inWindow_or _
  | placing => exact afterPlace_inWindow_or _
  | backoff => exact .inl .sleeping
  | @sleeping auditId seconds left attempt lastError =>
      left
      show InWindow e order ctx
        ((ticket e order auditId).attemptLoop (left + 1) attempt lastError)
      exact .attempt

/-- Before its read of the flag, a submission that finds the flag set is rejected. -/
theorem Unread.advance (h : Unread e order ctx p) (redis : Dict String String)
    (env : (c : Call) → Answer c) :
    Unread e order ctx (p.advance (withRedis redis env)) ∨
      NoPlace (p.advance (withRedis redis env)) ∨
      (InWindow e order ctx (p.advance (withRedis redis env)) ∧ ¬ Halted redis) := by
  rcases h with ⟨hreads, hp⟩
  -- the step that reads the flag
  have hread : ∀ nowMs,
      NoPlace ((precheck e order ctx nowMs).advance (withRedis redis env)) ∨
        (InWindow e order ctx ((precheck e order ctx nowMs).advance (withRedis redis env)) ∧
          ¬ Halted redis) := by
    intro nowMs
    rw [precheck_of_reads hreads]
    by_cases hhalted : Halted redis
    · left
      show NoPlace (if isHalted (redisGet redis killSwitchHaltedKey) = true then _ else _)
      rw [if_pos (isHalted_redisGet.mpr hhalted)]
      exact .of_settling (makeRejectedFill_settles _ _ _ _ _)
    · show NoPlace (if isHalted (redisGet redis killSwitchHaltedKey) = true then _ else _) ∨
        (InWindow e order ctx
          (if isHalted (redisGet redis killSwitchHaltedKey) = true then _ else _) ∧ _)
      rw [if_neg (fun h => hhalted (isHalted_redisGet.mp h))]
      obtain hwin | hno : InWindow e order ctx (gate e order ctx nowMs) ∨
          NoPlace (gate e order ctx nowMs) := gate_inWindow_or nowMs
      · exact .inr ⟨hwin, hhalted⟩
      · exact .inl hno
  rcases hp with rfl | ⟨nowMs, rfl⟩
  · cases hnow : ctx.nowMs with
    | none =>
        refine .inl ⟨hreads, .inr ⟨withRedis redis env .timeMs, ?_⟩⟩
        rw [submit, hnow]
        rfl
    | some nowMs =>
        have heq : submit e order ctx = precheck e order ctx nowMs := by rw [submit, hnow]
        rw [heq]
        exact .inr (hread nowMs)
  · exact .inr (hread nowMs)

/-- The calls at which a submission is in the window. -/
def IsWindowCall : Call → Prop
  | .newAuditId => True
  | .placeOrder _ => True
  | .queryOrder _ => True
  | .uniform _ _ => True
  | .sleep _ => True
  | _ => False

/-- The window opens after the read: a submission that reads the flag is not in it at its
clock reading. -/
theorem InWindow.nextCall (h : InWindow e order ctx p) (hreads : ReadsFlag e order) :
    ∃ c, p.nextCall = some c ∧ IsWindowCall c := by
  cases h with
  | clock hnot => exact absurd hreads hnot
  | compliance => exact ⟨_, rfl, trivial⟩
  | @attempt auditId left attempt lastError =>
      rw [Ticket.attemptLoop, Ticket.attemptOnce]
      split
      · exact ⟨_, rfl, trivial⟩
      · exact ⟨_, rfl, trivial⟩
  | placing => exact ⟨_, rfl, trivial⟩
  | backoff => exact ⟨_, rfl, trivial⟩
  | sleeping => exact ⟨_, rfl, trivial⟩

/-- Before its read of the flag, a submission reads the clock or the flag. -/
theorem Unread.nextCall (h : Unread e order ctx p) :
    ∃ c, p.nextCall = some c ∧ ¬ IsWindowCall c := by
  rcases h with ⟨hreads, hp⟩
  have hpre : ∀ nowMs, (precheck e order ctx nowMs).nextCall =
      some (.redisGet killSwitchHaltedKey) := by
    intro nowMs
    rw [precheck_of_reads hreads]
    rfl
  rcases hp with rfl | ⟨nowMs, rfl⟩
  · unfold submit
    cases ctx.nowMs with
    | none => exact ⟨.timeMs, rfl, id⟩
    | some nowMs => exact ⟨_, hpre nowMs, id⟩
  · exact ⟨_, hpre nowMs, id⟩

/-- A submission that has not read the flag yet is not in the window. -/
theorem Unread.not_inWindow (h : Unread e order ctx p) : ¬ InWindow e order ctx p := by
  intro hwin
  rcases hwin.nextCall h.1 with ⟨c, hcall, hc⟩
  rcases h.nextCall with ⟨c', hcall', hc'⟩
  exact hc' (Option.some.inj (hcall.symm.trans hcall') ▸ hc)

end Window

/-! ## Triggers outside the window -/

section Runs

variable {e : ExecutionEngine} {order : OrderIntent} {ctx : Context} {s : Race}

/-- The invariant of an interleaving whose triggers keep out of the window. -/
def Obeyed (e : ExecutionEngine) (order : OrderIntent) (ctx : Context) (s : Race) : Prop :=
  Unread e order ctx s.prog ∨ NoPlace s.prog ∨ (InWindow e order ctx s.prog ∧ ¬ Halted s.redis)

theorem race_engine (env : (c : Call) → Answer c) :
    race.next s (.engine env) = { s with prog := s.prog.advance (withRedis s.redis env) } := rfl

theorem init_obeyed {redis : Dict String String} (hstart : ¬ Halted redis) :
    Obeyed e order ctx ⟨submit e order ctx, redis⟩ := by
  by_cases hreads : ReadsFlag e order
  · exact .inl ⟨hreads, .inl rfl⟩
  · -- the flag is never read: in the window from the start, if the order can be placed
    suffices h : InWindow e order ctx (submit e order ctx) ∨ NoPlace (submit e order ctx) by
      rcases h with hwin | hno
      · exact .inr (.inr ⟨hwin, hstart⟩)
      · exact .inr (.inl hno)
    cases hnow : ctx.nowMs with
    | some nowMs =>
        have heq : submit e order ctx = gate e order ctx nowMs := by
          rw [submit, hnow]
          exact precheck_of_not_reads hreads nowMs
        rw [heq]
        exact gate_inWindow_or nowMs
    | none =>
        by_cases hcan : CanPlace e order ctx
        · exact .inl (.clock hreads hnow hcan)
        · right
          rw [submit, hnow]
          refine ⟨id, ?_⟩
          intro nowMs
          rw [precheck_of_not_reads hreads]
          refine gate_noPlace fun h => hcan ⟨h.2, nowMs, ?_, h.1⟩
          intro t ht
          rw [hnow] at ht
          exact nomatch ht

/-- A trigger outside the window and every step of the submission keep it. -/
theorem step_obeyed (h : Obeyed e order ctx s) (m : Move)
    (htrigger : m.IsTrigger → ¬ InWindow e order ctx s.prog) :
    Obeyed e order ctx (race.next s m) := by
  cases m with
  | trigger kind reason =>
      rcases h with hun | hno | ⟨hwin, -⟩
      · exact .inl hun
      · exact .inr (.inl hno)
      · -- the one case in which the flag could appear unseen
        exact absurd hwin (htrigger trivial)
  | engine env =>
      rcases h with hun | hno | ⟨hwin, hhalted⟩
      · exact hun.advance s.redis env
      · exact .inr (.inl (OnlyCalls.advance _ hno))
      · rcases hwin.advance (withRedis s.redis env) with hwin' | hno
        · exact .inr (.inr ⟨hwin', hhalted⟩)
        · exact .inr (.inl hno)

/-- Where the invariant holds, an attempt starts only while the flag is not set. -/
theorem not_attempt_of_obeyed (h : Obeyed e order ctx s) (m : Move) :
    ¬ AttemptWhileHalted (race.fire s m) := by
  rintro ⟨⟨tagged, hreply⟩, hhalted⟩
  cases m with
  | trigger kind reason => exact nomatch hreply
  | engine env =>
      have hcall : s.prog.nextCall = some (.placeOrder tagged) := hreply
      rcases h with hun | hno | ⟨-, hnot⟩
      · -- the next call is a reading
        rcases hun.nextCall with ⟨c, hc, hnot⟩
        exact hnot (Option.some.inj (hcall.symm.trans hc) ▸ trivial)
      · exact OnlyCalls.nextCall hno hcall trivial
      · exact hnot hhalted

/-! ## Triggers inside the window -/

/-- Some continuation starts an attempt while the flag is set. -/
def CanAttempt (s : Race) : Prop := ∃ moves, ∃ t ∈ race.trans s moves, AttemptWhileHalted t

theorem canAttempt_of_next (m : Move) (h : CanAttempt (race.next s m)) : CanAttempt s := by
  rcases h with ⟨moves, t, ht, hattempt⟩
  exact ⟨m :: moves, t, List.mem_cons_of_mem _ ht, hattempt⟩

/-- An environment in which nothing goes wrong before `place_order`, with the clock at
`nowMs`. -/
def calmEnv (nowMs : ℤ) : (c : Call) → Answer c
  | .timeMs => nowMs
  | .newAuditId => "AUDIT"
  | .redisGet _ => .missing
  | .placeOrder _ => .error (.transient "read timed out")
  | .queryOrder _ => .ok none
  | .uniform low high => ⟨low, le_rfl, le_max_left low high⟩
  | .sleep _ => ()
  | .enqueue _ => .ok ()

theorem canAttempt_of_nextCall {tagged : TaggedOrder} (hhalted : Halted s.redis)
    (h : s.prog.nextCall = some (.placeOrder tagged)) : CanAttempt s :=
  ⟨[.engine (calmEnv 0)], _, List.mem_singleton_self _, ⟨tagged, h⟩, hhalted⟩

theorem canAttempt_placing {auditId : String} {left attempt : ℕ} {redis : Dict String String}
    (hhalted : Halted redis) (retry : String → Program) :
    CanAttempt ⟨(ticket e order auditId).place left attempt retry, redis⟩ :=
  canAttempt_of_nextCall hhalted rfl

theorem canAttempt_attempt {auditId : String} {left attempt : ℕ} {lastError : String}
    {redis : Dict String String} (hhalted : Halted redis) :
    CanAttempt ⟨(ticket e order auditId).attemptLoop (left + 1) attempt lastError, redis⟩ := by
  rw [Ticket.attemptLoop, Ticket.attemptOnce]
  by_cases hretry : 1 < attempt + 1
  · rw [if_pos hretry]
    -- the query finds nothing
    exact canAttempt_of_next (.engine (calmEnv 0)) (canAttempt_placing hhalted _)
  · rw [if_neg hretry]
    exact canAttempt_placing hhalted _

theorem canAttempt_compliance {nowMs : ℤ} {redis : Dict String String} (hhalted : Halted redis)
    (hcomp : Compliant e order ctx nowMs) (hretries : 0 ≤ e.maxRetries) :
    CanAttempt ⟨gate e order ctx nowMs, redis⟩ := by
  refine canAttempt_of_next (.engine (calmEnv 0)) ?_
  show CanAttempt ⟨route e order ctx nowMs "AUDIT", redis⟩
  rcases exists_attempts_eq_succ hretries with ⟨left, hleft⟩
  rw [route_of_compliant hcomp, hleft]
  exact canAttempt_attempt hhalted

/-- From every point of the window an attempt can start, whatever the flag says. -/
theorem InWindow.canAttempt {p : Program} (h : InWindow e order ctx p)
    {redis : Dict String String} (hhalted : Halted redis) : CanAttempt ⟨p, redis⟩ := by
  cases h with
  | clock hreads hnow hcan =>
      rcases hcan with ⟨hretries, nowMs, -, hcomp⟩
      refine canAttempt_of_next (.engine (calmEnv nowMs)) ?_
      have hadv : race.next ⟨submit e order ctx, redis⟩ (.engine (calmEnv nowMs)) =
          ⟨gate e order ctx nowMs, redis⟩ := by
        rw [race_engine, submit, hnow, ← precheck_of_not_reads hreads]
        rfl
      rw [hadv]
      exact canAttempt_compliance hhalted hcomp hretries
  | compliance hcomp hretries => exact canAttempt_compliance hhalted hcomp hretries
  | attempt => exact canAttempt_attempt hhalted
  | placing => exact canAttempt_placing hhalted _
  | @backoff auditId left attempt lastError =>
      -- jitter, sleep, attempt
      refine canAttempt_of_next (.engine (calmEnv 0)) (canAttempt_of_next (.engine (calmEnv 0)) ?_)
      show CanAttempt
        ⟨(ticket e order auditId).attemptLoop (left + 1) attempt lastError, redis⟩
      exact canAttempt_attempt hhalted
  | @sleeping auditId seconds left attempt lastError =>
      refine canAttempt_of_next (.engine (calmEnv 0)) ?_
      show CanAttempt
        ⟨(ticket e order auditId).attemptLoop (left + 1) attempt lastError, redis⟩
      exact canAttempt_attempt hhalted

/-- The kill switch against a submission. In every interleaving whose triggers keep out of
the window, no attempt starts while the flag is set; and every trigger inside the window
has a continuation in which one does. -/
theorem kill_switch_stops_attempts (e : ExecutionEngine) (order : OrderIntent) (ctx : Context)
    (redis : Dict String String) (hstart : ¬ Halted redis) :
    (∀ moves,
      (∀ t ∈ race.trans ⟨submit e order ctx, redis⟩ moves,
        t.op.IsTrigger → ¬ InWindow e order ctx t.pre.prog) →
      ∀ t ∈ race.trans ⟨submit e order ctx, redis⟩ moves, ¬ AttemptWhileHalted t) ∧
    ∀ s, InWindow e order ctx s.prog → ∀ kind reason,
      ∃ moves, ∃ t ∈ race.trans s (.trigger kind reason :: moves), AttemptWhileHalted t := by
  constructor
  · intro moves hmoves t ht
    have hstep : ∀ (s : Race) (m : Move), Obeyed e order ctx s →
        (m.IsTrigger → ¬ InWindow e order ctx s.prog) → Obeyed e order ctx (race.next s m) :=
      fun s m hs hm => step_obeyed hs m hm
    rcases race.trans_invariant_of_allowed hstep (init_obeyed hstart) hmoves t ht with
      ⟨hinv, hfire⟩
    rw [hfire]
    exact not_attempt_of_obeyed hinv t.op
  · intro s hwin kind reason
    rcases hwin.canAttempt (halted_trigger kind reason s.redis) with ⟨moves, t, ht, hattempt⟩
    exact ⟨moves, t, List.mem_cons_of_mem _ ht, hattempt⟩

/-! ### A trigger before the read, and one during the back-off -/

/-- An order that goes through compliance on `PAPER`. -/
def racedOrder : OrderIntent :=
  { symbol := "BHP", exchange := "PAPER", direction := "LONG", orderType := "LIMIT", quantity := 10
    price := some 45, stopLoss := 44, strategyName := "ORB_BREAKOUT", clientOrderId := "ORD-9" }

/-- The submission of the order with one retry, on an empty Redis. -/
def racedStart : Race := ⟨submit (genericEngine 1) racedOrder { nowMs := some 0 }, Dict.empty⟩

/-- A trigger before the submission has read the flag is obeyed: whatever the submission
does then, no attempt starts. -/
theorem early_trigger_is_obeyed :
    ¬ Halted Dict.empty ∧
    ∀ t ∈ race.trans racedStart
      [.trigger .tier2ExternalApi "manual", .engine (calmEnv 0), .engine (calmEnv 0)],
      ¬ AttemptWhileHalted t := by
  refine ⟨nofun, (kill_switch_stops_attempts (genericEngine 1) racedOrder { nowMs := some 0 }
    Dict.empty nofun).1 _ ?_⟩
  intro t ht htrigger
  have hun : Unread (genericEngine 1) racedOrder { nowMs := some 0 } racedStart.prog :=
    ⟨⟨rfl, rfl⟩, .inl rfl⟩
  simp only [Machine.trans_cons, Machine.trans_nil, List.mem_cons, List.not_mem_nil,
    or_false] at ht
  rcases ht with rfl | rfl | rfl
  · exact hun.not_inWindow
  · exact htrigger.elim
  · exact htrigger.elim

/-- The first attempt times out, the switch is triggered during the back-off, and the
second attempt is made. -/
theorem attempt_after_halt :
    ¬ ∀ (e : ExecutionEngine) (order : OrderIntent) (ctx : Context) (redis : Dict String String)
      (moves : List Move), order.isPriority = false → ¬ Halted redis →
        ∀ t ∈ race.trans ⟨submit e order ctx, redis⟩ moves, ¬ AttemptWhileHalted t := by
  intro h
  have hcomp : Compliant (genericEngine 1) racedOrder { nowMs := some 0 } 0 :=
    violationsOf_other (by decide) (by decide)
  let loop := (ticket (genericEngine 1) racedOrder "AUDIT").attemptLoop
  -- the flag is read, compliance passes, the first attempt times out
  have hflag : race.next racedStart (.engine (calmEnv 0)) =
      ⟨gate (genericEngine 1) racedOrder { nowMs := some 0 } 0, Dict.empty⟩ := rfl
  have haudit : race.next ⟨gate (genericEngine 1) racedOrder { nowMs := some 0 } 0, Dict.empty⟩
      (.engine (calmEnv 0)) = ⟨loop 2 0 "", Dict.empty⟩ := by
    rw [race_engine]
    show (⟨route (genericEngine 1) racedOrder { nowMs := some 0 } 0 "AUDIT", Dict.empty⟩ : Race) = _
    rw [route_of_compliant hcomp]
    rfl
  have htimeout : race.next ⟨loop 2 0 "", Dict.empty⟩ (.engine (calmEnv 0)) =
      ⟨(ticket (genericEngine 1) racedOrder "AUDIT").backoff 1 (loop 1 1 "read timed out"),
        Dict.empty⟩ := rfl
  have hcan : CanAttempt racedStart := by
    refine canAttempt_of_next (.engine (calmEnv 0)) ?_
    rw [hflag]
    refine canAttempt_of_next (.engine (calmEnv 0)) ?_
    rw [haudit]
    refine canAttempt_of_next (.engine (calmEnv 0)) ?_
    rw [htimeout]
    refine canAttempt_of_next (.trigger .tier1CircuitBreaker "daily loss") ?_
    have hwin : InWindow (genericEngine 1) racedOrder { nowMs := some 0 }
        ((ticket (genericEngine 1) racedOrder "AUDIT").backoff 1 (loop 1 1 "read timed out")) :=
      .backoff
    exact hwin.canAttempt (halted_trigger _ _ _)
  rcases hcan with ⟨moves, t, ht, hattempt⟩
  exact h (genericEngine 1) racedOrder { nowMs := some 0 } Dict.empty moves rfl nofun t ht hattempt

end Runs

end Intraday.Execution
