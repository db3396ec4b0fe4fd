import Intraday.Lib.Machine
import Mathlib.Data.List.Count

/-!
# Intraday.Auth.Scheduler — `shared/auth/scheduler.py`

A timer that calls back once a day and then sets up the next timer. One thread calls `start` and
`stop`, every timer fires in a thread of its own, and nothing is locked: while a callback runs, or
just before its thread sets up the next timer, the other thread may stop the scheduler and start it
again.

`orderly_run`: as long as a start finds no thread that is left over, and no stop comes between the
check of a thread and its new timer, there is one chain of timers while the scheduler runs and none
after it was stopped, and no day's refresh is called back twice. In any other run what is left over
after a stop ends with one more callback each (`callbacks_after_stop`).
-/

namespace Intraday.Auth.Scheduler

open Intraday.Lib

/-! ## The next refresh -/

/-- A day in microseconds. -/
def dayUs : ℕ := 86400000000

/-- How far the clocks of India are ahead of UTC; they are not changed in summer. -/
def istOffsetUs : ℕ := 19800000000

/-- The time of day at which a scheduler refreshes. -/
structure RefreshTime where
  hour : Fin 24
  minute : Fin 60

/-- The same since midnight. -/
def RefreshTime.us (r : RefreshTime) : ℕ := (60 * r.hour.val + r.minute.val) * 60000000

/-- `_seconds_until`, in microseconds. -/
def usUntil (r : RefreshTime) (now : ℕ) : ℕ :=
  let ist := now + istOffsetUs
  let target := ist - ist % dayUs + r.us
  if target ≤ ist then target + dayUs - ist else target - ist

/-- The clocks of India show the time of the refresh. -/
def IsRefresh (r : RefreshTime) (t : ℕ) : Prop := (t + istOffsetUs) % dayUs = r.us

theorem RefreshTime.us_lt (r : RefreshTime) : r.us < dayUs := by
  have hhour := r.hour.isLt
  have hminute := r.minute.isLt
  unfold RefreshTime.us dayUs
  omega

/-- The wait ends at the first refresh that is later than now. -/
theorem usUntil_spec (r : RefreshTime) (now : ℕ) :
    0 < usUntil r now ∧ usUntil r now ≤ dayUs ∧ IsRefresh r (now + usUntil r now) := by
  have hr := r.us_lt
  unfold IsRefresh usUntil
  simp only
  unfold dayUs at *
  split <;> omega

/-! ## The threads -/

/-- Where the thread of a timer is: it waits, was cancelled, runs the callback, is about to set up
the next timer, or has ended. -/
inductive Phase where
  | waiting
  | cancelled
  | calling
  | scheduling
  | finished
deriving DecidableEq

/-- The thread may still call back or set up a timer. -/
def Phase.Live (p : Phase) : Prop := p = .waiting ∨ p = .calling ∨ p = .scheduling

instance (p : Phase) : Decidable p.Live := inferInstanceAs (Decidable (_ ∨ _ ∨ _))

/-- The callback of the timer was begun. -/
def Phase.Fired (p : Phase) : Prop := p = .calling ∨ p = .scheduling ∨ p = .finished

/-- A `threading.Timer`: when it is due, and its thread. -/
structure Timer where
  due : ℕ
  phase : Phase
deriving DecidableEq

/-- Where the thread is that calls `start` and `stop`: in `start` about to set up a timer, in
`stop` before or after the cancellation, or in neither. -/
inductive Control where
  | idle
  | starting
  | stopping
  | clearing
deriving DecidableEq

/-- `DailyRefreshScheduler`, with the clock and all timers so far in their order. `timer` is the
place of `self._timer` among them. -/
structure DailyRefreshScheduler where
  now : ℕ
  running : Bool
  timer : Option ℕ
  timers : List Timer
  control : Control

/-- Time passes, `start` or `stop` is called, or a thread goes on. -/
inductive Op where
  | tick (us : ℕ)
  | start
  | stop
  | control
  | timer (i : ℕ)
deriving DecidableEq

namespace DailyRefreshScheduler

variable (r : RefreshTime)

/-- `DailyRefreshScheduler(callback, hour, minute)`. -/
def new (now : ℕ) : DailyRefreshScheduler :=
  { now := now, running := false, timer := none, timers := [], control := .idle }

/-- The thread of a timer comes to a place. -/
def setPhase (s : DailyRefreshScheduler) (i : ℕ) (t : Timer) (phase : Phase) :
    DailyRefreshScheduler :=
  { s with timers := s.timers.set i { t with phase := phase } }

/-- `_schedule_next`, after its check. -/
def schedule (s : DailyRefreshScheduler) : DailyRefreshScheduler :=
  { s with
    timers := s.timers ++ [{ due := s.now + usUntil r s.now, phase := .waiting }]
    timer := some s.timers.length }

/-- `self._timer.cancel()`: a timer that has fired goes on. -/
def cancel (s : DailyRefreshScheduler) (i : ℕ) : DailyRefreshScheduler :=
  match s.timers[i]? with
  | some t => if t.phase = .waiting then s.setPhase i t .cancelled else s
  | none => s

/-- The thread of a timer goes on. The end of the callback and the check after it are one step:
the end alone changes nothing. -/
def goOn (s : DailyRefreshScheduler) (i : ℕ) : DailyRefreshScheduler :=
  match s.timers[i]? with
  | none => s
  | some t =>
      match t.phase with
      | .waiting => if t.due ≤ s.now then s.setPhase i t .calling else s
      | .calling => s.setPhase i t (if s.running then .scheduling else .finished)
      | .scheduling => (s.setPhase i t .finished).schedule r
      | .cancelled | .finished => s

/-- The controlling thread goes on. -/
def goOnControl (s : DailyRefreshScheduler) : DailyRefreshScheduler :=
  match s.control with
  | .idle => s
  | .starting => { s.schedule r with control := .idle }
  | .stopping =>
      match s.timer with
      | none => { s with control := .idle }
      | some i => { s.cancel i with control := .clearing }
  | .clearing => { s with timer := none, control := .idle }

/-- One step. A thread that is in `start` or `stop` calls neither. -/
def step (s : DailyRefreshScheduler) : Op → DailyRefreshScheduler
  | .tick us => { s with now := s.now + us }
  | .start =>
      if s.control = .idle ∧ s.running = false then
        { s with running := true, control := .starting }
      else s
  | .stop => if s.control = .idle then { s with running := false, control := .stopping } else s
  | .control => s.goOnControl r
  | .timer i => s.goOn r i

end DailyRefreshScheduler

/-- The scheduler as a machine. -/
def scheduler (r : RefreshTime) : Machine DailyRefreshScheduler Op Unit where
  step s op := (s.step r op, ())

open DailyRefreshScheduler

/-! ## Which timers there are -/

variable {r : RefreshTime} {s : DailyRefreshScheduler} {i j : ℕ} {t u : Timer}

theorem getElem?_setPhase (h : s.timers[i]? = some t) (p : Phase) (j : ℕ) :
    (s.setPhase i t p).timers[j]? = if i = j then some { t with phase := p } else s.timers[j]? := by
  have hi := (List.getElem?_eq_some_iff.mp h).1
  show (s.timers.set i _)[j]? = _
  rw [List.getElem?_set, if_pos hi]

theorem length_setPhase (s : DailyRefreshScheduler) (i : ℕ) (t : Timer) (p : Phase) :
    (s.setPhase i t p).timers.length = s.timers.length := List.length_set

/-- The timer that is set up comes after the others. -/
theorem getElem?_schedule :
    (s.schedule r).timers[j]? = some u ↔ s.timers[j]? = some u ∨
      j = s.timers.length ∧ u = { due := s.now + usUntil r s.now, phase := .waiting } := by
  show (s.timers ++ [_])[j]? = some u ↔ _
  rw [List.getElem?_append]
  by_cases hj : j < s.timers.length
  · rw [if_pos hj]
    constructor
    · exact .inl
    · rintro (h | ⟨rfl, -⟩)
      · exact h
      · exact absurd hj (Nat.lt_irrefl _)
  · have hnone : s.timers[j]? = none := List.getElem?_eq_none (Nat.not_lt.mp hj)
    rw [if_neg hj, hnone]
    constructor
    · intro h
      have hzero := (List.getElem?_eq_some_iff.mp h).1
      rw [List.length_singleton] at hzero
      have hlast : j = s.timers.length := by omega
      subst hlast
      rw [Nat.sub_self, List.getElem?_cons_zero] at h
      exact .inr ⟨rfl, (Option.some.inj h).symm⟩
    · rintro (h | ⟨rfl, rfl⟩)
      · cases h
      · rw [Nat.sub_self, List.getElem?_cons_zero]

theorem length_schedule : (s.schedule r).timers.length = s.timers.length + 1 :=
  List.length_append

/-! ## One chain -/

/-- Only the last timer is live, and it is the one that `stop` cancels. -/
structure OneChain (s : DailyRefreshScheduler) : Prop where
  last : ∀ (i : ℕ) (t : Timer), s.timers[i]? = some t → t.phase.Live → i + 1 = s.timers.length
  starting : s.control = .starting →
    s.running = true ∧ ∀ (i : ℕ) (t : Timer), s.timers[i]? = some t → ¬ t.phase.Live
  stopping : s.control = .stopping ∨ s.control = .clearing → s.running = false
  waiting : ∀ (i : ℕ) (t : Timer), s.timers[i]? = some t → t.phase = .waiting →
    s.timer = some i ∧ (s.running = true ∨ s.control = .stopping)
  scheduling : ∀ (i : ℕ) (t : Timer), s.timers[i]? = some t → t.phase = .scheduling →
    s.running = true
  alive : s.running = true →
    s.control = .starting ∨ ∃ (i : ℕ) (t : Timer), s.timers[i]? = some t ∧ t.phase.Live

theorem OneChain.unique (h : OneChain s) (hi : s.timers[i]? = some t) (ht : t.phase.Live)
    (hj : s.timers[j]? = some u) (hu : u.phase.Live) : i = j := by
  have hlast := h.last i t hi ht
  have hlast' := h.last j u hj hu
  omega

theorem oneChain_new (now : ℕ) : OneChain (new now) where
  last _ _ h := nomatch h
  starting h := nomatch h
  stopping _ := rfl
  waiting _ _ h := nomatch h
  scheduling _ _ h := nomatch h
  alive h := nomatch h

/-- A start finds no thread that is left over, and no stop comes between the check of a thread and
its new timer. -/
def Undisturbed (s : DailyRefreshScheduler) : Op → Prop
  | .start => s.control = .idle → s.running = false → ∀ t ∈ s.timers, ¬ t.phase.Live
  | .stop => s.control = .idle → ∀ t ∈ s.timers, t.phase ≠ .scheduling
  | _ => True

instance (s : DailyRefreshScheduler) : (op : Op) → Decidable (Undisturbed s op)
  | .start => inferInstanceAs (Decidable (_ → _ → ∀ t ∈ s.timers, _))
  | .stop => inferInstanceAs (Decidable (_ → ∀ t ∈ s.timers, _))
  | .tick _ => isTrue trivial
  | .control => isTrue trivial
  | .timer _ => isTrue trivial

/-- The live timer comes to another place, or ends while nothing runs. -/
theorem OneChain.setPhase (h : OneChain s) (hi : s.timers[i]? = some t) (hlive : t.phase.Live)
    {p : Phase} (hwaiting : p ≠ .waiting) (hscheduling : p = .scheduling → s.running = true)
    (halive : s.running = true → p.Live) : OneChain (s.setPhase i t p) := by
  have hget := getElem?_setPhase hi p
  refine ⟨?_, ?_, h.stopping, ?_, ?_, ?_⟩
  · intro j u hj hu
    rw [length_setPhase]
    rw [hget] at hj
    split at hj
    · rename_i hij
      exact hij ▸ h.last i t hi hlive
    · exact h.last j u hj hu
  · intro hstarting
    exact absurd hlive ((h.starting hstarting).2 i t hi)
  · intro j u hj hu
    rw [hget] at hj
    split at hj
    · obtain rfl := Option.some.inj hj
      exact absurd hu hwaiting
    · exact h.waiting j u hj hu
  · intro j u hj hu
    rw [hget] at hj
    split at hj
    · obtain rfl := Option.some.inj hj
      exact hscheduling hu
    · exact h.scheduling j u hj hu
  · intro hrunning
    exact .inr ⟨i, _, by rw [hget, if_pos rfl], halive hrunning⟩

/-- A timer is set up while none is live. -/
theorem OneChain.schedule (hnone : ∀ (i : ℕ) (t : Timer), s.timers[i]? = some t → ¬ t.phase.Live)
    (hrunning : s.running = true) (hcontrol : s.control = .idle) :
    OneChain (s.schedule r) := by
  have hnew : ∀ j u, (s.schedule r).timers[j]? = some u → u.phase.Live →
      j = s.timers.length ∧ u.phase = .waiting := by
    intro j u hj hu
    rcases getElem?_schedule.mp hj with hold | ⟨rfl, rfl⟩
    · exact absurd hu (hnone j u hold)
    · exact ⟨rfl, rfl⟩
  refine ⟨?_, ?_, ?_, ?_, ?_, ?_⟩
  · intro j u hj hu
    rw [(hnew j u hj hu).1, length_schedule]
  · intro hstarting
    exact nomatch hcontrol.symm.trans hstarting
  · rintro (hstop | hstop)
    · exact nomatch hcontrol.symm.trans hstop
    · exact nomatch hcontrol.symm.trans hstop
  · intro j u hj hu
    rw [(hnew j u hj (.inl hu)).1]
    exact ⟨rfl, .inl hrunning⟩
  · intro j u hj hu
    exact hrunning
  · intro _
    exact .inr ⟨s.timers.length, _, getElem?_schedule.mpr (.inr ⟨rfl, rfl⟩), .inl rfl⟩

theorem OneChain.goOn (h : OneChain s) (i : ℕ) : OneChain (s.goOn r i) := by
  rw [DailyRefreshScheduler.goOn]
  split
  · exact h
  · rename_i t hi
    cases hphase : t.phase with
    | waiting =>
        dsimp only
        split
        · exact h.setPhase hi (.inl hphase) (fun hp => nomatch hp) (fun hp => nomatch hp)
            (fun _ => .inr (.inl rfl))
        · exact h
    | calling =>
        dsimp only
        cases hrunning : s.running with
        | true =>
            exact h.setPhase hi (.inr (.inl hphase)) (fun hp => nomatch hp) (fun _ => hrunning)
              (fun _ => .inr (.inr rfl))
        | false =>
            refine h.setPhase hi (.inr (.inl hphase)) (fun hp => nomatch hp)
              (fun hp => nomatch hp) ?_
            intro hrun
            exact nomatch hrunning.symm.trans hrun
    | scheduling =>
        have hlive : t.phase.Live := .inr (.inr hphase)
        have hrunning := h.scheduling i t hi hphase
        refine OneChain.schedule ?_ hrunning ?_
        · -- the thread that ends was the only live one
          intro j u hj hu
          rw [getElem?_setPhase hi] at hj
          split at hj
          · obtain rfl := Option.some.inj hj
            have hfinished : Phase.finished.Live := hu
            revert hfinished
            decide
          · rename_i hne
            exact hne (h.unique hi hlive hj hu)
        · show s.control = .idle
          cases hcontrol : s.control with
          | idle => rfl
          | starting => exact absurd hlive ((h.starting hcontrol).2 i t hi)
          | stopping => exact nomatch hrunning.symm.trans (h.stopping (.inl hcontrol))
          | clearing => exact nomatch hrunning.symm.trans (h.stopping (.inr hcontrol))
    | cancelled => exact h
    | finished => exact h

/-- A scheduler that was stopped, and has no thread that waits or is about to set up a timer. -/
theorem OneChain.of_stopped
    (hlast : ∀ (i : ℕ) (t : Timer), s.timers[i]? = some t → t.phase.Live →
      i + 1 = s.timers.length)
    (hstopped : s.running = false) (hcontrol : s.control ≠ .starting)
    (hnone : ∀ (i : ℕ) (t : Timer), s.timers[i]? = some t →
      t.phase ≠ .waiting ∧ t.phase ≠ .scheduling) : OneChain s where
  last := hlast
  starting h := absurd h hcontrol
  stopping _ := hstopped
  waiting i t hi h := absurd h (hnone i t hi).1
  scheduling i t hi h := absurd h (hnone i t hi).2
  alive h := nomatch hstopped.symm.trans h

/-- While nothing runs, no thread is about to set up a timer. -/
theorem OneChain.not_scheduling (h : OneChain s) (hstopped : s.running = false)
    (hi : s.timers[i]? = some t) : t.phase ≠ .scheduling :=
  fun hphase => nomatch hstopped.symm.trans (h.scheduling i t hi hphase)

/-- In `stop`, the timer that waits is the one that is cancelled. -/
theorem OneChain.cancelled (h : OneChain s) (hcontrol : s.control = .stopping)
    (htimer : s.timer = some i) : OneChain { s.cancel i with control := .clearing } := by
  have hstopped := h.stopping (.inl hcontrol)
  have hother : ∀ (j : ℕ) (u : Timer), s.timers[j]? = some u → u.phase = .waiting → j = i := by
    intro j u hj hu
    have hj' := (h.waiting j u hj hu).1
    rw [htimer] at hj'
    exact (Option.some.inj hj').symm
  rw [cancel]
  split
  · rename_i t hi
    split
    · rename_i hwaits
      have hp := h.setPhase (p := .cancelled) hi (.inl hwaits) (fun hp => nomatch hp)
        (fun hp => nomatch hp) (fun hrun => nomatch hstopped.symm.trans hrun)
      refine OneChain.of_stopped hp.last hstopped (fun hc => nomatch hc) ?_
      intro j u hj
      refine ⟨?_, hp.not_scheduling hstopped hj⟩
      intro hu
      rw [getElem?_setPhase hi] at hj
      split at hj
      · obtain rfl := Option.some.inj hj
        cases hu
      · rename_i hne
        exact hne (hother j u hj hu).symm
    · rename_i hwaits
      refine OneChain.of_stopped h.last hstopped (fun hc => nomatch hc) ?_
      intro j u hj
      refine ⟨?_, h.not_scheduling hstopped hj⟩
      intro hu
      obtain rfl := hother j u hj hu
      obtain rfl := Option.some.inj (hi.symm.trans hj)
      exact hwaits hu
  · rename_i hi
    refine OneChain.of_stopped h.last hstopped (fun hc => nomatch hc) ?_
    intro j u hj
    refine ⟨?_, h.not_scheduling hstopped hj⟩
    intro hu
    obtain rfl := hother j u hj hu
    exact nomatch hi.symm.trans hj

theorem OneChain.goOnControl (h : OneChain s) : OneChain (s.goOnControl r) := by
  rw [DailyRefreshScheduler.goOnControl]
  cases hcontrol : s.control with
  | idle => exact h
  | starting =>
      rcases h.starting hcontrol with ⟨hrunning, hnone⟩
      exact OneChain.schedule (s := { s with control := .idle }) hnone hrunning rfl
  | stopping =>
      dsimp only
      split
      · rename_i htimer
        have hstopped := h.stopping (.inl hcontrol)
        refine OneChain.of_stopped h.last hstopped (fun hc => nomatch hc) ?_
        intro j u hj
        refine ⟨?_, h.not_scheduling hstopped hj⟩
        intro hu
        exact nomatch htimer.symm.trans (h.waiting j u hj hu).1
      · rename_i i htimer
        exact h.cancelled hcontrol htimer
  | clearing =>
      have hstopped := h.stopping (.inr hcontrol)
      refine OneChain.of_stopped h.last hstopped (fun hc => nomatch hc) ?_
      intro j u hj
      refine ⟨?_, h.not_scheduling hstopped hj⟩
      intro hu
      rcases (h.waiting j u hj hu).2 with hrun | hstop
      · exact nomatch hstopped.symm.trans hrun
      · exact nomatch hcontrol.symm.trans hstop

theorem OneChain.next (h : OneChain s) (op : Op) (hop : Undisturbed s op) :
    OneChain ((scheduler r).next s op) := by
  show OneChain (s.step r op)
  cases op with
  | tick us => exact ⟨h.last, h.starting, h.stopping, h.waiting, h.scheduling, h.alive⟩
  | start =>
      rw [step]
      split
      · rename_i hidle
        have hnone : ∀ (i : ℕ) (t : Timer), s.timers[i]? = some t → ¬ t.phase.Live :=
          fun i t hi => hop hidle.1 hidle.2 t (List.mem_of_getElem? hi)
        refine ⟨h.last, fun _ => ⟨rfl, hnone⟩, ?_, ?_, ?_, fun _ => .inl rfl⟩
        · rintro (hc | hc) <;> cases hc
        · intro i t hi hphase
          exact absurd (.inl hphase) (hnone i t hi)
        · intro i t hi hphase
          exact absurd (.inr (.inr hphase)) (hnone i t hi)
      · exact h
  | stop =>
      rw [step]
      split
      · rename_i hidle
        refine ⟨h.last, (fun hc => nomatch hc), fun _ => rfl, ?_, ?_, (fun hrun => nomatch hrun)⟩
        · intro i t hi hphase
          exact ⟨(h.waiting i t hi hphase).1, .inr rfl⟩
        · intro i t hi hphase
          exact absurd hphase (hop hidle t (List.mem_of_getElem? hi))
      · exact h
  | control => exact h.goOnControl
  | timer i => exact h.goOn i

/-! ## On time -/

/-- Every timer is due at a refresh, no callback was early, and a timer that has fired was due
before all later ones. -/
structure Punctual (r : RefreshTime) (s : DailyRefreshScheduler) : Prop where
  refresh : ∀ (i : ℕ) (t : Timer), s.timers[i]? = some t → IsRefresh r t.due
  fired : ∀ (i : ℕ) (t : Timer), s.timers[i]? = some t → t.phase.Fired → t.due ≤ s.now
  order : ∀ (i j : ℕ) (t u : Timer), i < j → s.timers[i]? = some t → s.timers[j]? = some u →
    t.phase.Fired → t.due < u.due

theorem punctual_new (r : RefreshTime) (now : ℕ) : Punctual r (new now) where
  refresh _ _ h := nomatch h
  fired _ _ h := nomatch h
  order _ _ _ _ _ h := nomatch h

theorem Punctual.setPhase (h : Punctual r s) (hi : s.timers[i]? = some t) {p : Phase}
    (hp : p.Fired → t.due ≤ s.now ∧
      ∀ (j : ℕ) (u : Timer), i < j → s.timers[j]? = some u → t.due < u.due) :
    Punctual r (s.setPhase i t p) := by
  have hget := getElem?_setPhase hi p
  have hsame : ∀ (j : ℕ) (u : Timer), (s.setPhase i t p).timers[j]? = some u →
      ∃ q, s.timers[j]? = some { u with phase := q } := by
    intro j u hj
    rw [hget] at hj
    split at hj
    · rename_i hij
      obtain rfl := Option.some.inj hj
      exact ⟨t.phase, hij ▸ hi⟩
    · exact ⟨u.phase, hj⟩
  refine ⟨?_, ?_, ?_⟩
  · intro j u hj
    rcases hsame j u hj with ⟨q, hq⟩
    exact h.refresh j { u with phase := q } hq
  · intro j u hj hu
    rw [hget] at hj
    split at hj
    · obtain rfl := Option.some.inj hj
      exact (hp hu).1
    · exact h.fired j u hj hu
  · intro j k u v hjk hj hk hu
    rcases hsame k v hk with ⟨q, hq⟩
    rw [hget] at hj
    split at hj
    · rename_i hij
      obtain rfl := Option.some.inj hj
      exact (hp hu).2 k { v with phase := q } (hij ▸ hjk) hq
    · exact h.order j k u { v with phase := q } hjk hj hq hu

theorem Punctual.schedule (h : Punctual r s) : Punctual r (s.schedule r) := by
  rcases usUntil_spec r s.now with ⟨hpos, -, hrefresh⟩
  refine ⟨?_, ?_, ?_⟩
  · intro j u hj
    rcases getElem?_schedule.mp hj with hold | ⟨-, rfl⟩
    · exact h.refresh j u hold
    · exact hrefresh
  · intro j u hj hu
    rcases getElem?_schedule.mp hj with hold | ⟨-, rfl⟩
    · exact h.fired j u hold hu
    · rcases hu with hu | hu | hu <;> cases hu
  · intro j k u v hjk hj hk hu
    rcases getElem?_schedule.mp hj with hold | ⟨-, rfl⟩
    · rcases getElem?_schedule.mp hk with hold' | ⟨-, rfl⟩
      · exact h.order j k u v hjk hold hold' hu
      · have hpast := h.fired j u hold hu
        show u.due < s.now + usUntil r s.now
        omega
    · rcases hu with hu | hu | hu <;> cases hu

theorem Punctual.goOn (h : Punctual r s) (hchain : OneChain s) (i : ℕ) :
    Punctual r (s.goOn r i) := by
  rw [DailyRefreshScheduler.goOn]
  split
  · exact h
  · rename_i t hi
    -- a thread that has fired keeps its place in the order
    have hgoes : ∀ {p : Phase}, t.phase.Fired → Punctual r (s.setPhase i t p) :=
      fun hfired => h.setPhase hi fun _ =>
        ⟨h.fired i t hi hfired, fun j u hij hj => h.order i j t u hij hi hj hfired⟩
    cases hphase : t.phase with
    | waiting =>
        dsimp only
        split
        · rename_i hdue
          refine h.setPhase hi fun _ => ⟨hdue, ?_⟩
          intro j u hij hj
          have hlast := hchain.last i t hi (.inl hphase)
          have hlt := (List.getElem?_eq_some_iff.mp hj).1
          omega
        · exact h
    | calling => exact hgoes (.inl hphase)
    | scheduling => exact (hgoes (.inr (.inl hphase))).schedule
    | cancelled => exact h
    | finished => exact h

theorem Punctual.goOnControl (h : Punctual r s) : Punctual r (s.goOnControl r) := by
  have hcontrol : ∀ {s' : DailyRefreshScheduler} (c : Control), Punctual r s' →
      Punctual r { s' with control := c } := fun _ h' => ⟨h'.refresh, h'.fired, h'.order⟩
  rw [DailyRefreshScheduler.goOnControl]
  cases s.control with
  | idle => exact h
  | starting => exact hcontrol _ h.schedule
  | stopping =>
      dsimp only
      split
      · exact hcontrol _ h
      · refine hcontrol _ ?_
        rw [cancel]
        split
        · rename_i t hi
          split
          · refine h.setPhase hi ?_
            rintro (hp | hp | hp) <;> cases hp
          · exact h
        · exact h
  | clearing => exact ⟨h.refresh, h.fired, h.order⟩

theorem Punctual.next (h : Punctual r s) (hchain : OneChain s) (op : Op) :
    Punctual r ((scheduler r).next s op) := by
  show Punctual r (s.step r op)
  cases op with
  | tick us =>
      refine ⟨h.refresh, ?_, h.order⟩
      intro i t hi ht
      exact Nat.le_add_right_of_le (h.fired i t hi ht)
  | start =>
      rw [step]
      split
      · exact ⟨h.refresh, h.fired, h.order⟩
      · exact h
  | stop =>
      rw [step]
      split
      · exact ⟨h.refresh, h.fired, h.order⟩
      · exact h
  | control => exact h.goOnControl
  | timer i => exact h.goOn hchain i

/-- In an undisturbed run there is exactly one chain of timers while the scheduler runs. After it
was stopped no timer waits and none will be set up, so no callback begins. Every callback is at a
refresh or later, and no two callbacks are for the same refresh. -/
theorem orderly_run (r : RefreshTime) (now : ℕ) (ops : List Op)
    (hops : ∀ t ∈ (scheduler r).trans (new now) ops, Undisturbed t.pre t.op) :
    let s := (scheduler r).run (new now) ops
    (∀ (i j : ℕ) (t u : Timer), s.timers[i]? = some t → t.phase.Live → s.timers[j]? = some u →
      u.phase.Live → i = j) ∧
    (s.control = .idle → s.running = true →
      ∃ (i : ℕ) (t : Timer), s.timers[i]? = some t ∧ t.phase.Live) ∧
    (s.control = .idle → s.running = false →
      ∀ t ∈ s.timers, t.phase ≠ .waiting ∧ t.phase ≠ .scheduling) ∧
    (∀ t ∈ s.timers, IsRefresh r t.due ∧ (t.phase.Fired → t.due ≤ s.now)) ∧
    ∀ (i j : ℕ) (t u : Timer), i < j → s.timers[i]? = some t → s.timers[j]? = some u →
      t.phase.Fired → t.due < u.due := by
  intro s
  have hstep : ∀ s op, OneChain s ∧ Punctual r s → Undisturbed s op →
      OneChain ((scheduler r).next s op) ∧ Punctual r ((scheduler r).next s op) :=
    fun s op h hop => ⟨h.1.next op hop, h.2.next h.1 op⟩
  rcases (scheduler r).run_invariant_of_allowed hstep ⟨oneChain_new now, punctual_new r now⟩ hops
    with ⟨hchain, hpunctual⟩
  refine ⟨?_, ?_, ?_, ?_, hpunctual.order⟩
  · intro i j t u hi ht hj hu
    exact hchain.unique hi ht hj hu
  · intro hidle hrunning
    rcases hchain.alive hrunning with hstarting | hlive
    · exact nomatch hidle.symm.trans hstarting
    · exact hlive
  · intro hidle hstopped t ht
    rcases List.getElem?_of_mem ht with ⟨i, hi⟩
    refine ⟨?_, hchain.not_scheduling hstopped hi⟩
    intro hwaits
    rcases (hchain.waiting i t hi hwaits).2 with hrun | hstop
    · exact nomatch hstopped.symm.trans hrun
    · exact nomatch hidle.symm.trans hstop
  · intro t ht
    rcases List.getElem?_of_mem ht with ⟨i, hi⟩
    exact ⟨hpunctual.refresh i t hi, hpunctual.fired i t hi⟩

/-! ## What a stop leaves over -/

/-- The thread will call back once more, if nobody cancels it. -/
def Phase.Stray (p : Phase) : Prop := p = .waiting ∨ p = .scheduling

instance (p : Phase) : Decidable p.Stray := inferInstanceAs (Decidable (_ ∨ _))

/-- How many there are. -/
def strays (s : DailyRefreshScheduler) : ℕ := s.timers.countP fun t => decide t.phase.Stray

/-- The step begins a callback. -/
def begins (s : DailyRefreshScheduler) : Op → Bool
  | .timer i => (s.timers[i]?).any fun t => decide (t.phase = .waiting ∧ t.due ≤ s.now)
  | _ => false

theorem strays_setPhase (hi : s.timers[i]? = some t) (p : Phase) :
    strays (s.setPhase i t p) + (if t.phase.Stray then 1 else 0) =
      strays s + if p.Stray then 1 else 0 := by
  rcases List.getElem?_eq_some_iff.mp hi with ⟨hlt, hget⟩
  have hset : strays (s.setPhase i t p) =
      strays s - (if t.phase.Stray then 1 else 0) + if p.Stray then 1 else 0 := by
    show (s.timers.set i _).countP _ = _
    rw [List.countP_set hlt, hget]
    simp only [decide_eq_true_eq]
    rfl
  have hpos : t.phase.Stray → 0 < strays s := fun hstray =>
    List.countP_pos_iff.mpr ⟨t, List.mem_of_getElem? hi, decide_eq_true hstray⟩
  by_cases hstray : t.phase.Stray
  · have hle := hpos hstray
    rw [hset, if_pos hstray]
    omega
  · rw [hset, if_neg hstray]
    omega

theorem strays_schedule : strays (s.schedule r) = strays s + 1 := by
  show (s.timers ++ [_]).countP _ = _
  rw [List.countP_append]
  rfl

/-- The scheduler was stopped: `start` is not under way. -/
def Stopped (s : DailyRefreshScheduler) : Prop := s.running = false ∧ s.control ≠ .starting

/-- While nothing runs, a thread that goes on begins its last callback or ends. -/
theorem strays_goOn (hstopped : s.running = false) (i : ℕ) :
    strays (s.goOn r i) + (if begins s (.timer i) then 1 else 0) = strays s := by
  rw [begins, goOn]
  cases hi : s.timers[i]? with
  | none => rfl
  | some t =>
      have hset := fun p => strays_setPhase hi p
      cases hphase : t.phase with
      | waiting =>
          have hcalling := hset .calling
          rw [hphase, if_pos (by decide), if_neg (by decide)] at hcalling
          by_cases hdue : t.due ≤ s.now
          · simpa [hphase, hdue] using hcalling
          · simp [hphase, hdue]
      | calling =>
          have hfinished := hset .finished
          rw [hphase, if_neg (by decide), if_neg (by decide)] at hfinished
          simpa [hphase, hstopped] using hfinished
      | scheduling =>
          have hfinished := hset .finished
          rw [hphase, if_pos (by decide), if_neg (by decide)] at hfinished
          simpa [hphase, strays_schedule] using hfinished
      | cancelled => simp [hphase]
      | finished => simp [hphase]

theorem strays_cancel_le (i : ℕ) : strays (s.cancel i) ≤ strays s := by
  rw [cancel]
  split
  · rename_i t hi
    split
    · rename_i hwaits
      have hset := strays_setPhase hi .cancelled
      rw [hwaits, if_pos (by decide), if_neg (by decide)] at hset
      omega
    · exact Nat.le_refl _
  · exact Nat.le_refl _

/-- A step after a stop, other than a start. -/
theorem stopped_next (h : Stopped s) {op : Op} (hop : op ≠ .start) :
    Stopped ((scheduler r).next s op) ∧
      strays ((scheduler r).next s op) + (if begins s op then 1 else 0) ≤ strays s := by
  show Stopped (s.step r op) ∧ strays (s.step r op) + _ ≤ _
  cases op with
  | tick us => exact ⟨h, Nat.le_refl _⟩
  | start => exact absurd rfl hop
  | stop =>
      rw [step]
      split
      · exact ⟨⟨rfl, (fun hc => nomatch hc)⟩, Nat.le_refl _⟩
      · exact ⟨h, Nat.le_refl _⟩
  | control =>
      rw [step, goOnControl]
      cases hcontrol : s.control with
      | idle => exact ⟨h, Nat.le_refl _⟩
      | starting => exact absurd hcontrol h.2
      | stopping =>
          dsimp only
          split
          · exact ⟨⟨h.1, (fun hc => nomatch hc)⟩, Nat.le_refl _⟩
          · rename_i i htimer
            have hrunning : (s.cancel i).running = s.running := by
              rw [cancel]
              split
              · split <;> rfl
              · rfl
            exact ⟨⟨hrunning.trans h.1, (fun hc => nomatch hc)⟩, strays_cancel_le i⟩
      | clearing => exact ⟨⟨h.1, (fun hc => nomatch hc)⟩, Nat.le_refl _⟩
  | timer i =>
      refine ⟨?_, Nat.le_of_eq (strays_goOn h.1 i)⟩
      rw [step, goOn]
      split
      · exact h
      · split
        · split <;> exact h
        all_goals exact h

/-- `start` is under way only while the scheduler runs. -/
def StartsRunning (s : DailyRefreshScheduler) : Prop := s.control = .starting → s.running = true

theorem startsRunning_next (h : StartsRunning s) (op : Op) :
    StartsRunning ((scheduler r).next s op) := by
  show StartsRunning (s.step r op)
  cases op with
  | tick us => exact h
  | start =>
      rw [step]
      split
      · exact fun _ => rfl
      · exact h
  | stop =>
      rw [step]
      split
      · exact fun hc => nomatch hc
      · exact h
  | control =>
      rw [step, goOnControl]
      cases hcontrol : s.control with
      | idle => exact h
      | starting => exact fun hc => nomatch hc
      | stopping =>
          dsimp only
          split
          · exact fun hc => nomatch hc
          · exact fun hc => nomatch hc
      | clearing => exact fun hc => nomatch hc
  | timer i =>
      rw [step, goOn]
      split
      · exact h
      · split
        · split <;> exact h
        all_goals exact h

/-- After a stop, and until the next start, each timer that waits and each thread that is about to
set up a timer calls back at most once more, and nothing else does. -/
theorem callbacks_after_stop (r : RefreshTime) (now : ℕ) (ops later : List Op)
    (hstopped : ((scheduler r).run (new now) ops).running = false)
    (hlater : ∀ op ∈ later, op ≠ .start) :
    let s := (scheduler r).run (new now) ops
    ((scheduler r).trans s later).countP (fun t => begins t.pre t.op) ≤ strays s ∧
      ((scheduler r).run s later).running = false := by
  intro s
  have hstart : Stopped s := by
    have hnew : StartsRunning (new now) := fun hc => nomatch hc
    have hstep : ∀ s op, StartsRunning s → StartsRunning ((scheduler r).next s op) :=
      fun s op h => startsRunning_next h op
    have hstarts : StartsRunning s := (scheduler r).run_invariant hstep hnew ops
    exact ⟨hstopped, fun hc => nomatch hstopped.symm.trans (hstarts hc)⟩
  have hrun : ∀ (later : List Op) (s : DailyRefreshScheduler), Stopped s →
      (∀ op ∈ later, op ≠ .start) →
      ((scheduler r).trans s later).countP (fun t => begins t.pre t.op) ≤ strays s ∧
        ((scheduler r).run s later).running = false := by
    intro later
    induction later with
    | nil =>
        intro s hs _
        exact ⟨Nat.zero_le _, hs.1⟩
    | cons op later ih =>
        intro s hs hlater
        rw [List.forall_mem_cons] at hlater
        rcases stopped_next (r := r) hs hlater.1 with ⟨hs', hstrays⟩
        rcases ih _ hs' hlater.2 with ⟨hcount, hend⟩
        refine ⟨?_, hend⟩
        rw [Machine.trans_cons, List.countP_cons]
        show _ + (if begins s op then 1 else 0) ≤ strays s
        omega
  exact hrun later s hstart hlater

/-- The refresh of Kite, at half past eight. -/
def kiteRefresh : RefreshTime := { hour := 8, minute := 30 }

/-- A start, a refresh a day later, and a stop between two refreshes. -/
theorem orderly_day :
    let s := (scheduler kiteRefresh).run (new 0)
      [.start, .control, .tick dayUs, .timer 0, .timer 0, .timer 0, .stop, .control, .control]
    s.timers.length = 2 ∧
      ∀ t ∈ s.timers, IsRefresh kiteRefresh t.due ∧ (t.phase.Fired → t.due ≤ dayUs) := by
  have hday := orderly_run kiteRefresh 0
    [.start, .control, .tick dayUs, .timer 0, .timer 0, .timer 0, .stop, .control, .control]
    (by decide +kernel)
  exact ⟨by decide +kernel, hday.2.2.2.1⟩

/-- A stop comes between the check of a thread and its new timer: a day after the stop that timer
calls back, and no other one. -/
theorem stray_calls_back_once :
    ((scheduler kiteRefresh).run (new 0)
        [.start, .control, .tick dayUs, .timer 0, .timer 0, .stop, .control, .control]).running =
      false ∧
    ((scheduler kiteRefresh).trans
        ((scheduler kiteRefresh).run (new 0)
          [.start, .control, .tick dayUs, .timer 0, .timer 0, .stop, .control, .control])
        [.timer 0, .tick dayUs, .timer 1, .timer 1, .tick dayUs, .timer 1]).countP
      (fun t => begins t.pre t.op) = 1 := by
  have hbound := (callbacks_after_stop kiteRefresh 0
    [.start, .control, .tick dayUs, .timer 0, .timer 0, .stop, .control, .control]
    [.timer 0, .tick dayUs, .timer 1, .timer 1, .tick dayUs, .timer 1]
    (by decide +kernel) (by decide)).1
  have hstrays : strays ((scheduler kiteRefresh).run (new 0)
      [.start, .control, .tick dayUs, .timer 0, .timer 0, .stop, .control, .control]) = 1 := by
    decide +kernel
  rw [hstrays] at hbound
  exact ⟨by decide +kernel, Nat.le_antisymm hbound (by decide +kernel)⟩

end Intraday.Auth.Scheduler
