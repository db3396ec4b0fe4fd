import Intraday.Alerts.Models
import Intraday.Core.Constants
import Intraday.Lib.Machine
import Intraday.Lib.SlidingWindow

/-!
# Intraday.Alerts.Dispatcher — `shared/alerts/dispatcher.py`

Alerts go to the Telegram channel, at most so many in a minute; the kill switch and the circuit
breaker do not wait. The clock is read before a message is sent, for the limit, and after it, for
the record. What is recorded is every message the channel has accepted, of all types, so the
limit is a window over more than the alerts it applies to.
-/

namespace Intraday.Alerts

open Intraday.Core Intraday.Lib Intraday.Lib.Decimal Intraday.Lib.SlidingWindow

/-- `_BYPASS_RATE_LIMIT`. -/
def bypassRateLimit : List AlertType := [.killSwitch, .circuitBreaker]

/-- `_format_alert`. -/
def formatAlert (alert : Alert) : String :=
  "[" ++ alert.level.value ++ "][" ++ alert.alertType.value ++ "] " ++ alert.message ++
    " (ts=" ++ toString (truncate (alert.timestampMs / 1000)) ++ ")"

/-- `AlertDispatcher`: whether it has a Telegram channel, and its limit. -/
structure AlertDispatcher where
  telegram : Bool
  rateLimit : ℤ := alertTelegramRateLimitPerMinute

/-- One call of `dispatch`: the alert, what the channel would do with it, and the clock at the
check of the limit, while the message is sent, and when it is recorded. -/
structure Attempt where
  alert : Alert
  delivery : Delivery
  checkedAt : ℚ
  sentAt : ℚ
  recordedAt : ℚ
  ordered : checkedAt ≤ sentAt ∧ sentAt ≤ recordedAt

/-- What `dispatch` does: the message it hands to the channel, and what it returns. -/
structure DispatchReply where
  sent : Option String
  returned : Option Bool
deriving DecidableEq

/-- The limit applies to the alert. -/
def Attempt.Regular (a : Attempt) : Prop := a.alert.alertType ∉ bypassRateLimit

instance (a : Attempt) : Decidable a.Regular := inferInstanceAs (Decidable (¬_))

namespace AlertDispatcher

variable (d : AlertDispatcher)

/-- `_is_rate_limited`, with the send times that are left. -/
def isRateLimited (sendTimes : List ℚ) (now : ℚ) : List ℚ × Bool :=
  let kept := prune (now - 60) sendTimes
  (kept, decide (d.rateLimit ≤ kept.length))

/-- The rest of `dispatch`, for an alert that may be sent. -/
def send (sendTimes : List ℚ) (a : Attempt) : List ℚ × DispatchReply :=
  if d.telegram then
    (if a.delivery = .accepted then sendTimes ++ [a.recordedAt] else sendTimes,
      { sent := some (formatAlert a.alert), returned := a.delivery.returned })
  else (sendTimes, { sent := none, returned := some false })

/-- `dispatch`. -/
def dispatch (sendTimes : List ℚ) (a : Attempt) : List ℚ × DispatchReply :=
  if a.alert.alertType ∈ bypassRateLimit then d.send sendTimes a
  else
    let (kept, limited) := d.isRateLimited sendTimes a.checkedAt
    if limited then (kept, { sent := none, returned := some false }) else d.send kept a

/-- The dispatcher, over its send times. -/
def machine : Machine (List ℚ) Attempt DispatchReply where
  step := d.dispatch

/-! ## One call -/

theorem false_ne_accepted : (some false : Option Bool) ≠ some true := by decide

/-- `send` records what the channel accepts. -/
theorem send_cases (d : AlertDispatcher) (sendTimes : List ℚ) (a : Attempt) :
    ((d.send sendTimes a).2.returned = some true ∧
      (d.send sendTimes a).1 = sendTimes ++ [a.recordedAt]) ∨
    ((d.send sendTimes a).2.returned ≠ some true ∧ (d.send sendTimes a).1 = sendTimes) := by
  unfold send
  by_cases htelegram : d.telegram = true
  · rw [if_pos htelegram]
    by_cases haccepted : a.delivery = .accepted
    · refine Or.inl ⟨a.delivery.returned_eq_true_iff.mpr haccepted, ?_⟩
      exact if_pos haccepted
    · refine Or.inr ⟨?_, if_neg haccepted⟩
      intro hreturned
      exact haccepted (a.delivery.returned_eq_true_iff.mp hreturned)
  · rw [if_neg htelegram]
    exact Or.inr ⟨false_ne_accepted, rfl⟩

/-- A call sends from the send times, or prunes them first; it is then either limited, or there
was room for one more. -/
theorem dispatch_cases (d : AlertDispatcher) (sendTimes : List ℚ) (a : Attempt) :
    (¬a.Regular ∧ d.dispatch sendTimes a = d.send sendTimes a) ∨
    (a.Regular ∧ d.rateLimit ≤ (prune (a.checkedAt - 60) sendTimes).length ∧
      d.dispatch sendTimes a =
        (prune (a.checkedAt - 60) sendTimes, { sent := none, returned := some false })) ∨
    (a.Regular ∧ ((prune (a.checkedAt - 60) sendTimes).length : ℤ) < d.rateLimit ∧
      d.dispatch sendTimes a = d.send (prune (a.checkedAt - 60) sendTimes) a) := by
  unfold dispatch
  by_cases hbypass : a.alert.alertType ∈ bypassRateLimit
  · exact Or.inl ⟨not_not.mpr hbypass, if_pos hbypass⟩
  · rw [if_neg hbypass]
    simp only [isRateLimited]
    by_cases hlimited : d.rateLimit ≤ (prune (a.checkedAt - 60) sendTimes).length
    · exact Or.inr (Or.inl ⟨hbypass, hlimited, if_pos (decide_eq_true hlimited)⟩)
    · refine Or.inr (Or.inr ⟨hbypass, not_le.mp hlimited, ?_⟩)
      exact if_neg (by simpa using hlimited)

/-- From a cut that the check of the limit stays before, nothing that was accepted is lost. -/
theorem countP_send {lo : ℚ} (d : AlertDispatcher) (sendTimes : List ℚ) (a : Attempt) :
    sendTimes.countP (fun t => decide (lo ≤ t)) +
        (if (d.send sendTimes a).2.returned = some true ∧ lo ≤ a.recordedAt then 1 else 0) =
      (d.send sendTimes a).1.countP fun t => decide (lo ≤ t) := by
  rcases send_cases d sendTimes a with ⟨haccepted, htimes⟩ | ⟨hnot, htimes⟩
  · rw [htimes, List.countP_append, List.countP_singleton]
    simp only [haccepted, true_and, decide_eq_true_eq]
  · rw [htimes, if_neg (fun h => hnot h.1), Nat.add_zero]

theorem countP_dispatch {lo : ℚ} (d : AlertDispatcher) (sendTimes : List ℚ) {a : Attempt}
    (h : a.checkedAt - 60 ≤ lo) :
    sendTimes.countP (fun t => decide (lo ≤ t)) +
        (if (d.dispatch sendTimes a).2.returned = some true ∧ lo ≤ a.recordedAt then 1 else 0) =
      (d.dispatch sendTimes a).1.countP fun t => decide (lo ≤ t) := by
  rcases dispatch_cases d sendTimes a with ⟨-, heq⟩ | ⟨-, -, heq⟩ | ⟨-, -, heq⟩
  · rw [heq]
    exact countP_send d sendTimes a
  · rw [heq, countP_prune h, if_neg (fun hsent => false_ne_accepted hsent.1), Nat.add_zero]
  · rw [heq, ← countP_prune h]
    exact countP_send d _ a

/-! ## Runs -/

/-- The transition of an alert that the channel has accepted. -/
def Accepted (t : Trans (List ℚ) Attempt DispatchReply) : Prop := t.reply.returned = some true

instance (t : Trans (List ℚ) Attempt DispatchReply) : Decidable (Accepted t) :=
  inferInstanceAs (Decidable (_ = _))

/-- The send times hold all that was accepted since a cut that no check has passed. -/
theorem countP_run (d : AlertDispatcher) {lo : ℚ} {attempts : List Attempt}
    (h : ∀ a ∈ attempts, a.checkedAt - 60 ≤ lo) (sendTimes : List ℚ) :
    sendTimes.countP (fun t => decide (lo ≤ t)) +
        ((d.machine.trans sendTimes attempts).countP
          fun t => decide (Accepted t ∧ lo ≤ t.op.recordedAt)) =
      (d.machine.run sendTimes attempts).countP fun t => decide (lo ≤ t) := by
  induction attempts generalizing sendTimes with
  | nil => rfl
  | cons a attempts ih =>
      rw [List.forall_mem_cons] at h
      have hstep := countP_dispatch d sendTimes h.1
      have hrest := ih h.2 (d.machine.next sendTimes a)
      rw [Machine.trans_cons, List.countP_cons, Machine.run, ← hrest]
      have hfire : (if decide (Accepted (d.machine.fire sendTimes a) ∧
            lo ≤ (d.machine.fire sendTimes a).op.recordedAt) = true then 1 else 0) =
          if (d.dispatch sendTimes a).2.returned = some true ∧ lo ≤ a.recordedAt then 1 else 0 := by
        simp only [decide_eq_true_eq]
        rfl
      have hnext : (d.dispatch sendTimes a).1 = d.machine.next sendTimes a := rfl
      rw [hfire]
      rw [hnext] at hstep
      omega

/-- An alert under the limit is accepted while fewer than the limit were accepted in the last
60 seconds. -/
theorem countP_lt_of_accepted {d : AlertDispatcher} {sendTimes : List ℚ} {a : Attempt}
    (hregular : a.Regular) (haccepted : (d.dispatch sendTimes a).2.returned = some true) :
    sendTimes.countP (fun t => decide (a.checkedAt - 60 ≤ t)) < d.rateLimit.toNat := by
  have hseen := countP_le_length_prune (a.checkedAt - 60) sendTimes
  rcases dispatch_cases d sendTimes a with ⟨hbypass, -⟩ | ⟨-, -, heq⟩ | ⟨-, hroom, -⟩
  · exact absurd hregular hbypass
  · rw [heq] at haccepted
    exact absurd haccepted false_ne_accepted
  · omega

/-- Every alert under the limit is accepted while fewer than the limit of those before it were
accepted in the last 60 seconds. -/
theorem countP_before_lt (d : AlertDispatcher) {attempts : List Attempt}
    (hclock : attempts.Pairwise fun a b => a.recordedAt ≤ b.checkedAt)
    {before after : List (Trans (List ℚ) Attempt DispatchReply)}
    {t : Trans (List ℚ) Attempt DispatchReply}
    (h : ((d.machine.trans [] attempts).filter fun t => decide (Accepted t ∧ t.op.Regular)) =
      before ++ t :: after) :
    before.countP (fun u => decide (t.op.checkedAt - 60 ≤ u.op.recordedAt)) <
      d.rateLimit.toNat := by
  rcases List.filter_eq_append_iff.mp h with ⟨front, back, htrans, hfront, hback⟩
  rcases List.filter_eq_cons_iff.mp hback with ⟨gap, rest, rfl, hgap, ht, -⟩
  rcases of_decide_eq_true ht with ⟨haccepted, hregular⟩
  rw [← List.append_assoc] at htrans
  rcases Machine.trans_eq_append_cons d.machine htrans with
    ⟨earlier, a, later, rfl, hearlier, rfl, -⟩
  -- what the filter keeps before `t` was accepted by the attempts before it
  have hbefore : before = (front ++ gap).filter fun t => decide (Accepted t ∧ t.op.Regular) := by
    rw [List.filter_append, hfront, List.filter_eq_nil_iff.mpr hgap, List.append_nil]
  have hcut : ∀ b ∈ earlier, b.checkedAt - 60 ≤ a.checkedAt - 60 := by
    intro b hb
    have hle := (List.pairwise_append.mp hclock).2.2 b hb a List.mem_cons_self
    exact sub_le_sub_right ((b.ordered.1.trans b.ordered.2).trans hle) 60
  have hrun := countP_run d hcut []
  have hroom := countP_lt_of_accepted hregular haccepted
  have hkept : before.countP (fun u => decide (a.checkedAt - 60 ≤ u.op.recordedAt)) ≤
      (d.machine.trans [] earlier).countP
        fun t => decide (Accepted t ∧ a.checkedAt - 60 ≤ t.op.recordedAt) := by
    rw [hbefore, hearlier, List.countP_filter]
    apply List.countP_mono_left
    intro u hu hboth
    rw [Bool.and_eq_true] at hboth
    exact decide_eq_true
      ⟨(of_decide_eq_true hboth.2).1, of_decide_eq_true (p := a.checkedAt - 60 ≤ _) hboth.1⟩
  rw [List.countP_nil, Nat.zero_add] at hrun
  exact (hkept.trans_eq hrun).trans_lt hroom

/-- An alert that is accepted at once. -/
def attemptAt (alertType : AlertType) (seconds : ℚ) : Attempt where
  alert := { alertType := alertType, level := .info, message := "", timestampMs := seconds * 1000 }
  delivery := .accepted
  checkedAt := seconds
  sentAt := seconds
  recordedAt := seconds
  ordered := ⟨le_rfl, le_rfl⟩

/-- One alert a minute. -/
def onePerMinute : AlertDispatcher where
  telegram := true
  rateLimit := 1

end AlertDispatcher

end Intraday.Alerts
