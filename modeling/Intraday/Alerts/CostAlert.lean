import Intraday.Alerts.Models
import Intraday.Core.Constants
import Intraday.Lib.Clock
import Intraday.Lib.Machine
import Intraday.Lib.PyValue

/-!
# Intraday.Alerts.CostAlert — `shared/alerts/cost_alert.py`

The day's spend on language models is read from two counters, and the first check of a day that
finds it over the threshold dispatches an alert. The day is latched before the dispatch, so an
alert that is not delivered is lost for that day.

Costs are finite, and added in exact arithmetic.
-/

namespace Intraday.Alerts

open Intraday.Core Intraday.Lib Intraday.Lib.Decimal Intraday.Lib.Python

/-- `LLMCostAlerter`: `float(text)`, and the threshold. -/
structure LLMCostAlerter where
  float : String → Option PyFloat
  threshold : ℚ := llmCostAlertThresholdUsd

/-- One call of `check`: the day, the clock, what Redis answers to `get`, and what the dispatcher
does if it is called. -/
structure Check where
  today : Date
  nowMs : ℚ
  get : String → Except Exc (Option ByteArray)
  dispatch : Delivery

/-- What `check` does: the alert it dispatches, and what it returns; `none` if the dispatcher
raises. -/
structure CheckReply where
  dispatched : Option Alert
  returned : Option ℚ

namespace LLMCostAlerter

variable (a : LLMCostAlerter)

/-- `_read_cost`. -/
def readCost (get : String → Except Exc (Option ByteArray)) (key : String) : ℚ :=
  match get key with
  | .ok (some raw) =>
      match (String.fromUTF8? raw).bind a.float with
      | some (.finite negative decimal) => PyFloat.value negative decimal
      | _ => 0
  | _ => 0

/-- `total`. -/
def total (c : Check) : ℚ :=
  a.readCost c.get (sentimentCostRedisKeyPrefix ++ ":" ++ c.today.compact) +
    a.readCost c.get (llmComplexDailyCounterKey c.today.compact)

/-- The alert of a check. -/
def costAlert (c : Check) : Alert where
  alertType := .llmCost
  level := .warning
  message :=
    "LLM daily cost $" ++ fmtFixed 4 (a.total c) ++ " (" ++
      fmtFloat (roundTo 1 (a.total c / llmDailyCostTargetUsd * 100)) ++ "% of $" ++
      fmtFloat llmDailyCostTargetUsd ++ "/day target)"
  timestampMs := c.nowMs
  metadata :=
    ((Dict.empty.set "total_usd" (fmtFloat (roundTo 4 (a.total c)))).set
      "threshold_usd" (fmtFloat a.threshold)).set "date" c.today.compact

/-- `check`, from and to `_alerted_today`. -/
def check (alertedToday : Option Date) (c : Check) : Option Date × CheckReply :=
  if a.threshold ≤ a.total c ∧ alertedToday ≠ some c.today then
    (some c.today,
      { dispatched := some (a.costAlert c)
        returned := if c.dispatch = .raised then none else some (a.total c) })
  else (alertedToday, { dispatched := none, returned := some (a.total c) })

/-- The alerter, over the day it has alerted. -/
def machine : Machine (Option Date) Check CheckReply where
  step := a.check

/-! ## What is promised -/

/-- The spend of a check is over the threshold. -/
def Over (c : Check) : Prop := a.threshold ≤ a.total c

instance (c : Check) : Decidable (a.Over c) := inferInstanceAs (Decidable (_ ≤ _))

/-- The transition of a check that dispatches. -/
def Dispatches (t : Trans (Option Date) Check CheckReply) : Prop := t.reply.dispatched.isSome = true

instance (t : Trans (Option Date) Check CheckReply) : Decidable (Dispatches t) :=
  inferInstanceAs (Decidable (_ = _))

/-- On each day at most one dispatch succeeds. -/
def OncePerDay (checks : List Check) : Prop :=
  ∀ day, (a.machine.trans none checks).countP (fun t =>
    decide ((Dispatches t ∧ t.op.dispatch = .accepted) ∧ t.op.today = day)) ≤ 1

/-- After a dispatch that fails, the next check of the day over the threshold dispatches. -/
def Retries (checks : List Check) : Prop :=
  ∀ before t mid u after,
    a.machine.trans none checks = before ++ t :: (mid ++ u :: after) →
      Dispatches t → t.op.dispatch ≠ .accepted → u.op.today = t.op.today → a.Over u.op →
        (∀ v ∈ mid, v.op.today = t.op.today → ¬a.Over v.op) → Dispatches u

/-- The dispatch of a day's first check over the threshold succeeds, if another check over the
threshold follows on that day. -/
def FirstSucceeds (checks : List Check) : Prop :=
  ∀ before c mid e after, checks = before ++ c :: (mid ++ e :: after) →
    a.Over c → (∀ b ∈ before, b.today = c.today → ¬a.Over b) → a.Over e → e.today = c.today →
      c.dispatch = .accepted

/-! ## The latch -/

variable {a}

/-- A check that is due latches its day and dispatches, and another one does nothing. -/
theorem check_cases (alertedToday : Option Date) (c : Check) :
    ((a.Over c ∧ alertedToday ≠ some c.today) ∧ a.machine.next alertedToday c = some c.today ∧
        Dispatches (a.machine.fire alertedToday c)) ∨
      (¬(a.Over c ∧ alertedToday ≠ some c.today) ∧
        a.machine.next alertedToday c = alertedToday ∧
        ¬Dispatches (a.machine.fire alertedToday c)) := by
  have hnext : a.machine.next alertedToday c = (a.check alertedToday c).1 := rfl
  have hreply : (a.machine.fire alertedToday c).reply = (a.check alertedToday c).2 := rfl
  unfold Dispatches
  rw [hnext, hreply, check]
  by_cases hdue : a.threshold ≤ a.total c ∧ alertedToday ≠ some c.today
  · rw [if_pos hdue]
    exact Or.inl ⟨hdue, rfl, rfl⟩
  · rw [if_neg hdue]
    exact Or.inr ⟨hdue, rfl, Bool.false_ne_true⟩

theorem dispatches_fire_iff {alertedToday : Option Date} {c : Check} :
    Dispatches (a.machine.fire alertedToday c) ↔ a.Over c ∧ alertedToday ≠ some c.today := by
  rcases check_cases alertedToday c with ⟨hdue, -, hdispatches⟩ | ⟨hnot, -, hnone⟩
  · exact iff_of_true hdispatches hdue
  · exact iff_of_false hnone hnot

/-- A check over the threshold leaves its day latched. -/
theorem next_of_over {alertedToday : Option Date} {c : Check} (h : a.Over c) :
    a.machine.next alertedToday c = some c.today := by
  rcases check_cases alertedToday c with ⟨-, hlatched, -⟩ | ⟨hnot, hkept, -⟩
  · exact hlatched
  · rw [hkept]
    exact not_not.mp fun hne => hnot ⟨h, hne⟩

/-- The latch moves to the day of a check over the threshold only. -/
theorem next_cases (alertedToday : Option Date) (c : Check) :
    a.machine.next alertedToday c = alertedToday ∨
      a.Over c ∧ a.machine.next alertedToday c = some c.today := by
  rcases check_cases alertedToday c with ⟨hdue, hlatched, -⟩ | ⟨-, hkept, -⟩
  · exact Or.inr ⟨hdue.1, hlatched⟩
  · exact Or.inl hkept

/-- A latched day is that of a check over the threshold. -/
theorem over_of_run {alertedToday : Option Date} {checks : List Check} {day : Date}
    (h : a.machine.run alertedToday checks = some day) :
    alertedToday = some day ∨ ∃ c ∈ checks, c.today = day ∧ a.Over c := by
  induction checks generalizing alertedToday with
  | nil => exact Or.inl h
  | cons c checks ih =>
      rcases ih h with hnext | ⟨e, he, hday, hover⟩
      · rcases next_cases alertedToday c with hkept | ⟨hover, hlatched⟩
        · exact Or.inl (hkept.symm.trans hnext)
        · rw [hlatched] at hnext
          exact Or.inr ⟨c, List.mem_cons_self, Option.some.inj hnext, hover⟩
      · exact Or.inr ⟨e, List.mem_cons_of_mem _ he, hday, hover⟩

/-- The latch stays for the rest of the day. -/
theorem run_latched {checks : List Check} {day : Date} (h : ∀ c ∈ checks, c.today = day) :
    a.machine.run (some day) checks = some day := by
  induction checks with
  | nil => rfl
  | cons c checks ih =>
      rw [List.forall_mem_cons] at h
      have hnext : a.machine.next (some day) c = some day := by
        rcases next_cases (some day) c with hkept | ⟨-, hlatched⟩
        · exact hkept
        · rw [hlatched, h.1]
      rw [Machine.run, hnext]
      exact ih h.2

/-- The dates of the checks are in order. -/
def InOrder (checks : List Check) : Prop :=
  checks.Pairwise fun b c => b.today.stamp ≤ c.today.stamp

/-- Where the dates are in order, a check dispatches exactly if it is the first of its day over
the threshold. -/
theorem dispatches_iff {earlier later : List Check} {c : Check}
    (horder : InOrder (earlier ++ c :: later)) :
    Dispatches (a.machine.fire (a.machine.run none earlier) c) ↔
      a.Over c ∧ ∀ b ∈ earlier, b.today = c.today → ¬a.Over b := by
  rw [dispatches_fire_iff]
  refine and_congr_right fun _ => ?_
  constructor
  · intro hfree b hb hday hover
    apply hfree
    rcases List.append_of_mem hb with ⟨before, rest, rfl⟩
    -- the checks between are of the same day, as those around them are
    have hsame : ∀ e ∈ rest, e.today = c.today := by
      intro e he
      rcases List.pairwise_append.mp horder with ⟨hearlier, -, hcross⟩
      have hfrom := (List.pairwise_cons.mp (List.pairwise_append.mp hearlier).2.1).1 e he
      have hto := hcross e (by simp [he]) c List.mem_cons_self
      rw [hday] at hfrom
      exact Date.stamp_injective (le_antisymm hto hfrom)
    rw [Machine.run_append, Machine.run, next_of_over hover, hday]
    exact run_latched hsame
  · intro hnone hlatched
    rcases over_of_run hlatched with hstart | ⟨b, hb, hday, hover⟩
    · cases hstart
    · exact hnone b hb hday hover

/-! ## Runs -/

theorem op_mem {alertedToday : Option Date} {checks : List Check} :
    ∀ t ∈ a.machine.trans alertedToday checks, t.op ∈ checks :=
  Machine.trans_forall_op a.machine (fun _ hc => hc)

/-- Where the dates are in order, at most one alert of a day is delivered, since at most one is
dispatched. -/
theorem oncePerDay {checks : List Check} (horder : InOrder checks) : a.OncePerDay checks := by
  intro day
  apply Machine.countP_le_one
  intro before t mid u after htrans ht
  rcases of_decide_eq_true ht with ⟨⟨hdispatches, -⟩, hday⟩
  apply decide_eq_false
  rintro ⟨⟨hagain, -⟩, hsame⟩
  have hsplit : a.machine.trans none checks = (before ++ t :: mid) ++ u :: after := by
    rw [htrans, List.append_assoc, List.cons_append]
  rcases Machine.trans_eq_append_cons a.machine hsplit with
    ⟨earlier, c, later, rfl, hearlier, rfl, -⟩
  have ht : t ∈ a.machine.trans none earlier := by
    rw [← hearlier]
    simp
  have hover : a.Over t.op := by
    rw [Machine.trans_fire a.machine ht, dispatches_fire_iff] at hdispatches
    exact hdispatches.1
  exact ((dispatches_iff horder).mp hagain).2 t.op (op_mem t ht) (hday.trans hsame.symm) hover

/-- The first check that has a property. -/
theorem exists_first {p : Check → Prop} [DecidablePred p] {checks : List Check}
    (h : ∃ c ∈ checks, p c) :
    ∃ before c after, checks = before ++ c :: after ∧ p c ∧ ∀ b ∈ before, ¬p b := by
  rcases h with ⟨c, hc, hp⟩
  cases hfind : checks.find? fun c => decide (p c) with
  | none => exact absurd (decide_eq_true hp) (List.find?_eq_none.mp hfind c hc)
  | some d =>
      rcases List.find?_eq_some_iff_append.mp hfind with ⟨hd, before, after, rfl, hbefore⟩
      refine ⟨before, d, after, rfl, of_decide_eq_true hd, ?_⟩
      intro b hb
      simpa using hbefore b hb

/-- Where the dates are in order, a failed dispatch is never repeated, so all that are followed
by another check over the threshold must succeed. -/
theorem retries_iff {checks : List Check} (horder : InOrder checks) :
    a.Retries checks ↔ a.FirstSucceeds checks := by
  constructor
  · intro hretries before c mid e after heq hover hfirst hagain hday
    by_contra hfails
    -- the next check of the day over the threshold would have to dispatch again
    have hexists : ∃ x ∈ mid ++ e :: after, x.today = c.today ∧ a.Over x := by
      exact ⟨e, by simp, hday, hagain⟩
    rcases exists_first hexists with ⟨between, x, rest, hrest, ⟨hxday, hxover⟩, hbetween⟩
    have horder' := horder
    rw [heq, hrest, ← List.cons_append, ← List.append_assoc] at horder'
    rw [heq, hrest] at horder
    have htrans : a.machine.trans none checks =
        a.machine.trans none before ++ a.machine.fire (a.machine.run none before) c ::
          (a.machine.trans (a.machine.next (a.machine.run none before) c) between ++
            a.machine.fire (a.machine.run none (before ++ c :: between)) x ::
              a.machine.trans
                (a.machine.next (a.machine.run none (before ++ c :: between)) x) rest) := by
      rw [heq, hrest, Machine.trans_append, Machine.trans_cons, Machine.trans_append,
        Machine.trans_cons, Machine.run_append]
      rfl
    have hdispatches := hretries _ _ _ _ _ htrans
      ((dispatches_iff horder).mpr ⟨hover, hfirst⟩) hfails hxday hxover
      (by
        intro v hv hvday hvover
        exact hbetween v.op (op_mem v hv) ⟨hvday, hvover⟩)
    have hnone := ((dispatches_iff horder').mp hdispatches).2 c (by simp) hxday.symm
    exact hnone hover
  · intro hsucceeds before t mid u after htrans hdispatches hfails hday hover _
    have hsplit : a.machine.trans none checks = (before ++ t :: mid) ++ u :: after := by
      rw [htrans, List.append_assoc, List.cons_append]
    rcases Machine.trans_eq_append_cons a.machine hsplit with
      ⟨earlier, e, later, rfl, hearlier, rfl, -⟩
    rcases Machine.trans_eq_append_cons a.machine hearlier.symm with
      ⟨front, c, back, rfl, -, rfl, -⟩
    rw [List.append_assoc, List.cons_append] at horder
    rcases (dispatches_iff horder).mp hdispatches with ⟨hcover, hfirst⟩
    refine absurd ?_ hfails
    refine hsucceeds front c back e later ?_ hcover hfirst hover hday
    rw [List.append_assoc, List.cons_append]

/-- The alert of each day is delivered once, and dispatched again until it is, exactly if no
dispatch fails that is followed by another check of the day over the threshold. -/
theorem delivered_once_iff {checks : List Check} (horder : InOrder checks) :
    (a.OncePerDay checks ∧ a.Retries checks) ↔ a.FirstSucceeds checks :=
  (and_iff_right (oncePerDay horder)).trans (retries_iff horder)

/-- An alerter that reads the text of 45 cents. -/
def sampleAlerter : LLMCostAlerter where
  float := fun text =>
    if text = "0.45" then
      some (.finite false { digits := 45, exp := -2, normal := .inl (by decide) })
    else none

/-- A check of 15 January 2026, with 45 cents in each of the two counters. -/
def sampleCheck (nowMs : ℚ) (dispatch : Delivery) : Check where
  today := (Date.ofOrdinal 739631).get rfl
  nowMs := nowMs
  get := fun _ => .ok (some "0.45".toByteArray)
  dispatch := dispatch

theorem over_sampleCheck (nowMs : ℚ) (dispatch : Delivery) :
    sampleAlerter.Over (sampleCheck nowMs dispatch) := by
  have hread : ∀ key, sampleAlerter.readCost (sampleCheck nowMs dispatch).get key = 9 / 20 := by
    intro key
    rw [readCost]
    simp only [sampleCheck, fromUTF8?_toByteArray]
    decide +kernel
  have htotal : sampleAlerter.total (sampleCheck nowMs dispatch) = 9 / 20 + 9 / 20 := by
    rw [total, hread, hread]
  rw [Over, htotal]
  decide +kernel

/-- A dispatch that is accepted is the only one of its day. -/
theorem delivered_once_iff_accepted :
    (sampleAlerter.OncePerDay [sampleCheck 0 .accepted, sampleCheck 60000 .refused] ∧
        sampleAlerter.Retries [sampleCheck 0 .accepted, sampleCheck 60000 .refused]) ↔
      sampleAlerter.FirstSucceeds [sampleCheck 0 .accepted, sampleCheck 60000 .refused] := by
  refine delivered_once_iff ?_
  simp [InOrder, sampleCheck]

/-- A refused dispatch is not repeated by the next check of the day. -/
theorem refused_alert_is_lost :
    ¬∀ (a : LLMCostAlerter) (checks : List Check), InOrder checks →
      a.OncePerDay checks ∧ a.Retries checks := by
  intro h
  have horder : InOrder [sampleCheck 0 .refused, sampleCheck 60000 .accepted] := by
    simp [InOrder, sampleCheck]
  have hsucceeds := (retries_iff horder).mp (h sampleAlerter _ horder).2
  have hfirst := hsucceeds [] _ [] _ [] rfl (over_sampleCheck 0 .refused)
    (fun b hb => absurd hb List.not_mem_nil) (over_sampleCheck 60000 .accepted) rfl
  exact absurd hfirst (by decide)

end LLMCostAlerter

end Intraday.Alerts
