import Mathlib.Data.List.Chain
import Mathlib.Tactic.Linarith
import Intraday.Monitor.Misses

/-!
# Intraday.Monitor.Polls — misses are polls, not time

Tier 3 is for an agent that has been silent for `max_misses` intervals. The counter counts
polls: two polls a second apart count two misses, so the kill can come when the agent has
been silent for little more than one interval. It comes too early exactly when `max_misses`
stale checks in a row do; checks at least one interval apart leave no room for that.
-/

namespace Intraday.Monitor

open Intraday.Lib Intraday.Lib.Redis Intraday.Compliance HeartbeatChecker

/-- The seconds since the last sign of life are more than `max_misses` intervals. -/
def Overdue (interval maxMisses : ℤ) (tsMs : ℚ) (marks : List Mark) : Prop :=
  ∀ last, lastSeen marks = some last → (maxMisses : ℚ) * interval < (tsMs - last) / 1000

/-- In a run, the kill is called for an agent only when it is overdue. -/
def KilledOnlyOverdue (redis : Option (Dict String Text)) (killSwitch : Option KillSwitchManager)
    (interval maxMisses : ℤ) (a : String) (ops : List Op) : Prop :=
  AtChecks ops fun before tsMs env =>
    (∃ kill ∈ (checkAfter redis killSwitch interval maxMisses before tsMs env).kills,
      kill.1 = a) →
    Overdue interval maxMisses tsMs (historyAt redis interval a before tsMs env)

/-- A check that finds an agent stale but not overdue is not yet the one that makes
`max_misses` of them in a row. -/
def FewPollsBeforeOverdue (redis : Option (Dict String Text)) (interval maxMisses : ℤ)
    (a : String) (ops : List Op) : Prop :=
  AtChecks ops fun before tsMs env =>
    ∀ last, lastSeen (historyAt redis interval a before tsMs env) = some last →
      (interval : ℚ) < (tsMs - last) / 1000 →
      (tsMs - last) / 1000 ≤ (maxMisses : ℚ) * interval →
      (misses (historyAt redis interval a before tsMs env) : ℤ) < maxMisses

/-- The times of the checks of a run. -/
def checkTimes (ops : List Op) : List ℚ :=
  ops.filterMap fun op =>
    match op with
    | .checkAll tsMs _ => some tsMs
    | _ => none

/-- Each check comes at least one interval after the one before. -/
def SpacedChecks (interval : ℤ) (ops : List Op) : Prop :=
  (checkTimes ops).IsChain fun earlier later => earlier + 1000 * (interval : ℚ) ≤ later

variable {redis : Option (Dict String Text)} {a : String} {tsMs : ℚ} {env : CheckEnv}
  {h : History}

/-- The kill is called for an agent exactly when its misses are due. -/
theorem exists_kill_iff (killSwitch : Option KillSwitchManager) (interval maxMisses : ℤ)
    (ops : List Op) :
    (∃ kill ∈ (checkAfter redis killSwitch interval maxMisses ops tsMs env).kills, kill.1 = a) ↔
      0 < misses (historyAt redis interval a ops tsMs env) ∧
        maxMisses ≤ misses (historyAt redis interval a ops tsMs env) := by
  have hkills := @checkAfter_kills tsMs env a redis killSwitch interval maxMisses ops
  have hne : (∃ kill ∈ (checkAfter redis killSwitch interval maxMisses ops tsMs env).kills,
      kill.1 = a) ↔
      killsOf a (checkAfter redis killSwitch interval maxMisses ops tsMs env).kills ≠ [] := by
    simp [killsOf]
  rw [hne, hkills, killsDue]
  split <;> simp_all

/-- A watched agent has misses after a check exactly if the check found it stale. -/
theorem misses_historyAt_pos_iff {interval : ℤ} {ops : List Op} {last : ℚ}
    (hlast : lastSeen (historyAt redis interval a ops tsMs env) = some last) :
    0 < misses (historyAt redis interval a ops tsMs env) ↔
      (interval : ℚ) < (tsMs - last) / 1000 := by
  rw [historyAt_eq] at hlast ⊢
  cases hbefore : lastSeen (history redis interval a ops).marks with
  | none =>
      rw [note_check_unwatched _ _ _ hbefore, hbefore] at hlast
      exact nomatch hlast
  | some last' =>
      rw [← staleAt_iff_misses hbefore hlast, staleAt, decide_eq_true_eq]

theorem history_append_singleton (interval : ℤ) (ops : List Op) (op : Op) :
    history redis interval a (ops ++ [op]) =
      (history redis interval a ops).noteOp interval a op := by
  rw [history_eq_foldl, history_eq_foldl, List.foldl_append]
  rfl

/-- Only checks count misses. -/
theorem noteOp_marks (interval : ℤ) {op : Op} (hop : checkTimes [op] = []) :
    (h.noteOp interval a op).marks = h.marks ∨ misses (h.noteOp interval a op).marks = 0 := by
  rw [History.noteOp]
  cases op with
  | addWatchedAgent b nowMs =>
      by_cases hb : b = a
      · cases hlast : lastSeen h.marks <;> simp [about, hb, History.note, hlast]
      · simp [about, hb]
  | registerHeartbeat b tsMs setRaises =>
      by_cases hb : b = a <;> simp [about, hb, History.note]
  | checkAll tsMs env => simp [checkTimes] at hop
  | remoteHeartbeat b value =>
      by_cases hb : b = a <;> simp [about, hb, History.note]

/-- A stale check at least an interval after the last one adds an interval of silence. -/
theorem silence_grows {interval : ℤ} {last tsMs : ℚ} {marks : List Mark}
    (hstale : staleAt interval tsMs last = true)
    (hearlier : 0 < misses marks →
      last + 1000 * interval * misses marks + 1000 * interval < tsMs) :
    last + 1000 * interval * (misses marks + 1 : ℕ) < tsMs := by
  rw [staleAt, decide_eq_true_eq, lt_div_iff₀ (by norm_num)] at hstale
  rcases Nat.eq_zero_or_pos (misses marks) with hzero | hpos
  · -- the first miss: being stale is one interval of silence
    rw [hzero]
    push_cast
    linarith
  · have hlate := hearlier hpos
    push_cast
    linarith

/-- Checks an interval apart: an agent with `k` misses has been silent for more than `k`
intervals at the last check. -/
theorem lastSeen_lt_of_spaced {interval : ℤ} {ops : List Op} (hspaced : SpacedChecks interval ops)
    {last : ℚ} (hlast : lastSeen (history redis interval a ops).marks = some last)
    (hmiss : 0 < misses (history redis interval a ops).marks) :
    ∃ tsMs, (checkTimes ops).getLast? = some tsMs ∧
      last + 1000 * interval * misses (history redis interval a ops).marks < tsMs := by
  induction ops using List.reverseRecOn generalizing last with
  | nil => exact nomatch hlast
  | append_singleton ops op ih =>
      have htimes : checkTimes (ops ++ [op]) = checkTimes ops ++ checkTimes [op] :=
        List.filterMap_append
      rw [SpacedChecks, htimes, List.isChain_append] at hspaced
      rw [history_append_singleton] at hlast hmiss ⊢
      rw [htimes]
      by_cases hop : checkTimes [op] = []
      · -- between two checks misses only go away
        rcases noteOp_marks interval hop with hmarks | hzero
        · rw [hmarks] at hlast hmiss ⊢
          rw [hop, List.append_nil]
          exact ih hspaced.1 hlast hmiss
        · omega
      · cases op with
        | checkAll tsMs env =>
            have hnote : (history redis interval a ops).noteOp interval a (.checkAll tsMs env) =
                (history redis interval a ops).note interval (.check tsMs (env.getRaises a)) := rfl
            rw [hnote] at hlast hmiss ⊢
            refine ⟨tsMs, List.getLast?_concat, ?_⟩
            cases hbefore : lastSeen (history redis interval a ops).marks with
            | none =>
                rw [note_check_unwatched _ _ _ hbefore, hbefore] at hlast
                exact nomatch hlast
            | some last' =>
                rcases note_check interval tsMs (env.getRaises a) hbefore with
                  ⟨rest, last'', hmarks, hrest, hsame⟩
                have hstale := (staleAt_iff_misses hbefore hlast).mpr hmiss
                rw [hmarks, lastSeen_append_outcome, hrest, Option.some.injEq] at hlast
                subst hlast
                rw [hmarks, misses_append_outcome, if_pos hstale]
                refine silence_grows hstale ?_
                intro hpos
                -- the misses before were counted at an earlier check
                rcases hsame with rfl | hzero
                · rcases ih hspaced.1 hrest hpos with ⟨earlier, hearlier, hlt⟩
                  have hgap := hspaced.2.2 earlier hearlier tsMs rfl
                  linarith
                · omega
        | _ => exact absurd rfl hop

/-- Checks an interval apart leave no room for `max_misses` of them before an agent is
overdue. -/
theorem fewPolls_of_spaced {interval : ℤ} (hinterval : 0 ≤ interval) (maxMisses : ℤ)
    {ops : List Op} (hspaced : SpacedChecks interval ops) :
    FewPollsBeforeOverdue redis interval maxMisses a ops := by
  rintro before tsMs env after rfl last hlast hstale hdue
  have hpos := (misses_historyAt_pos_iff hlast).mpr hstale
  -- the run up to this check is spaced too
  have hsplit : before ++ .checkAll tsMs env :: after =
      (before ++ [.checkAll tsMs env]) ++ after := by simp
  rw [SpacedChecks, hsplit, checkTimes, List.filterMap_append, List.isChain_append] at hspaced
  rcases lastSeen_lt_of_spaced hspaced.1 hlast hpos with ⟨tsMs', htsMs', hlt⟩
  have htimes : checkTimes (before ++ [.checkAll tsMs env]) = checkTimes before ++ [tsMs] :=
    List.filterMap_append
  rw [htimes, List.getLast?_concat, Option.some.injEq] at htsMs'
  subst htsMs'
  by_contra hmany
  have hle : (maxMisses : ℚ) ≤ misses (historyAt redis interval a before tsMs env) := by
    exact_mod_cast not_lt.mp hmany
  have hsilent : (maxMisses : ℚ) * interval ≤
      misses (historyAt redis interval a before tsMs env) * interval :=
    mul_le_mul_of_nonneg_right hle (by exact_mod_cast hinterval)
  rw [div_le_iff₀ (by norm_num)] at hdue
  simp only [historyAt] at hsilent
  linarith

/-- The kill comes only when the agent has been silent for more than `max_misses` intervals
exactly in the runs where no `max_misses` consecutive stale checks come earlier than that;
checks at least one interval apart are enough. -/
theorem no_premature_kill_iff (redis : Option (Dict String Text))
    (killSwitch : Option KillSwitchManager) (interval maxMisses : ℤ) (a : String) (ops : List Op) :
    (KilledOnlyOverdue redis killSwitch interval maxMisses a ops ↔
      FewPollsBeforeOverdue redis interval maxMisses a ops) ∧
    (0 ≤ interval → SpacedChecks interval ops →
      KilledOnlyOverdue redis killSwitch interval maxMisses a ops) := by
  have hexact : KilledOnlyOverdue redis killSwitch interval maxMisses a ops ↔
      FewPollsBeforeOverdue redis interval maxMisses a ops := by
    refine forall₅_congr ?_
    intro before tsMs env after _
    simp only [exists_kill_iff, Overdue]
    constructor
    · intro hkilled last hlast hstale hdue
      by_contra hmany
      have hpos := (misses_historyAt_pos_iff hlast).mpr hstale
      exact absurd (hkilled ⟨hpos, not_lt.mp hmany⟩ last hlast) (not_lt.mpr hdue)
    · rintro hfew ⟨hpos, hmany⟩ last hlast
      by_contra hdue
      have hstale := (misses_historyAt_pos_iff hlast).mp hpos
      exact absurd (hfew last hlast hstale (not_lt.mp hdue)) (not_lt.mpr hmany)
  refine ⟨hexact, ?_⟩
  intro hinterval hspaced
  exact hexact.mpr (fewPolls_of_spaced hinterval maxMisses hspaced)

/-- Two polls a second apart, the first 31 seconds after the last heartbeat. -/
def hastyPolls : List Op :=
  let env : CheckEnv := { getRaises := fun _ => false, nowMs := 0, sets := fun _ => .done }
  [.registerHeartbeat "signal_agent" 0 false, .checkAll 31000 env, .checkAll 32000 env]

/-- The second poll kills an agent that has been silent for 32 seconds. -/
theorem hasty_polls_kill_early :
    ¬ ∀ (redis : Option (Dict String Text)) (killSwitch : Option KillSwitchManager)
        (interval maxMisses : ℤ) (a : String) (ops : List Op),
      KilledOnlyOverdue redis killSwitch interval maxMisses a ops := by
  intro h
  have hkilled := h none none 30 2 "signal_agent" hastyPolls (hastyPolls.take 2) 32000
    { getRaises := fun _ => false, nowMs := 0, sets := fun _ => .done } [] rfl
    ⟨("signal_agent", 2), by decide +kernel, rfl⟩ 0 (by decide +kernel)
  norm_num at hkilled

end Intraday.Monitor
