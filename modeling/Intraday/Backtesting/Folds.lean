import Mathlib.Data.Int.Interval
import Intraday.Backtesting.WalkForward

/-!
# Intraday.Backtesting.Folds — what the windows of a walk-forward run know

Every run has the folds that its dates have room for (`hasFolds_windowsOf`). If the windows advance
by the days of an out-of-sample window at least, or the calendar has no room for a second one, the
parameters of a window are a function of the candles up to its in-sample end
(`choosesByPast_windowsOf`).
-/

namespace Intraday.Backtesting

open Intraday.Lib Intraday.Lib.Decimal
open Intraday.Patterns (OHLCVCandle)

section Claim

variable {G R : Type} [Field R] [LinearOrder R] [FloorRing R]

/-- The run ends with this result, after a turn for each date and one at the latest. -/
def Returns (lib : Libraries G R) (args : WalkForwardArgs) (candles : List OHLCVCandle)
    (result : WalkForwardResult) : Prop :=
  ∀ fuel, (allDates candles).length < fuel → runWalkForward lib args candles fuel = some result

/-- The windows that the dates have room for, each a fold. -/
structure HasFolds (args : WalkForwardArgs) (candles : List OHLCVCandle)
    (windows : List WalkForwardWindow) : Prop where
  count : (windows.length : ℤ) = max 0
    ((((allDates candles).length : ℤ) - args.inSampleDays - args.outOfSampleDays) /
      args.stepDays + 1)
  folds : ∀ (k : ℕ) w, windows[k]? = some w → FoldOf args candles k w

/-- A window of a run on other candles, the same up to the in-sample end, has the same
parameters. -/
def ChoosesByPast (lib : Libraries G R) (args : WalkForwardArgs) (candles : List OHLCVCandle)
    (windows : List WalkForwardWindow) : Prop :=
  ∀ candles' result', Returns lib args candles' result' →
    ∀ w ∈ windows, ∀ w' ∈ result'.windows, w'.inSampleEnd = w.inSampleEnd →
      upTo w.inSampleEnd candles' = upTo w.inSampleEnd candles → w'.bestParams = w.bestParams

end Claim

/-- With these settings every run ends with its folds, and chooses by the past. -/
def FoldsDoNotLeak (R : Type) [Field R] [LinearOrder R] [FloorRing R]
    (inSampleDays outOfSampleDays stepDays : ℕ) : Prop :=
  ∀ (G : Type) (lib : Libraries G R) (args : WalkForwardArgs) (candles : List OHLCVCandle),
    args.inSampleDays = inSampleDays → args.outOfSampleDays = outOfSampleDays →
      args.stepDays = stepDays →
        ∃ result, Returns lib args candles result ∧ HasFolds args candles result.windows ∧
          ChoosesByPast lib args candles result.windows

/-! ## Every run has its folds -/

section Runs

variable {G R : Type} [Field R] [LinearOrder R] [FloorRing R] {lib : Libraries G R}
  {args : WalkForwardArgs} {candles : List OHLCVCandle}

/-- The windows of a run, one for each turn. -/
def windowsOf (lib : Libraries G R) (args : WalkForwardArgs) (candles : List OHLCVCandle) :
    List WalkForwardWindow :=
  (List.range (windowCount args (allDates candles).length 0)).map fun k =>
    (foldAt lib args candles (allDates candles) (loopAt lib args candles k)).1

theorem getElem?_windowsOf {k : ℕ} {w : WalkForwardWindow}
    (h : (windowsOf lib args candles)[k]? = some w) :
    k < windowCount args (allDates candles).length 0 ∧
      w = (foldAt lib args candles (allDates candles) (loopAt lib args candles k)).1 := by
  rw [windowsOf, List.getElem?_map] at h
  rcases Option.map_eq_some_iff.mp h with ⟨i, hi, rfl⟩
  rcases List.getElem?_eq_some_iff.mp hi with ⟨hlt, heq⟩
  rw [List.getElem_range] at heq
  rw [List.length_range] at hlt
  subst heq
  exact ⟨hlt, rfl⟩

variable (lib candles) in
theorem exists_returns (hin : 0 < args.inSampleDays) (hstep : 0 < args.stepDays) :
    ∃ result, Returns lib args candles result ∧ result.windows = windowsOf lib args candles := by
  rcases runWalkForward_windows lib candles hin hstep
    (Nat.lt_succ_self (allDates candles).length) with ⟨result, hresult, hwindows⟩
  refine ⟨result, ?_, hwindows⟩
  intro fuel hfuel
  -- the windows do not depend on the fuel, and the result is made of them
  unfold runWalkForward at hresult ⊢
  split
  · rename_i hnil
    rw [if_pos hnil] at hresult
    exact hresult
  · rename_i hne
    rw [if_neg hne, windowsFrom_eq hin hstep ⟨by omega, by omega⟩] at hresult
    rw [windowsFrom_eq hin hstep ⟨by omega, by omega⟩]
    exact hresult

theorem windows_of_returns (hin : 0 < args.inSampleDays) (hstep : 0 < args.stepDays)
    {result : WalkForwardResult} (h : Returns lib args candles result) :
    result.windows = windowsOf lib args candles := by
  rcases exists_returns lib candles hin hstep with ⟨other, hother, hwindows⟩
  have heq := (h _ (Nat.lt_succ_self _)).symm.trans (hother _ (Nat.lt_succ_self _))
  rw [Option.some.inj heq, hwindows]

variable (lib args candles) in
theorem cursor_loopAt (k : ℕ) : (loopAt lib args candles k).cursor = k * args.stepDays := by
  have hcursor := cursor_iterate lib args candles (allDates candles)
    { windowIdx := 0, cursor := 0, rng := lib.defaultRng 42 } k
  rw [loopAt, hcursor, Nat.zero_add]

theorem hasFolds_windowsOf (hin : 0 < args.inSampleDays) (hout : 0 < args.outOfSampleDays)
    (hstep : 0 < args.stepDays) : HasFolds args candles (windowsOf lib args candles) := by
  constructor
  · rw [windowsOf, List.length_map, List.length_range]
    exact windowCount_eq hstep _
  · intro k w hw
    rcases getElem?_windowsOf hw with ⟨hk, rfl⟩
    have hle := le_of_lt_windowCount hk
    refine foldOf_foldAt hin hout (cursor_loopAt lib args candles k) ?_
    rw [cursor_loopAt]
    exact hle

variable (lib) in
/-- The in-sample end of a window is the date of its number. -/
theorem inSampleEnd_eq {k : ℕ} (hin : 0 < args.inSampleDays)
    (hk : k < windowCount args (allDates candles).length 0) :
    (allDates candles)[k * args.stepDays + args.inSampleDays - 1]? =
      some (foldAt lib args candles (allDates candles)
        (loopAt lib args candles k)).1.inSampleEnd := by
  have hle := le_of_lt_windowCount hk
  have hcursor := cursor_loopAt lib args candles k
  rw [getElem?_getD (allDates candles)
      (show k * args.stepDays + args.inSampleDays - 1 < _ by omega), ← hcursor]
  rfl

/-- Enough for the choices to be by the past: the generator is the same at every window. -/
theorem choosesByPast_of_loopAt (hin : 0 < args.inSampleDays) (hstep : 0 < args.stepDays)
    (hloop : ∀ candles' d k, k < windowCount args (allDates candles).length 0 →
      AgreeUpTo candles candles' d (k * args.stepDays + args.inSampleDays - 1) →
        loopAt lib args candles' k = loopAt lib args candles k) :
    ChoosesByPast lib args candles (windowsOf lib args candles) := by
  intro candles' result' hreturns w hw w' hw' hend hsame
  rw [windows_of_returns hin hstep hreturns] at hw'
  rcases List.mem_iff_getElem?.mp hw with ⟨k, hk⟩
  rcases List.mem_iff_getElem?.mp hw' with ⟨k', hk'⟩
  rcases getElem?_windowsOf hk with ⟨hlt, rfl⟩
  rcases getElem?_windowsOf hk' with ⟨hlt', rfl⟩
  have hdate := inSampleEnd_eq lib hin hlt
  have hdate' := inSampleEnd_eq lib hin hlt'
  rw [hend] at hdate'
  rcases agreeUpTo_of_same hsame hdate hdate' with ⟨hnumber, hagree⟩
  -- one in-sample end, one turn
  have hkk : k' = k := by
    have hmul : k' * args.stepDays = k * args.stepDays := by omega
    exact Nat.eq_of_mul_eq_mul_right hstep hmul
  subst hkk
  rw [hloop candles' _ k' hlt hagree]
  exact hagree.bestParams_eq hin (by rw [cursor_loopAt])

/-- The dates that a `datetime` can have. -/
def maxDates : ℕ := 3652059

theorem dateOf_range (c : OHLCVCandle) : 1 ≤ dateOf c ∧ dateOf c ≤ maxDates := by
  have hrange := c.time.range
  unfold dateOf Raise.PyDateTime.ordinal dayMicros maxDates
  unfold Raise.maxWall at hrange
  constructor <;> omega

theorem length_allDates_le (candles : List OHLCVCandle) :
    (allDates candles).length ≤ maxDates := by
  have hsub : (allDates candles).toFinset ⊆ Finset.Icc 1 (maxDates : ℤ) := by
    intro d hd
    rw [List.mem_toFinset, allDates, mem_sortedSet, List.mem_map] at hd
    rcases hd with ⟨c, -, rfl⟩
    exact Finset.mem_Icc.mpr (dateOf_range c)
  have hcard := Finset.card_le_card hsub
  have hnodup : (allDates candles).Nodup := nodup_sortedSet _
  rw [List.toFinset_card_of_nodup hnodup, Int.card_Icc] at hcard
  omega

/-- The settings under which every run chooses by the past. -/
theorem choosesByPast_windowsOf (hin : 0 < args.inSampleDays) (hout : 0 < args.outOfSampleDays)
    (hstep : 0 < args.stepDays)
    (h : args.outOfSampleDays ≤ args.stepDays ∨
      maxDates < args.inSampleDays + args.outOfSampleDays + args.stepDays) :
    ChoosesByPast lib args candles (windowsOf lib args candles) := by
  apply choosesByPast_of_loopAt hin hstep
  intro candles' d k hk hagree
  rcases h with hle | hmax
  · exact hagree.loopAt_eq hin hout hle le_rfl
  · -- no calendar has the dates of a second window
    have hdates := le_of_lt_windowCount hk
    have hlength := length_allDates_le candles
    have hzero : k = 0 := by
      by_contra hne
      have hmul := Nat.le_mul_of_pos_left args.stepDays (Nat.pos_of_ne_zero hne)
      omega
    rw [hzero]
    rfl

end Runs

end Intraday.Backtesting
