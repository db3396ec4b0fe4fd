import Intraday.Signals.Confidence

/-!
# Intraday.Signals.Totality — when an evaluation raises

An evaluation raises exactly if a gate that it reaches does. Gate 3 divides by the average volume
in the message of an absorption, and its test lets an average of zero through; Gate 7 moves the
open and the close of the session, which may leave the range of `datetime`. No other gate can
raise.

`evaluate_returns_iff` is the exact condition under which `evaluate` returns a result.
-/

namespace Intraday.Signals

open Intraday.Core Intraday.Lib Intraday.Lib.Raise

variable {ctx : SignalContext} {now : PyDateTime}

/-! ## The gate that raises -/

/-- The loop raises at the first gate that does, if the gates before it pass. -/
theorem runGates_error {gs : List (ℕ × (SignalContext → Except Exc GateResult))}
    {results : List GateResult} {confidence : ℚ} {e : Exc}
    (h : runGates ctx gs results confidence = .error e) :
    ∃ before g after rs, gs = before ++ g :: after ∧ PassAll ctx before rs ∧
      g.2 ctx = .error e := by
  induction gs generalizing results confidence with
  | nil => cases h
  | cons g rest ih =>
      rcases g with ⟨num, gateFn⟩
      rw [runGates] at h
      cases hgate : gateFn ctx with
      | error e' =>
          rw [hgate, error_bind] at h
          obtain rfl := Except.error.inj h
          exact ⟨[], (num, gateFn), rest, [], rfl, ⟨rfl, by simp⟩, hgate⟩
      | ok r =>
          rw [hgate, ok_bind] at h
          cases hpassed : r.passed with
          | false =>
              -- a loop that stops raises nothing
              simp only [hpassed, Bool.not_false, if_true] at h
              cases h
          | true =>
              simp only [hpassed, Bool.not_true, Bool.false_eq_true, if_false] at h
              rcases ih h with ⟨before, g, after, rs, rfl, hpass, hg⟩
              exact ⟨(num, gateFn) :: before, g, after, r :: rs, rfl,
                PassAll.cons hgate hpassed hpass, hg⟩

/-- A gate that raises past gates that pass ends the loop. -/
theorem runGates_of_raises {before after : List (ℕ × (SignalContext → Except Exc GateResult))}
    {g : ℕ × (SignalContext → Except Exc GateResult)} {rs : List GateResult} {e : Exc}
    (hpass : PassAll ctx before rs) (hg : g.2 ctx = .error e) (results : List GateResult)
    (confidence : ℚ) : runGates ctx (before ++ g :: after) results confidence = .error e := by
  induction before generalizing rs results confidence with
  | nil =>
      rw [List.nil_append, runGates]
      rw [hg, error_bind]
  | cons first rest ih =>
      rcases rs with _ | ⟨r, rs⟩
      · exact absurd hpass.1 (by simp)
      · rcases hpass with ⟨hmap, hall⟩
        rw [List.map_cons, List.map_cons, List.cons.injEq] at hmap
        have hpassed := hall r List.mem_cons_self
        rw [List.cons_append, runGates]
        rw [← hmap.1, ok_bind]
        simp only [hpassed, Bool.not_true, Bool.false_eq_true, if_false]
        exact ih ⟨hmap.2, fun r hr => hall r (List.mem_cons_of_mem _ hr)⟩ _ _

/-- Gate `k` raises. -/
def Raises (ctx : SignalContext) (k : ℕ) : Prop := ∃ e, gate k ctx = some (.error e)

/-- Gates that pass have results. -/
theorem exists_passAll {gs : List (ℕ × (SignalContext → Except Exc GateResult))}
    (h : ∀ g ∈ gs, ∃ r, g.2 ctx = .ok r ∧ r.passed = true) : ∃ rs, PassAll ctx gs rs := by
  induction gs with
  | nil => exact ⟨[], rfl, by simp⟩
  | cons g rest ih =>
      rcases h g List.mem_cons_self with ⟨r, hr, hpassed⟩
      rcases ih fun g' hg' => h g' (List.mem_cons_of_mem g hg') with ⟨rs, hpass⟩
      exact ⟨r :: rs, PassAll.cons hr hpassed hpass⟩

/-- An evaluation raises exactly if a gate does and the gates before it pass. -/
theorem evaluate_raises_iff :
    (∃ e, evaluate now ctx = .error e) ↔
      ∃ n < 7, Raises ctx (n + 1) ∧ ∀ j ∈ List.range' 1 n, Passes ctx j := by
  constructor
  · rintro ⟨e, h⟩
    rw [evaluate] at h
    cases hrun : runGates ctx terminatingGates [] gate2IndicatorBaseConfidence with
    | error e' =>
        rcases runGates_error hrun with ⟨before, g, after, rs, hsplit, ⟨hrs, hall⟩, hg⟩
        rcases gateTrail_of_split hsplit hrs with ⟨hlt, -, htrail, -, hget⟩
        exact ⟨before.length, hlt, ⟨e', hget.trans (congrArg some hg)⟩, htrail.passes hall⟩
    | ok run =>
        -- past the loop nothing raises
        rw [hrun, ok_bind] at h
        cases hfail : run.failedGate with
        | some num =>
            simp only [hfail] at h
            cases h
        | none =>
            simp only [hfail] at h
            split at h <;> cases h
  · rintro ⟨n, hn, ⟨e, hraises⟩, hpass⟩
    have hlt : n < terminatingGates.length := hn
    have hget := List.getElem?_eq_getElem hlt
    have hg : (terminatingGates[n]).2 ctx = .error e :=
      Option.some.inj ((gate_of_getElem? hget).2.symm.trans hraises)
    have hbefore : ∀ g ∈ terminatingGates.take n, ∃ r, g.2 ctx = .ok r ∧ r.passed = true := by
      intro g hmem
      rcases List.mem_take_iff_getElem.mp hmem with ⟨i, hi, rfl⟩
      have hi' : i < n ∧ i < terminatingGates.length := lt_min_iff.mp hi
      have hgate := (@gate_of_getElem? ctx _ _ (List.getElem?_eq_getElem hi'.2)).2
      rcases hpass (i + 1) (by rw [List.mem_range'_1]; omega) with ⟨r, hr, hpassed⟩
      exact ⟨r, Option.some.inj (hgate.symm.trans hr), hpassed⟩
    rcases exists_passAll hbefore with ⟨rs, hrs⟩
    refine ⟨e, ?_⟩
    rw [evaluate, ← List.take_append_drop n terminatingGates, List.drop_eq_getElem_cons hlt,
      runGates_of_raises hrs hg, error_bind]

/-! ## The gates that can raise -/

/-- Some volume over an average of zero, with a small delta. -/
def ZeroAverageAbsorption (ctx : SignalContext) : Prop :=
  ctx.avgVolume = 0 ∧ 0 < ctx.currentVolume ∧
    ∃ volDelta ∈ ctx.indicatorValues "VOLUME_DELTA" "VOLUME_DELTA",
      |volDelta| / ctx.currentVolume < gate3AbsorptionDeltaRatio

theorem raises_three_iff : Raises ctx 3 ↔ ZeroAverageAbsorption ctx := by
  rw [Raises, gate_three]
  cases hdelta : ctx.indicatorValues "VOLUME_DELTA" "VOLUME_DELTA" with
  | none =>
      rw [gate3OrderFlow_of_none hdelta]
      simp [ZeroAverageAbsorption, hdelta]
  | some volDelta =>
      by_cases habs : Absorbs ctx volDelta
      · rw [gate3OrderFlow_of_absorbs hdelta habs]
        by_cases hzero : ctx.avgVolume = 0
        · rw [hzero, div_zero]
          exact iff_of_true ⟨_, rfl⟩ ⟨hzero, habs.1.1, volDelta, hdelta, habs.2⟩
        · rw [div_of_ne _ hzero]
          refine iff_of_false ?_ fun h => hzero h.1
          rintro ⟨e, h⟩
          cases h
      · rw [gate3OrderFlow_of_not_absorbs hdelta habs]
        refine iff_of_false ?_ ?_
        · rintro ⟨e, h⟩
          cases h
        · rintro ⟨hzero, hvol, volDelta', hmem, hratio⟩
          obtain rfl := Option.some.inj (hdelta.symm.trans hmem)
          refine habs ⟨⟨hvol, ?_⟩, hratio⟩
          rwa [hzero, mul_zero]

/-- Where the session's times can be moved, Gate 7 returns. -/
theorem raises_seven_iff (hopen : ctx.evaluatedAt.Consistent ctx.sessionOpen)
    (hclose : ctx.evaluatedAt.Consistent ctx.sessionClose) :
    Raises ctx 7 ↔ ¬ (ctx.sessionOpen.InRange (minutes gate7OpeningNoiseFilterMinutes) ∧
      ctx.sessionClose.InRange (-minutes gate7ClosingWindowMinutes)) := by
  rw [Raises, gate_seven]
  by_cases hin : ctx.sessionOpen.InRange (minutes gate7OpeningNoiseFilterMinutes)
  · by_cases hin' : ctx.sessionClose.InRange (-minutes gate7ClosingWindowMinutes)
    · rcases gate7SessionTiming_ok hopen hclose hin hin' with ⟨result, hok⟩
      refine iff_of_false ?_ (not_not.mpr ⟨hin, hin'⟩)
      rw [hok]
      rintro ⟨e, h⟩
      cases h
    · refine iff_of_true ⟨.overflowError, ?_⟩ fun h => hin' h.2
      rw [gate7SessionTiming, PyDateTime.add_ok hin, PyDateTime.add_error hin', ok_bind, error_bind]
  · refine iff_of_true ⟨.overflowError, ?_⟩ fun h => hin h.1
    rw [gate7SessionTiming, PyDateTime.add_error hin, error_bind]

theorem not_raises {k : ℕ} {r : GateResult} (h : gate k ctx = some (.ok r)) : ¬ Raises ctx k := by
  rintro ⟨e, hraises⟩
  cases h.symm.trans hraises

/-- Gates 3 and 7 are the only ones that can raise. -/
theorem eq_three_or_seven_of_raises {n : ℕ} (hn : n < 7) (h : Raises ctx (n + 1)) :
    n = 2 ∨ n = 6 := by
  rcases gate6SrProximity_ok ctx with ⟨result, hok, -⟩
  have hsix : gate 6 ctx = some (.ok result) := by rw [gate_six, hok]
  have hcases : n = 0 ∨ n = 1 ∨ n = 2 ∨ n = 3 ∨ n = 4 ∨ n = 5 ∨ n = 6 := by omega
  rcases hcases with rfl | rfl | rfl | rfl | rfl | rfl | rfl
  · exact absurd h (not_raises (gate_one ctx))
  · exact absurd h (not_raises (gate_two ctx))
  · exact .inl rfl
  · exact absurd h (not_raises (gate_four ctx))
  · exact absurd h (not_raises (gate_five ctx))
  · exact absurd h (not_raises hsix)
  · exact .inr rfl

/-- Exactly when `evaluate` returns a result: no absorption over a zero average is met past gates
1 and 2, and past gates 1 to 6 the times of the session can be moved. -/
theorem evaluate_returns_iff (now : PyDateTime) (ctx : SignalContext)
    (hopen : ctx.evaluatedAt.Consistent ctx.sessionOpen)
    (hclose : ctx.evaluatedAt.Consistent ctx.sessionClose) :
    (∃ result, evaluate now ctx = .ok result) ↔
      ((∀ k ∈ List.range' 1 2, Passes ctx k) → ¬ ZeroAverageAbsorption ctx) ∧
      ((∀ k ∈ List.range' 1 6, Passes ctx k) →
        ctx.sessionOpen.InRange (minutes gate7OpeningNoiseFilterMinutes) ∧
        ctx.sessionClose.InRange (-minutes gate7ClosingWindowMinutes)) := by
  have hreturns : (∃ result, evaluate now ctx = .ok result) ↔
      ¬ ∃ e, evaluate now ctx = .error e := by
    cases evaluate now ctx with
    | error e => simp
    | ok result => simp
  rw [hreturns, evaluate_raises_iff]
  constructor
  · intro hnone
    constructor
    · intro hpass hzero
      exact hnone ⟨2, by decide, raises_three_iff.mpr hzero, hpass⟩
    · intro hpass
      by_contra hrange
      exact hnone ⟨6, by decide, (raises_seven_iff hopen hclose).mpr hrange, hpass⟩
  · rintro ⟨hzero, hrange⟩ ⟨n, hn, hraises, hpass⟩
    rcases eq_three_or_seven_of_raises hn hraises with rfl | rfl
    · exact hzero hpass (raises_three_iff.mp hraises)
    · exact (raises_seven_iff hopen hclose).mp hraises (hrange hpass)

/-- A context that returns: the session is an ordinary one, and the average is not zero. -/
theorem sample_returns :
    ∃ result, evaluate (sampleTime 60) (sampleContext true) = .ok result :=
  (evaluate_returns_iff (sampleTime 60) (sampleContext true) rfl rfl).mpr
    ⟨fun _ hzero => absurd hzero.1 (by decide +kernel), fun _ => by decide +kernel⟩

/-- The long with an average volume of zero: Gate 3 divides by it. -/
theorem zero_average_raises :
    ¬ ∀ (now : PyDateTime) (ctx : SignalContext), ctx.evaluatedAt.Consistent ctx.sessionOpen →
      ctx.evaluatedAt.Consistent ctx.sessionClose →
      ∃ result, evaluate now ctx = .ok result := by
  intro h
  rcases h (sampleTime 60)
    { sampleContext false with currentVolume := 10000, avgVolume := 0 } rfl rfl with ⟨result, hok⟩
  have hraises : evaluate (sampleTime 60)
      { sampleContext false with currentVolume := 10000, avgVolume := 0 } =
      .error .zeroDivisionError := by decide +kernel
  cases hok.symm.trans hraises

end Intraday.Signals
