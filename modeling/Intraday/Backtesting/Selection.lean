import Intraday.Backtesting.Simulation
import Intraday.Lib.FirstMax

/-!
# Intraday.Backtesting.Selection — which parameters a window chooses

A set of parameters is tried by a backtest on the in-sample candles. If the backtest fails, or there
are too few candles, its metrics are zeros, and the search cannot tell them from those of a backtest
that made no trade. The search keeps the first set of the highest Sharpe ratio above -999
(`bestParams_eq_iff`), which is fair if that set ran, and if it stays ahead in any order
(`fairSelection_iff`).
-/

namespace Intraday.Backtesting

open Intraday.Lib
open Intraday.Patterns (OHLCVCandle)

/-! ## Trials -/

/-- A set of parameters, and the metrics of its backtest if it ran. -/
structure Trial where
  params : Params
  outcome : Option BacktestMetrics

/-- The metrics that the search sees. -/
def Trial.metrics (t : Trial) : BacktestMetrics := t.outcome.getD zeroMetrics

/-- The ratio that the search compares. -/
def Trial.sharpe (t : Trial) : ℚ := t.metrics.sharpeRatio

section Trials

variable {G R : Type} [Field R] [LinearOrder R] [FloorRing R] (lib : Libraries G R)
  (config : BacktestConfig) (candles : List OHLCVCandle) (signalFn : SignalFn)

/-- The backtest of `_run_with_params`, which may not come to metrics. -/
def attempt (params : Params) (rng : G) : Option BacktestMetrics × G :=
  if candles.length < 30 then (none, rng)
  else
    let signals := signalFn candles params
    let run := runBacktest lib config candles signals.1 signals.2 rng
    (run.1.toOption, run.2)

/-- The trials of a grid, one after the other. -/
def trials : List Params → G → List Trial
  | [], _ => []
  | params :: grid, rng =>
      let run := attempt lib config candles signalFn params rng
      { params := params, outcome := run.1 } :: trials grid run.2

/-- What a search is to find: parameters that ran, if any did, with the highest Sharpe ratio of
those and their own metrics; and, if the ratios are distinct, the same in any order. -/
structure FairSelection (grid : List Params) (rng : G) : Prop where
  best : grid ≠ [] → ∃ t ∈ trials lib config candles signalFn grid rng,
    (optimise lib config candles signalFn grid rng).bestParams = t.params ∧
      (optimise lib config candles signalFn grid rng).bestIsMetrics = t.metrics ∧
        ∀ u ∈ trials lib config candles signalFn grid rng, ∀ m, u.outcome = some m →
          ∃ m', t.outcome = some m' ∧ m.sharpeRatio ≤ m'.sharpeRatio
  order : ((trials lib config candles signalFn grid rng).map Trial.sharpe).Nodup →
    ∀ grid', grid'.Perm grid →
      (optimise lib config candles signalFn grid' rng).bestParams =
        (optimise lib config candles signalFn grid rng).bestParams

/-- The first set of the highest Sharpe ratio is one that ran, if any did, and its ratio is above
-999. -/
def LeaderRan (ts : List Trial) : Prop :=
  (∃ u ∈ ts, u.outcome.isSome = true) →
    ∃ t, IsFirstMax Trial.sharpe ts t ∧ t.outcome.isSome = true ∧ -999 < t.sharpe

/-- The set is the first of the highest Sharpe ratio, or the first of all if none is above -999. -/
def Leads (ts : List Trial) (params : Params) : Prop :=
  (∃ t, IsFirstMax Trial.sharpe ts t ∧ -999 < t.sharpe ∧ t.params = params) ∨
    (∀ t ∈ ts, t.sharpe ≤ -999) ∧ ts.head?.map Trial.params = some params

/-! ## What the search keeps -/

variable {lib config candles signalFn}

theorem runWithParams_eq (params : Params) (rng : G) :
    runWithParams lib config candles signalFn params rng =
      ((attempt lib config candles signalFn params rng).1.getD zeroMetrics,
        (attempt lib config candles signalFn params rng).2) := by
  unfold runWithParams attempt
  split
  · rfl
  · dsimp only
    cases runBacktest lib config candles (signalFn candles params).1 (signalFn candles params).2
      rng with
    | mk outcome rng' => cases outcome <;> rfl

/-- A search that began with `start` has kept what the loop over the trials keeps. -/
structure Tracks (start search : Search G) (best : ℚ × Option Trial) : Prop where
  score : search.bestSharpe = best.1
  params : search.bestParams = (best.2.map Trial.params).getD start.bestParams
  metrics : search.bestIsMetrics = (best.2.map Trial.metrics).getD start.bestIsMetrics

theorem tryParams_eq (search : Search G) (params : Params) :
    let run := attempt lib config candles signalFn params search.rng
    let t : Trial := { params := params, outcome := run.1 }
    tryParams lib config candles signalFn search params =
      if t.sharpe > search.bestSharpe then
        { bestParams := params, bestSharpe := t.sharpe, bestIsMetrics := t.metrics, rng := run.2 }
      else { search with rng := run.2 } := by
  unfold tryParams
  dsimp only
  rw [runWithParams_eq]
  rfl

variable (lib config candles signalFn) in
theorem Tracks.foldl {start search : Search G} {best : ℚ × Option Trial}
    (h : Tracks start search best) (grid : List Params) :
    Tracks start (grid.foldl (tryParams lib config candles signalFn) search)
      ((trials lib config candles signalFn grid search.rng).foldl (keepBetter Trial.sharpe)
        best) := by
  induction grid generalizing search best with
  | nil => exact h
  | cons params grid ih =>
      rw [List.foldl_cons, trials, List.foldl_cons, tryParams_eq, keepBetter, ← h.score]
      split
      · exact ih ⟨rfl, rfl, rfl⟩
      · exact ih ⟨h.score, h.params, h.metrics⟩

variable {grid : List Params} {rng : G}

variable (lib config candles signalFn rng) in
theorem head?_trials : (trials lib config candles signalFn grid rng).head?.map Trial.params =
    grid.head? := by
  cases grid <;> rfl

variable (lib config candles signalFn rng) in
/-- The search ends with the first trial of the highest ratio, or with what it began with. -/
theorem optimise_cases (hne : grid ≠ []) :
    (∃ t, IsFirstMax Trial.sharpe (trials lib config candles signalFn grid rng) t ∧
      -999 < t.sharpe ∧
        (optimise lib config candles signalFn grid rng).bestParams = t.params ∧
          (optimise lib config candles signalFn grid rng).bestIsMetrics = t.metrics) ∨
      (∀ t ∈ trials lib config candles signalFn grid rng, t.sharpe ≤ -999) ∧
        grid.head? = some (optimise lib config candles signalFn grid rng).bestParams ∧
          (optimise lib config candles signalFn grid rng).bestIsMetrics = zeroMetrics := by
  have hstart : Tracks (G := G)
      { bestParams := grid.headD Dict.empty, bestSharpe := -999, bestIsMetrics := zeroMetrics
        rng := rng }
      { bestParams := grid.headD Dict.empty, bestSharpe := -999, bestIsMetrics := zeroMetrics
        rng := rng } (-999, none) := ⟨rfl, rfl, rfl⟩
  have hend := hstart.foldl lib config candles signalFn grid
  have hcases := @foldl_keepBetter_cases _ _ _ Trial.sharpe (-999, none)
    (trials lib config candles signalFn grid rng)
  rcases hcases with ⟨hkept, hle⟩ | ⟨t, ht, hlt, hmax⟩
  · right
    rw [hkept] at hend
    refine ⟨hle, ?_, hend.metrics⟩
    have hparams : (optimise lib config candles signalFn grid rng).bestParams =
        grid.headD Dict.empty := hend.params
    rw [hparams]
    cases grid with
    | nil => exact absurd rfl hne
    | cons params grid => rfl
  · left
    rw [ht] at hend
    exact ⟨t, hmax, hlt, hend.params, hend.metrics⟩

/-- There is one first trial of the highest ratio. -/
theorem eq_of_isFirstMax {ts : List Trial} {t t' : Trial} (h : IsFirstMax Trial.sharpe ts t)
    (h' : IsFirstMax Trial.sharpe ts t') (hlt : -999 < t.sharpe) (hlt' : -999 < t'.sharpe) :
    t = t' := by
  have heq := (firstMax_eq_iff.mpr ⟨hlt, h⟩).symm.trans (firstMax_eq_iff.mpr ⟨hlt', h'⟩)
  exact Option.some.inj (Prod.mk.inj heq).2

theorem mem_of_isFirstMax {ts : List Trial} {t : Trial} (h : IsFirstMax Trial.sharpe ts t) :
    t ∈ ts := by
  rcases h with ⟨before, after, rfl, -⟩
  exact List.mem_append_right _ List.mem_cons_self

theorem le_of_isFirstMax {ts : List Trial} {t u : Trial} (h : IsFirstMax Trial.sharpe ts t)
    (hu : u ∈ ts) : u.sharpe ≤ t.sharpe := by
  rcases h with ⟨before, after, rfl, hbefore, hafter⟩
  rcases List.mem_append.mp hu with hu | hu
  · exact (hbefore u hu).le
  · rcases List.mem_cons.mp hu with rfl | hu
    · exact le_rfl
    · exact hafter u hu

/-- What the search chooses is what leads. -/
theorem bestParams_eq_iff (hne : grid ≠ []) (params : Params) :
    (optimise lib config candles signalFn grid rng).bestParams = params ↔
      Leads (trials lib config candles signalFn grid rng) params := by
  rcases optimise_cases lib config candles signalFn rng hne with
    ⟨t, hmax, hlt, hparams, -⟩ | ⟨hle, hhead, -⟩
  · rw [hparams]
    constructor
    · exact fun h => Or.inl ⟨t, hmax, hlt, h⟩
    · rintro (⟨t', hmax', hlt', rfl⟩ | ⟨hle, -⟩)
      · rw [eq_of_isFirstMax hmax hmax' hlt hlt']
      · exact absurd hlt (not_lt.mpr (hle t (mem_of_isFirstMax hmax)))
  · constructor
    · rintro rfl
      exact Or.inr ⟨hle, (head?_trials lib config candles signalFn rng).trans hhead⟩
    · rintro (⟨t, hmax, hlt, -⟩ | ⟨-, hfirst⟩)
      · exact absurd hlt (not_lt.mpr (hle t (mem_of_isFirstMax hmax)))
      · rw [head?_trials, hhead] at hfirst
        exact Option.some.inj hfirst

/-! ## When it is fair -/

/-- A backtest that ran counted its days, so its metrics are not the zeros of one that failed. -/
theorem ne_zeroMetrics_of_attempt {params : Params} {m : BacktestMetrics}
    (h : (attempt lib config candles signalFn params rng).1 = some m) : m ≠ zeroMetrics := by
  unfold attempt at h
  split at h
  · cases h
  · rename_i hmin
    have hok : (runBacktest lib config candles (signalFn candles params).1
        (signalFn candles params).2 rng).1 = .ok m := by
      dsimp only at h
      cases hrun : (runBacktest lib config candles (signalFn candles params).1
          (signalFn candles params).2 rng).1 with
      | error e =>
          rw [hrun] at h
          cases h
      | ok m' =>
          rw [hrun] at h
          rw [Option.some.inj h]
    -- no day was counted, so there is no candle
    have hdays := (runBacktest_ok hok).2.2.2
    rintro rfl
    have hlength : (candles.map dateOf).dedup.length = 0 := Int.ofNat_inj.mp hdays.symm
    have hnone := List.length_eq_zero_iff.mp hlength
    rw [List.dedup_eq_nil, List.map_eq_nil_iff] at hnone
    rw [hnone] at hmin
    exact hmin (by decide)

theorem ne_zeroMetrics_of_mem {t : Trial} {m : BacktestMetrics}
    (ht : t ∈ trials lib config candles signalFn grid rng) (hran : t.outcome = some m) :
    m ≠ zeroMetrics := by
  induction grid generalizing rng with
  | nil => cases ht
  | cons params grid ih =>
      rw [trials, List.mem_cons] at ht
      rcases ht with rfl | ht
      · exact ne_zeroMetrics_of_attempt hran
      · exact ih ht

/-- Zero is above -999. -/
theorem exists_outcome_of_le {ts : List Trial} (hle : ∀ t ∈ ts, t.sharpe ≤ -999) :
    ∀ t ∈ ts, ∃ m, t.outcome = some m := by
  intro t ht
  by_contra hnone
  rw [← Option.isSome_iff_exists, Option.not_isSome_iff_eq_none] at hnone
  have hzero : t.sharpe = 0 := by
    rw [Trial.sharpe, Trial.metrics, hnone]
    rfl
  have hlow := hle t ht
  rw [hzero] at hlow
  exact absurd hlow (by norm_num)

/-- If the leader ran, the search has chosen it. -/
theorem exists_leader (hne : grid ≠ [])
    (h : LeaderRan (trials lib config candles signalFn grid rng)) :
    ∃ t, IsFirstMax Trial.sharpe (trials lib config candles signalFn grid rng) t ∧
      -999 < t.sharpe ∧
        (optimise lib config candles signalFn grid rng).bestParams = t.params := by
  rcases optimise_cases lib config candles signalFn rng hne with
    ⟨t, hmax, hlt, hparams, -⟩ | ⟨hle, hhead, -⟩
  · exact ⟨t, hmax, hlt, hparams⟩
  · have hfirst := (head?_trials lib config candles signalFn rng).trans hhead
    rcases Option.map_eq_some_iff.mp hfirst with ⟨u, hu, -⟩
    have hmem := List.mem_of_mem_head? hu
    have hran := exists_outcome_of_le hle u hmem
    rcases h ⟨u, hmem, Option.isSome_iff_exists.mpr hran⟩ with ⟨t, hmax, -, hlt⟩
    exact absurd hlt (not_lt.mpr (hle t (mem_of_isFirstMax hmax)))

/-- What the search found is what it should find exactly if the leader ran. -/
theorem best_iff (hne : grid ≠ []) :
    (∃ t ∈ trials lib config candles signalFn grid rng,
      (optimise lib config candles signalFn grid rng).bestParams = t.params ∧
        (optimise lib config candles signalFn grid rng).bestIsMetrics = t.metrics ∧
          ∀ u ∈ trials lib config candles signalFn grid rng, ∀ m, u.outcome = some m →
            ∃ m', t.outcome = some m' ∧ m.sharpeRatio ≤ m'.sharpeRatio) ↔
      LeaderRan (trials lib config candles signalFn grid rng) := by
  rcases optimise_cases lib config candles signalFn rng hne with
    ⟨t, hmax, hlt, hparams, hmetrics⟩ | ⟨hle, -, hmetrics⟩
  · constructor
    · rintro ⟨t', ht', -, hsame, hbest⟩ ⟨u, hu, hran⟩
      refine ⟨t, hmax, ?_, hlt⟩
      -- the leader has the metrics of a set that ran
      rcases Option.isSome_iff_exists.mp hran with ⟨m, hm⟩
      rcases hbest u hu m hm with ⟨m', hm', -⟩
      have hmetrics' : t'.metrics = m' := by rw [Trial.metrics, hm', Option.getD_some]
      by_contra hnone
      rw [Option.not_isSome_iff_eq_none] at hnone
      have hzero : t.metrics = zeroMetrics := by rw [Trial.metrics, hnone, Option.getD_none]
      exact ne_zeroMetrics_of_mem ht' hm' (by rw [← hmetrics', ← hsame, hmetrics, hzero])
    · intro h
      refine ⟨t, mem_of_isFirstMax hmax, hparams, hmetrics, ?_⟩
      intro u hu m hm
      rcases h ⟨u, hu, Option.isSome_iff_exists.mpr ⟨m, hm⟩⟩ with ⟨t', hmax', hran, hlt'⟩
      rw [← eq_of_isFirstMax hmax hmax' hlt hlt'] at hran
      rcases Option.isSome_iff_exists.mp hran with ⟨m', hm'⟩
      refine ⟨m', hm', ?_⟩
      have hsharpe : u.sharpe ≤ t.sharpe := le_of_isFirstMax hmax hu
      rwa [Trial.sharpe, Trial.sharpe, Trial.metrics, Trial.metrics, hm, hm'] at hsharpe
  · -- no set failed, so the zeros are the metrics of none
    have hran := exists_outcome_of_le hle
    constructor
    · rintro ⟨t, ht, -, hsame, -⟩
      rcases hran t ht with ⟨m, hm⟩
      have hzero : m = zeroMetrics := by
        rw [← hmetrics, hsame, Trial.metrics, hm, Option.getD_some]
      exact absurd hzero (ne_zeroMetrics_of_mem ht hm)
    · intro h
      rcases exists_leader hne h with ⟨t, hmax, hlt, -⟩
      exact absurd hlt (not_lt.mpr (hle t (mem_of_isFirstMax hmax)))

end Trials

/-! ## A grid with a set that fails -/

/-- The momentum signals, without those of the first bars that a set may skip. -/
def skippingSignals : SignalFn := fun candles params =>
  let skip := if (params.get? "skip").isSome then 1 else 0
  ((momentumSignals candles params).1.drop skip, (momentumSignals candles params).2.drop skip)

end Intraday.Backtesting
