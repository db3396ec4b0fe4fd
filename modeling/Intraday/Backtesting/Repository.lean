import Intraday.Backtesting.PromotionGate
import Intraday.Lib.Dict
import Intraday.Lib.Json
import Intraday.Lib.Machine

/-!
# Intraday.Backtesting.Repository — `shared/backtesting/repository.py`

A result is stored as one row of `backtest_results`, under its run id. Saving under an id that is
stored already replaces the flag of the promotion gate and the paths of the reports, and neither
the metrics nor the failures; run ids are short, and may repeat.

`rows_consistent_iff` is the exact condition under which each row keeps the verdict on its own
metrics, over any sequence of saves.
-/

namespace Intraday.Backtesting

open Intraday.Lib

/-! ## The table -/

/-- A row of `backtest_results`. -/
structure Row where
  runId : String
  strategyId : String
  symbol : String
  exchange : String
  startDate : Date
  endDate : Date
  totalTrades : ℤ
  tradingDays : ℤ
  sharpeRatio : ℚ
  sortinoRatio : ℚ
  maxDrawdownPct : ℚ
  winRatePct : ℚ
  totalReturnPct : ℚ
  annualizedReturnPct : ℚ
  profitFactor : ℚ
  calmarRatio : ℚ
  avgSlippageBps : ℚ
  passedPromotionGate : Bool
  promotionFailures : Option Json
  reportHtmlPath : Option String
  reportCsvPath : Option String
  completedAt : DateTime

/-- The rows by run id, which is the primary key. -/
abbrev Table := Dict String Row

/-- `json.dumps` of a list of texts. -/
def dumpsTexts (texts : List String) : String := Json.dumps (.arr (texts.map Json.str))

/-- The values that `save_result` hands to the statement. The failures arrive as text, which the
column reads as JSON. -/
def excluded (result : BacktestResult) : Row :=
  let m := result.metrics
  { runId := result.runId
    strategyId := result.config.strategyId
    symbol := result.config.symbol
    exchange := result.config.exchange
    startDate := result.config.startDate
    endDate := result.config.endDate
    totalTrades := m.totalTrades
    tradingDays := m.tradingDays
    sharpeRatio := m.sharpeRatio
    sortinoRatio := m.sortinoRatio
    maxDrawdownPct := m.maxDrawdownPct
    winRatePct := m.winRatePct
    totalReturnPct := m.totalReturnPct
    annualizedReturnPct := m.annualizedReturnPct
    profitFactor := m.profitFactor
    calmarRatio := m.calmarRatio
    avgSlippageBps := m.avgSlippageBps
    passedPromotionGate := result.passedPromotionGate
    promotionFailures := Json.loads (dumpsTexts result.promotionFailures)
    reportHtmlPath := result.reportHtmlPath
    reportCsvPath := result.reportCsvPath
    completedAt := result.completedAt }

/-- `ON CONFLICT (run_id) DO UPDATE` of `_INSERT_SQL`. -/
def onConflict (row new : Row) : Row :=
  { row with
    passedPromotionGate := new.passedPromotionGate
    reportHtmlPath := new.reportHtmlPath
    reportCsvPath := new.reportCsvPath }

/-- `save_result`. -/
def saveResult (table : Table) (result : BacktestResult) : Table :=
  let new := excluded result
  match table.get? result.runId with
  | none => table.set result.runId new
  | some row => table.set result.runId (onConflict row new)

/-- The table as a machine: it is driven by results and replies nothing. -/
def repository : Machine Table BacktestResult Unit :=
  ⟨fun table result => (saveResult table result, ())⟩

/-! ## Consistent rows -/

/-- The metrics of a row. The expectancy is not stored, and the gate does not read it. -/
def Row.metrics (row : Row) : BacktestMetrics :=
  { sharpeRatio := row.sharpeRatio
    sortinoRatio := row.sortinoRatio
    maxDrawdownPct := row.maxDrawdownPct
    winRatePct := row.winRatePct
    expectancyPerTrade := 0
    profitFactor := row.profitFactor
    calmarRatio := row.calmarRatio
    avgSlippageBps := row.avgSlippageBps
    totalTrades := row.totalTrades
    tradingDays := row.tradingDays
    totalReturnPct := row.totalReturnPct
    annualizedReturnPct := row.annualizedReturnPct }

/-- The flag and the failures of a row are the verdict on its metrics. -/
structure Row.Consistent (row : Row) : Prop where
  passed : row.passedPromotionGate = clears row.metrics
  failures : row.promotionFailures =
    some (.arr ((checkPromotionGate row.metrics).map Json.str))

/-- All rows are consistent. -/
def Consistent (table : Table) : Prop := ∀ row ∈ table.values, row.Consistent

/-- A save finds no row under its id, or one whose metrics have the same verdict. -/
def SameVerdict (table : Table) (result : BacktestResult) : Prop :=
  ∀ row, table.get? result.runId = some row → clears result.metrics = clears row.metrics

variable {table : Table} {result : BacktestResult}

/-- The row of a new result is consistent. -/
theorem consistent_excluded (h : OfBacktest result) : (excluded result).Consistent := by
  rcases h.verdict with ⟨hpassed, hfailures⟩
  have hgate : checkPromotionGate (excluded result).metrics =
      checkPromotionGate result.metrics := rfl
  refine ⟨?_, ?_⟩
  · rw [clears, hgate]
    exact hpassed
  · rw [hgate, ← hfailures]
    exact Json.loads_dumps _

/-- An updated row stays consistent exactly if the new verdict is the one on its metrics. -/
theorem consistent_onConflict (h : OfBacktest result) {row : Row} (hrow : row.Consistent) :
    (onConflict row (excluded result)).Consistent ↔ clears result.metrics = clears row.metrics := by
  constructor
  · rintro ⟨hpassed, -⟩
    exact h.verdict.1.symm.trans hpassed
  · intro hsame
    exact ⟨h.verdict.1.trans hsame, hrow.failures⟩

/-- A consistent table after a row is written. -/
theorem consistent_set (h : Consistent table) (runId : String) (row : Row) :
    Consistent (table.set runId row) ↔ row.Consistent := by
  constructor
  · intro hall
    exact hall row (Dict.mem_values.mpr ⟨runId, Dict.get?_set_self table runId row⟩)
  · intro hrow other hother
    rcases Dict.mem_values.mp hother with ⟨id, hget⟩
    by_cases hid : id = runId
    · subst hid
      rw [Dict.get?_set_self] at hget
      rwa [← Option.some.inj hget]
    · rw [Dict.get?_set_of_ne table row hid] at hget
      exact h other (Dict.mem_values.mpr ⟨id, hget⟩)

/-- A save keeps the rows consistent exactly if it finds the same verdict under its id. -/
theorem consistent_saveResult (h : Consistent table) (hresult : OfBacktest result) :
    Consistent (saveResult table result) ↔ SameVerdict table result := by
  rw [saveResult, SameVerdict]
  cases hget : table.get? result.runId with
  | none =>
      have hnew := (consistent_set h result.runId (excluded result)).mpr
        (consistent_excluded hresult)
      exact iff_of_true hnew (by simp)
  | some row =>
      have hrow : row.Consistent := h row (Dict.mem_values.mpr ⟨_, hget⟩)
      simp only [consistent_set h, consistent_onConflict hresult hrow, Option.some.injEq,
        forall_eq']

/-- Exactly when every row keeps the verdict on its metrics, over any sequence of saves of
backtests: whenever a run id repeats, the new metrics have the same verdict as the stored ones. -/
theorem rows_consistent_iff (results : List BacktestResult)
    (h : ∀ result ∈ results, OfBacktest result) :
    (∀ t ∈ repository.trans Dict.empty results, Consistent t.post) ↔
      ∀ t ∈ repository.trans Dict.empty results, SameVerdict t.pre t.op := by
  have hexact : ∀ (table : Table) (result : BacktestResult), True → Consistent table →
      OfBacktest result → (Consistent (repository.next table result) ↔ SameVerdict table result) :=
    fun _ _ _ htable hresult => consistent_saveResult htable hresult
  have hempty : Consistent Dict.empty := by
    intro row hrow
    cases hrow
  exact Machine.trans_forall_iff repository (fun _ _ _ => trivial) hexact trivial hempty
    (repository.trans_forall_op h)

/-! ## An example

Two backtests that share a run id; the first clears the gate and the second does not. -/

/-- Metrics that clear the gate if the Sharpe ratio does. -/
def sampleMetrics (sharpeRatio : ℚ) : BacktestMetrics :=
  { sharpeRatio := sharpeRatio, sortinoRatio := 2, maxDrawdownPct := 3, winRatePct := 55
    expectancyPerTrade := 1 / 10, profitFactor := 3 / 2, calmarRatio := 4, avgSlippageBps := 5
    totalTrades := 40, tradingDays := 30, totalReturnPct := 6, annualizedReturnPct := 50 }

/-- The first of January 2026. -/
def sampleDate : Date :=
  { year := 2025, month := 1, day := 1, year_range := by decide, month_range := by decide
    day_range := by decide }

/-- A backtest under the id of the example. -/
def sampleResult (sharpeRatio : ℚ) : BacktestResult :=
  finishBacktest "0a1b2c3d"
    { strategyId := "EMA9X21", symbol := "RELIANCE", exchange := "NSE", startDate := sampleDate
      endDate := sampleDate }
    (sampleMetrics sharpeRatio)
    { date := sampleDate, hour := 17, minute := 31, second := 43, microsecond := 0
      hour_range := by decide, minute_range := by decide, second_range := by decide
      microsecond_range := by decide }

theorem ofBacktest_samples (sharpeRatios : List ℚ) :
    ∀ result ∈ sharpeRatios.map sampleResult, OfBacktest result := by
  intro result hresult
  rcases List.mem_map.mp hresult with ⟨sharpeRatio, -, rfl⟩
  exact .run _ _ _ _

/-- In an empty table the first save meets no row, and the second the row of the first. -/
theorem sameVerdict_samples (first second : ℚ) :
    SameVerdict Dict.empty (sampleResult first) ∧
      (SameVerdict (saveResult Dict.empty (sampleResult first)) (sampleResult second) ↔
        clears (sampleMetrics second) = clears (sampleMetrics first)) := by
  constructor
  · intro row hrow
    cases hrow
  · have hget : (saveResult Dict.empty (sampleResult first)).get? (sampleResult second).runId =
        some (excluded (sampleResult first)) := Dict.get?_set_self Dict.empty _ _
    rw [SameVerdict, hget]
    simp only [Option.some.injEq, forall_eq']
    exact Iff.rfl

/-- Two backtests with the same verdict. -/
theorem sample_rows_consistent :
    Consistent (saveResult Dict.empty (sampleResult 2)) ∧
      Consistent (saveResult (saveResult Dict.empty (sampleResult 2)) (sampleResult 3)) := by
  have hall := (rows_consistent_iff ([2, 3].map sampleResult) (ofBacktest_samples [2, 3])).mpr <|
    List.forall_mem_cons.mpr ⟨(sameVerdict_samples 2 3).1, List.forall_mem_cons.mpr
      ⟨(sameVerdict_samples 2 3).2.mpr (by decide +kernel), by simp⟩⟩
  simp only [List.map_cons, Machine.trans_cons, List.forall_mem_cons] at hall
  exact ⟨hall.1, hall.2.1⟩

/-- The flag of the second is stored beside the metrics of the first. -/
theorem repeated_run_id_mixes_verdicts :
    ¬ ∀ results : List BacktestResult, (∀ result ∈ results, OfBacktest result) →
      ∀ t ∈ repository.trans Dict.empty results, Consistent t.post := by
  intro h
  have hall := h ([2, 1].map sampleResult) (ofBacktest_samples [2, 1])
  simp only [List.map_cons, Machine.trans_cons, List.forall_mem_cons] at hall
  have hfirst : Consistent (saveResult Dict.empty (sampleResult 2)) := hall.1
  have hsecond : Consistent
      (saveResult (saveResult Dict.empty (sampleResult 2)) (sampleResult 1)) := hall.2.1
  have hsame := (consistent_saveResult hfirst (ofBacktest_samples [1] _ (by simp))).mp hsecond
  have hclears := (sameVerdict_samples 2 1).2.mp hsame
  revert hclears
  decide +kernel

end Intraday.Backtesting
