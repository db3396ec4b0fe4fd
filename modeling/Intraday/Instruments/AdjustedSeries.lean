import Intraday.Instruments.Adjustment
import Intraday.Instruments.Refresh
import Intraday.Lib.Machine

/-!
# Intraday.Instruments.AdjustedSeries — `get_adjusted_series` of `shared/instruments/service.py`

A series is adjusted by the actions that the table has for its symbol. The table is filled by any
number of refreshes, each of which commits the live actions before it loads the manual overrides,
and may end early. The adjustment does not depend on the order of the rows, so the series is
adjusted by the last action that was written for each ex-date and type
(`adjusted_series_run`).
-/

namespace Intraday.Instruments

open Intraday.Lib Intraday.Patterns

/-- What a refresh gets: the live actions and the manual overrides; `none` if the source raises. -/
structure ActionSources where
  live : Option (List Action)
  manual : Option (List Action)

/-- What ends a refresh. -/
inductive RefreshFailure where
  /-- the live source or the loader of the overrides -/
  | source
  | db (e : DbError)
deriving DecidableEq

/-- `upsert_many` of what a source gives: the table after it, and how many rows were written. -/
def upsertSource (t : ActionTable) : Option (List Action) → ActionTable × Except RefreshFailure ℕ
  | none => (t, .error .source)
  | some actions =>
      match upsertMany t actions with
      | .error e => (t, .error (.db e))
      | .ok (t', n) => (t', .ok n)

/-- `refresh_corporate_actions`, each time on a connection of its own. -/
def refreshes : Machine ActionTable ActionSources (Except RefreshFailure ℕ) where
  step t sources :=
    match upsertSource t sources.live with
    | (t, .error e) => (t, .error e)
    | (t, .ok liveWritten) =>
        match upsertSource t sources.manual with
        | (t, .error e) => (t, .error e)
        | (t, .ok manualWritten) => (t, .ok (liveWritten + manualWritten))

/-- `get_adjusted_series`. -/
def getAdjustedSeries (t : ActionTable) (symbol exchange : String) (candles : List OHLCVCandle) :
    List OHLCVCandle :=
  adjustedCandles candles (listForSymbol t symbol exchange)

/-! ## What a refresh writes -/

instance (actions : List Action) : Decidable (Insertable actions) :=
  inferInstanceAs (Decidable (_ ∧ _))

/-- The actions of a source, if it gives them and they can be written. -/
def taken (source : Option (List Action)) : Option (List Action) :=
  source.filter fun actions => decide (Insertable actions)

/-- The actions that a refresh writes: the overrides only after the live ones. -/
def writtenBy (sources : ActionSources) : List Action :=
  (taken sources.live).elim [] fun live => live ++ (taken sources.manual).getD []

theorem upsertSource_of_taken (t : ActionTable) {source : Option (List Action)}
    {actions : List Action} (h : taken source = some actions) :
    upsertSource t source = (actions.foldl Table.put t, .ok actions.length) := by
  rw [taken, Option.filter_eq_some_iff] at h
  rcases h with ⟨rfl, hinsertable⟩
  rw [upsertSource, upsertMany_eq_ok_iff.mpr ⟨of_decide_eq_true hinsertable, rfl, rfl⟩]

/-- A source whose actions are not written leaves the table as it is, and ends the refresh. -/
theorem upsertSource_of_not_taken (t : ActionTable) {source : Option (List Action)}
    (h : taken source = none) : ∃ e, upsertSource t source = (t, .error e) := by
  cases source with
  | none => exact ⟨.source, rfl⟩
  | some actions =>
      rw [upsertSource]
      cases hupsert : upsertMany t actions with
      | error e => exact ⟨.db e, rfl⟩
      | ok result =>
          rcases result with ⟨t', n⟩
          have hinsertable := (upsertMany_eq_ok_iff.mp hupsert).1
          rw [taken, Option.filter_some, if_pos (decide_eq_true hinsertable)] at h
          cases h

/-- A refresh puts what it writes. -/
theorem refreshes_next (t : ActionTable) (sources : ActionSources) :
    refreshes.next t sources = (writtenBy sources).foldl Table.put t := by
  show (refreshes.step t sources).1 = _
  rw [writtenBy]
  simp only [refreshes]
  cases hlive : taken sources.live with
  | none =>
      rcases upsertSource_of_not_taken t hlive with ⟨e, he⟩
      rw [he]
      rfl
  | some live =>
      rw [upsertSource_of_taken t hlive, Option.elim_some, List.foldl_append]
      cases hmanual : taken sources.manual with
      | none =>
          rcases upsertSource_of_not_taken (live.foldl Table.put t) hmanual with ⟨e, he⟩
          simp only [he]
          rfl
      | some manual => simp only [upsertSource_of_taken _ hmanual, Option.getD_some]

/-- A run puts what its refreshes write, one after the other. -/
theorem run_refreshes (t : ActionTable) (ops : List ActionSources) :
    refreshes.run t ops = (ops.flatMap writtenBy).foldl Table.put t := by
  induction ops generalizing t with
  | nil => rfl
  | cons sources ops ih =>
      rw [Machine.run, refreshes_next, ih, List.flatMap_cons, List.foldl_append]

/-! ## The series -/

/-- Of some actions, the last one for each ex-date and type of a symbol. -/
def lastActions (symbol exchange : String) (actions : List Action) : List Action :=
  (Table.lastRows actionKey actions).filter fun a =>
    decide (a.args.symbol = symbol ∧ a.args.exchange = exchange)

/-- Tables with the same rows adjust alike. -/
theorem getAdjustedSeries_perm {t : ActionTable} {actions : List Action}
    (h : t.all.Perm actions) (symbol exchange : String) (candles : List OHLCVCandle) :
    getAdjustedSeries t symbol exchange candles =
      adjustedCandles candles (actions.filter fun a =>
        decide (a.args.symbol = symbol ∧ a.args.exchange = exchange)) := by
  have hperm : (listForSymbol t symbol exchange).Perm (actions.filter fun a =>
      decide (a.args.symbol = symbol ∧ a.args.exchange = exchange)) :=
    (List.mergeSort_perm _ _).trans (h.filter _)
  rw [getAdjustedSeries, adjustedCandles_eq, adjustedCandles_eq]
  refine List.map_congr_left fun c _ => ?_
  rw [ratios, ratios, factor_perm (hperm.filterMap _)]

/-- After any refreshes, a series is adjusted by the last action that was written for each ex-date
and type of its symbol. So a refresh that is repeated changes no series. -/
theorem adjusted_series_run (ops : List ActionSources) (symbol exchange : String)
    (candles : List OHLCVCandle) :
    getAdjustedSeries (refreshes.run (Table.empty actionKey) ops) symbol exchange candles =
        adjustedCandles candles (lastActions symbol exchange (ops.flatMap writtenBy)) ∧
      ∀ sources, getAdjustedSeries (refreshes.run (Table.empty actionKey) (ops ++ [sources, sources]))
          symbol exchange candles =
        getAdjustedSeries (refreshes.run (Table.empty actionKey) (ops ++ [sources]))
          symbol exchange candles := by
  refine ⟨?_, ?_⟩
  · rw [run_refreshes]
    exact getAdjustedSeries_perm (Table.all_puts_perm _) symbol exchange candles
  · intro sources
    have hfind : ∀ k, (refreshes.run (Table.empty actionKey) (ops ++ [sources, sources])).find k =
        (refreshes.run (Table.empty actionKey) (ops ++ [sources])).find k := by
      intro k
      rw [run_refreshes, run_refreshes, Table.find_foldl_put, Table.find_foldl_put]
      -- the last action with a key is among those of the last refresh, or before both
      simp only [List.flatMap_append, List.flatMap_cons, List.flatMap_nil, List.append_nil,
        List.filter_append, List.getLast?_append, Option.or_self]
    rw [getAdjustedSeries_perm (Table.all_perm hfind), getAdjustedSeries_perm (List.Perm.refl _)]

end Intraday.Instruments
