import Intraday.Core.Constants
import Intraday.Lib.Date
import Intraday.Lib.Dict
import Intraday.Risk.Models

/-!
# Intraday.Universe.Filter — `shared/universe/filter.py`

`run_universe_filter` scores the instruments of an exchange, ranks them by their composite score
and keeps the best. In `HIGH_VOL_CHAOS` the result is empty before anything is scored. All
entries of a result carry the time of the run, and their ranks are `1, 2, …` in this order.

The component scores and the composite are parameters.
-/

namespace Intraday.Universe

open Intraday.Core Intraday.Lib
open Intraday.Risk (MarketRegime)

/-! ## Models -/

/-- `AlphaComponents`. -/
structure AlphaComponents where
  trendScore : PyFloat
  volScore : PyFloat
  liqScore : PyFloat
  sentScore : PyFloat
deriving DecidableEq

/-- `WatchlistEntry`. -/
structure WatchlistEntry where
  symbol : String
  exchange : String
  rank : ℤ
  compositeScore : PyFloat
  components : AlphaComponents
  regime : MarketRegime
  strategyId : String
  scoredAt : DateTime
deriving DecidableEq

/-- An instrument. -/
structure Instrument where
  symbol : String
  exchange : String
deriving DecidableEq, Repr

/-- The candles of a symbol; an array that is missing is empty. -/
structure CandleArrays where
  close : List PyFloat := []
  high : List PyFloat := []
  low : List PyFloat := []
  volume : List PyFloat := []

/-- `ComplianceExclusionList`, as far as the filter reads it. -/
structure ComplianceExclusionList where
  asmSymbols : List String
  esmSymbols : List String
  banSymbols : List String
  mwplExceededSymbols : List String

/-- `is_excluded`. -/
def ComplianceExclusionList.isExcluded (upper : String → String) (l : ComplianceExclusionList)
    (symbol : String) : Bool :=
  let sym := upper symbol
  decide (sym ∈ l.asmSymbols ∨ sym ∈ l.esmSymbols ∨ sym ∈ l.banSymbols ∨
    sym ∈ l.mwplExceededSymbols)

/-! ## Scoring -/

/-- `score_stock`, and `compute_composite` with the weights of a regime. -/
structure Scoring where
  scoreStock : CandleArrays → MarketRegime → AlphaComponents
  computeComposite : AlphaComponents → MarketRegime → PyFloat

/-- `STRATEGY_TREND_SCORE_THRESHOLD`: `0.6`. -/
def strategyTrendScoreThreshold : PyFloat :=
  .finite false { digits := 6, exp := -1, normal := .inl (by decide) }

/-- `assign_strategy_id`. -/
def assignStrategyId (regime : MarketRegime) (trendScore : PyFloat) : String :=
  match regime with
  | .bullTrend | .bearTrend =>
      if PyFloat.le strategyTrendScoreThreshold trendScore then "EMA_VWAP_TREND"
      else "MOMENTUM_RSI"
  | .meanReverting | .highVolChaos => "MEAN_REVERT_PIVOT"

/-- `rank_entries`: by descending composite score, entries of equal score in the order given. -/
def rankEntries (entries : List WatchlistEntry) : List WatchlistEntry :=
  (entries.mergeSort fun a b => PyFloat.le b.compositeScore a.compositeScore).mapIdx
    fun idx e => { e with rank := idx + 1 }

/-! ## The filter -/

/-- A run of the filter, for one exchange: its arguments, and the time at which it is made. -/
structure FilterRun where
  exchange : String
  instruments : List Instrument
  candlesBySymbol : Dict String CandleArrays
  regime : MarketRegime
  exclusionList : ComplianceExclusionList
  topN : ℕ := watchlistTopN
  now : DateTime
  ofExchange : ∀ i ∈ instruments, i.exchange = exchange

/-- The entry of one instrument, if it gets one. -/
def scoreInstrument (upper : String → String) (scoring : Scoring) (run : FilterRun)
    (instrument : Instrument) : Option WatchlistEntry :=
  -- excluded for compliance, without candles, or with too few: no entry
  if run.exclusionList.isExcluded upper instrument.symbol then none
  else
    match run.candlesBySymbol.get? instrument.symbol with
    | none => none
    | some candles =>
        if candles.close.length < watchlistMinCandles then none
        else
          let components := scoring.scoreStock candles run.regime
          some
            { symbol := instrument.symbol
              exchange := instrument.exchange
              rank := 0
              compositeScore := scoring.computeComposite components run.regime
              components := components
              regime := run.regime
              strategyId := assignStrategyId run.regime components.trendScore
              scoredAt := run.now }

/-- `run_universe_filter`. -/
def runUniverseFilter (upper : String → String) (scoring : Scoring) (run : FilterRun) :
    List WatchlistEntry :=
  -- the refusal comes before anything is scored
  if run.regime = .highVolChaos then []
  else (rankEntries (run.instruments.filterMap (scoreInstrument upper scoring run))).take run.topN

/-! ## What a result looks like -/

/-- An entry of a run, whatever its rank. -/
def OfRun (run : FilterRun) (e : WatchlistEntry) : Prop :=
  e.exchange = run.exchange ∧ e.scoredAt = run.now

variable {upper : String → String} {scoring : Scoring} {run : FilterRun} {e : WatchlistEntry}

theorem ofRun_of_scoreInstrument {instrument : Instrument}
    (hinstrument : instrument ∈ run.instruments)
    (h : scoreInstrument upper scoring run instrument = some e) : OfRun run e := by
  rw [scoreInstrument] at h
  split at h
  · cases h
  · split at h
    · cases h
    · split at h
      · cases h
      · rw [← Option.some.inj h]
        exact ⟨run.ofExchange instrument hinstrument, rfl⟩

/-- Ranking and cutting keep the entries, but for their ranks. -/
theorem ofRun_of_mem (h : e ∈ runUniverseFilter upper scoring run) : OfRun run e := by
  rw [runUniverseFilter] at h
  split at h
  · cases h
  · have hranked := List.mem_of_mem_take h
    rw [rankEntries, List.mem_mapIdx] at hranked
    rcases hranked with ⟨i, hi, rfl⟩
    have hscored := List.mem_mergeSort.mp (List.getElem_mem hi)
    rw [List.mem_filterMap] at hscored
    rcases hscored with ⟨instrument, hinstrument, hentry⟩
    have hofRun := ofRun_of_scoreInstrument hinstrument hentry
    exact ⟨hofRun.1, hofRun.2⟩

/-- The ranks grow along a result. -/
theorem ranks_sorted (upper : String → String) (scoring : Scoring) (run : FilterRun) :
    (runUniverseFilter upper scoring run).Pairwise fun a b => a.rank < b.rank := by
  rw [runUniverseFilter]
  split
  · exact List.Pairwise.nil
  · refine List.Pairwise.sublist (List.take_sublist _ _) ?_
    -- before the cut, the rank of an entry is its index and one
    rw [List.pairwise_iff_getElem]
    intro i j hi hj hij
    simpa [rankEntries] using hij

end Intraday.Universe
