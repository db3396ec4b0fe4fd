import Intraday.Lib.Traverse
import Intraday.Backtesting.Metrics
import Intraday.Backtesting.Trades

/-!
# Intraday.Backtesting.Engine — `shared/backtesting/engine.py`, `shared/backtesting/slippage.py`

`run_backtest` draws a slippage for every bar with a signal, hands the adjusted prices to
`vectorbt` and computes the metrics of the portfolio. The generator is one that the caller goes on
using, so a run returns it as its draws have left it, whether the run succeeds or not.

The generator, the portfolio and the roots are parameters (`Libraries`).
-/

namespace Intraday.Backtesting

open Intraday.Core Intraday.Lib Intraday.Lib.Raise
open Intraday.Patterns (OHLCVCandle)

/-! ## Slippage -/

/-- `OPEN_BUCKET`. -/
def openBucket : SlippageBucket where
  name := "OPEN"
  startHour := 9
  startMinute := 15
  endHour := 10
  endMinute := 0
  mu := slippageBucketOpenMu
  sigma := slippageBucketOpenSigma

/-- `MID_SESSION_BUCKET`. -/
def midSessionBucket : SlippageBucket where
  name := "MID_SESSION"
  startHour := 10
  startMinute := 0
  endHour := 14
  endMinute := 30
  mu := slippageBucketMidMu
  sigma := slippageBucketMidSigma

/-- `CLOSE_BUCKET`. -/
def closeBucket : SlippageBucket where
  name := "CLOSE"
  startHour := 14
  startMinute := 30
  endHour := 15
  endMinute := 10
  mu := slippageBucketCloseMu
  sigma := slippageBucketCloseSigma

/-- `_bucket_contains`, of the minute of a day. -/
def bucketContains (bucket : SlippageBucket) (t : ℤ) : Bool :=
  decide ((bucket.startHour * 60 + bucket.startMinute : ℤ) ≤ t) &&
    decide (t < bucket.endHour * 60 + bucket.endMinute)

/-- `get_bucket`: outside of all buckets, the middle one. -/
def getBucket (signalTime : PyDateTime) : SlippageBucket :=
  let t := signalTime.wall % dayMicros / 60000000
  ([openBucket, midSessionBucket, closeBucket].find? (bucketContains · t)).getD midSessionBucket

/-- The exceptions that a backtest raises and its callers catch. -/
inductive Fault where
  | valueError
  | runtimeError
deriving DecidableEq

/-- The arguments of `Portfolio.from_signals`. -/
structure Signals where
  timestamps : List PyDateTime
  close : List ℚ
  entries : List Bool
  exits : List Bool
  price : List ℚ
  size : ℚ
  initCash : ℚ
  freq : String

/-- A portfolio, by its value at each bar and the table of its trades. -/
structure Portfolio where
  value : List ℚ
  records : List TradeRecord

/-- What a backtest takes from `numpy`, `math` and `vectorbt`: a generator from a seed, a draw of
the log-normal distribution, the portfolio, and roots and powers. -/
structure Libraries (G R : Type) where
  defaultRng : ℕ → G
  lognormal : ℚ → ℚ → G → ℚ × G
  fromSignals : Signals → Except Fault Portfolio
  numerics : Numerics R

variable {G R : Type} [Field R] [LinearOrder R] [FloorRing R] (lib : Libraries G R)

/-- `sample_slippage_bps`. -/
def sampleSlippageBps (signalTime : PyDateTime) (spreadBps : ℚ) (rng : G) : ℚ × G :=
  let bucket := getBucket signalTime
  let draw := lib.lognormal bucket.mu bucket.sigma rng
  (draw.1 * (max spreadBps 0 / slippageReferenceSpreadBps), draw.2)

/-! ## The candle series -/

/-- The seconds between the first two candles. -/
def firstDelta (candles : List OHLCVCandle) : Option ℚ :=
  match candles with
  | first :: second :: _ => some ((second.time.instant - first.time.instant : ℤ) / 1000000)
  | _ => none

/-- `_infer_bars_per_day`. -/
def inferBarsPerDay (candles : List OHLCVCandle) : BarsPerDay :=
  match firstDelta candles with
  | none => ⟨1, one_pos⟩
  | some delta =>
      if h : 0 < delta then ⟨375 * 60 / delta, div_pos (by norm_num) h⟩ else ⟨1, one_pos⟩

/-- `_infer_freq`. -/
def inferFreq (candles : List OHLCVCandle) : String :=
  match firstDelta candles with
  | none => "1D"
  | some delta =>
      if |delta| ≤ 60 then "1T"
      else if |delta| ≤ 300 then "5T"
      else if |delta| ≤ 900 then "15T"
      else if |delta| ≤ 3600 then "1h"
      else "1D"

/-- `c.time.date()`, by its ordinal. -/
def dateOf (candle : OHLCVCandle) : ℤ := candle.time.ordinal

/-- `_count_trading_days`. -/
def countTradingDays (candles : List OHLCVCandle) : ℕ := (candles.map dateOf).dedup.length

/-! ## A run -/

/-- `_MIN_CANDLES`. -/
def minCandles : ℕ := 30

/-- The arrays of the slippage and of the adjusted prices, up to a bar. -/
structure Fills (G : Type) where
  entrySlipBps : List ℚ
  exitSlipBps : List ℚ
  adjPrice : List ℚ
  rng : G

/-- The loop body of `run_backtest`, on a bar with its two signals. -/
def fillBar (spreadBps : ℚ) (fills : Fills G) (bar : OHLCVCandle × Bool × Bool) : Fills G :=
  let close := bar.1.close
  let draw := sampleSlippageBps lib bar.1.time spreadBps fills.rng
  if bar.2.1 then
    { entrySlipBps := fills.entrySlipBps ++ [draw.1]
      exitSlipBps := fills.exitSlipBps ++ [0]
      adjPrice := fills.adjPrice ++ [close * (1 + draw.1 / 10000)]
      rng := draw.2 }
  else if bar.2.2 then
    { entrySlipBps := fills.entrySlipBps ++ [0]
      exitSlipBps := fills.exitSlipBps ++ [draw.1]
      adjPrice := fills.adjPrice ++ [close * (1 - draw.1 / 10000)]
      rng := draw.2 }
  else
    { entrySlipBps := fills.entrySlipBps ++ [0]
      exitSlipBps := fills.exitSlipBps ++ [0]
      adjPrice := fills.adjPrice ++ [close]
      rng := fills.rng }

/-- The loop of `run_backtest`. -/
def fillBars (candles : List OHLCVCandle) (entrySignals exitSignals : List Bool) (spreadBps : ℚ)
    (rng : G) : Fills G :=
  (candles.zip (entrySignals.zip exitSignals)).foldl (fillBar lib spreadBps)
    { entrySlipBps := [], exitSlipBps := [], adjPrice := [], rng := rng }

/-- `run_backtest`, up to its metrics, and the generator after it. -/
def runBacktest (config : BacktestConfig) (candles : List OHLCVCandle)
    (entrySignals exitSignals : List Bool) (rng : G) (spreadBps : ℚ := 5) :
    Except Fault BacktestMetrics × G :=
  if hfew : candles.length < minCandles then (.error .valueError, rng)
  else if entrySignals.length ≠ candles.length ∨ exitSignals.length ≠ candles.length then
    (.error .valueError, rng)
  else
    have hne : candles ≠ [] := by
      rintro rfl
      exact hfew (by decide)
    let fills := fillBars lib candles entrySignals exitSignals spreadBps rng
    let portfolio := lib.fromSignals
      { timestamps := candles.map OHLCVCandle.time
        close := candles.map OHLCVCandle.close
        entries := entrySignals
        exits := exitSignals
        price := fills.adjPrice
        size := config.positionSizePct
        initCash := config.initialCapital
        freq := inferFreq candles }
    let metrics := portfolio.map fun pf =>
      let trades := extractTrades pf.records config candles hne fills.entrySlipBps fills.exitSlipBps
      computeMetrics lib.numerics trades pf.value config.initialCapital config.riskFreeRateAnnual
        (countTradingDays candles) (inferBarsPerDay candles)
    (metrics, fills.rng)

/-! ## What a run says -/

variable {lib} {config : BacktestConfig} {candles : List OHLCVCandle} {entries exits : List Bool}
  {rng : G} {m : BacktestMetrics}

/-- A run that succeeds is one of enough candles, with two signals for each. -/
theorem runBacktest_ok (h : (runBacktest lib config candles entries exits rng).1 = .ok m) :
    minCandles ≤ candles.length ∧ entries.length = candles.length ∧
      exits.length = candles.length ∧ m.tradingDays = countTradingDays candles := by
  unfold runBacktest at h
  split at h
  · cases h
  · rename_i hfew
    split at h
    · cases h
    · rename_i hlen
      rw [not_or, not_not, not_not] at hlen
      refine ⟨not_lt.mp hfew, hlen.1, hlen.2, ?_⟩
      rcases exists_of_map_ok h with ⟨pf, -, rfl⟩
      rfl

variable (lib config rng) in
/-- A run on enough candles, with two signals for each, returns the metrics of the portfolio, with a
trade for each record. -/
theorem exists_runBacktest {pf : Portfolio} (hmin : minCandles ≤ candles.length)
    (hentries : entries.length = candles.length) (hexits : exits.length = candles.length)
    (hportfolio : lib.fromSignals
      { timestamps := candles.map OHLCVCandle.time
        close := candles.map OHLCVCandle.close
        entries := entries
        exits := exits
        price := (fillBars lib candles entries exits 5 rng).adjPrice
        size := config.positionSizePct
        initCash := config.initialCapital
        freq := inferFreq candles } = .ok pf) :
    ∃ trades : List Trade, trades.length = pf.records.length ∧
      runBacktest lib config candles entries exits rng =
        (.ok (computeMetrics lib.numerics trades pf.value config.initialCapital
          config.riskFreeRateAnnual (countTradingDays candles) (inferBarsPerDay candles)),
          (fillBars lib candles entries exits 5 rng).rng) := by
  have hfew : ¬ candles.length < minCandles := not_lt.mpr hmin
  have hsame : ¬ (entries.length ≠ candles.length ∨ exits.length ≠ candles.length) := by
    rw [not_or, not_not, not_not]
    exact ⟨hentries, hexits⟩
  have hne : candles ≠ [] := by
    rintro rfl
    exact hfew (by decide)
  refine ⟨extractTrades pf.records config candles hne
    (fillBars lib candles entries exits 5 rng).entrySlipBps
    (fillBars lib candles entries exits 5 rng).exitSlipBps, List.length_mapIdx, ?_⟩
  rw [runBacktest, dif_neg hfew, if_neg hsame]
  simp only [hportfolio]
  rfl

end Intraday.Backtesting
