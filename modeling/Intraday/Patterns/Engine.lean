import Mathlib.Data.List.Dedup
import Mathlib.Data.List.Sort
import Mathlib.Data.String.Basic
import Intraday.Core.Constants
import Intraday.Patterns.Models

/-!
# Intraday.Patterns.Engine — `candlestick.py` and `engine.py` of `shared/patterns`

`detectAll` runs every CDL function of TA-Lib over the candles and lists what fired, oldest bar
first. `computeMultiTimeframe` counts, for each pattern name, the timeframes that show it in one
direction. TA-Lib is a parameter, and so are the detectors of the opening range and of the
support and resistance levels, whose results a snapshot only carries.
-/

namespace Intraday.Patterns

open Intraday.Core Intraday.Lib Intraday.Lib.Raise

/-! ## Candlestick scan -/

/-- `CandleArrays`. -/
structure CandleArrays where
  time : List PyDateTime
  openPrice : List ℚ
  high : List ℚ
  low : List ℚ
  close : List ℚ
  volume : List ℤ

/-- `len(arrays)`. -/
def CandleArrays.length (arrays : CandleArrays) : ℕ := arrays.time.length

/-- `candle_arrays_from_candles`. -/
def candleArraysFromCandles (candles : List OHLCVCandle) : CandleArrays :=
  { time := candles.map (·.time)
    openPrice := candles.map (·.openPrice)
    high := candles.map (·.high)
    low := candles.map (·.low)
    close := candles.map (·.close)
    volume := candles.map (·.volume) }

/-- The installed TA-Lib: its CDL names, sorted, and what each function returns for the open,
high, low and close series; `none` is an exception. -/
structure TaLib where
  cdlNames : List String
  call : String → List ℚ → List ℚ → List ℚ → List ℚ → Option (List ℤ)

/-- The signals of one result array: a bar for each value that is not zero. -/
def signalsOf (name : String) (result : List ℤ) : List CandlestickSignal :=
  result.zipIdx.filterMap fun (val, i) =>
    if val ≠ 0 then some { name := name, direction := if 0 < val then 100 else -100, barIndex := i }
    else none

/-- `detect_all`. -/
def detectAll (talib : TaLib) (arrays : CandleArrays) : List CandlestickSignal :=
  if arrays.length < cdlMinCandles then []
  else
    let signals := talib.cdlNames.flatMap fun name =>
      match talib.call name arrays.openPrice arrays.high arrays.low arrays.close with
      | some result => signalsOf name result
      | none => []
    signals.insertionSort fun s t => s.barIndex ≤ t.barIndex

/-- `detect_recent`. -/
def detectRecent (talib : TaLib) (candles : List OHLCVCandle) (lookbackBars : ℤ := 3) :
    List CandlestickSignal :=
  let arrays := candleArraysFromCandles candles
  let allSignals := detectAll talib arrays
  let cutoff := arrays.length - lookbackBars
  allSignals.filter fun s => decide (cutoff ≤ s.barIndex)

@[simp] theorem length_candleArraysFromCandles (candles : List OHLCVCandle) :
    (candleArraysFromCandles candles).length = candles.length := by
  simp [CandleArrays.length, candleArraysFromCandles]

/-- `detect_recent` keeps the signals of the last bars. -/
theorem mem_detectRecent {talib : TaLib} {candles : List OHLCVCandle} {s : CandlestickSignal} :
    s ∈ detectRecent talib candles ↔
      s ∈ detectAll talib (candleArraysFromCandles candles) ∧
        (candles.length : ℤ) - 3 ≤ s.barIndex := by
  simp [detectRecent]

/-! ## Snapshots -/

/-- The other detectors of a snapshot. -/
structure Detectors where
  detectOrb : List OHLCVCandle → Option ORBState
  detectSrLevels : List OHLCVCandle → List SRLevel

/-- `candles[-n:] if len(candles) > n else candles`. -/
def srWindow (n : ℕ) (candles : List OHLCVCandle) : List OHLCVCandle :=
  if n < candles.length ∧ n ≠ 0 then candles.drop (candles.length - n) else candles

/-- `compute_snapshot`. -/
def computeSnapshot (talib : TaLib) (detectors : Detectors) (symbol exchange timeframe : String)
    (candles : List OHLCVCandle) (srLookbackCandles : ℕ := 100) : PatternSnapshot :=
  { symbol := symbol
    exchange := exchange
    timeframe := timeframe
    candlestickSignals := detectAll talib (candleArraysFromCandles candles)
    orbState := detectors.detectOrb candles
    srLevels := detectors.detectSrLevels (srWindow srLookbackCandles candles) }

/-! ## Timeframes -/

/-- The names that a snapshot shows with a direction that `sign` holds of, as a set. -/
def namesShown (sign : ℤ → Bool) (snap : PatternSnapshot) : List String :=
  ((snap.candlestickSignals.filter fun s => sign s.direction).map (·.name)).dedup

/-- `Counter`: the number of timeframes that show `name`. -/
def timeframeCount (sign : ℤ → Bool) (snapshots : Dict String PatternSnapshot) (name : String) :
    ℕ :=
  snapshots.values.countP fun snap => name ∈ namesShown sign snap

/-- The names counted on at least `minTfs` timeframes, sorted. -/
def confirmedPatterns (sign : ℤ → Bool) (snapshots : Dict String PatternSnapshot) (minTfs : ℕ) :
    List String :=
  let names := (snapshots.values.flatMap (namesShown sign)).dedup
  (names.filter fun name => decide (minTfs ≤ timeframeCount sign snapshots name)).insertionSort
    (· ≤ ·)

/-- `direction > 0`. -/
def bullish (direction : ℤ) : Bool := decide (0 < direction)

/-- `direction < 0`. -/
def bearish (direction : ℤ) : Bool := decide (direction < 0)

/-- `compute_multi_timeframe`, from the snapshots on. -/
def confirmTimeframes (symbol exchange : String) (snapshots : Dict String PatternSnapshot) :
    MultiTimeframePatterns :=
  let minTfs := min gate5MinTimeframesAgreeing snapshots.entries.length
  { symbol := symbol
    exchange := exchange
    snapshots := snapshots
    confirmedBullishPatterns := confirmedPatterns bullish snapshots minTfs
    confirmedBearishPatterns := confirmedPatterns bearish snapshots minTfs }

/-- `compute_multi_timeframe`. -/
def computeMultiTimeframe (talib : TaLib) (detectors : Detectors) (symbol exchange : String)
    (timeframeCandles : Dict String (List OHLCVCandle)) (srLookbackCandles : ℕ := 100) :
    MultiTimeframePatterns :=
  confirmTimeframes symbol exchange
    (timeframeCandles.mapEntries fun tf candles =>
      computeSnapshot talib detectors symbol exchange tf candles srLookbackCandles)

/-- A name is confirmed if some timeframe shows it and enough do. -/
theorem mem_confirmedPatterns {sign : ℤ → Bool} {snapshots : Dict String PatternSnapshot}
    {minTfs : ℕ} {name : String} :
    name ∈ confirmedPatterns sign snapshots minTfs ↔
      (∃ snap ∈ snapshots.values, name ∈ namesShown sign snap) ∧
        minTfs ≤ timeframeCount sign snapshots name := by
  simp [confirmedPatterns]

end Intraday.Patterns
