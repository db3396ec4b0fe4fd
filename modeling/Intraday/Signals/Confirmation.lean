import Intraday.Patterns.Engine
import Intraday.Signals.Confidence

/-!
# Intraday.Signals.Confirmation — gates 4 and 5 against the patterns

Gate 4 means to look at the last three bars, and counts them back from the number of signals
instead of the number of candles. `candle_recency_iff` is the exact condition under which the two
agree.

Gate 5 relies on the confirmations of the pattern engine, which lowers its minimum of two
timeframes to the number supplied, and lists the first timeframes with any signal in the direction
of the trade. `multi_timeframe_iff` is the exact condition under which two timeframes confirm and
the listed ones are among them.
-/

namespace Intraday.Signals

open Intraday.Core Intraday.Lib Intraday.Lib.Raise Intraday.Patterns

/-! ## Gate 4: recency -/

/-- Gate 4 passes by its candlestick branch: it says that a candlestick pattern confirms. -/
def CandlestickBranch (ctx : SignalContext) : Prop :=
  (gate4Candlestick ctx).passed = true ∧
    ∃ name, (gate4Candlestick ctx).reason =
      "Candlestick pattern " ++ name ++ " confirms " ++ ctx.direction

/-- The branch is taken if the loop over the signals accepts one. -/
theorem candlestickBranch_iff {ctx : SignalContext} :
    CandlestickBranch ctx ↔ ∃ snapshot ∈ ctx.patternSnapshot,
      (confirmingSignal ctx.direction snapshot.candlestickSignals).isSome = true := by
  rw [CandlestickBranch, gate4Candlestick]
  cases ctx.patternSnapshot with
  | none => simp
  | some snapshot =>
      cases hsig : confirmingSignal ctx.direction snapshot.candlestickSignals with
      | some sig => simp [hsig]
      | none =>
          have horb : ∀ name : String, "ORB breakout confirms " ++ ctx.direction ≠
              "Candlestick pattern " ++ name ++ " confirms " ++ ctx.direction := by
            intro name h
            have hhead := congrArg (fun text : String => text.toList.head?) h
            simp at hhead
          cases hbreak : orbConfirms ctx.direction snapshot.orbState with
          | false => simp [hsig, hbreak]
          | true => simp [hsig, hbreak, horb]

/-- The newest bar with a signal of the given direction. -/
def latestBar (direction : ℤ) (signals : List CandlestickSignal) : Option ℤ :=
  ((signals.filter fun s => decide (s.direction = direction)).map (·.barIndex)).max?

theorem exists_ge_iff_latestBar {direction cutoff : ℤ} {signals : List CandlestickSignal} :
    (∃ s ∈ signals, s.direction = direction ∧ cutoff ≤ s.barIndex) ↔
      ∃ bar, latestBar direction signals = some bar ∧ cutoff ≤ bar := by
  constructor
  · rintro ⟨s, hs, hdir, hcut⟩
    have hmem : s.barIndex ∈
        (signals.filter fun s => decide (s.direction = direction)).map (·.barIndex) :=
      List.mem_map_of_mem (List.mem_filter.mpr ⟨hs, decide_eq_true hdir⟩)
    cases hmax : latestBar direction signals with
    | none =>
        rw [latestBar, List.max?_eq_none_iff] at hmax
        rw [hmax] at hmem
        cases hmem
    | some bar => exact ⟨bar, rfl, hcut.trans ((List.max?_eq_some_iff.mp hmax).2 _ hmem)⟩
  · rintro ⟨bar, hmax, hcut⟩
    have hmem := (List.max?_eq_some_iff.mp hmax).1
    rcases List.mem_map.mp hmem with ⟨s, hs, rfl⟩
    rcases List.mem_filter.mp hs with ⟨hs, hdir⟩
    exact ⟨s, hs, of_decide_eq_true hdir, hcut⟩

/-- The loop of Gate 4 accepts a signal of the last bars, counted from the number of signals. -/
theorem confirmingSignal_isSome {direction : String} {signals : List CandlestickSignal} :
    (confirmingSignal direction signals).isSome = true ↔
      ∃ s ∈ signals, s.direction = expectedDirection direction ∧
        (signals.length : ℤ) - 3 ≤ s.barIndex := by
  rw [confirmingSignal, List.find?_isSome]
  simp only [List.mem_reverse, Bool.and_eq_true, decide_eq_true_eq]
  constructor
  · rintro ⟨s, hs, hbar, hdir⟩
    exact ⟨s, hs, hdir, by omega⟩
  · rintro ⟨s, hs, hdir, hbar⟩
    exact ⟨s, hs, by omega, hdir⟩

section Recency

variable (talib : TaLib) (detectors : Detectors) (candles : List OHLCVCandle)
  (ctx : SignalContext)

/-- The context with the snapshot of the given candles. -/
def withCandles (timeframe : String) (srLookbackCandles : ℕ) : SignalContext :=
  { ctx with
    patternSnapshot := some
      (computeSnapshot talib detectors ctx.symbol ctx.exchange timeframe candles
        srLookbackCandles) }

/-- The signals of the snapshot. -/
def detected : List CandlestickSignal := detectAll talib (candleArraysFromCandles candles)

/-- Exactly when Gate 4 sees what `detect_recent` returns: the newest signal in the direction of
the trade does not lie between the two cutoffs, three before the number of signals and three
before the number of candles. -/
theorem candle_recency_iff (timeframe : String) (srLookbackCandles : ℕ) :
    (CandlestickBranch (withCandles talib detectors candles ctx timeframe srLookbackCandles) ↔
      ∃ s ∈ detectRecent talib candles, s.direction = expectedDirection ctx.direction) ↔
    ∀ bar, latestBar (expectedDirection ctx.direction) (detected talib candles) = some bar →
      ¬ (min (detected talib candles).length candles.length ≤ bar + 3 ∧
        bar + 3 < max (detected talib candles).length candles.length) := by
  have hbranch :
      CandlestickBranch (withCandles talib detectors candles ctx timeframe srLookbackCandles) ↔
      ∃ bar, latestBar (expectedDirection ctx.direction) (detected talib candles) = some bar ∧
        ((detected talib candles).length : ℤ) - 3 ≤ bar := by
    rw [← exists_ge_iff_latestBar, ← confirmingSignal_isSome, candlestickBranch_iff]
    simp [withCandles, computeSnapshot, detected]
  have hrecent : (∃ s ∈ detectRecent talib candles,
      s.direction = expectedDirection ctx.direction) ↔
      ∃ bar, latestBar (expectedDirection ctx.direction) (detected talib candles) = some bar ∧
        (candles.length : ℤ) - 3 ≤ bar := by
    rw [← exists_ge_iff_latestBar]
    constructor
    · rintro ⟨s, hs, hdir⟩
      rcases mem_detectRecent.mp hs with ⟨hs, hbar⟩
      exact ⟨s, hs, hdir, hbar⟩
    · rintro ⟨s, hs, hdir, hbar⟩
      exact ⟨s, mem_detectRecent.mpr ⟨hs, hbar⟩, hdir⟩
  rw [hbranch, hrecent]
  cases latestBar (expectedDirection ctx.direction) (detected talib candles) with
  | none => simp
  | some bar =>
      -- both cutoffs are compared with the newest bar
      simp only [Option.some.injEq, exists_eq_left', forall_eq']
      omega

end Recency

/-! The example: a bullish engulfing at bar 5 of 20, and nothing after it. -/

/-- TA-Lib's `CDLENGULFING` on two neighbouring bars, each its open and close: 100 or 80. -/
def engulfingAt (previous current : ℚ × ℚ) : ℤ :=
  let size := if current.1 ≠ previous.2 ∧ current.2 ≠ previous.1 then 100 else 80
  if previous.2 < previous.1 ∧ current.1 ≤ current.2 ∧
      (previous.1 ≤ current.2 ∧ current.1 < previous.2 ∨
        previous.1 < current.2 ∧ current.1 ≤ previous.2) then size
  else if previous.1 ≤ previous.2 ∧ current.2 < current.1 ∧
      (previous.2 ≤ current.1 ∧ current.2 < previous.1 ∨
        previous.2 < current.1 ∧ current.2 ≤ previous.1) then -size
  else 0

/-- A TA-Lib that exports this function only; the first two bars are its lookback. -/
def engulfingOnly : TaLib :=
  { cdlNames := ["CDLENGULFING"]
    call := fun _ openPrices _ _ closes =>
      let bars := openPrices.zip closes
      some (0 :: 0 :: (List.zipWith engulfingAt bars bars.tail).tail) }

/-- A falling bar, a rising one around it, and the price stays. -/
def engulfedCandles : List OHLCVCandle :=
  let bars : List (ℚ × ℚ) :=
    List.replicate 4 (102, 102) ++ [(101, 100), (99, 102)] ++ List.replicate 14 (102, 102)
  bars.map fun (openPrice, close) =>
    { time := (sampleContext false).sessionOpen, symbol := "INFY", exchange := "NSE"
      openPrice := openPrice, high := 102, low := 99, close := close, volume := 1000 }

/-- One signal, 15 bars old, counts as one of the last three. -/
theorem stale_pattern_confirms :
    ¬ ∀ (talib : TaLib) (detectors : Detectors) (candles : List OHLCVCandle) (ctx : SignalContext)
      (timeframe : String) (srLookbackCandles : ℕ),
      CandlestickBranch (withCandles talib detectors candles ctx timeframe srLookbackCandles) ↔
        ∃ s ∈ detectRecent talib candles, s.direction = expectedDirection ctx.direction := by
  intro h
  have hsample := h engulfingOnly ⟨fun _ => none, fun _ => []⟩ engulfedCandles
    (sampleContext false) "1m" 100
  have hbranch : CandlestickBranch (withCandles engulfingOnly ⟨fun _ => none, fun _ => []⟩
      engulfedCandles (sampleContext false) "1m" 100) :=
    candlestickBranch_iff.mpr ⟨_, rfl, by decide +kernel⟩
  rcases hsample.mp hbranch with ⟨s, hs, -⟩
  have hnone : detectRecent engulfingOnly engulfedCandles = [] := by decide +kernel
  rw [hnone] at hs
  cases hs

/-! ## Gate 5: timeframes -/

/-- The sign of the signals in the direction of the trade. -/
def signOf (direction : String) : ℤ → Bool := if direction = "LONG" then bullish else bearish

section Timeframes

variable (ctx : SignalContext) (snapshots : Dict String PatternSnapshot)

/-- The context with the patterns of the given snapshots. -/
def withTimeframes : SignalContext :=
  { ctx with multiTfPatterns := some (confirmTimeframes ctx.symbol ctx.exchange snapshots) }

/-- The first two timeframes with any signal in the direction of the trade. -/
def firstTimeframes : List String :=
  ((snapshots.entries.filter fun entry => entry.2.candlestickSignals.any fun s =>
    decide (s.direction = expectedDirection ctx.direction)).map (·.1)).take 2

/-- The snapshot of a timeframe shows one of the names in the direction of the trade. -/
def ShowsOneOf (names : String → Prop) (tf : String) : Prop :=
  ∃ snap, snapshots.get? tf = some snap ∧
    ∃ name ∈ namesShown (signOf ctx.direction) snap, names name

/-- What Gate 5 promises. -/
structure MultiTimeframeRule : Prop where
  agreed : (gate5MultiTimeframe (withTimeframes ctx snapshots)).passed = true →
    ∃ name, 2 ≤ timeframeCount (signOf ctx.direction) snapshots name
  listed : (gate5MultiTimeframe (withTimeframes ctx snapshots)).passed = true →
    ∀ tf ∈ (gate5MultiTimeframe (withTimeframes ctx snapshots)).confirmingTimeframes,
      ShowsOneOf ctx snapshots
        (· ∈ confirmedIn ctx.direction (confirmTimeframes ctx.symbol ctx.exchange snapshots)) tf

variable {ctx snapshots}

/-- A name is confirmed if enough of the supplied timeframes show it. -/
theorem mem_confirmedIn {name : String} :
    name ∈ confirmedIn ctx.direction (confirmTimeframes ctx.symbol ctx.exchange snapshots) ↔
      (∃ snap ∈ snapshots.values, name ∈ namesShown (signOf ctx.direction) snap) ∧
        min 2 snapshots.entries.length ≤
          timeframeCount (signOf ctx.direction) snapshots name := by
  rw [← gate5MinTimeframesAgreeing]
  by_cases hlong : ctx.direction = "LONG"
  · simp only [confirmedIn, signOf, hlong, if_true, confirmTimeframes]
    exact mem_confirmedPatterns
  · simp only [confirmedIn, signOf, hlong, if_false, confirmTimeframes]
    exact mem_confirmedPatterns

/-- Gate 5 passes on a confirmed name, and then lists the first timeframes. -/
theorem gate5_withTimeframes :
    ((gate5MultiTimeframe (withTimeframes ctx snapshots)).passed = true ↔ ∃ name,
      name ∈ confirmedIn ctx.direction (confirmTimeframes ctx.symbol ctx.exchange snapshots)) ∧
    ((gate5MultiTimeframe (withTimeframes ctx snapshots)).passed = true →
      (gate5MultiTimeframe (withTimeframes ctx snapshots)).confirmingTimeframes =
        firstTimeframes ctx snapshots) := by
  constructor
  · rw [gate5MultiTimeframe_passed]
    simp [withTimeframes, List.eq_nil_iff_forall_not_mem]
  · intro h
    exact gate5MultiTimeframe_confirming rfl h

theorem timeframeCount_le (sign : ℤ → Bool) (snapshots : Dict String PatternSnapshot)
    (name : String) : timeframeCount sign snapshots name ≤ snapshots.entries.length := by
  have hle := List.countP_le_length (p := fun snap => decide (name ∈ namesShown sign snap))
    (l := snapshots.values)
  rwa [Dict.values, List.length_map] at hle

theorem shown_of_count {sign : ℤ → Bool} {name : String}
    (h : 0 < timeframeCount sign snapshots name) :
    ∃ snap ∈ snapshots.values, name ∈ namesShown sign snap := by
  rcases List.countP_pos_iff.mp h with ⟨snap, hsnap, hname⟩
  exact ⟨snap, hsnap, of_decide_eq_true hname⟩

/-- With two timeframes or more a name is confirmed if two of them show it. -/
theorem mem_confirmedIn_of_two {name : String}
    (h : 2 ≤ timeframeCount (signOf ctx.direction) snapshots name) :
    name ∈ confirmedIn ctx.direction (confirmTimeframes ctx.symbol ctx.exchange snapshots) :=
  mem_confirmedIn.mpr ⟨shown_of_count (by omega), (min_le_left _ _).trans h⟩

/-- Exactly when Gate 5 keeps its rule: a single timeframe shows nothing in the direction of the
trade; and if a name is shown on two, the first two timeframes with any signal each show such a
name. -/
theorem multi_timeframe_iff (ctx : SignalContext) (snapshots : Dict String PatternSnapshot) :
    MultiTimeframeRule ctx snapshots ↔
      (snapshots.entries.length = 1 →
        ∀ snap ∈ snapshots.values, namesShown (signOf ctx.direction) snap = []) ∧
      ((∃ name, 2 ≤ timeframeCount (signOf ctx.direction) snapshots name) →
        ∀ tf ∈ firstTimeframes ctx snapshots,
          ShowsOneOf ctx snapshots
            (fun name => 2 ≤ timeframeCount (signOf ctx.direction) snapshots name) tf) := by
  rcases @gate5_withTimeframes ctx snapshots with ⟨hpassed, hlisted⟩
  constructor
  · rintro ⟨hagreed, hshows⟩
    constructor
    · -- a single timeframe would confirm itself
      intro hone snap hsnap
      by_contra hne
      rcases List.exists_mem_of_ne_nil _ hne with ⟨name, hname⟩
      have hcount : 0 < timeframeCount (signOf ctx.direction) snapshots name :=
        List.countP_pos_iff.mpr ⟨snap, hsnap, decide_eq_true hname⟩
      have hconfirmed := mem_confirmedIn.mpr ⟨⟨snap, hsnap, hname⟩, by omega⟩
      rcases hagreed (hpassed.mpr ⟨name, hconfirmed⟩) with ⟨name', htwo⟩
      have hle := timeframeCount_le (signOf ctx.direction) snapshots name'
      omega
    · -- with two timeframes or more the minimum of the engine is two
      rintro ⟨name, htwo⟩ tf htf
      have hpass := hpassed.mpr ⟨name, mem_confirmedIn_of_two htwo⟩
      have hmany := htwo.trans (timeframeCount_le _ _ _)
      rw [← hlisted hpass] at htf
      rcases hshows hpass tf htf with ⟨snap, hget, name', hname', hconfirmed⟩
      have hcount := (mem_confirmedIn.mp hconfirmed).2
      exact ⟨snap, hget, name', hname', by omega⟩
  · rintro ⟨hone, hfirst⟩
    have hagreed : (gate5MultiTimeframe (withTimeframes ctx snapshots)).passed = true →
        ∃ name, 2 ≤ timeframeCount (signOf ctx.direction) snapshots name := by
      intro hpass
      rcases hpassed.mp hpass with ⟨name, hname⟩
      rcases mem_confirmedIn.mp hname with ⟨⟨snap, hsnap, hshown⟩, hcount⟩
      refine ⟨name, ?_⟩
      have hvalues := List.length_pos_of_mem hsnap
      rw [Dict.values, List.length_map] at hvalues
      by_cases hlen : snapshots.entries.length = 1
      · rw [hone hlen snap hsnap] at hshown
        cases hshown
      · omega
    refine ⟨hagreed, ?_⟩
    intro hpass tf htf
    rw [hlisted hpass] at htf
    rcases hfirst (hagreed hpass) tf htf with ⟨snap, hget, name, hname, htwo⟩
    exact ⟨snap, hget, name, hname, mem_confirmedIn_of_two htwo⟩

end Timeframes

/-- One timeframe with a hammer confirms itself. -/
theorem one_timeframe_confirms :
    ¬ ∀ (ctx : SignalContext) (snapshots : Dict String PatternSnapshot),
      MultiTimeframeRule ctx snapshots := by
  intro h
  have hpassed : (gate5MultiTimeframe (withTimeframes (sampleContext false)
      (Dict.empty.set "5m" (sampleSnapshot "5m")))).passed = true := by decide +kernel
  rcases (h _ _).agreed hpassed with ⟨name, htwo⟩
  have hle := htwo.trans (timeframeCount_le _ _ _)
  revert hle
  decide +kernel

end Intraday.Signals
