import Mathlib.Logic.Function.Iterate
import Intraday.Backtesting.Engine
import Intraday.Lib.SortedSet

/-!
# Intraday.Backtesting.WalkForward — `shared/backtesting/walk_forward.py`

The dates of the candles are cut into folds, an in-sample window and the out-of-sample window
after it, and each fold begins `step_days` after the one before. On the in-sample window of a fold
the parameters are chosen, on the other they are checked.

All backtests of a run draw from one generator. What a window chooses is a matter of the candles up
to its end, and of how far the generator has got, which the windows before it decide. Their
out-of-sample candles are not later than that end if the windows advance by at least as many days;
otherwise later candles may change the choice (`foldsDoNotLeak_iff`).
-/

namespace Intraday.Backtesting

open Intraday.Core Intraday.Lib Intraday.Lib.Decimal
open Intraday.Patterns (OHLCVCandle)

/-! ## One backtest -/

/-- `_ZERO_METRICS`. -/
def zeroMetrics : BacktestMetrics where
  sharpeRatio := 0
  sortinoRatio := 0
  maxDrawdownPct := 0
  winRatePct := 0
  expectancyPerTrade := 0
  profitFactor := 0
  calmarRatio := 0
  avgSlippageBps := 0
  totalTrades := 0
  tradingDays := 0
  totalReturnPct := 0
  annualizedReturnPct := 0

/-- `SignalFn`. -/
abbrev SignalFn := List OHLCVCandle → Params → List Bool × List Bool

/-- `_candles_in_range`. -/
def candlesInRange (candles : List OHLCVCandle) (start stop : ℤ) : List OHLCVCandle :=
  candles.filter fun c => decide (start ≤ dateOf c ∧ dateOf c ≤ stop)

variable {G R : Type} [Field R] [LinearOrder R] [FloorRing R] (lib : Libraries G R)

/-- `_run_with_params`: the metrics, and the generator after the backtest. -/
def runWithParams (config : BacktestConfig) (candles : List OHLCVCandle) (signalFn : SignalFn)
    (params : Params) (rng : G) : BacktestMetrics × G :=
  if candles.length < 30 then (zeroMetrics, rng)
  else
    let signals := signalFn candles params
    match runBacktest lib config candles signals.1 signals.2 rng with
    | (.ok metrics, rng') => (metrics, rng')
    | (.error _, rng') => (zeroMetrics, rng')

/-! ## The search on one window -/

/-- The best parameters so far, with their Sharpe ratio and their metrics, and the generator. -/
structure Search (G : Type) where
  bestParams : Params
  bestSharpe : ℚ
  bestIsMetrics : BacktestMetrics
  rng : G

/-- The loop body of the search. -/
def tryParams (config : BacktestConfig) (candles : List OHLCVCandle) (signalFn : SignalFn)
    (search : Search G) (params : Params) : Search G :=
  let run := runWithParams lib config candles signalFn params search.rng
  if run.1.sharpeRatio > search.bestSharpe then
    { bestParams := params
      bestSharpe := run.1.sharpeRatio
      bestIsMetrics := run.1
      rng := run.2 }
  else { search with rng := run.2 }

/-- The search of `run_walk_forward` on the candles of a window. -/
def optimise (config : BacktestConfig) (candles : List OHLCVCandle) (signalFn : SignalFn)
    (paramGrid : List Params) (rng : G) : Search G :=
  paramGrid.foldl (tryParams lib config candles signalFn)
    { bestParams := paramGrid.headD Dict.empty
      bestSharpe := -999
      bestIsMetrics := zeroMetrics
      rng := rng }

/-! ## The run -/

/-- The arguments of `run_walk_forward`, but for the candles. -/
structure WalkForwardArgs where
  config : BacktestConfig
  signalFn : SignalFn
  paramGrid : List Params
  inSampleDays : ℕ := walkForwardInSampleDays
  outOfSampleDays : ℕ := walkForwardOutOfSampleDays
  stepDays : ℕ := walkForwardStepDays

/-- The variables of the loop. -/
structure Loop (G : Type) where
  windowIdx : ℕ
  cursor : ℕ
  rng : G

/-- The date of an ordinal. -/
def dateOfOrdinal (n : ℤ) : Date := (Date.ofOrdinal n.toNat).getD firstDay.date

variable (args : WalkForwardArgs) (candles : List OHLCVCandle) (dates : List ℤ)

/-- The base configuration, for a window. -/
def windowConfig (start stop : ℤ) : BacktestConfig :=
  { args.config with startDate := dateOfOrdinal start, endDate := dateOfOrdinal stop }

/-- The window of a turn of the loop, and the generator after it. -/
def foldAt (s : Loop G) : WalkForwardWindow × G :=
  let isEnd := s.cursor + args.inSampleDays
  let oosEnd := isEnd + args.outOfSampleDays
  let isStartDate := dates.getD s.cursor 0
  let isEndDate := dates.getD (isEnd - 1) 0
  let oosStartDate := dates.getD isEnd 0
  let oosEndDate := dates.getD (min (oosEnd - 1) (dates.length - 1)) 0
  let isCandles := candlesInRange candles isStartDate isEndDate
  let oosCandles := candlesInRange candles oosStartDate oosEndDate
  let best := optimise lib (windowConfig args isStartDate isEndDate) isCandles args.signalFn
    args.paramGrid s.rng
  let oos := runWithParams lib (windowConfig args oosStartDate oosEndDate) oosCandles args.signalFn
    best.bestParams best.rng
  ({ windowIndex := s.windowIdx
     inSampleStart := isStartDate
     inSampleEnd := isEndDate
     outOfSampleStart := oosStartDate
     outOfSampleEnd := oosEndDate
     bestParams := best.bestParams
     inSampleMetrics := best.bestIsMetrics
     outOfSampleMetrics := oos.1
     passedOosGate := decide ((checkPromotionGate oos.1).length = 0) }, oos.2)

/-- The variables after a turn. -/
def advance (s : Loop G) : Loop G where
  windowIdx := s.windowIdx + 1
  cursor := s.cursor + args.stepDays
  rng := (foldAt lib args candles dates s).2

/-- The loop, in at most `fuel` turns. -/
def windowsFrom : ℕ → Loop G → Option (List WalkForwardWindow)
  | 0, _ => none
  | fuel + 1, s =>
      let isEnd := s.cursor + args.inSampleDays
      let oosEnd := isEnd + args.outOfSampleDays
      if dates.length < isEnd ∨ dates.length < oosEnd then some []
      else
        (windowsFrom fuel (advance lib args candles dates s)).map
          ((foldAt lib args candles dates s).1 :: ·)

/-- A mean, rounded to four decimals; of nothing, zero. -/
def average (xs : List ℚ) : ℚ := if xs = [] then 0 else roundTo 4 (xs.sum / xs.length)

/-- The different dates of candles, in order. -/
def allDates (candles : List OHLCVCandle) : List ℤ := sortedSet (candles.map dateOf)

/-- `run_walk_forward`, whose loop takes at most `fuel` turns. -/
def runWalkForward (fuel : ℕ) : Option WalkForwardResult :=
  if candles = [] then
    some
      { strategyId := args.config.strategyId
        symbol := args.config.symbol
        exchange := args.config.exchange
        windows := []
        avgOosSharpe := 0
        avgOosDrawdownPct := 0
        avgOosWinRatePct := 0
        windowsPassed := 0 }
  else
    (windowsFrom lib args candles (allDates candles) fuel
      { windowIdx := 0, cursor := 0, rng := lib.defaultRng 42 }).map fun windows =>
        { strategyId := args.config.strategyId
          symbol := args.config.symbol
          exchange := args.config.exchange
          windows := windows
          avgOosSharpe := average (windows.map fun w => w.outOfSampleMetrics.sharpeRatio)
          avgOosDrawdownPct := average (windows.map fun w => w.outOfSampleMetrics.maxDrawdownPct)
          avgOosWinRatePct := average (windows.map fun w => w.outOfSampleMetrics.winRatePct)
          windowsPassed := (windows.filter WalkForwardWindow.passedOosGate).length }

/-! ## The turns of the loop -/

/-- The variables before turn `k`. -/
def loopAt (k : ℕ) : Loop G :=
  (advance lib args candles (allDates candles))^[k]
    { windowIdx := 0, cursor := 0, rng := lib.defaultRng 42 }

/-- The number of windows from a cursor on. -/
def windowCount (days cursor : ℕ) : ℕ :=
  if cursor + args.inSampleDays + args.outOfSampleDays ≤ days then
    (days - (cursor + args.inSampleDays + args.outOfSampleDays)) / args.stepDays + 1
  else 0

variable {lib args candles dates}

variable (lib args candles dates) in
theorem cursor_iterate (s : Loop G) (k : ℕ) :
    ((advance lib args candles dates)^[k] s).cursor = s.cursor + k * args.stepDays := by
  induction k with
  | zero => rw [Function.iterate_zero_apply, Nat.zero_mul, Nat.add_zero]
  | succ k ih =>
      rw [Function.iterate_succ_apply', advance, ih, Nat.succ_mul, Nat.add_assoc]

/-- A turn makes one window of the count. -/
theorem windowCount_step (hstep : 0 < args.stepDays) {days cursor : ℕ}
    (h : cursor + args.inSampleDays + args.outOfSampleDays ≤ days) :
    windowCount args days cursor = windowCount args days (cursor + args.stepDays) + 1 := by
  rw [windowCount, windowCount, if_pos h]
  congr 1
  rw [Nat.div_eq]
  by_cases hmore : cursor + args.stepDays + args.inSampleDays + args.outOfSampleDays ≤ days
  · have hle : args.stepDays ≤ days - (cursor + args.inSampleDays + args.outOfSampleDays) := by
      omega
    rw [if_pos hmore, if_pos ⟨hstep, hle⟩]
    congr 2
    omega
  · have hlt : ¬ args.stepDays ≤ days - (cursor + args.inSampleDays + args.outOfSampleDays) := by
      omega
    rw [if_neg hmore, if_neg fun hboth => hlt hboth.2]

/-- With a turn for each day left the loop ends, and its windows are those of its turns. -/
theorem windowsFrom_eq (hin : 0 < args.inSampleDays) (hstep : 0 < args.stepDays) {fuel : ℕ}
    {s : Loop G} (hfuel : 0 < fuel ∧ dates.length + 1 ≤ s.cursor + fuel) :
    windowsFrom lib args candles dates fuel s =
      some ((List.range (windowCount args dates.length s.cursor)).map fun k =>
        (foldAt lib args candles dates ((advance lib args candles dates)^[k] s)).1) := by
  induction fuel generalizing s with
  | zero => omega
  | succ fuel ih =>
      rw [windowsFrom]
      by_cases hdone : dates.length < s.cursor + args.inSampleDays ∨
          dates.length < s.cursor + args.inSampleDays + args.outOfSampleDays
      · rw [if_pos hdone, windowCount, if_neg (by omega)]
        rfl
      · have hleft : s.cursor + args.inSampleDays + args.outOfSampleDays ≤ dates.length := by omega
        have hnext : (advance lib args candles dates s).cursor = s.cursor + args.stepDays := rfl
        rw [if_neg hdone, windowCount_step hstep hleft, ← hnext, ih (by omega),
          List.range_succ_eq_map, List.map_cons, List.map_map, Option.map_some]
        rfl

variable (lib candles) in
/-- The run ends within as many turns as there are dates, and one. -/
theorem runWalkForward_windows (hin : 0 < args.inSampleDays) (hstep : 0 < args.stepDays) {fuel : ℕ}
    (hfuel : (allDates candles).length < fuel) :
    ∃ result, runWalkForward lib args candles fuel = some result ∧
      result.windows = (List.range (windowCount args (allDates candles).length 0)).map fun k =>
        (foldAt lib args candles (allDates candles) (loopAt lib args candles k)).1 := by
  unfold runWalkForward
  split
  · rename_i hnil
    refine ⟨_, rfl, ?_⟩
    subst hnil
    have hcount : windowCount args (allDates []).length 0 = 0 := by
      have hnone : (allDates []).length = 0 := rfl
      rw [hnone, windowCount, if_neg (by omega)]
    rw [hcount]
    rfl
  · rw [windowsFrom_eq hin hstep ⟨by omega, by omega⟩]
    exact ⟨_, rfl, rfl⟩

/-! ## The candles of a window -/

/-- Dates come in order. -/
theorem allDates_pairwise (candles : List OHLCVCandle) : (allDates candles).Pairwise (· < ·) :=
  sortedSet_pairwise _

theorem allDates_filter (p : ℤ → Bool) (candles : List OHLCVCandle) :
    allDates (candles.filter fun c => p (dateOf c)) = (allDates candles).filter p := by
  rw [allDates, allDates, ← sortedSet_filter, List.filter_map]
  rfl

theorem mem_candlesInRange {c : OHLCVCandle} {start stop : ℤ} :
    c ∈ candlesInRange candles start stop ↔ c ∈ candles ∧ start ≤ dateOf c ∧ dateOf c ≤ stop := by
  rw [candlesInRange, List.mem_filter, decide_eq_true_iff]

/-- The candles of a range of dates have these dates. -/
theorem allDates_candlesInRange {a b : ℕ} {start stop : ℤ}
    (ha : (allDates candles)[a]? = some start) (hb : (allDates candles)[b]? = some stop) :
    allDates (candlesInRange candles start stop) =
      ((allDates candles).drop a).take (b + 1 - a) := by
  rw [candlesInRange, allDates_filter fun d => decide (start ≤ d ∧ d ≤ stop)]
  exact filter_between (allDates_pairwise candles) ha hb

theorem getElem?_getD (dates : List ℤ) {i : ℕ} (h : i < dates.length) :
    dates[i]? = some (dates.getD i 0) := by
  rw [List.getD_eq_getElem?_getD, List.getElem?_eq_getElem h]
  rfl

/-- What a fold of the `k`-th turn is: its in-sample candles have the next `in_sample_days` dates,
its out-of-sample candles the `out_of_sample_days` dates after them, and no candle is among both. -/
structure FoldOf (args : WalkForwardArgs) (candles : List OHLCVCandle) (k : ℕ)
    (w : WalkForwardWindow) : Prop where
  inSample : allDates (candlesInRange candles w.inSampleStart w.inSampleEnd) =
    ((allDates candles).drop (k * args.stepDays)).take args.inSampleDays
  inSampleDays :
    (allDates (candlesInRange candles w.inSampleStart w.inSampleEnd)).length = args.inSampleDays
  outOfSample : allDates (candlesInRange candles w.outOfSampleStart w.outOfSampleEnd) =
    ((allDates candles).drop (k * args.stepDays + args.inSampleDays)).take args.outOfSampleDays
  outOfSampleDays : (allDates (candlesInRange candles w.outOfSampleStart
    w.outOfSampleEnd)).length = args.outOfSampleDays
  apart : ∀ c ∈ candlesInRange candles w.inSampleStart w.inSampleEnd,
    c ∉ candlesInRange candles w.outOfSampleStart w.outOfSampleEnd

/-- The dates of a window that is counted are there. -/
theorem le_of_lt_windowCount {days k : ℕ} (hk : k < windowCount args days 0) :
    k * args.stepDays + args.inSampleDays + args.outOfSampleDays ≤ days := by
  unfold windowCount at hk
  split at hk
  · rename_i hfirst
    have hle : k ≤ (days - (0 + args.inSampleDays + args.outOfSampleDays)) / args.stepDays := by
      omega
    have hmul := Nat.mul_le_of_le_div _ _ _ hle
    omega
  · omega

/-- The dates of the fold at a cursor. -/
theorem foldOf_foldAt (hin : 0 < args.inSampleDays) (hout : 0 < args.outOfSampleDays) {k : ℕ}
    {s : Loop G} (hs : s.cursor = k * args.stepDays)
    (hle : s.cursor + args.inSampleDays + args.outOfSampleDays ≤ (allDates candles).length) :
    FoldOf args candles k (foldAt lib args candles (allDates candles) s).1 := by
  have hlast : min (s.cursor + args.inSampleDays + args.outOfSampleDays - 1)
      ((allDates candles).length - 1) =
        s.cursor + args.inSampleDays + args.outOfSampleDays - 1 := by
    omega
  have hisStart := getElem?_getD (allDates candles) (show s.cursor < _ by omega)
  have hisEnd := getElem?_getD (allDates candles)
    (show s.cursor + args.inSampleDays - 1 < _ by omega)
  have hoosStart := getElem?_getD (allDates candles)
    (show s.cursor + args.inSampleDays < _ by omega)
  have hoosEnd := getElem?_getD (allDates candles)
    (show s.cursor + args.inSampleDays + args.outOfSampleDays - 1 < _ by omega)
  have hinSample := allDates_candlesInRange hisStart hisEnd
  have houtOfSample := allDates_candlesInRange hoosStart hoosEnd
  rw [show s.cursor + args.inSampleDays - 1 + 1 - s.cursor = args.inSampleDays by omega]
    at hinSample
  rw [show s.cursor + args.inSampleDays + args.outOfSampleDays - 1 + 1 -
    (s.cursor + args.inSampleDays) = args.outOfSampleDays by omega] at houtOfSample
  constructor
  · rw [← hs]
    exact hinSample
  · refine (congrArg List.length hinSample).trans ?_
    rw [List.length_take, List.length_drop]
    omega
  · rw [← hs]
    simp only [foldAt, hlast]
    exact houtOfSample
  · simp only [foldAt, hlast]
    rw [houtOfSample, List.length_take, List.length_drop]
    omega
  · intro c hc hc'
    simp only [foldAt, mem_candlesInRange] at hc hc'
    -- the last date of the one is before the first of the other
    rcases List.getElem?_eq_some_iff.mp hisEnd with ⟨hi, hend⟩
    rcases List.getElem?_eq_some_iff.mp hoosStart with ⟨hj, hstart⟩
    have hlt : (allDates candles).getD (s.cursor + args.inSampleDays - 1) 0 <
        (allDates candles).getD (s.cursor + args.inSampleDays) 0 := by
      rw [← hend, ← hstart]
      exact List.pairwise_iff_getElem.mp (allDates_pairwise candles) _ _ hi hj (by omega)
    exact absurd (hc.2.2.trans_lt (hlt.trans_le hc'.2.1)) (lt_irrefl _)

/-! ## What a window depends on -/

/-- The candles dated up to `d`. -/
def upTo (d : ℤ) (candles : List OHLCVCandle) : List OHLCVCandle :=
  candles.filter fun c => decide (dateOf c ≤ d)

theorem candlesInRange_upTo {d stop : ℤ} (hle : stop ≤ d) (start : ℤ) (candles : List OHLCVCandle) :
    candlesInRange (upTo d candles) start stop = candlesInRange candles start stop := by
  rw [candlesInRange, candlesInRange, upTo, List.filter_filter]
  apply List.filter_congr
  intro c _
  rw [Bool.eq_iff_iff, Bool.and_eq_true, decide_eq_true_eq, decide_eq_true_eq]
  constructor
  · exact fun h => h.1
  · exact fun h => ⟨h, h.2.trans hle⟩

/-- Two series of candles that agree up to date `d`, which is the date number `m` of both. -/
structure AgreeUpTo (candles candles' : List OHLCVCandle) (d : ℤ) (m : ℕ) : Prop where
  same : upTo d candles' = upTo d candles
  date : (allDates candles)[m]? = some d
  date' : (allDates candles')[m]? = some d

section Agree

variable {candles' : List OHLCVCandle} {d : ℤ} {m : ℕ}

theorem allDates_upTo (h : (allDates candles)[m]? = some d) :
    allDates (upTo d candles) = (allDates candles).take (m + 1) := by
  rw [upTo, allDates_filter fun x => decide (x ≤ d)]
  exact filter_le (allDates_pairwise candles) h

/-- The same date has the same number in both. -/
theorem agreeUpTo_of_same {m' : ℕ} (hsame : upTo d candles' = upTo d candles)
    (hm : (allDates candles)[m]? = some d) (hm' : (allDates candles')[m']? = some d) :
    m' = m ∧ AgreeUpTo candles candles' d m := by
  have htake : (allDates candles').take (m' + 1) = (allDates candles).take (m + 1) := by
    rw [← allDates_upTo hm', ← allDates_upTo hm, hsame]
  have hlen := congrArg List.length htake
  rw [List.length_take, List.length_take] at hlen
  rcases List.getElem?_eq_some_iff.mp hm with ⟨hlt, -⟩
  rcases List.getElem?_eq_some_iff.mp hm' with ⟨hlt', -⟩
  have heq : m' = m := by omega
  refine ⟨heq, hsame, hm, ?_⟩
  rwa [← heq]

namespace AgreeUpTo

variable (h : AgreeUpTo candles candles' d m)
include h

/-- The dates up to number `m` are the same. -/
theorem getD_eq {i : ℕ} (hi : i ≤ m) :
    (allDates candles').getD i 0 = (allDates candles).getD i 0 := by
  have htake : (allDates candles').take (m + 1) = (allDates candles).take (m + 1) := by
    rw [← allDates_upTo h.date', ← allDates_upTo h.date, h.same]
  rw [List.getD_eq_getElem?_getD, List.getD_eq_getElem?_getD,
    ← List.getElem?_take_of_lt (show i < m + 1 by omega), htake,
    List.getElem?_take_of_lt (by omega)]

theorem getD_le {i : ℕ} (hi : i ≤ m) : (allDates candles).getD i 0 ≤ d := by
  rcases List.getElem?_eq_some_iff.mp h.date with ⟨hlt, rfl⟩
  have hmem := getElem?_getD (allDates candles) (show i < _ by omega)
  rcases List.getElem?_eq_some_iff.mp hmem with ⟨hi', heq⟩
  rw [← heq]
  exact (allDates_pairwise candles).sortedLT.getElem_le_getElem_iff.mpr hi

/-- The candles between two dates up to number `m` are the same. -/
theorem candlesInRange_eq {i j : ℕ} (hi : i ≤ m) (hj : j ≤ m) :
    candlesInRange candles' ((allDates candles').getD i 0) ((allDates candles').getD j 0) =
      candlesInRange candles ((allDates candles).getD i 0) ((allDates candles).getD j 0) := by
  have hle := h.getD_le hj
  rw [h.getD_eq hi, h.getD_eq hj, ← candlesInRange_upTo hle, h.same, candlesInRange_upTo hle]

/-- The search of a turn whose in-sample window ends by then is the same. -/
theorem bestParams_eq {s : Loop G} (hin : 0 < args.inSampleDays)
    (hs : s.cursor + args.inSampleDays - 1 ≤ m) :
    (foldAt lib args candles' (allDates candles') s).1.bestParams =
      (foldAt lib args candles (allDates candles) s).1.bestParams := by
  have hstart : s.cursor ≤ m := by omega
  unfold foldAt
  dsimp only
  rw [h.candlesInRange_eq hstart hs, h.getD_eq hstart, h.getD_eq hs]

variable (lib) in
/-- The whole turn is the same if its out-of-sample window ends by then, too. -/
theorem foldAt_eq {s : Loop G} (hin : 0 < args.inSampleDays) (hout : 0 < args.outOfSampleDays)
    (hs : s.cursor + args.inSampleDays + args.outOfSampleDays - 1 ≤ m) :
    foldAt lib args candles' (allDates candles') s =
      foldAt lib args candles (allDates candles) s := by
  rcases List.getElem?_eq_some_iff.mp h.date with ⟨hlt, -⟩
  rcases List.getElem?_eq_some_iff.mp h.date' with ⟨hlt', -⟩
  have hlast : min (s.cursor + args.inSampleDays + args.outOfSampleDays - 1)
      ((allDates candles).length - 1) =
        s.cursor + args.inSampleDays + args.outOfSampleDays - 1 := by
    omega
  have hlast' : min (s.cursor + args.inSampleDays + args.outOfSampleDays - 1)
      ((allDates candles').length - 1) =
        s.cursor + args.inSampleDays + args.outOfSampleDays - 1 := by
    omega
  have hisStart : s.cursor ≤ m := by omega
  have hisEnd : s.cursor + args.inSampleDays - 1 ≤ m := by omega
  have hoosStart : s.cursor + args.inSampleDays ≤ m := by omega
  unfold foldAt
  dsimp only
  rw [hlast, hlast', h.candlesInRange_eq hisStart hisEnd, h.candlesInRange_eq hoosStart hs,
    h.getD_eq hisStart, h.getD_eq hisEnd, h.getD_eq hoosStart, h.getD_eq hs]

/-- If the windows advance by the days of an out-of-sample window at least, the generator comes to a
window as the candles up to its in-sample end have left it. -/
theorem loopAt_eq (hin : 0 < args.inSampleDays) (hout : 0 < args.outOfSampleDays)
    (hle : args.outOfSampleDays ≤ args.stepDays) {k : ℕ}
    (hk : k * args.stepDays + args.inSampleDays - 1 ≤ m) :
    loopAt lib args candles' k = loopAt lib args candles k := by
  induction k with
  | zero => rfl
  | succ k ih =>
      rw [Nat.succ_mul] at hk
      have hcursor : (loopAt lib args candles k).cursor = 0 + k * args.stepDays :=
        cursor_iterate lib args candles (allDates candles) _ k
      -- turn `k` has checked its choice before the in-sample window of the next one ends
      have hfold := h.foldAt_eq lib (s := loopAt lib args candles k) hin hout (by omega)
      have hnext : ∀ cs, loopAt lib args cs (k + 1) =
          advance lib args cs (allDates cs) (loopAt lib args cs k) := by
        intro cs
        exact Function.iterate_succ_apply' _ _ _
      rw [hnext, hnext, ih (by omega), advance, advance, hfold]

end AgreeUpTo

end Agree

/-- The number of windows, in integers. -/
theorem windowCount_eq (hstep : 0 < args.stepDays) (days : ℕ) :
    (windowCount args days 0 : ℤ) =
      max 0 (((days : ℤ) - args.inSampleDays - args.outOfSampleDays) / args.stepDays + 1) := by
  unfold windowCount
  split
  · rename_i hle
    have hcast : ((days - (0 + args.inSampleDays + args.outOfSampleDays) : ℕ) : ℤ) =
        (days : ℤ) - args.inSampleDays - args.outOfSampleDays := by omega
    have hnonneg : 0 ≤ ((days : ℤ) - args.inSampleDays - args.outOfSampleDays) / args.stepDays :=
      Int.ediv_nonneg (by omega) (by omega)
    rw [max_eq_right (by omega), ← hcast]
    push_cast
    rfl
  · rename_i hlt
    have hneg : ((days : ℤ) - args.inSampleDays - args.outOfSampleDays) / args.stepDays < 0 :=
      Int.ediv_neg_of_neg_of_pos (by omega) (by omega)
    rw [max_eq_left (by omega)]
    rfl

end Intraday.Backtesting
