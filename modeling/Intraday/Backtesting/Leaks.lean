import Intraday.Backtesting.Folds
import Intraday.Backtesting.Simulation

/-!
# Intraday.Backtesting.Leaks — settings under which a walk-forward run leaks

If the windows advance by less than the days of an out-of-sample window, the second window is
optimised on dates that come before the end of the first one's check. The draws for that check
decide with which draws the second optimisation begins, so candles after its in-sample end may
change what it chooses (`foldsDoNotLeak_iff`).
-/

namespace Intraday.Backtesting

open Intraday.Lib Intraday.Lib.Decimal
open Intraday.Patterns (OHLCVCandle)

/-! ## Settings under which a run leaks -/

section Leak

variable {R : Type} [Field R]

/-- A portfolio that rises if its first fill is at the price of one, and falls otherwise; with a
trade if it enters at the first bar. -/
def countingPortfolio (s : Signals) : Portfolio where
  value := if s.price.head? = some 1 then [1, 2, 4] else [4, 2, 1]
  records :=
    if s.entries.head? = some true then
      [{ size := 1
         entryTimestamp := { wall := 1, utcoffset := none, range := by decide }
         avgEntryPrice := 1
         exitTimestamp := { wall := 2, utcoffset := none, range := by decide }
         avgExitPrice := 1
         pnl := 0
         ret := 0 }]
    else []

/-- A generator that counts its draws: those from number `late` on slip, the others do not. -/
def countingLibraries (R : Type) [Field R] (late : ℕ) : Libraries ℕ R where
  defaultRng _ := 0
  lognormal _ _ n := (if n < late then 0 else 1, n + 1)
  fromSignals s := .ok (countingPortfolio s)
  numerics := { sqrt := fun _ => 1, pow := fun _ _ => 0 }

/-- To enter at every bar. -/
def enterParams : Params := { entries := [("enter", 1)], nodup := by decide }

/-- To enter at none. -/
def waitParams : Params := Dict.empty

/-- Entries at all bars or at none. -/
def enterOrWait : SignalFn := fun candles params =>
  (candles.map fun _ => !params.entries.isEmpty, candles.map fun _ => false)

/-- The bars with an entry at each, as the loop of a backtest sees them. -/
theorem zip_enter (candles : List OHLCVCandle) (entry : Bool) :
    candles.zip ((candles.map fun _ => entry).zip (candles.map fun _ => false)) =
      candles.map fun c => (c, entry, false) := by
  induction candles with
  | nil => rfl
  | cons c candles ih => simp only [List.map_cons, List.zip_cons_cons, ih]

/-- Without signals nothing is drawn. -/
theorem foldl_fillBar_wait (late : ℕ) (fills : Fills ℕ) (candles : List OHLCVCandle) :
    ((candles.map fun c => (c, false, false)).foldl (fillBar (countingLibraries R late) 5)
      fills).rng = fills.rng := by
  induction candles generalizing fills with
  | nil => rfl
  | cons c candles ih =>
      rw [List.map_cons, List.foldl_cons, ih]
      rfl

/-- With an entry at each bar there is a draw for each; the first price stays the first. -/
theorem foldl_fillBar_enter (late : ℕ) (fills : Fills ℕ) (candles : List OHLCVCandle) :
    let after := (candles.map fun c => (c, true, false)).foldl
      (fillBar (countingLibraries R late) 5) fills
    after.rng = fills.rng + candles.length ∧
      ∀ p, fills.adjPrice.head? = some p → after.adjPrice.head? = some p := by
  induction candles generalizing fills with
  | nil => exact ⟨rfl, fun _ h => h⟩
  | cons c candles ih =>
      rcases ih (fillBar (countingLibraries R late) 5 fills (c, true, false)) with ⟨hrng, hprice⟩
      have hstep : (fillBar (countingLibraries R late) 5 fills (c, true, false)).rng =
          fills.rng + 1 := rfl
      refine ⟨?_, ?_⟩
      · rw [List.map_cons, List.foldl_cons, hrng, hstep, List.length_cons]
        omega
      · intro p hp
        apply hprice
        have happend : (fillBar (countingLibraries R late) 5 fills (c, true, false)).adjPrice =
            fills.adjPrice ++ [_] := rfl
        rw [happend, List.head?_append, hp]
        rfl

variable [LinearOrder R] [IsStrictOrderedRing R] [FloorRing R]

omit [IsStrictOrderedRing R] in
/-- A portfolio that rises by its own value, or falls by a half, at each of two bars. -/
theorem sharpeRatio_counting (late : ℕ) (bars : BarsPerDay) :
    sharpeRatio (countingLibraries R late).numerics [1, 2, 4] 0 bars = 1 ∧
      sharpeRatio (countingLibraries R late).numerics [4, 2, 1] 0 bars = -1 / 2 := by
  have hrise : excessReturns [1, 2, 4] 0 bars = [1, 1] := by
    simp [excessReturns, barReturns]
    norm_num
  have hfall : excessReturns [4, 2, 1] 0 bars = [-1 / 2, -1 / 2] := by
    simp [excessReturns, barReturns]
    norm_num
  have hroot : ∀ x, (countingLibraries R late).numerics.sqrt x = 1 := fun _ => rfl
  have hmeanRise : mean [1, 1] = 1 := by norm_num [mean]
  have hmeanFall : mean [-1 / 2, -1 / 2] = -1 / 2 := by norm_num [mean]
  constructor
  · rw [sharpeRatio, if_pos (by decide), hrise]
    simp only [annualised, hroot, hmeanRise, zero_lt_one, if_true, Rat.cast_one, div_one, mul_one]
  · rw [sharpeRatio, if_pos (by decide), hfall]
    simp only [annualised, hroot, hmeanFall, zero_lt_one, if_true, div_one, mul_one]
    norm_num

section Backtests

variable {config : BacktestConfig} {candles : List OHLCVCandle} {late : ℕ}

variable (R config late) in
omit [IsStrictOrderedRing R] in
/-- A backtest with the same entry flag on all bars. -/
theorem runWithParams_flag (entry : Bool) (params : Params) (n : ℕ)
    (hmin : 30 ≤ candles.length) (hflag : (!params.entries.isEmpty) = entry) :
    ∃ trades : List Trade, ∃ pf : Portfolio, trades.length = pf.records.length ∧
      (countingLibraries R late).fromSignals
        { timestamps := candles.map OHLCVCandle.time
          close := candles.map OHLCVCandle.close
          entries := candles.map fun _ => entry
          exits := candles.map fun _ => false
          price := (fillBars (countingLibraries R late) candles (candles.map fun _ => entry)
            (candles.map fun _ => false) 5 n).adjPrice
          size := config.positionSizePct
          initCash := config.initialCapital
          freq := inferFreq candles } = .ok pf ∧
      runWithParams (countingLibraries R late) config candles enterOrWait params n =
        (computeMetrics (countingLibraries R late).numerics trades pf.value config.initialCapital
          config.riskFreeRateAnnual (countTradingDays candles) (inferBarsPerDay candles),
          (fillBars (countingLibraries R late) candles (candles.map fun _ => entry)
            (candles.map fun _ => false) 5 n).rng) := by
  have hlength : ∀ flag : Bool, (candles.map fun _ => flag).length = candles.length := by
    intro flag
    exact List.length_map _
  rcases exists_runBacktest (countingLibraries R late) config n hmin (hlength entry)
    (hlength false) rfl with ⟨trades, htrades, hreturns⟩
  refine ⟨trades, _, htrades, rfl, ?_⟩
  have hsignals : enterOrWait candles params =
      (candles.map fun _ => entry, candles.map fun _ => false) := by
    rw [enterOrWait, hflag]
  rw [runWithParams, if_neg (not_lt.mpr hmin), hsignals]
  simp only [hreturns]

variable (R config candles late) in
/-- Who waits draws nothing, and has a ratio of zero. -/
theorem runWithParams_wait (n : ℕ) :
    let run := runWithParams (countingLibraries R late) config candles enterOrWait waitParams n
    run.1.sharpeRatio = 0 ∧ run.2 = n := by
  intro run
  by_cases hfew : candles.length < 30
  · have hrun : run = (zeroMetrics, n) := by
      simp only [run, runWithParams, if_pos hfew]
    rw [hrun]
    exact ⟨rfl, rfl⟩
  · rcases runWithParams_flag R config late false waitParams n (not_lt.mp hfew) rfl with
      ⟨trades, pf, htrades, hpf, hrun⟩
    have hrng : (fillBars (countingLibraries R late) candles (candles.map fun _ => false)
        (candles.map fun _ => false) 5 n).rng = n := by
      rw [fillBars, zip_enter]
      exact foldl_fillBar_wait late _ candles
    -- without an entry the portfolio has no record
    have hno : trades = [] := by
      have hentry : (candles.map fun _ => false).head? ≠ some true := by
        cases candles <;> simp
      have hrecords : pf.records = [] := by
        rw [← Except.ok.inj hpf]
        exact if_neg hentry
      rw [hrecords] at htrades
      exact List.length_eq_zero_iff.mp htrades
    simp only [run, hrun, hrng, hno]
    refine ⟨?_, trivial⟩
    have hzero : roundDecimals 4 (0 : R) = 0 := by
      rw [roundDecimals_of_intCast (n := 0) (by simp)]
      norm_num
    simp only [computeMetrics, exactMetrics, if_true, hzero]

variable (R late) in
/-- Who enters draws for each bar; the ratio is positive if the first draw is early. -/
theorem runWithParams_enter (n : ℕ) (hmin : 30 ≤ candles.length)
    (hclose : ∀ c ∈ candles, c.close = 1) (hrate : config.riskFreeRateAnnual = 0) :
    let run := runWithParams (countingLibraries R late) config candles enterOrWait enterParams n
    run.1.sharpeRatio = (if n < late then 1 else -1 / 2) ∧ run.2 = n + candles.length := by
  intro run
  rcases runWithParams_flag R config late true enterParams n hmin rfl with
    ⟨trades, pf, htrades, hpf, hrun⟩
  have hbars : fillBars (countingLibraries R late) candles (candles.map fun _ => true)
      (candles.map fun _ => false) 5 n =
        (candles.map fun c => (c, true, false)).foldl (fillBar (countingLibraries R late) 5)
          { entrySlipBps := [], exitSlipBps := [], adjPrice := [], rng := n } := by
    rw [fillBars, zip_enter]
  rcases foldl_fillBar_enter (R := R) late
    { entrySlipBps := [], exitSlipBps := [], adjPrice := [], rng := n } candles with ⟨hrng, -⟩
  rw [← hbars] at hrng
  cases candles with
  | nil => simp at hmin
  | cons c rest =>
      -- the price of the first bar
      have hfirst : (fillBars (countingLibraries R late) (c :: rest)
          ((c :: rest).map fun _ => true) ((c :: rest).map fun _ => false) 5 n).adjPrice.head? =
            some 1 ↔ n < late := by
        rw [hbars, List.map_cons, List.foldl_cons]
        rcases foldl_fillBar_enter (R := R) late
          (fillBar (countingLibraries R late) 5
            { entrySlipBps := [], exitSlipBps := [], adjPrice := [], rng := n } (c, true, false))
          rest with ⟨-, hhead⟩
        rw [hhead _ rfl, Option.some.injEq]
        have hprice : c.close = 1 := hclose c List.mem_cons_self
        simp only [sampleSlippageBps, countingLibraries, hprice]
        split
        · rename_i hlt
          simp [hlt]
        · rename_i hge
          simp [hge]
          norm_num [Intraday.Core.slippageReferenceSpreadBps]
      have hvalue : pf.value = if n < late then [1, 2, 4] else [4, 2, 1] := by
        rw [← Except.ok.inj hpf]
        simp only [countingPortfolio, hfirst]
      have hsome : trades ≠ [] := by
        have hrecords : pf.records.length = 1 := by
          rw [← Except.ok.inj hpf]
          rfl
        rintro rfl
        rw [hrecords] at htrades
        cases htrades
      rcases sharpeRatio_counting (R := R) late (inferBarsPerDay (c :: rest)) with ⟨hrise, hfall⟩
      simp only [run, hrun, hrng]
      refine ⟨?_, trivial⟩
      simp only [computeMetrics, exactMetrics, if_neg hsome, hvalue, hrate]
      split
      · rw [hrise, roundDecimals_of_intCast (n := 10000) (by norm_num)]
        norm_num
      · rw [hfall, roundDecimals_of_intCast (n := -5000) (by norm_num)]
        norm_num

variable (R config late) in
/-- The search finds who enters while the ratio is positive, and who waits afterwards. -/
theorem optimise_enterOrWait (n : ℕ) (hmin : 30 ≤ candles.length)
    (hclose : ∀ c ∈ candles, c.close = 1) (hrate : config.riskFreeRateAnnual = 0) :
    let best := optimise (countingLibraries R late) config candles enterOrWait
      [enterParams, waitParams] n
    best.bestParams = (if n < late then enterParams else waitParams) ∧
      best.rng = n + candles.length := by
  intro best
  rcases runWithParams_enter R late n hmin hclose hrate with ⟨hsharpe, hrng⟩
  rcases runWithParams_wait R config candles late (n + candles.length) with ⟨hwait, hwaitRng⟩
  have hfirst : tryParams (countingLibraries R late) config candles enterOrWait
      { bestParams := enterParams, bestSharpe := -999, bestIsMetrics := zeroMetrics, rng := n }
      enterParams =
        { bestParams := enterParams
          bestSharpe := if n < late then 1 else -1 / 2
          bestIsMetrics := (runWithParams (countingLibraries R late) config candles enterOrWait
            enterParams n).1
          rng := n + candles.length } := by
    have hgreater : (if n < late then (1 : ℚ) else -1 / 2) > -999 := by
      split <;> norm_num
    rw [tryParams, hsharpe, if_pos hgreater, hrng]
  have hbest : best = tryParams (countingLibraries R late) config candles enterOrWait
      (tryParams (countingLibraries R late) config candles enterOrWait
        { bestParams := enterParams, bestSharpe := -999, bestIsMetrics := zeroMetrics, rng := n }
        enterParams) waitParams := rfl
  rw [hbest, hfirst, tryParams, hwait, hwaitRng]
  by_cases hlate : n < late
  · rw [if_pos hlate, if_pos hlate, if_neg (by norm_num)]
    exact ⟨rfl, rfl⟩
  · rw [if_neg hlate, if_neg hlate, if_pos (by norm_num)]
    exact ⟨rfl, rfl⟩

/-- The bounds of the two windows of a turn. -/
structure Bounds (args : WalkForwardArgs) (dates : List ℤ) (cursor : ℕ)
    (start stop oosStart oosStop : ℤ) : Prop where
  start : dates.getD cursor 0 = start
  stop : dates.getD (cursor + args.inSampleDays - 1) 0 = stop
  oosStart : dates.getD (cursor + args.inSampleDays) 0 = oosStart
  oosStop : dates.getD (min (cursor + args.inSampleDays + args.outOfSampleDays - 1)
    (dates.length - 1)) 0 = oosStop

variable (R late) in
/-- A fold of the search over both sets of parameters. -/
theorem foldAt_enterOrWait {args : WalkForwardArgs} {dates : List ℤ} {s : Loop ℕ}
    {start stop oosStart oosStop : ℤ}
    (hbounds : Bounds args dates s.cursor start stop oosStart oosStop)
    (hsignal : args.signalFn = enterOrWait) (hgrid : args.paramGrid = [enterParams, waitParams])
    (hrate : args.config.riskFreeRateAnnual = 0) (hclose : ∀ c ∈ candles, c.close = 1)
    (hmin : 30 ≤ (candlesInRange candles start stop).length) :
    let fold := foldAt (countingLibraries R late) args candles dates s
    fold.1.bestParams = (if s.rng < late then enterParams else waitParams) ∧
      (s.rng < late → 30 ≤ (candlesInRange candles oosStart oosStop).length →
        fold.2 = s.rng + (candlesInRange candles start stop).length +
          (candlesInRange candles oosStart oosStop).length) := by
  rcases hbounds with ⟨rfl, rfl, rfl, rfl⟩
  intro fold
  have hprice : ∀ start stop, ∀ c ∈ candlesInRange candles start stop, c.close = 1 := by
    intro start stop c hc
    exact hclose c (mem_candlesInRange.mp hc).1
  have hbest := optimise_enterOrWait R (windowConfig args (dates.getD s.cursor 0)
    (dates.getD (s.cursor + args.inSampleDays - 1) 0)) late s.rng hmin (hprice _ _) hrate
  rw [← hsignal, ← hgrid] at hbest
  refine ⟨hbest.1, ?_⟩
  intro hlate hoos
  have hrun : fold.2 = (runWithParams (countingLibraries R late) (windowConfig args _ _)
      (candlesInRange candles _ _) args.signalFn _ _).2 := rfl
  rw [hrun, hbest.1, hbest.2, if_pos hlate, hsignal]
  exact (runWithParams_enter R late _ hoos (hprice _ _) hrate).2

end Backtests

/-! ### Two series that differ after the second in-sample window -/

/-- A candle of day `i`. -/
def dayCandle (i : ℕ) : OHLCVCandle where
  time :=
    { wall := ((i % maxDates : ℕ) : ℤ) * dayMicros
      utcoffset := some 0
      range := by
        have hlt : i % maxDates < maxDates := Nat.mod_lt i (by decide)
        unfold maxDates at hlt ⊢
        unfold Raise.maxWall dayMicros
        constructor <;> omega }
  symbol := "RELIANCE"
  exchange := "NSE"
  openPrice := 1
  high := 1
  low := 1
  close := 1
  volume := 100

/-- Thirty candles of each day. -/
def dayCandles (days : ℕ) : List OHLCVCandle :=
  (List.range days).flatMap fun i => List.replicate 30 (dayCandle i)

theorem dateOf_dayCandle {i : ℕ} (hi : i < maxDates) : dateOf (dayCandle i) = i + 1 := by
  have hmod : i % maxDates = i := Nat.mod_eq_of_lt hi
  simp only [dateOf, Raise.PyDateTime.ordinal, dayCandle, hmod]
  unfold dayMicros
  omega

theorem allDates_dayCandles {days : ℕ} (hdays : days ≤ maxDates) {more : List OHLCVCandle}
    (hmore : ∀ c ∈ more, ∃ i < days, c = dayCandle i) :
    allDates (dayCandles days ++ more) = (List.range days).map fun (i : ℕ) => (i : ℤ) + 1 := by
  apply (allDates_pairwise _).eq_of_mem_iff
  · rw [List.pairwise_map]
    refine List.pairwise_lt_range.imp ?_
    intro i j hij
    omega
  · intro d
    rw [allDates, mem_sortedSet, List.mem_map, List.mem_map]
    constructor
    · rintro ⟨c, hc, rfl⟩
      rcases List.mem_append.mp hc with hc | hc
      · rw [dayCandles, List.mem_flatMap] at hc
        rcases hc with ⟨i, hi, hc⟩
        rw [List.eq_of_mem_replicate hc]
        exact ⟨i, hi, (dateOf_dayCandle ((List.mem_range.mp hi).trans_le hdays)).symm⟩
      · rcases hmore c hc with ⟨i, hi, rfl⟩
        exact ⟨i, List.mem_range.mpr hi, (dateOf_dayCandle (hi.trans_le hdays)).symm⟩
    · rintro ⟨i, hi, rfl⟩
      refine ⟨dayCandle i, ?_, dateOf_dayCandle ((List.mem_range.mp hi).trans_le hdays)⟩
      refine List.mem_append_left _ (List.mem_flatMap.mpr ⟨i, hi, ?_⟩)
      exact List.mem_replicate.mpr ⟨by decide, rfl⟩

/-- A day has enough candles. -/
theorem le_length_candlesInRange {days i : ℕ} {start stop : ℤ} (hi : i < days)
    (hdays : days ≤ maxDates) (hstart : start ≤ i + 1) (hstop : (i : ℤ) + 1 ≤ stop)
    (more : List OHLCVCandle) :
    30 ≤ (candlesInRange (dayCandles days ++ more) start stop).length := by
  have hdate : dateOf (dayCandle i) = i + 1 := dateOf_dayCandle (hi.trans_le hdays)
  have hsub : (List.replicate 30 (dayCandle i)).Sublist (dayCandles days ++ more) := by
    refine List.Sublist.trans ?_ (List.sublist_append_left _ _)
    rw [dayCandles, List.flatMap]
    exact List.sublist_flatten_of_mem (List.mem_map.mpr ⟨i, List.mem_range.mpr hi, rfl⟩)
  have hfilter := (hsub.filter fun c => decide (start ≤ dateOf c ∧ dateOf c ≤ stop)).length_le
  have hall : (List.replicate 30 (dayCandle i)).filter
      (fun c => decide (start ≤ dateOf c ∧ dateOf c ≤ stop)) = List.replicate 30 (dayCandle i) := by
    rw [List.filter_eq_self]
    intro c hc
    rw [List.eq_of_mem_replicate hc, hdate, decide_eq_true_iff]
    exact ⟨hstart, hstop⟩
  rw [hall, List.length_replicate] at hfilter
  exact hfilter

/-- More candles of the day after the second in-sample window. -/
def moreCandles (i : ℕ) : List OHLCVCandle := List.replicate 30 (dayCandle i)

theorem candlesInRange_moreCandles {i : ℕ} (hi : i < maxDates) (start stop : ℤ) :
    candlesInRange (moreCandles i) start stop =
      if start ≤ i + 1 ∧ (i : ℤ) + 1 ≤ stop then moreCandles i else [] := by
  have hdate : dateOf (dayCandle i) = i + 1 := dateOf_dayCandle hi
  rw [candlesInRange, moreCandles, List.filter_replicate, hdate]
  simp only [decide_eq_true_eq]

/-- The arguments of a run that leaks. -/
def leakArgs (inSampleDays outOfSampleDays stepDays : ℕ) : WalkForwardArgs where
  config :=
    { strategyId := "enter_or_wait"
      symbol := "RELIANCE"
      exchange := "NSE"
      startDate := firstDay.date
      endDate := firstDay.date
      riskFreeRateAnnual := 0 }
  signalFn := enterOrWait
  paramGrid := [enterParams, waitParams]
  inSampleDays := inSampleDays
  outOfSampleDays := outOfSampleDays
  stepDays := stepDays

section TwoWindows

variable {inSampleDays outOfSampleDays stepDays : ℕ} {more : List OHLCVCandle} {late : ℕ}

/-- A date of the two series. -/
theorem getD_allDates {days i : ℕ} (hdays : days ≤ maxDates)
    (hmore : ∀ c ∈ more, ∃ i < days, c = dayCandle i) (hi : i < days) :
    (allDates (dayCandles days ++ more)).getD i 0 = i + 1 := by
  rw [allDates_dayCandles hdays hmore, List.getD_eq_getElem?_getD, List.getElem?_map,
    List.getElem?_range hi]
  rfl

theorem length_allDates_dayCandles {days : ℕ} (hdays : days ≤ maxDates)
    (hmore : ∀ c ∈ more, ∃ i < days, c = dayCandle i) :
    (allDates (dayCandles days ++ more)).length = days := by
  rw [allDates_dayCandles hdays hmore, List.length_map, List.length_range]

/-- What the second window of a run on days of candles chooses: with a draw for each candle of the
first one, it is a matter of their number. -/
theorem bestParams_second (hin : 0 < inSampleDays) (hstep : 0 < stepDays)
    (hlt : stepDays < outOfSampleDays)
    (hdays : inSampleDays + outOfSampleDays + stepDays ≤ maxDates)
    (hmore : ∀ c ∈ more, ∃ i < inSampleDays + outOfSampleDays + stepDays, c = dayCandle i)
    (hlate : 0 < late) :
    let candles := dayCandles (inSampleDays + outOfSampleDays + stepDays) ++ more
    (foldAt (countingLibraries R late) (leakArgs inSampleDays outOfSampleDays stepDays) candles
      (allDates candles) (loopAt (countingLibraries R late)
        (leakArgs inSampleDays outOfSampleDays stepDays) candles 1)).1.bestParams =
      if (candlesInRange candles 1 inSampleDays).length +
        (candlesInRange candles (inSampleDays + 1) (inSampleDays + outOfSampleDays)).length < late
      then enterParams else waitParams := by
  intro candles
  have hdate : ∀ i < inSampleDays + outOfSampleDays + stepDays,
      (allDates candles).getD i 0 = (i : ℤ) + 1 := fun i hi => getD_allDates hdays hmore hi
  have hlength : (allDates candles).length = inSampleDays + outOfSampleDays + stepDays :=
    length_allDates_dayCandles hdays hmore
  have hclose : ∀ c ∈ candles, c.close = 1 := by
    intro c hc
    rcases List.mem_append.mp hc with hc | hc
    · rw [dayCandles, List.mem_flatMap] at hc
      rcases hc with ⟨i, -, hc⟩
      rw [List.eq_of_mem_replicate hc]
      rfl
    · rcases hmore c hc with ⟨i, -, rfl⟩
      rfl
  have henough : ∀ (i : ℕ) (start stop : ℤ), i < inSampleDays + outOfSampleDays + stepDays →
      start ≤ i + 1 → (i : ℤ) + 1 ≤ stop → 30 ≤ (candlesInRange candles start stop).length :=
    fun i start stop hi hstart hstop => le_length_candlesInRange hi hdays hstart hstop more
  have hbounds : ∀ cursor ≤ stepDays,
      Bounds (leakArgs inSampleDays outOfSampleDays stepDays) (allDates candles) cursor (cursor + 1)
        (cursor + inSampleDays) (cursor + inSampleDays + 1)
        (cursor + inSampleDays + outOfSampleDays) := by
    intro cursor hcursor
    constructor
    · exact hdate cursor (by omega)
    · refine (hdate (cursor + inSampleDays - 1) (by omega)).trans ?_
      omega
    · refine (hdate (cursor + inSampleDays) (by omega)).trans ?_
      omega
    · refine (hdate (min (cursor + inSampleDays + outOfSampleDays - 1) _) (by omega)).trans ?_
      omega
  -- the first window enters, and draws for each of its candles
  have hfirst := foldAt_enterOrWait R late (s := { windowIdx := 0, cursor := 0, rng := 0 })
    (hbounds 0 (Nat.zero_le _)) rfl rfl rfl hclose (henough 0 _ _ (by omega) (by omega) (by omega))
  have hdraws := hfirst.2 hlate (henough inSampleDays _ _ (by omega) (by omega) (by omega))
  simp only [Nat.cast_zero, zero_add] at hdraws
  have hloop : loopAt (countingLibraries R late) (leakArgs inSampleDays outOfSampleDays stepDays)
      candles 1 =
        { windowIdx := 1
          cursor := stepDays
          rng := (candlesInRange candles 1 inSampleDays).length +
            (candlesInRange candles (inSampleDays + 1)
              (inSampleDays + outOfSampleDays)).length } := by
    have hone : loopAt (countingLibraries R late)
        (leakArgs inSampleDays outOfSampleDays stepDays) candles 1 =
          { windowIdx := 1, cursor := 0 + stepDays, rng := _ } := rfl
    rw [hone, Nat.zero_add, ← hdraws]
    rfl
  rw [hloop]
  exact (foldAt_enterOrWait R late (s := { windowIdx := 1, cursor := stepDays, rng := _ })
    (hbounds stepDays le_rfl) rfl rfl rfl hclose
    (henough stepDays _ _ (by omega) (by omega) (by omega))).1

omit [IsStrictOrderedRing R] in
/-- The second window of a run on days of candles, and the end of its in-sample candles. -/
theorem second_mem_windowsOf (hin : 0 < inSampleDays) (hstep : 0 < stepDays)
    (hdays : inSampleDays + outOfSampleDays + stepDays ≤ maxDates)
    (hmore : ∀ c ∈ more, ∃ i < inSampleDays + outOfSampleDays + stepDays, c = dayCandle i)
    (lib : Libraries ℕ R) :
    let args := leakArgs inSampleDays outOfSampleDays stepDays
    let candles := dayCandles (inSampleDays + outOfSampleDays + stepDays) ++ more
    let second := (foldAt lib args candles (allDates candles) (loopAt lib args candles 1)).1
    second ∈ windowsOf lib args candles ∧ second.inSampleEnd = stepDays + inSampleDays := by
  intro args candles second
  have hlength : (allDates candles).length = inSampleDays + outOfSampleDays + stepDays :=
    length_allDates_dayCandles hdays hmore
  constructor
  · refine List.mem_map.mpr ⟨1, List.mem_range.mpr ?_, rfl⟩
    have hcount := windowCount_eq (show 0 < args.stepDays from hstep) (allDates candles).length
    have hrest : ((allDates candles).length : ℤ) - args.inSampleDays - args.outOfSampleDays =
        args.stepDays := by
      have hin' : args.inSampleDays = inSampleDays := rfl
      have hout' : args.outOfSampleDays = outOfSampleDays := rfl
      have hstep' : args.stepDays = stepDays := rfl
      omega
    rw [hrest, Int.ediv_self (by exact_mod_cast hstep.ne')] at hcount
    omega
  · have hcursor : (loopAt lib args candles 1).cursor = stepDays :=
      (cursor_loopAt lib args candles 1).trans (Nat.one_mul _)
    have hend : second.inSampleEnd =
        (allDates candles).getD ((loopAt lib args candles 1).cursor + inSampleDays - 1) 0 := rfl
    rw [hend, hcursor, getD_allDates hdays hmore (by omega)]
    omega

/-- Settings that leave room for a second window before the end of the first. -/
theorem not_foldsDoNotLeak (hin : 0 < inSampleDays) (hstep : 0 < stepDays)
    (hlt : stepDays < outOfSampleDays)
    (hdays : inSampleDays + outOfSampleDays + stepDays ≤ maxDates) :
    ¬ FoldsDoNotLeak R inSampleDays outOfSampleDays stepDays := by
  intro h
  have hnone : ∀ c ∈ ([] : List OHLCVCandle),
      ∃ i < inSampleDays + outOfSampleDays + stepDays, c = dayCandle i := by
    intro c hc
    cases hc
  have hmore : ∀ c ∈ moreCandles (inSampleDays + stepDays),
      ∃ i < inSampleDays + outOfSampleDays + stepDays, c = dayCandle i := by
    intro c hc
    exact ⟨inSampleDays + stepDays, by omega, List.eq_of_mem_replicate hc⟩
  have hday : inSampleDays + stepDays < maxDates := by omega
  let base := dayCandles (inSampleDays + outOfSampleDays + stepDays) ++ []
  let other := dayCandles (inSampleDays + outOfSampleDays + stepDays) ++
    moreCandles (inSampleDays + stepDays)
  -- as many draws as the first window makes on the shorter series
  let draws := (candlesInRange base 1 inSampleDays).length +
    (candlesInRange base (inSampleDays + 1) (inSampleDays + outOfSampleDays)).length
  let lib := countingLibraries R (draws + 1)
  let args := leakArgs inSampleDays outOfSampleDays stepDays
  rcases h ℕ lib args base rfl rfl rfl with ⟨result, hresult, -, hpast⟩
  rcases exists_returns lib other
    (show 0 < args.inSampleDays from hin) hstep with ⟨result', hresult', hwindows'⟩
  rw [windows_of_returns hin hstep hresult] at hpast
  rcases second_mem_windowsOf hin hstep hdays hnone lib with ⟨hmem, hend⟩
  rcases second_mem_windowsOf hin hstep hdays hmore lib with ⟨hmem', hend'⟩
  rw [← hwindows'] at hmem'
  -- the days that the series have more are after the in-sample end of the second window
  have hsame : upTo (stepDays + inSampleDays) other = upTo (stepDays + inSampleDays) base := by
    have hdate : dateOf (dayCandle (inSampleDays + stepDays)) =
        ((inSampleDays + stepDays : ℕ) : ℤ) + 1 := dateOf_dayCandle hday
    have hlater : upTo (stepDays + inSampleDays) (moreCandles (inSampleDays + stepDays)) = [] := by
      rw [upTo, moreCandles, List.filter_replicate, hdate, if_neg]
      rw [decide_eq_true_eq]
      omega
    have happend : ∀ more, upTo (stepDays + inSampleDays)
        (dayCandles (inSampleDays + outOfSampleDays + stepDays) ++ more) =
          upTo (stepDays + inSampleDays)
            (dayCandles (inSampleDays + outOfSampleDays + stepDays)) ++
              upTo (stepDays + inSampleDays) more := fun more => List.filter_append _ _
    rw [happend, happend, hlater]
    rfl
  have hchoice := hpast other result' hresult' _ hmem _ hmem' (hend'.trans hend.symm) (by
    rw [hend]
    exact hsame)
  -- in the one series the generator is early, in the other it is late
  have hmoreDraws : (candlesInRange other 1 inSampleDays).length +
      (candlesInRange other (inSampleDays + 1) (inSampleDays + outOfSampleDays)).length =
        draws + 30 := by
    have happend : ∀ start stop, candlesInRange other start stop =
        candlesInRange base start stop ++
          candlesInRange (moreCandles (inSampleDays + stepDays)) start stop := by
      intro start stop
      simp only [other, base, candlesInRange, List.append_nil, List.filter_append]
    rw [happend, happend, candlesInRange_moreCandles hday, candlesInRange_moreCandles hday,
      if_neg (by omega), if_pos (by omega), List.append_nil, List.length_append]
    exact (Nat.add_assoc _ _ _).symm
  rw [bestParams_second hin hstep hlt hdays hnone (Nat.succ_pos _),
    bestParams_second hin hstep hlt hdays hmore (Nat.succ_pos _), if_pos (Nat.lt_succ_self _),
    hmoreDraws, if_neg (by omega)] at hchoice
  exact absurd (congrArg (fun params => params.entries.length) hchoice) (by decide)

/-- The folds of a run do not leak exactly if the windows advance by the days of an out-of-sample
window at least, or no calendar has the days of a second window. -/
theorem foldsDoNotLeak_iff (hin : 0 < inSampleDays) (hout : 0 < outOfSampleDays)
    (hstep : 0 < stepDays) :
    FoldsDoNotLeak R inSampleDays outOfSampleDays stepDays ↔
      outOfSampleDays ≤ stepDays ∨ maxDates < inSampleDays + outOfSampleDays + stepDays := by
  constructor
  · intro h
    by_contra hleak
    rw [not_or, not_le, not_lt] at hleak
    exact not_foldsDoNotLeak hin hstep hleak.1 hleak.2 h
  · intro h G lib args candles hin' hout' hstep'
    subst hin' hout' hstep'
    rcases exists_returns lib candles hin hstep with ⟨result, hresult, hwindows⟩
    refine ⟨result, hresult, ?_, ?_⟩
    · rw [hwindows]
      exact hasFolds_windowsOf hin hout hstep
    · rw [hwindows]
      exact choosesByPast_windowsOf hin hout hstep h

/-- The default settings leak, and windows that advance by as much as they check do not. -/
theorem foldsDoNotLeak_iff_default :
    ¬ FoldsDoNotLeak ℚ Core.walkForwardInSampleDays Core.walkForwardOutOfSampleDays
      Core.walkForwardStepDays ∧ FoldsDoNotLeak ℚ 60 20 20 := by
  constructor
  · rw [foldsDoNotLeak_iff (by decide) (by decide) (by decide)]
    decide
  · rw [foldsDoNotLeak_iff (by decide) (by decide) (by decide)]
    decide

end TwoWindows

end Leak

/-! ## A run that leaks -/

/-- Windows of a day and of two days, a day apart. -/
def momentumArgs : WalkForwardArgs where
  config := momentumConfig
  signalFn := momentumSignals
  paramGrid := [Dict.empty.set "move" 0, Dict.empty.set "move" 1]
  inSampleDays := 1
  outOfSampleDays := 2
  stepDays := 1

/-- Four sessions, the last two of them flat. -/
def quietCandles : List OHLCVCandle :=
  sessionCandles 0 (some 1) ++ sessionCandles 1 (some (7 / 100)) ++ sessionCandles 2 none ++
    sessionCandles 3 none

/-- The same, but for a rise in the third session. -/
def busyCandles : List OHLCVCandle :=
  sessionCandles 0 (some 1) ++ sessionCandles 1 (some (7 / 100)) ++ sessionCandles 2 (some 1) ++
    sessionCandles 3 none

/-- The in-sample candles of the second window are those of the second session. What it chooses is
another if the third session has a trade. -/
theorem quietCandles_leak :
    ∃ result, Returns simulated momentumArgs quietCandles result ∧
      ¬ ChoosesByPast simulated momentumArgs quietCandles result.windows := by
  have hin : 0 < momentumArgs.inSampleDays := by decide
  have hstep : 0 < momentumArgs.stepDays := by decide
  rcases exists_returns simulated quietCandles hin hstep with ⟨result, hresult, hwindows⟩
  rcases exists_returns simulated busyCandles hin hstep with ⟨result', hresult', hwindows'⟩
  refine ⟨result, hresult, ?_⟩
  intro h
  have hmem : (foldAt simulated momentumArgs quietCandles (allDates quietCandles)
      (loopAt simulated momentumArgs quietCandles 1)).1 ∈ result.windows := by
    rw [hwindows]
    refine List.mem_map.mpr ⟨1, List.mem_range.mpr ?_, rfl⟩
    decide +kernel
  have hmem' : (foldAt simulated momentumArgs busyCandles (allDates busyCandles)
      (loopAt simulated momentumArgs busyCandles 1)).1 ∈ result'.windows := by
    rw [hwindows']
    refine List.mem_map.mpr ⟨1, List.mem_range.mpr ?_, rfl⟩
    decide +kernel
  have hchoice := congrArg Dict.entries
    (h busyCandles result' hresult' _ hmem _ hmem' (by decide +kernel) (by decide +kernel))
  have hquiet : (foldAt simulated momentumArgs quietCandles (allDates quietCandles)
      (loopAt simulated momentumArgs quietCandles 1)).1.bestParams.entries = [("move", 0)] := by
    decide +kernel
  have hbusy : (foldAt simulated momentumArgs busyCandles (allDates busyCandles)
      (loopAt simulated momentumArgs busyCandles 1)).1.bestParams.entries = [("move", 1)] := by
    decide +kernel
  rw [hquiet, hbusy] at hchoice
  exact absurd hchoice (by decide)

end Intraday.Backtesting
