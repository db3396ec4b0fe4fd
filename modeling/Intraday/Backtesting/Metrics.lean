import Intraday.Backtesting.PromotionGate
import Intraday.Lib.Drawdown
import Intraday.Lib.Rounding

/-!
# Intraday.Backtesting.Metrics — `shared/backtesting/metrics.py`

The metrics of a backtest, from its trades and its equity. Floats are exact; a square root is a
number of an ordered field, and the ratios that have one in them are rounded from there.

The drawdown is measured against the highest equity so far, which is the same as over all pairs
(`isGreatest_maxDrawdownPct`), and the gates, which compare rounded metrics, pass only what the
exact ones pass.
-/

namespace Intraday.Backtesting

open Intraday.Core Intraday.Lib Intraday.Lib.Decimal

/-- `_ANNUALISATION_FACTOR`. -/
def annualisationFactor : ℚ := 252

/-- `_MIN_TRADES_FOR_RATIO`. -/
def minTradesForRatio : ℕ := 2

/-- `_safe_div`. -/
def safeDiv (numerator denominator fallback : ℚ) : ℚ :=
  if denominator ≠ 0 then numerator / denominator else fallback

/-- The bars of a day, of which there are some. -/
abbrev BarsPerDay := {bars : ℚ // 0 < bars}

/-- `np.mean`. -/
def mean (xs : List ℚ) : ℚ := xs.sum / xs.length

/-- The square of `np.std(…, ddof=1)`. -/
def variance (xs : List ℚ) : ℚ := (xs.map fun x => (x - mean xs) ^ 2).sum / ((xs.length : ℚ) - 1)

/-- The square root, and the power of floats. -/
structure Numerics (R : Type) where
  sqrt : ℚ → R
  pow : ℚ → ℚ → ℚ

/-- Roots to eight decimals, and powers with a natural exponent. -/
def decimalNumerics : Numerics ℚ where
  sqrt x := Nat.sqrt ⌊x * 10 ^ 16⌋.toNat / 10 ^ 8
  pow x y := x ^ ⌊y⌋.toNat

/-! ## The parts -/

/-- `total_return_pct`. -/
def totalReturnPct (equity : List ℚ) (initialCapital : ℚ) : ℚ :=
  match equity.getLast? with
  | some last => safeDiv (last - initialCapital) initialCapital 0 * 100
  | none => 0

/-- `np.diff(equity) / equity[:-1]`. -/
def barReturns (equity : List ℚ) : List ℚ :=
  List.zipWith (fun e next => (next - e) / e) equity equity.tail

/-- The returns of the bars above the risk-free rate of a bar. -/
def excessReturns (equity : List ℚ) (riskFreeRateAnnual : ℚ) (bars : BarsPerDay) : List ℚ :=
  (barReturns equity).map (· - riskFreeRateAnnual / (annualisationFactor * bars))

/-- The share of the trades with a profit. -/
def winRatePct (trades : List Trade) : ℚ :=
  (trades.filter fun t => 0 < t.pnlPct).length / trades.length * 100

/-- `profit_factor`. -/
def profitFactor (trades : List Trade) : ℚ :=
  let pnlPcts := trades.map Trade.pnlPct
  let grossProfit := (pnlPcts.filter (0 < ·)).sum
  let grossLoss := |(pnlPcts.filter (· ≤ 0)).sum|
  safeDiv grossProfit grossLoss (if grossProfit = 0 then 0 else 999)

/-- `max_drawdown_pct`, before it is rounded. -/
def maxDrawdownPct (equity : List ℚ) : ℚ :=
  if 1 < equity.length then
    greatest (List.zipWith (fun top e => (top - e) / top) (accumulate equity) equity) * 100
  else 0

section Ratios

variable {R : Type} [Field R] [LinearOrder R] (num : Numerics R)

/-- `annualized_return_pct`. -/
def annualizedReturnPct (totalReturn : ℚ) (tradingDays : ℤ) : ℚ :=
  if 0 < tradingDays ∧ -100 < totalReturn then
    (num.pow (1 + totalReturn / 100) (annualisationFactor / tradingDays) - 1) * 100
  else 0

/-- The mean over the deviation, for a year. -/
def annualised (excess sample : List ℚ) (bars : BarsPerDay) : R :=
  let std := num.sqrt (variance sample)
  if 0 < std then (mean excess : R) / std * num.sqrt (annualisationFactor * bars) else 0

/-- `sharpe_ratio`, before it is rounded. -/
def sharpeRatio (equity : List ℚ) (riskFreeRateAnnual : ℚ) (bars : BarsPerDay) : R :=
  if minTradesForRatio + 1 ≤ equity.length then
    let excess := excessReturns equity riskFreeRateAnnual bars
    annualised num excess excess bars
  else 0

/-- `sortino_ratio`, before it is rounded. -/
def sortinoRatio (equity : List ℚ) (riskFreeRateAnnual : ℚ) (bars : BarsPerDay) : R :=
  if minTradesForRatio + 1 ≤ equity.length then
    let excess := excessReturns equity riskFreeRateAnnual bars
    let downside := excess.filter (· < 0)
    if 1 < downside.length then annualised num excess downside bars else 0
  else 0

/-- The metrics before they are rounded. -/
structure ExactMetrics (R : Type) where
  sharpeRatio : R
  sortinoRatio : R
  maxDrawdownPct : ℚ
  winRatePct : ℚ
  expectancyPerTrade : ℚ
  profitFactor : ℚ
  calmarRatio : ℚ
  avgSlippageBps : ℚ

/-- What `compute_metrics` computes of these: without trades all are zero. -/
def exactMetrics (trades : List Trade) (equity : List ℚ) (initialCapital riskFreeRateAnnual : ℚ)
    (tradingDays : ℤ) (bars : BarsPerDay) : ExactMetrics R :=
  let annualizedReturn :=
    annualizedReturnPct num (totalReturnPct equity initialCapital) tradingDays
  if trades = [] then
    { sharpeRatio := 0, sortinoRatio := 0, maxDrawdownPct := 0, winRatePct := 0
      expectancyPerTrade := 0, profitFactor := 0, calmarRatio := 0, avgSlippageBps := 0 }
  else
    { sharpeRatio := sharpeRatio num equity riskFreeRateAnnual bars
      sortinoRatio := sortinoRatio num equity riskFreeRateAnnual bars
      maxDrawdownPct := maxDrawdownPct equity
      winRatePct := winRatePct trades
      expectancyPerTrade := mean (trades.map Trade.pnlPct)
      profitFactor := profitFactor trades
      calmarRatio := safeDiv annualizedReturn (maxDrawdownPct equity) 0
      avgSlippageBps := mean (trades.map fun t => t.entrySlippageBps + t.exitSlippageBps) }

variable [FloorRing R]

/-- `compute_metrics`. -/
def computeMetrics (trades : List Trade) (equity : List ℚ) (initialCapital riskFreeRateAnnual : ℚ)
    (tradingDays : ℤ) (bars : BarsPerDay) : BacktestMetrics :=
  let totalReturn := totalReturnPct equity initialCapital
  let annualizedReturn := annualizedReturnPct num totalReturn tradingDays
  let exact := exactMetrics num trades equity initialCapital riskFreeRateAnnual tradingDays bars
  { sharpeRatio := roundDecimals 4 exact.sharpeRatio
    sortinoRatio := roundDecimals 4 exact.sortinoRatio
    maxDrawdownPct := roundTo 4 exact.maxDrawdownPct
    winRatePct := roundTo 4 exact.winRatePct
    expectancyPerTrade := roundTo 4 exact.expectancyPerTrade
    profitFactor := roundTo 4 exact.profitFactor
    calmarRatio := roundTo 4 exact.calmarRatio
    avgSlippageBps := roundTo 4 exact.avgSlippageBps
    totalTrades := trades.length
    tradingDays := tradingDays
    -- without trades the metrics are returned before anything is rounded
    totalReturnPct := if trades = [] then totalReturn else roundTo 4 totalReturn
    annualizedReturnPct := if trades = [] then annualizedReturn else roundTo 4 annualizedReturn }

end Ratios

/-! ## The drawdown -/

theorem maxDrawdownPct_eq {equity : List ℚ} (hpos : ∀ e ∈ equity, 0 < e) :
    maxDrawdownPct equity = maxDrawdown equity * 100 := by
  rw [maxDrawdownPct, zipWith_share_accumulate hpos]
  split
  · rfl
  · -- at most one value, which does not fall
    rename_i hlen
    match equity with
    | [] => simp [maxDrawdown, drawdowns, accumulate, greatest]
    | [e] => simp [maxDrawdown, drawdowns, accumulate, accumulateFrom, greatest, peak]
    | e :: e' :: rest => simp at hlen

/-- A part of the trades makes a profit. -/
theorem winRatePct_range (trades : List Trade) :
    0 ≤ winRatePct trades ∧ winRatePct trades ≤ 100 := by
  have hle : ((trades.filter fun t => 0 < t.pnlPct).length : ℚ) ≤ trades.length := by
    exact_mod_cast List.length_filter_le _ _
  have hshare : ((trades.filter fun t => 0 < t.pnlPct).length : ℚ) / trades.length ≤ 1 :=
    div_le_one_of_le₀ hle (Nat.cast_nonneg _)
  unfold winRatePct
  refine ⟨by positivity, ?_⟩
  linarith

/-- The gates that a run clears. -/
theorem checkPromotionGate_eq_nil_iff {m : BacktestMetrics} :
    checkPromotionGate m = [] ↔ paperTradingMinDays ≤ m.tradingDays ∧
      paperTradingMinSharpe < m.sharpeRatio ∧ paperTradingMinWinRatePct < m.winRatePct ∧
        m.maxDrawdownPct < paperTradingMaxDrawdownPct := by
  unfold checkPromotionGate
  simp only [List.append_eq_nil_iff, ite_eq_right_iff, List.cons_ne_nil, imp_false, not_lt, not_le,
    ge_iff_le, and_assoc]

/-! ## What the gates say about the exact metrics -/

/-- The falls of the equity, in percent. -/
def fallsPct (equity : List ℚ) : Set ℚ :=
  {d | ∃ (i j : ℕ) (x y : ℚ), i ≤ j ∧ equity[i]? = some x ∧ equity[j]? = some y ∧
    d = 100 * ((x - y) / x)}

/-- The drawdown is the deepest fall. -/
theorem isGreatest_maxDrawdownPct {equity : List ℚ} (hpos : ∀ e ∈ equity, 0 < e)
    (hne : equity ≠ []) : IsGreatest (fallsPct equity) (maxDrawdownPct equity) := by
  have hnonneg : ∀ e ∈ equity, 0 ≤ e := fun e he => (hpos e he).le
  have hsome : ∃ e ∈ equity, 0 < e := by
    rcases List.exists_mem_of_ne_nil equity hne with ⟨e, he⟩
    exact ⟨e, he, hpos e he⟩
  rcases isGreatest_maxDrawdown hnonneg hsome with ⟨⟨i, j, x, y, hle, hx, hy, -, heq⟩, hmax⟩
  rw [maxDrawdownPct_eq hpos]
  constructor
  · exact ⟨i, j, x, y, hle, hx, hy, by rw [heq, mul_comm]⟩
  · rintro _ ⟨i, j, x, y, hle, hx, hy, rfl⟩
    have hxpos : 0 < x := hpos x (List.mem_of_getElem? hx)
    have hfall : (x - y) / x ≤ maxDrawdown equity := hmax ⟨i, j, x, y, hle, hx, hy, hxpos, rfl⟩
    linarith

theorem maxDrawdownPct_range {equity : List ℚ} (hpos : ∀ e ∈ equity, 0 < e) :
    0 ≤ maxDrawdownPct equity ∧ maxDrawdownPct equity < 100 := by
  have hnonneg := maxDrawdown_nonneg fun e he => (hpos e he).le
  have hlt := maxDrawdown_lt_one hpos
  rw [maxDrawdownPct_eq hpos]
  constructor <;> linarith

section Sound

variable {R : Type} [Field R] [LinearOrder R] [IsStrictOrderedRing R] [FloorRing R]

/-- The thresholds have at most four decimals, so no metric is rounded across one. -/
theorem exactMetrics_of_gate (num : Numerics R) (trades : List Trade) (equity : List ℚ)
    (initialCapital riskFreeRateAnnual : ℚ) (tradingDays : ℤ) (bars : BarsPerDay)
    (h : checkPromotionGate (computeMetrics num trades equity initialCapital riskFreeRateAnnual
      tradingDays bars) = []) :
    let exact := exactMetrics num trades equity initialCapital riskFreeRateAnnual tradingDays bars
    (paperTradingMinSharpe : R) < exact.sharpeRatio ∧
      paperTradingMinWinRatePct < exact.winRatePct ∧
        exact.maxDrawdownPct < paperTradingMaxDrawdownPct := by
  rw [checkPromotionGate_eq_nil_iff] at h
  rcases h with ⟨-, hsharpe, hwin, hdrawdown⟩
  simp only [computeMetrics, ← roundDecimals_rat] at hsharpe hwin hdrawdown
  refine ⟨?_, ?_, ?_⟩
  · exact lt_of_lt_roundDecimals (n := 15000) (by norm_num [paperTradingMinSharpe]) hsharpe
  · have hlt := lt_of_lt_roundDecimals (n := 500000) (by norm_num [paperTradingMinWinRatePct]) hwin
    exact_mod_cast hlt
  · have hlt := lt_of_roundDecimals_lt (n := 50000) (by norm_num [paperTradingMaxDrawdownPct])
      hdrawdown
    exact_mod_cast hlt

/-- For all trades and every positive equity: with trades the drawdown is the deepest fall, without
it is zero; the ranges, and the gates. -/
theorem promotionGate_sound (num : Numerics R) (trades : List Trade) (equity : List ℚ)
    (initialCapital riskFreeRateAnnual : ℚ) (tradingDays : ℤ) (bars : BarsPerDay)
    (hpos : ∀ e ∈ equity, 0 < e) :
    let exact := exactMetrics num trades equity initialCapital riskFreeRateAnnual tradingDays bars
    (trades ≠ [] → equity ≠ [] → IsGreatest (fallsPct equity) exact.maxDrawdownPct) ∧
      (trades = [] → exact.maxDrawdownPct = 0) ∧
        (0 ≤ exact.maxDrawdownPct ∧ exact.maxDrawdownPct < 100) ∧
          (0 ≤ exact.winRatePct ∧ exact.winRatePct ≤ 100) ∧
            (checkPromotionGate (computeMetrics num trades equity initialCapital
                riskFreeRateAnnual tradingDays bars) = [] →
              (paperTradingMinSharpe : R) < exact.sharpeRatio ∧
                paperTradingMinWinRatePct < exact.winRatePct ∧
                  exact.maxDrawdownPct < paperTradingMaxDrawdownPct) := by
  intro exact
  have hgate := exactMetrics_of_gate num trades equity initialCapital riskFreeRateAnnual
    tradingDays bars
  by_cases htrades : trades = []
  · -- the guard: all the ratios are zero
    have hdrawdown : exact.maxDrawdownPct = 0 := by
      simp only [exact, exactMetrics, if_pos htrades]
    have hwin : exact.winRatePct = 0 := by
      simp only [exact, exactMetrics, if_pos htrades]
    refine ⟨fun h => absurd htrades h, fun _ => hdrawdown, ?_, ?_, hgate⟩
    · rw [hdrawdown]
      norm_num
    · rw [hwin]
      norm_num
  · have hdrawdown : exact.maxDrawdownPct = maxDrawdownPct equity := by
      simp only [exact, exactMetrics, if_neg htrades]
    have hwin : exact.winRatePct = winRatePct trades := by
      simp only [exact, exactMetrics, if_neg htrades]
    refine ⟨fun _ => ?_, fun h => absurd h htrades, ?_, ?_, hgate⟩
    · rw [hdrawdown]
      exact isGreatest_maxDrawdownPct hpos
    · rw [hdrawdown]
      exact maxDrawdownPct_range hpos
    · rw [hwin]
      exact winRatePct_range trades

end Sound

/-- A trade that gained half a percent. -/
def gainingTrade : Trade where
  tradeId := "0"
  symbol := "RELIANCE"
  exchange := "NSE"
  strategyId := "EMA9X21"
  direction := directionLong
  entryTime := { wall := 33900000000, utcoffset := some 0, range := by decide }
  exitTime := { wall := 34200000000, utcoffset := some 0, range := by decide }
  entryPrice := 100
  exitPrice := 201 / 2
  entrySlippageBps := 4
  exitSlippageBps := 3
  quantity := 20
  pnl := 10
  pnlPct := 1 / 2

/-- A run that clears the gates, and falls by a hundredth of a percent on the way. -/
theorem promotionGate_sound_gaining :
    let equity : List ℚ := [100000, 100010, 100000, 100020]
    let exact := exactMetrics decimalNumerics [gainingTrade] equity 100000 0 21 ⟨75, by decide⟩
    checkPromotionGate (computeMetrics decimalNumerics [gainingTrade] equity 100000 0 21
        ⟨75, by decide⟩) = [] ∧
      IsGreatest (fallsPct equity) exact.maxDrawdownPct ∧
        paperTradingMinSharpe < exact.sharpeRatio := by
  intro equity exact
  have hpos : ∀ e ∈ equity, 0 < e := by decide +kernel
  have hgate : checkPromotionGate (computeMetrics decimalNumerics [gainingTrade] equity 100000 0 21
      ⟨75, by decide⟩) = [] := by decide +kernel
  rcases promotionGate_sound decimalNumerics [gainingTrade] equity 100000 0 21 ⟨75, by decide⟩
    hpos with ⟨hmax, -, -, -, hsound⟩
  exact ⟨hgate, hmax (by simp) (by simp [equity]), (hsound hgate).1⟩

/-- Without trades the drawdown is reported as zero, though the equity fell by a tenth. -/
theorem drawdown_without_trades :
    ¬ IsGreatest (fallsPct [100, 90])
      (exactMetrics decimalNumerics [] [100, 90] 100 (13 / 200) 21
        ⟨75, by decide⟩).maxDrawdownPct := by
  rintro ⟨-, hmax⟩
  have hfall : (10 : ℚ) ∈ fallsPct [100, 90] := ⟨0, 1, 100, 90, by decide, rfl, rfl, by norm_num⟩
  exact absurd (hmax hfall) (by decide +kernel)

end Intraday.Backtesting
