import Intraday.Backtesting.Metrics

/-!
# Intraday.Reporting.Metrics — `shared/reporting/metrics.py`

The figures of a daily report are computed from its trades, those of a monthly report from its
daily ones. The drawdown of returns is that of the wealth after each return. The wealth before the
first one is no value of the path, so a first loss counts only if some later fall is as deep
(`reportsDrawdown_iff`).
-/

namespace Intraday.Reporting

open Intraday.Lib
open Intraday.Backtesting (Numerics mean variance)

/-! ## The drawdown of returns -/

section Wealth

variable {K : Type} [Field K] [LinearOrder K]

/-- `np.cumprod` of one and each return, from the wealth `w` on. -/
def wealthFrom (w : K) : List K → List K
  | [] => []
  | r :: returns => w * (1 + r) :: wealthFrom (w * (1 + r)) returns

/-- The wealth after each return. -/
def wealth (returns : List K) : List K := wealthFrom 1 returns

/-- `compute_max_drawdown`. -/
def computeMaxDrawdown (returns : List K) : K :=
  if returns = [] then 0
  else
    greatest (List.zipWith (fun peak w => if peak > 0 then (peak - w) / peak else 0)
      (accumulate (wealth returns)) (wealth returns))

end Wealth

/-! ## Reports -/

/-- `TradeRecord`, without what only the tables print. -/
structure TradeRecord where
  pnl : ℚ
  pnlPct : ℚ
  slippagePct : Option ℚ
deriving DecidableEq

/-- `DailyReport`, without its date and the markout curve. -/
structure DailyReport (R : Type) where
  trades : List TradeRecord
  totalPnl : ℚ
  totalPnlPct : ℚ
  startingCapital : ℚ
  sharpe : Option R
  sortino : Option R
  maxDrawdownPct : ℚ
  winRatePct : ℚ
  totalTrades : ℕ
  winningTrades : ℕ
  losingTrades : ℕ
  avgSlippagePct : Option ℚ

/-- `MonthlyReport`, without its year and month. -/
structure MonthlyReport (R : Type) where
  dailyReports : List (DailyReport R)
  totalPnl : ℚ
  totalPnlPct : ℚ
  startingCapital : ℚ
  sharpe : Option R
  sortino : Option R
  maxDrawdownPct : ℚ
  winRatePct : ℚ
  totalTrades : ℕ

section Reports

variable {R : Type} [Field R] [LinearOrder R] (num : Numerics R)

/-- The mean of returns over a deviation, for a year. -/
def annualised (returns : List ℚ) (deviation : R) : Option R :=
  if deviation = 0 then none else some ((mean returns : R) / deviation * num.sqrt 252)

/-- `compute_sharpe`. -/
def computeSharpe (returns : List ℚ) : Option R :=
  if returns.length < 2 then none else annualised num returns (num.sqrt (variance returns))

/-- The square of `np.std`. -/
def populationVariance (xs : List ℚ) : ℚ := mean (xs.map fun x => (x - mean xs) ^ 2)

/-- `compute_sortino`. -/
def computeSortino (returns : List ℚ) : Option R :=
  let downside := returns.filter (· < 0)
  if returns.length < 2 ∨ downside = [] then none
  else annualised num returns (num.sqrt (populationVariance downside))

/-- Profit as a percentage of the capital. -/
def pnlPctOf (totalPnl startingCapital : ℚ) : ℚ :=
  if startingCapital > 0 then totalPnl / startingCapital * 100 else 0

/-- A share as a percentage; of none, zero. -/
def ratePct (part total : ℕ) : ℚ := if total = 0 then 0 else part / total * 100

/-- `compute_daily_report`. -/
def computeDailyReport (trades : List TradeRecord) (startingCapital : ℚ) : DailyReport R :=
  let totalPnl := (trades.map TradeRecord.pnl).sum
  let winning := trades.filter fun t => t.pnl > 0
  let losing := trades.filter fun t => t.pnl < 0
  let slippages := trades.filterMap TradeRecord.slippagePct
  let returns := trades.map fun t => t.pnlPct / 100
  { trades := trades
    totalPnl := totalPnl
    totalPnlPct := pnlPctOf totalPnl startingCapital
    startingCapital := startingCapital
    sharpe := computeSharpe num returns
    sortino := computeSortino num returns
    maxDrawdownPct := computeMaxDrawdown returns * 100
    winRatePct := ratePct winning.length trades.length
    totalTrades := trades.length
    winningTrades := winning.length
    losingTrades := losing.length
    avgSlippagePct := if slippages = [] then none else some (mean slippages) }

/-- `compute_monthly_report`. -/
def computeMonthlyReport (dailyReports : List (DailyReport R)) : MonthlyReport R :=
  let startingCapital := (dailyReports.head?.map DailyReport.startingCapital).getD 0
  let totalPnl := (dailyReports.map DailyReport.totalPnl).sum
  let allTrades := dailyReports.flatMap DailyReport.trades
  let winningDays := dailyReports.filter fun r => r.totalPnl > 0
  let dailyReturns := dailyReports.map fun r => r.totalPnlPct / 100
  { dailyReports := dailyReports
    totalPnl := totalPnl
    totalPnlPct := pnlPctOf totalPnl startingCapital
    startingCapital := startingCapital
    sharpe := computeSharpe num dailyReturns
    sortino := computeSortino num dailyReturns
    maxDrawdownPct := computeMaxDrawdown dailyReturns * 100
    winRatePct := ratePct winningDays.length dailyReports.length
    totalTrades := allTrades.length }

end Reports

/-! ## The wealth path -/

section Drawdown

variable {K : Type} [Field K] [LinearOrder K] {returns : List K}

/-- The guard and the loop of the source are those of the pass. -/
theorem computeMaxDrawdown_eq (returns : List K) :
    computeMaxDrawdown returns = maxDrawdown (wealth returns) := by
  unfold computeMaxDrawdown
  split
  · rename_i hnil
    rw [hnil]
    rfl
  · rfl

omit [LinearOrder K] in
theorem wealth_zero_cons (returns : List K) : wealth (0 :: returns) = 1 :: wealth returns := by
  rw [wealth, wealthFrom, add_zero, mul_one, wealth]

/-- What the drawdown of returns is to be: the deepest fall of the wealth from one on, which a
return of zero in front does not change, between zero and one. -/
structure ReportsDrawdown (returns : List K) : Prop where
  deepest : IsGreatest {d | IsFall (1 :: wealth returns) d} (computeMaxDrawdown returns)
  zero : computeMaxDrawdown (0 :: returns) = computeMaxDrawdown returns
  nonneg : 0 ≤ computeMaxDrawdown returns
  le_one : computeMaxDrawdown returns ≤ 1

variable [IsStrictOrderedRing K]

/-- No return loses more than everything, so no wealth is negative. -/
theorem wealthFrom_nonneg {w : K} (hw : 0 ≤ w) (hreturns : ∀ r ∈ returns, -1 ≤ r) :
    ∀ x ∈ wealthFrom w returns, 0 ≤ x := by
  induction returns generalizing w with
  | nil => exact fun x hx => absurd hx List.not_mem_nil
  | cons r returns ih =>
      rw [List.forall_mem_cons] at hreturns
      have hnext : 0 ≤ w * (1 + r) := mul_nonneg hw (by linarith [hreturns.1])
      rw [wealthFrom, List.forall_mem_cons]
      exact ⟨hnext, ih hnext hreturns.2⟩

theorem wealth_nonneg (hreturns : ∀ r ∈ returns, -1 ≤ r) : ∀ x ∈ wealth returns, 0 ≤ x :=
  wealthFrom_nonneg zero_le_one hreturns

theorem computeMaxDrawdown_range (hreturns : ∀ r ∈ returns, -1 ≤ r) :
    0 ≤ computeMaxDrawdown returns ∧ computeMaxDrawdown returns ≤ 1 := by
  rw [computeMaxDrawdown_eq]
  exact ⟨maxDrawdown_nonneg (wealth_nonneg hreturns), maxDrawdown_le_one (wealth_nonneg hreturns)⟩

/-- The path that begins with one has the deepest fall that is asked for. -/
theorem isGreatest_zero_cons (hreturns : ∀ r ∈ returns, -1 ≤ r) :
    IsGreatest {d | IsFall (1 :: wealth returns) d} (computeMaxDrawdown (0 :: returns)) := by
  rw [computeMaxDrawdown_eq, wealth_zero_cons]
  refine isGreatest_maxDrawdown ?_ ⟨1, List.mem_cons_self, zero_lt_one⟩
  exact List.forall_mem_cons.mpr ⟨zero_le_one, wealth_nonneg hreturns⟩

/-- The drawdown is the reported one exactly if no wealth is below one by more than some fall after
the first return: where it is `w`, the wealth comes down from some value to its `w`-fold or less. -/
theorem reportsDrawdown_iff (hreturns : ∀ r ∈ returns, -1 ≤ r) :
    ReportsDrawdown returns ↔
      ∀ w ∈ wealth returns, 1 ≤ w ∨ ∃ (i j : ℕ) (x y : K), i ≤ j ∧
        (wealth returns)[i]? = some x ∧ (wealth returns)[j]? = some y ∧ 0 < x ∧ y ≤ x * w := by
  have hmatch : ∀ w, (∃ d, IsFall (wealth returns) d ∧ (1 - w) / 1 ≤ d) ↔
      ∃ (i j : ℕ) (x y : K), i ≤ j ∧ (wealth returns)[i]? = some x ∧
        (wealth returns)[j]? = some y ∧ 0 < x ∧ y ≤ x * w := by
    intro w
    have hshare : ∀ {x y : K}, 0 < x → ((1 - w) / 1 ≤ (x - y) / x ↔ y ≤ x * w) := by
      intro x y hx
      rw [div_one, le_div_iff₀ hx]
      constructor <;> intro h <;> linarith
    constructor
    · rintro ⟨d, ⟨i, j, x, y, hij, hi, hj, hx, rfl⟩, hle⟩
      exact ⟨i, j, x, y, hij, hi, hj, hx, (hshare hx).mp hle⟩
    · rintro ⟨i, j, x, y, hij, hi, hj, hx, hle⟩
      exact ⟨(x - y) / x, ⟨i, j, x, y, hij, hi, hj, hx, rfl⟩, (hshare hx).mpr hle⟩
  -- a return of zero in front adds the wealth before the first return
  have hcons := maxDrawdown_cons_eq_iff zero_lt_one (wealth_nonneg hreturns)
  rw [← wealth_zero_cons, ← computeMaxDrawdown_eq, ← computeMaxDrawdown_eq] at hcons
  simp only [hmatch] at hcons
  rw [← hcons]
  constructor
  · exact fun h => h.zero
  · intro hzero
    have hrange := computeMaxDrawdown_range hreturns
    exact ⟨hzero ▸ isGreatest_zero_cons hreturns, hzero, hrange.1, hrange.2⟩

end Drawdown

/-- A gain, a loss that does not come down to the start, and a gain. -/
theorem reportsDrawdown_afterGain : ReportsDrawdown ([1 / 10, -1 / 20, 3 / 100] : List ℚ) := by
  rw [reportsDrawdown_iff (by decide +kernel)]
  have habove : ∀ w ∈ wealth ([1 / 10, -1 / 20, 3 / 100] : List ℚ), 1 ≤ w := by decide +kernel
  exact fun w hw => Or.inl (habove w hw)

/-- A first loss of a tenth is reported as no drawdown. -/
theorem first_loss_not_reported : ¬ ReportsDrawdown ([-1 / 10] : List ℚ) := by
  intro h
  exact absurd h.zero (by decide +kernel)

/-! ## The reports -/

section Sums

variable {R : Type} [Field R] [LinearOrder R] (num : Numerics R)

/-- Of trades that lose no more than what they are worth the drawdown is a percentage. -/
theorem maxDrawdownPct_dailyReport (trades : List TradeRecord) (startingCapital : ℚ)
    (htrades : ∀ t ∈ trades, -100 ≤ t.pnlPct) :
    0 ≤ (computeDailyReport num trades startingCapital).maxDrawdownPct ∧
      (computeDailyReport num trades startingCapital).maxDrawdownPct ≤ 100 := by
  have hreturns : ∀ r ∈ trades.map fun t => t.pnlPct / 100, -1 ≤ r := by
    intro r hr
    rcases List.mem_map.mp hr with ⟨t, ht, rfl⟩
    linarith [htrades t ht]
  have hrange := computeMaxDrawdown_range hreturns
  have hpct : (computeDailyReport num trades startingCapital).maxDrawdownPct =
      computeMaxDrawdown (trades.map fun t => t.pnlPct / 100) * 100 := rfl
  rw [hpct]
  constructor <;> linarith [hrange.1, hrange.2]

/-- The profit of a month is that of all the trades of its days. -/
theorem totalPnl_monthlyReport (days : List (List TradeRecord × ℚ)) :
    (computeMonthlyReport num (days.map fun day =>
      computeDailyReport num day.1 day.2)).totalPnl =
        ((days.flatMap Prod.fst).map TradeRecord.pnl).sum := by
  unfold computeMonthlyReport
  dsimp only
  induction days with
  | nil => rfl
  | cons day days ih =>
      rw [List.map_cons, List.map_cons, List.sum_cons, ih, List.flatMap_cons, List.map_append,
        List.sum_append]
      rfl

end Sums

end Intraday.Reporting
