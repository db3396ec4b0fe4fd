import Mathlib.Algebra.BigOperators.Group.List.Basic
import Mathlib.Algebra.Order.Ring.Rat
import Intraday.Lib.Decimal
import Intraday.Risk.Models

/-!
# Intraday.Risk.Guards — `circuit_breaker.py` and `correlation.py`

The guards that run before sizing: the halted flag, the daily loss limit, the
daily trade count and the correlation guard. Each returns one `RiskCheck`.
-/

namespace Intraday.Risk

open Intraday.Core Intraday.Lib.Decimal

/-! ## Circuit breaker -/

/-- `check_halted_flag`. -/
def checkHaltedFlag (halted : Bool) : RiskCheck :=
  if halted then
    { name := "SYSTEM_HALTED", passed := false
      detail := "system:status:halted=true — all new entries blocked" }
  else
    { name := "SYSTEM_HALTED", passed := true, detail := "System not halted" }

/-- `check_daily_loss_limit`. -/
def checkDailyLossLimit (dailyPnl capital : ℚ) : RiskCheck :=
  if capital ≤ 0 then
    { name := "CIRCUIT_BREAKER", passed := false
      detail := "Invalid capital value: " ++ fmtFloat capital }
  else
    let pnlPct := dailyPnl / capital * 100
    if pnlPct ≤ dailyLossLimitPct then
      { name := "CIRCUIT_BREAKER", passed := false
        detail := "Daily P&L " ++ fmtFixed 2 pnlPct ++ "% ≤ circuit-breaker limit " ++
          fmtFloat dailyLossLimitPct ++ "% — Kill Switch must be triggered" }
    else
      { name := "CIRCUIT_BREAKER", passed := true
        detail := "Daily P&L " ++ fmtFixed 2 pnlPct ++ "% within limit " ++
          fmtFloat dailyLossLimitPct ++ "%" }

/-- `check_daily_trade_count`. -/
def checkDailyTradeCount (dailyTradeCount : ℤ) : RiskCheck :=
  if maxDailyTrades ≤ dailyTradeCount then
    { name := "DAILY_TRADE_LIMIT", passed := false
      detail := "Daily trade count " ++ toString dailyTradeCount ++ " ≥ limit " ++
        toString maxDailyTrades }
  else
    { name := "DAILY_TRADE_LIMIT", passed := true
      detail := "Daily trade count " ++ toString dailyTradeCount ++ "/" ++
        toString maxDailyTrades }

/-- A passed loss limit has seen a positive capital. -/
theorem capital_pos_of_checkDailyLossLimit {pnl capital : ℚ}
    (h : (checkDailyLossLimit pnl capital).passed = true) : 0 < capital := by
  by_contra hc
  rw [checkDailyLossLimit, if_pos (not_lt.mp hc)] at h
  simp at h

/-! ## Correlation guard

The Pearson coefficient is `cov / √var`, kept as the pair so that comparing its
size with a rational threshold stays exact. -/

/-- A correlation coefficient `cov / √var`. -/
structure Pearson where
  cov : ℚ
  var : ℚ
deriving DecidableEq, Repr

/-- The coefficient `0.0`. -/
def Pearson.zero : Pearson := { cov := 0, var := 1 }

/-- `abs(corr) > bound`. -/
def Pearson.absGt (p : Pearson) (bound : ℚ) : Bool :=
  decide (bound < 0) || decide (bound ^ 2 * p.var < p.cov ^ 2)

/-- `f"{corr:.3f}"`. -/
def Pearson.fmt (p : Pearson) : String :=
  (if p.cov < 0 then "-" else "") ++ fmtSqrt 3 (p.cov ^ 2 / p.var)

/-- `xs[-n:]` for `n ≤ len(xs)`. -/
def lastN (n : ℕ) (xs : List ℚ) : List ℚ := xs.drop (xs.length - n)

/-- Deviations from the mean. -/
def deviations (xs : List ℚ) : List ℚ := xs.map (· - xs.sum / xs.length)

/-- Sum of products, position by position. -/
def dot (xs ys : List ℚ) : ℚ := (List.zipWith (· * ·) xs ys).sum

/-- `pearson_correlation`. -/
def pearsonCorrelation (returnsA returnsB : List ℚ) : Pearson :=
  let n := min (min returnsA.length returnsB.length) correlationLookbackDays
  if n < 2 then .zero
  else
    let a := deviations (lastN n returnsA)
    let b := deviations (lastN n returnsB)
    -- `np.std(x) == 0` exactly when the squared deviations sum to zero
    if dot a a = 0 ∨ dot b b = 0 then .zero
    else { cov := dot a b, var := dot a a * dot b b }

/-- The loop of `check_correlation_guard`: the first breaching position. -/
def firstCorrelated (proposedReturns : List ℚ) (maxCorrelation : ℚ) :
    List OpenPosition → Option (OpenPosition × Pearson)
  | [] => none
  | pos :: rest =>
      let corr := pearsonCorrelation proposedReturns pos.returns
      if corr.absGt maxCorrelation then some (pos, corr)
      else firstCorrelated proposedReturns maxCorrelation rest

/-- `check_correlation_guard`. -/
def checkCorrelationGuard (proposedReturns : List ℚ) (openPositions : List OpenPosition)
    (maxCorrelation : ℚ := maxPositionCorrelation) : RiskCheck :=
  if openPositions = [] then
    { name := "CORRELATION_GUARD", passed := true
      detail := "No open positions — correlation guard skipped" }
  else if proposedReturns.length < 2 then
    { name := "CORRELATION_GUARD", passed := true
      detail := "Insufficient return history for proposed symbol " ++
        "(< 2 points) — correlation guard skipped" }
  else
    match firstCorrelated proposedReturns maxCorrelation openPositions with
    | some (pos, corr) =>
        { name := "CORRELATION_GUARD", passed := false
          detail := "Correlation with open position " ++ pos.symbol ++ " = " ++ corr.fmt ++
            " exceeds threshold ±" ++ fmtFloat maxCorrelation }
    | none =>
        { name := "CORRELATION_GUARD", passed := true
          detail := "All open-position correlations within ±" ++ fmtFloat maxCorrelation ++
            " (" ++ toString openPositions.length ++ " checked)" }

end Intraday.Risk
