import Intraday.Risk.Sizing

/-!
# Intraday.Risk.Engine — `shared/risk/engine.py`

`evaluate` runs the guards in their fixed order and stops at the first that
fails: halted flag, circuit breaker, trade count, the 3-5-7 rule on a preliminary
estimate, correlation, sizing, and the per-trade cap on the computed size.
-/

namespace Intraday.Risk

open Intraday.Core Intraday.Lib.Decimal

/-- `_regime_risk_pct`. -/
def regimeRiskPct (regime : RegimeClassification) : ℚ :=
  match regime.regime with
  | .bullTrend => riskPctBullTrend
  | .bearTrend => riskPctBearTrend
  | .meanReverting => riskPctMeanReverting
  | .highVolChaos => riskPctHighVolChaos

/-- One rule of the 3-5-7 check: `pct` against its limit, with its message. -/
def limitCheck (name subject : String) (pct limit : ℚ) : RiskCheck :=
  { name := name
    passed := decide (pct ≤ limit)
    detail := subject ++ fmtFixed 2 pct ++ "% " ++
      (if pct ≤ limit then "≤ limit " ++ fmtFloat limit ++ "%"
        else "exceeds limit " ++ fmtFloat limit ++ "%") }

/-- Open risk in the proposed sector. -/
def sectorRisk (params : RiskParameters) : ℚ :=
  ((params.openPositions.filter fun p => p.sector == params.proposedSector).map
    (·.riskAmount)).sum

/-- Open risk of the whole portfolio. -/
def totalHeat (params : RiskParameters) : ℚ := (params.openPositions.map (·.riskAmount)).sum

/-- `_check_three_five_seven`. -/
def checkThreeFiveSeven (params : RiskParameters) (proposedRiskAmount : ℚ) : List RiskCheck :=
  let capital := params.capital
  if capital ≤ 0 then
    [{ name := "THREE_FIVE_SEVEN", passed := false, detail := "Capital is zero or negative" }]
  else
    let proposedPct := proposedRiskAmount / capital * 100
    let perTradeCheck :=
      limitCheck "MAX_PER_TRADE_RISK" "Proposed risk " proposedPct maxSingleTradeLossPct
    if !perTradeCheck.passed then [perTradeCheck]
    else
      let sectorTotalPct := (sectorRisk params + proposedRiskAmount) / capital * 100
      let sectorCheck :=
        limitCheck "MAX_SECTOR_RISK" ("Sector '" ++ params.proposedSector ++ "' total risk ")
          sectorTotalPct maxSectorExposurePct
      if !sectorCheck.passed then [perTradeCheck, sectorCheck]
      else
        let heatPct := (totalHeat params + proposedRiskAmount) / capital * 100
        let heatCheck :=
          limitCheck "MAX_PORTFOLIO_HEAT" "Portfolio heat " heatPct maxPortfolioHeatPct
        [perTradeCheck, sectorCheck, heatCheck]

/-- `preliminary_risk`: the estimate the 3-5-7 rule is tested on. -/
def preliminaryRisk (params : RiskParameters) : ℚ :=
  params.capital * (regimeRiskPct params.regime / 100) * snapshotMult params.isSnapshotWindow

/-- The sizing branch of `evaluate`: Kelly only when it is switched on and both of
its statistics are given. -/
def computeSize (entryPrice stopLoss : ℚ) (params : RiskParameters) :
    Except String PositionSize :=
  let regimePct := regimeRiskPct params.regime
  let regimeMultiplier := regimePct / riskPctBullTrend
  match params.useKelly, params.winRate, params.avgWinLossRatio with
  | true, some winRate, some avgWl =>
      computeKellyPositionSize params.capital entryPrice stopLoss winRate avgWl
        regimeMultiplier params.isSnapshotWindow
  | _, _, _ =>
      computeAtrPositionSize params.capital entryPrice stopLoss regimePct
        regimeMultiplier params.isSnapshotWindow

/-- Kelly is used if it is asked for and both statistics are given, and ATR otherwise. -/
theorem computeSize_cases (entryPrice stopLoss : ℚ) (params : RiskParameters) :
    (∃ winRate avgWl, params.useKelly = true ∧ params.winRate = some winRate ∧
      params.avgWinLossRatio = some avgWl ∧
      computeSize entryPrice stopLoss params =
        computeKellyPositionSize params.capital entryPrice stopLoss winRate avgWl
          (regimeRiskPct params.regime / riskPctBullTrend) params.isSnapshotWindow) ∨
    ((params.useKelly = false ∨ params.winRate = none ∨ params.avgWinLossRatio = none) ∧
      computeSize entryPrice stopLoss params =
        computeAtrPositionSize params.capital entryPrice stopLoss (regimeRiskPct params.regime)
          (regimeRiskPct params.regime / riskPctBullTrend) params.isSnapshotWindow) := by
  cases hk : params.useKelly with
  | false => exact .inr ⟨.inl rfl, by simp only [computeSize, hk]⟩
  | true =>
  cases hw : params.winRate with
  | none => exact .inr ⟨.inr (.inl rfl), by simp only [computeSize, hk, hw]⟩
  | some winRate =>
  cases ha : params.avgWinLossRatio with
  | none => exact .inr ⟨.inr (.inr rfl), by simp only [computeSize, hk, hw, ha]⟩
  | some avgWl => exact .inl ⟨winRate, avgWl, rfl, rfl, rfl, by simp only [computeSize, hk, hw, ha]⟩

/-- `_reject`. -/
def reject (checks : List RiskCheck) (reason : String) : RiskDecision :=
  { approved := false, positionSize := none, rejectionReason := some reason, checks := checks }

/-- Steps 8 and 9 of `evaluate`: the size, and the per-trade cap on its risk. -/
def sizeAndCap (checks : List RiskCheck) (entryPrice stopLoss : ℚ) (params : RiskParameters) :
    RiskDecision :=
  match computeSize entryPrice stopLoss params with
  | .error exc =>
      reject (checks ++ [{ name := "SIZING", passed := false, detail := exc }]) exc
  | .ok size =>
      let sizingOk : RiskCheck :=
        { name := "SIZING", passed := true
          detail := "qty=" ++ toString size.quantity ++ " notional=" ++
            fmtFixed 2 size.notionalValue ++ " risk=" ++ fmtFixed 3 size.riskPct ++
            "% method=" ++ size.sizingMethod }
      let checks := checks ++ [sizingOk]
      if maxSingleTradeLossPct < size.riskPct then
        let finalCheck : RiskCheck :=
          { name := "FINAL_PER_TRADE_CAP", passed := false
            detail := "Computed risk " ++ fmtFixed 3 size.riskPct ++ "% exceeds " ++
              fmtFloat maxSingleTradeLossPct ++ "% per-trade cap after sizing" }
        reject (checks ++ [finalCheck]) finalCheck.detail
      else
        let finalCheck : RiskCheck :=
          { name := "FINAL_PER_TRADE_CAP", passed := true
            detail := "Computed risk " ++ fmtFixed 3 size.riskPct ++ "% within cap" }
        { approved := true, positionSize := some size, rejectionReason := none
          checks := checks ++ [finalCheck] }

/-- `RiskEngine.evaluate`. -/
def evaluate (entryPrice stopLoss : ℚ) (params : RiskParameters) : RiskDecision :=
  -- 1. System halted flag
  let haltedCheck := checkHaltedFlag params.halted
  let checks := [haltedCheck]
  if !haltedCheck.passed then reject checks haltedCheck.detail else
  -- 2. Circuit breaker
  let cbCheck := checkDailyLossLimit params.dailyPnl params.capital
  let checks := checks ++ [cbCheck]
  if !cbCheck.passed then reject checks cbCheck.detail else
  -- 3. Daily trade count
  let tcCheck := checkDailyTradeCount params.dailyTradeCount
  let checks := checks ++ [tcCheck]
  if !tcCheck.passed then reject checks tcCheck.detail else
  -- 4-6. 3-5-7 rule on the preliminary estimate
  let threeFiveSeven := checkThreeFiveSeven params (preliminaryRisk params)
  let checks := checks ++ threeFiveSeven
  match threeFiveSeven.find? (!·.passed) with
  | some check => reject checks check.detail
  | none =>
      -- 7. Correlation guard
      let corrCheck := checkCorrelationGuard params.proposedReturns params.openPositions
      let checks := checks ++ [corrCheck]
      if !corrCheck.passed then reject checks corrCheck.detail
      else sizeAndCap checks entryPrice stopLoss params

/-! ## What an approval says -/

variable {entryPrice stopLoss : ℚ} {params : RiskParameters} {size : PositionSize}

@[simp] theorem reject_approved (checks : List RiskCheck) (reason : String) :
    (reject checks reason).approved = false := rfl

/-- The guards before sizing, all passed. -/
def GuardsPass (params : RiskParameters) : Prop :=
  (checkHaltedFlag params.halted).passed = true ∧
    (checkDailyLossLimit params.dailyPnl params.capital).passed = true ∧
    (checkDailyTradeCount params.dailyTradeCount).passed = true ∧
    (∀ c ∈ checkThreeFiveSeven params (preliminaryRisk params), c.passed = true) ∧
    (checkCorrelationGuard params.proposedReturns params.openPositions).passed = true

/-- Every guard that fails rejects. -/
theorem guardsPass_of_approved (happ : (evaluate entryPrice stopLoss params).approved = true) :
    GuardsPass params := by
  cases hhalt : (checkHaltedFlag params.halted).passed with
  | false => simp [evaluate, hhalt] at happ
  | true =>
  cases hcb : (checkDailyLossLimit params.dailyPnl params.capital).passed with
  | false => simp [evaluate, hhalt, hcb] at happ
  | true =>
  cases htc : (checkDailyTradeCount params.dailyTradeCount).passed with
  | false => simp [evaluate, hhalt, hcb, htc] at happ
  | true =>
  cases h357 : (checkThreeFiveSeven params (preliminaryRisk params)).find? (!·.passed) with
  | some c => simp [evaluate, hhalt, hcb, htc, h357] at happ
  | none =>
  cases hcorr : (checkCorrelationGuard params.proposedReturns params.openPositions).passed with
  | false => simp [evaluate, hhalt, hcb, htc, h357, hcorr] at happ
  | true =>
  have hall : ∀ c ∈ checkThreeFiveSeven params (preliminaryRisk params), c.passed = true := by
    simpa using h357
  exact ⟨hhalt, hcb, htc, hall, hcorr⟩

/-- Past the guards, `evaluate` is its sizing step. -/
theorem evaluate_of_guardsPass (h : GuardsPass params) :
    ∃ checks, evaluate entryPrice stopLoss params =
      sizeAndCap checks entryPrice stopLoss params := by
  rcases h with ⟨hhalt, hcb, htc, h357, hcorr⟩
  have hnone : (checkThreeFiveSeven params (preliminaryRisk params)).find? (!·.passed) = none := by
    simpa using h357
  simp only [evaluate, hhalt, hcb, htc, hnone, hcorr, Bool.not_true, Bool.false_eq_true, if_false]
  exact ⟨_, rfl⟩

/-- An approved size is the computed one, and its rounded risk is within the cap. -/
theorem sizeAndCap_approved {checks : List RiskCheck}
    (happ : (sizeAndCap checks entryPrice stopLoss params).approved = true) :
    ∃ size, computeSize entryPrice stopLoss params = .ok size ∧
      size.riskPct ≤ maxSingleTradeLossPct := by
  cases hc : computeSize entryPrice stopLoss params with
  | error exc => simp [sizeAndCap, hc] at happ
  | ok computed =>
      by_cases hcap : maxSingleTradeLossPct < computed.riskPct
      · simp [sizeAndCap, hc, hcap] at happ
      · exact ⟨computed, rfl, not_lt.mp hcap⟩

theorem sizeAndCap_of_computed {checks : List RiskCheck}
    (hcomp : computeSize entryPrice stopLoss params = .ok size)
    (hcap : size.riskPct ≤ maxSingleTradeLossPct) :
    (sizeAndCap checks entryPrice stopLoss params).approved = true ∧
      (sizeAndCap checks entryPrice stopLoss params).positionSize = some size := by
  simp [sizeAndCap, hcomp, not_lt.mpr hcap]

/-- Exactly when `evaluate` approves, and with which size. -/
theorem evaluate_approved_iff :
    (evaluate entryPrice stopLoss params).approved = true ↔
      GuardsPass params ∧ ∃ size, computeSize entryPrice stopLoss params = .ok size ∧
        size.riskPct ≤ maxSingleTradeLossPct ∧
        (evaluate entryPrice stopLoss params).positionSize = some size := by
  constructor
  · intro happ
    have hguards := guardsPass_of_approved happ
    rcases evaluate_of_guardsPass hguards with ⟨checks, heval⟩
    rw [heval] at happ ⊢
    rcases sizeAndCap_approved happ with ⟨size, hcomp, hcap⟩
    exact ⟨hguards, size, hcomp, hcap, (sizeAndCap_of_computed hcomp hcap).2⟩
  · rintro ⟨hguards, size, hcomp, hcap, -⟩
    rcases evaluate_of_guardsPass hguards with ⟨checks, heval⟩
    rw [heval]
    exact (sizeAndCap_of_computed hcomp hcap).1

/-- Everything `evaluate` has found when it approves a size. -/
theorem evaluate_approved (happ : (evaluate entryPrice stopLoss params).approved = true)
    (hsize : (evaluate entryPrice stopLoss params).positionSize = some size) :
    GuardsPass params ∧ computeSize entryPrice stopLoss params = .ok size := by
  rcases evaluate_approved_iff.mp happ with ⟨hguards, computed, hcomp, -, hsize'⟩
  obtain rfl := Option.some.inj (hsize.symm.trans hsize')
  exact ⟨hguards, hcomp⟩

/-- The 3-5-7 checks that all passed, as inequalities. -/
theorem checkThreeFiveSeven_passed {risk : ℚ} (hcap : 0 < params.capital)
    (h : ∀ c ∈ checkThreeFiveSeven params risk, c.passed = true) :
    risk / params.capital * 100 ≤ maxSingleTradeLossPct ∧
    (sectorRisk params + risk) / params.capital * 100 ≤ maxSectorExposurePct ∧
    (totalHeat params + risk) / params.capital * 100 ≤ maxPortfolioHeatPct := by
  rw [checkThreeFiveSeven, if_neg (not_le.mpr hcap)] at h
  by_cases h3 : risk / params.capital * 100 ≤ maxSingleTradeLossPct
  · by_cases h5 : (sectorRisk params + risk) / params.capital * 100 ≤ maxSectorExposurePct
    · simp only [limitCheck, h3, h5, decide_true, Bool.not_true, Bool.false_eq_true, if_false,
        List.forall_mem_cons, decide_eq_true_eq] at h
      exact ⟨h3, h5, h.2.2.1⟩
    · simp [limitCheck, h3, h5] at h
  · simp [limitCheck, h3] at h

end Intraday.Risk
