import Intraday.Risk.ThreeFiveSeven

/-!
# Intraday.Risk.Budget — the risk budget and the minimum share

Sizing computes a budget, `capital` times the effective risk fraction, and buys at least
one share whatever the budget is. In `HIGH_VOL_CHAOS` the budget is zero, and still one
share is bought: the guards before sizing see the preliminary estimate, which is zero too,
and the cap after it allows 3% of capital.

`within_budget_iff` is the exact condition under which `evaluate` keeps to the budget.
-/

namespace Intraday.Risk

open Intraday.Core Intraday.Lib.Decimal

variable {entryPrice stopLoss : ℚ} {params : RiskParameters} {size : PositionSize}

/-! ## The budget -/

/-- The budget of the sizing method that `evaluate` chooses. -/
def riskBudget (params : RiskParameters) : ℚ :=
  (kellyBudgetOf params).getD (atrBudgetOf params)

theorem kellyBudgetOf_nonneg {budget : ℚ} (hcap : 0 < params.capital)
    (h : kellyBudgetOf params = some budget) : 0 ≤ budget := by
  rcases kellyBudgetOf_cases params with ⟨winRate, avgWl, hsome⟩ | hnone
  · rw [← Option.some.inj (hsome.symm.trans h)]
    have hr := (regimeRiskPct_mem params.regime).1
    have hs := snapshotMult_nonneg params.isSnapshotWindow
    simp only [kellyBudget, kellyFraction, riskPctBullTrend, div_one]
    positivity
  · rw [hnone] at h
    cases h

theorem riskBudget_nonneg (hcap : 0 < params.capital) : 0 ≤ riskBudget params := by
  rw [riskBudget]
  cases hk : kellyBudgetOf params with
  | none => exact atrBudgetOf_nonneg hcap
  | some budget => exact kellyBudgetOf_nonneg hcap hk

/-- No budget in chaos, under either method. -/
theorem riskBudget_chaos (h : params.regime.regime = .highVolChaos) : riskBudget params = 0 := by
  have hpct : regimeRiskPct params.regime = 0 := by
    rw [regimeRiskPct, h]
    rfl
  rw [riskBudget]
  rcases kellyBudgetOf_cases params with ⟨winRate, avgWl, hsome⟩ | hnone
  · rw [hsome]
    simp [kellyBudget, hpct]
  · rw [hnone]
    simp [atrBudgetOf, atrBudget, hpct]

/-- The shares bought fit the budget exactly when one share does. -/
theorem wholeShares_mul_le_iff {budget distance : ℚ} (hb : 0 ≤ budget) (hd : 0 ≤ distance) :
    wholeShares (budget / distance) * distance ≤ budget ↔ distance ≤ budget := by
  constructor
  · intro h
    have hone : (1 : ℚ) ≤ wholeShares (budget / distance) := by
      exact_mod_cast one_le_wholeShares _
    exact (le_mul_of_one_le_left hd hone).trans h
  · intro h
    rcases max_choice 1 ⌊budget / distance⌋ with hmax | hmax
    · rw [wholeShares, hmax]
      simpa using h
    · rw [wholeShares, hmax]
      exact floor_mul_le hb hd

/-- A budget below the price of one share buys the minimum. -/
theorem wholeShares_of_lt {budget distance : ℚ} (hb : 0 ≤ budget) (h : budget < distance) :
    wholeShares (budget / distance) = 1 := by
  have hfloor : ⌊budget / distance⌋ = 0 := by
    rw [Int.floor_eq_zero_iff]
    exact ⟨div_nonneg hb (hb.trans h.le), (div_lt_one (hb.trans_lt h)).mpr h⟩
  rw [wholeShares, hfloor]
  rfl

/-! ## When a trade is approved -/

/-- The arguments on which sizing raises no `ValueError`. -/
def SizingAccepts (entryPrice stopLoss : ℚ) (params : RiskParameters) : Prop :=
  entryPrice * (minStopDistancePct / 100) ≤ |entryPrice - stopLoss| ∧
    match params.useKelly, params.winRate, params.avgWinLossRatio with
    | true, some winRate, some avgWl => (0 < winRate ∧ winRate < 1) ∧ 0 < avgWl
    | _, _, _ => 0 < entryPrice

theorem computeAtrPositionSize_isOk_iff {capital basePct mult : ℚ} {snap : Bool} :
    (∃ size, computeAtrPositionSize capital entryPrice stopLoss basePct mult snap = .ok size) ↔
      entryPrice * (minStopDistancePct / 100) ≤ |entryPrice - stopLoss| ∧ 0 < entryPrice := by
  by_cases hentry : entryPrice ≤ 0
  · simp [computeAtrPositionSize, hentry, not_lt.mpr hentry]
  · by_cases hstop : |entryPrice - stopLoss| < entryPrice * (minStopDistancePct / 100)
    · simp [computeAtrPositionSize, hentry, hstop, not_le.mpr hstop]
    · simp [computeAtrPositionSize, hentry, hstop, not_lt.mp hstop, not_le.mp hentry]

theorem computeKellyPositionSize_isOk_iff {capital winRate avgWl mult : ℚ} {snap : Bool} :
    (∃ size, computeKellyPositionSize capital entryPrice stopLoss winRate avgWl mult snap =
      .ok size) ↔
      entryPrice * (minStopDistancePct / 100) ≤ |entryPrice - stopLoss| ∧
        (0 < winRate ∧ winRate < 1) ∧ 0 < avgWl := by
  by_cases hwin : 0 < winRate ∧ winRate < 1
  · by_cases hratio : avgWl ≤ 0
    · simp [computeKellyPositionSize, hwin, hratio, not_lt.mpr hratio]
    · by_cases hstop : |entryPrice - stopLoss| < entryPrice * (minStopDistancePct / 100)
      · simp [computeKellyPositionSize, hwin, hratio, hstop, not_le.mpr hstop]
      · simp [computeKellyPositionSize, hwin, hratio, hstop, not_lt.mp hstop, not_le.mp hratio]
  · simp [computeKellyPositionSize, hwin]

theorem computeSize_isOk_iff :
    (∃ size, computeSize entryPrice stopLoss params = .ok size) ↔
      SizingAccepts entryPrice stopLoss params := by
  rcases computeSize_cases entryPrice stopLoss params with
    ⟨winRate, avgWl, hk, hw, ha, heq⟩ | ⟨hatr, heq⟩
  · simp only [heq, SizingAccepts, hk, hw, ha]
    exact computeKellyPositionSize_isOk_iff
  · simp only [heq, SizingAccepts]
    rw [computeAtrPositionSize_isOk_iff]
    split
    · rename_i winRate avgWl hk hw ha
      rw [hk, hw, ha] at hatr
      simp at hatr
    · rfl

/-- Both methods report the risk of their quantity the same way. -/
theorem computeSize_riskPct (hcap : 0 < params.capital)
    (h : computeSize entryPrice stopLoss params = .ok size) :
    size.riskPct = roundTo 4 (size.quantity * |entryPrice - stopLoss| / params.capital * 100) := by
  rcases computeSize_ok h with ⟨method, mult, snap, rfl⟩
  simp only [positionSizeOf, if_pos hcap]

/-- The reported risk of the minimum. -/
theorem riskPct_of_one (hcap : 0 < params.capital)
    (hcomp : computeSize entryPrice stopLoss params = .ok size)
    (hone : wholeShares (riskBudget params / |entryPrice - stopLoss|) = 1) :
    size.riskPct = roundTo 4 (|entryPrice - stopLoss| / params.capital * 100) := by
  have hquantity : size.quantity = 1 := (computeSize_quantity hcomp).trans hone
  rw [computeSize_riskPct hcap hcomp, hquantity, Int.cast_one, one_mul]

/-! ## Keeping to the budget -/

/-- `evaluate` approves nothing in chaos, and no size whose risk exceeds the budget. -/
def KeepsToBudget (entryPrice stopLoss : ℚ) (params : RiskParameters) : Prop :=
  (params.regime.regime = .highVolChaos →
    (evaluate entryPrice stopLoss params).approved = false) ∧
  ∀ size, (evaluate entryPrice stopLoss params).approved = true →
    (evaluate entryPrice stopLoss params).positionSize = some size →
    size.quantity * |entryPrice - stopLoss| ≤ riskBudget params

/-- One share would be approved: the guards pass, sizing accepts the prices and the
statistics, and the rounded risk of one share is within the cap. -/
def OneShareAdmitted (entryPrice stopLoss : ℚ) (params : RiskParameters) : Prop :=
  GuardsPass params ∧ SizingAccepts entryPrice stopLoss params ∧
    roundTo 4 (|entryPrice - stopLoss| / params.capital * 100) ≤ maxSingleTradeLossPct

theorem capital_pos_of_guardsPass (h : GuardsPass params) : 0 < params.capital :=
  capital_pos_of_checkDailyLossLimit h.2.1

/-- Where the budget buys the minimum, a trade is approved exactly when one share is
admitted. -/
theorem approved_iff_of_one
    (hone : wholeShares (riskBudget params / |entryPrice - stopLoss|) = 1) :
    (evaluate entryPrice stopLoss params).approved = true ↔
      OneShareAdmitted entryPrice stopLoss params := by
  rw [evaluate_approved_iff]
  constructor
  · rintro ⟨hguards, size, hcomp, hcap, -⟩
    refine ⟨hguards, computeSize_isOk_iff.mp ⟨size, hcomp⟩, ?_⟩
    rwa [riskPct_of_one (capital_pos_of_guardsPass hguards) hcomp hone] at hcap
  · rintro ⟨hguards, haccepts, hcap⟩
    rcases computeSize_isOk_iff.mpr haccepts with ⟨size, hcomp⟩
    rw [← riskPct_of_one (capital_pos_of_guardsPass hguards) hcomp hone] at hcap
    rcases evaluate_of_guardsPass hguards with ⟨checks, heval⟩
    refine ⟨hguards, size, hcomp, hcap, ?_⟩
    rw [heval]
    exact (sizeAndCap_of_computed hcomp hcap).2

theorem one_of_chaos (h : params.regime.regime = .highVolChaos) :
    wholeShares (riskBudget params / |entryPrice - stopLoss|) = 1 := by
  rw [riskBudget_chaos h, zero_div, wholeShares, Int.floor_zero]
  rfl

/-- The risk of an approved size, against the budget. -/
theorem approved_risk_le_iff (happ : (evaluate entryPrice stopLoss params).approved = true)
    (hsize : (evaluate entryPrice stopLoss params).positionSize = some size) :
    size.quantity * |entryPrice - stopLoss| ≤ riskBudget params ↔
      |entryPrice - stopLoss| ≤ riskBudget params := by
  rcases evaluate_approved happ hsize with ⟨hguards, hcomp⟩
  have hbudget := riskBudget_nonneg (capital_pos_of_guardsPass hguards)
  rw [computeSize_quantity hcomp]
  exact wholeShares_mul_le_iff hbudget (abs_nonneg _)

/-- Exactly when `evaluate` keeps to the budget: the regime is not chaos and one share fits
the budget, or not even one share would be admitted. -/
theorem within_budget_iff (entryPrice stopLoss : ℚ) (params : RiskParameters) :
    KeepsToBudget entryPrice stopLoss params ↔
      (params.regime.regime ≠ .highVolChaos ∧ |entryPrice - stopLoss| ≤ riskBudget params) ∨
        ¬ OneShareAdmitted entryPrice stopLoss params := by
  by_cases hadm : OneShareAdmitted entryPrice stopLoss params
  · have hbudget := riskBudget_nonneg (capital_pos_of_guardsPass hadm.1)
    rw [or_iff_left (not_not.mpr hadm)]
    constructor
    · rintro ⟨hchaos, hfits⟩
      constructor
      · intro h
        have happ := (approved_iff_of_one (one_of_chaos h)).mpr hadm
        exact Bool.false_ne_true ((hchaos h).symm.trans happ)
      · -- a budget below one share still buys one
        by_contra hlt
        have hone := wholeShares_of_lt hbudget (not_le.mp hlt)
        have happ := (approved_iff_of_one hone).mpr hadm
        rcases evaluate_approved_iff.mp happ with ⟨-, size, -, -, hsize⟩
        exact hlt ((approved_risk_le_iff happ hsize).mp (hfits size happ hsize))
    · rintro ⟨hchaos, hfits⟩
      exact ⟨fun h => absurd h hchaos,
        fun size happ hsize => (approved_risk_le_iff happ hsize).mpr hfits⟩
  · rw [or_iff_right_of_imp fun _ => hadm]
    refine ⟨fun _ => hadm, fun _ => ⟨?_, ?_⟩⟩
    · intro h
      exact Bool.eq_false_iff.mpr fun happ =>
        hadm ((approved_iff_of_one (one_of_chaos h)).mp happ)
    · intro size happ hsize
      rw [approved_risk_le_iff happ hsize]
      by_contra hlt
      have hguards := (evaluate_approved happ hsize).1
      have hbudget := riskBudget_nonneg (capital_pos_of_guardsPass hguards)
      exact hadm ((approved_iff_of_one (wholeShares_of_lt hbudget (not_le.mp hlt))).mp happ)

/-- In chaos, a long at 100 with its stop at 98 is approved with one share. -/
theorem chaos_buys_one_share :
    ¬ ∀ (entryPrice stopLoss : ℚ) (params : RiskParameters),
      KeepsToBudget entryPrice stopLoss params := by
  intro h
  have hchaos := (h 100 98
    { capital := 100000, openPositions := [], dailyPnl := 0, dailyTradeCount := 0
      isSnapshotWindow := false, regime := ⟨.highVolChaos⟩ }).1 rfl
  revert hchaos
  decide +kernel

/-! ## The regime in the budget

The regime percentage reaches ATR sizing as the base percentage and, relative to that of
`BULL_TREND`, as the multiplier. -/

/-- The regime table of the specification: the percentage of capital that a trade risks. -/
def posturePct : MarketRegime → ℚ
  | .bullTrend => 1
  | .bearTrend => 3 / 4
  | .meanReverting => 1 / 2
  | .highVolChaos => 0

theorem regimeRiskPct_eq (regime : RegimeClassification) :
    regimeRiskPct regime = posturePct regime.regime := by
  rcases regime with ⟨regime⟩
  cases regime <;> rfl

/-- `evaluate` sizes by ATR and the sizing is accepted. -/
def AtrAccepted (entryPrice stopLoss : ℚ) (params : RiskParameters) : Prop :=
  GuardsPass params ∧ kellyBudgetOf params = none ∧ SizingAccepts entryPrice stopLoss params

/-- The budget behind the quantity is what the regime table prescribes, and what the 3-5-7 rule
was tested on. -/
def RegimeRiskOnce (entryPrice stopLoss : ℚ) (params : RiskParameters) : Prop :=
  ∀ size, AtrAccepted entryPrice stopLoss params →
    computeSize entryPrice stopLoss params = .ok size →
    size.quantity = wholeShares (atrBudgetOf params / |entryPrice - stopLoss|) ∧
    atrBudgetOf params = params.capital * (posturePct params.regime.regime / 100) *
      snapshotMult params.isSnapshotWindow ∧
    atrBudgetOf params = preliminaryRisk params

theorem snapshotMult_pos (b : Bool) : 0 < snapshotMult b := by
  cases b <;> norm_num [snapshotMult, snapshotWindowSizeMultiplier]

/-- The budget has the regime percentage squared, so it is the estimate for 0% and 1% only. -/
theorem atrBudgetOf_eq_iff (hcap : 0 < params.capital) :
    atrBudgetOf params = preliminaryRisk params ↔
      params.regime.regime = .bullTrend ∨ params.regime.regime = .highVolChaos := by
  have hscale : 0 < params.capital * snapshotMult params.isSnapshotWindow / 100 := by
    have hs := snapshotMult_pos params.isSnapshotWindow
    positivity
  have hbudget : atrBudgetOf params = params.capital * snapshotMult params.isSnapshotWindow / 100 *
      (posturePct params.regime.regime * posturePct params.regime.regime) := by
    simp only [atrBudgetOf, atrBudget, regimeRiskPct_eq, riskPctBullTrend]
    ring
  have hestimate : preliminaryRisk params =
      params.capital * snapshotMult params.isSnapshotWindow / 100 *
        posturePct params.regime.regime := by
    simp only [preliminaryRisk, regimeRiskPct_eq]
    ring
  rw [hbudget, hestimate, mul_right_inj' hscale.ne']
  cases params.regime.regime with
  | bullTrend => simp [posturePct]
  | highVolChaos => simp [posturePct]
  | bearTrend => exact iff_of_false (by norm_num [posturePct]) (by decide)
  | meanReverting => exact iff_of_false (by norm_num [posturePct]) (by decide)

/-- Exactly when the regime risk is applied once: the percentage is its own square, or no ATR
sizing is accepted. -/
theorem regime_risk_once_iff (entryPrice stopLoss : ℚ) (params : RiskParameters) :
    RegimeRiskOnce entryPrice stopLoss params ↔
      (params.regime.regime = .bullTrend ∨ params.regime.regime = .highVolChaos) ∨
        ¬ AtrAccepted entryPrice stopLoss params := by
  constructor
  · intro h
    by_contra hnot
    rw [not_or, not_not] at hnot
    rcases hnot with ⟨hregime, hatr⟩
    rcases computeSize_isOk_iff.mpr hatr.2.2 with ⟨size, hcomp⟩
    have hbudget := (h size hatr hcomp).2.2
    exact hregime ((atrBudgetOf_eq_iff (capital_pos_of_guardsPass hatr.1)).mp hbudget)
  · intro h size hatr hcomp
    have hregime := h.resolve_right (not_not.mpr hatr)
    have hbudget := (atrBudgetOf_eq_iff (capital_pos_of_guardsPass hatr.1)).mpr hregime
    refine ⟨?_, ?_, hbudget⟩
    · rw [computeSize_quantity hcomp, hatr.2.1, Option.getD_none]
    · rw [hbudget, preliminaryRisk, regimeRiskPct_eq]

/-- In a bear trend the budget is 0.5625% of capital and not 0.75%. -/
theorem bear_risk_squared :
    ¬ ∀ (entryPrice stopLoss : ℚ) (params : RiskParameters),
      RegimeRiskOnce entryPrice stopLoss params := by
  intro h
  have hbear := h 100 98
    { capital := 100000, openPositions := [], dailyPnl := 0, dailyTradeCount := 0
      isSnapshotWindow := false, regime := ⟨.bearTrend⟩ }
    (positionSizeOf 100000 100 2 281 "ATR_FIXED_RISK" (3 / 4) 1)
    ⟨⟨by decide +kernel, by decide +kernel, by decide +kernel, by decide +kernel,
      by decide +kernel⟩, rfl, by decide +kernel, by decide +kernel⟩ (by decide +kernel)
  revert hbear
  decide +kernel

end Intraday.Risk
