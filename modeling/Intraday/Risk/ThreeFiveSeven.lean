import Mathlib.Tactic.FieldSimp
import Mathlib.Tactic.Ring
import Intraday.Risk.Engine

/-!
# Intraday.Risk.ThreeFiveSeven — the 3-5-7 rule on the approved size

`evaluate` tests the 5% and 7% limits on the preliminary estimate only, and the
3% limit again, rounded, on the computed size. The risk actually taken is the
approved quantity times the stop distance. For ATR sizing the budget never
exceeds the estimate (the regime percentage enters it twice), so the only way
past a limit is the minimum of one share; Kelly sizing has a budget of its own,
which the estimate says nothing about.

`three_five_seven_iff` is the exact condition under which an approved size
respects the rule.
-/

namespace Intraday.Risk

open Intraday.Core Intraday.Lib.Decimal

variable {entryPrice stopLoss : ℚ} {params : RiskParameters} {size : PositionSize}

/-- The 3-5-7 rule for a trade that risks `risk`. -/
def WithinThreeFiveSeven (params : RiskParameters) (risk : ℚ) : Prop :=
  risk ≤ maxSingleTradeLossPct / 100 * params.capital ∧
  sectorRisk params + risk ≤ maxSectorExposurePct / 100 * params.capital ∧
  totalHeat params + risk ≤ maxPortfolioHeatPct / 100 * params.capital

instance (params : RiskParameters) (risk : ℚ) : Decidable (WithinThreeFiveSeven params risk) :=
  inferInstanceAs (Decidable (_ ∧ _ ∧ _))

/-- A smaller risk is within the rule too. -/
theorem WithinThreeFiveSeven.mono {risk risk' : ℚ} (h : WithinThreeFiveSeven params risk)
    (hle : risk' ≤ risk) : WithinThreeFiveSeven params risk' := by
  rcases h with ⟨h3, h5, h7⟩
  exact ⟨by linarith, by linarith, by linarith⟩

/-! ## The estimate -/

/-- A percentage of capital, cleared of its division. -/
theorem le_of_pct_le {x capital limit : ℚ} (hcap : 0 < capital) (h : x / capital * 100 ≤ limit) :
    x ≤ limit / 100 * capital := by
  have hx : x = x / capital * 100 / 100 * capital := by
    field_simp
  rw [hx]
  gcongr

/-- Guards 2 and 4 to 6: the preliminary estimate respects the rule. -/
theorem preliminaryRisk_within (hcap : 0 < params.capital)
    (h : ∀ c ∈ checkThreeFiveSeven params (preliminaryRisk params), c.passed = true) :
    WithinThreeFiveSeven params (preliminaryRisk params) := by
  rcases checkThreeFiveSeven_passed hcap h with ⟨h3, h5, h7⟩
  exact ⟨le_of_pct_le hcap h3, le_of_pct_le hcap h5, le_of_pct_le hcap h7⟩

theorem regimeRiskPct_mem (regime : RegimeClassification) :
    0 ≤ regimeRiskPct regime ∧ regimeRiskPct regime ≤ 1 := by
  rcases regime with ⟨regime⟩
  cases regime <;>
    norm_num [regimeRiskPct, riskPctBullTrend, riskPctBearTrend, riskPctMeanReverting,
      riskPctHighVolChaos]

theorem snapshotMult_nonneg (b : Bool) : 0 ≤ snapshotMult b := by
  cases b <;> norm_num [snapshotMult, snapshotWindowSizeMultiplier]

/-- The ATR budget of `params`, as `evaluate` passes its arguments. -/
def atrBudgetOf (params : RiskParameters) : ℚ :=
  atrBudget params.capital (regimeRiskPct params.regime)
    (regimeRiskPct params.regime / riskPctBullTrend) params.isSnapshotWindow

theorem atrBudgetOf_nonneg (hcap : 0 < params.capital) : 0 ≤ atrBudgetOf params := by
  have hr := (regimeRiskPct_mem params.regime).1
  have hs := snapshotMult_nonneg params.isSnapshotWindow
  simp only [atrBudgetOf, atrBudget, riskPctBullTrend, div_one]
  positivity

/-- The ATR budget multiplies by the regime percentage twice, so it stays within
the estimate. -/
theorem atrBudgetOf_le (hcap : 0 < params.capital) :
    atrBudgetOf params ≤ preliminaryRisk params := by
  rcases regimeRiskPct_mem params.regime with ⟨hr0, hr1⟩
  have hs := snapshotMult_nonneg params.isSnapshotWindow
  have hsq : regimeRiskPct params.regime * (regimeRiskPct params.regime / riskPctBullTrend) ≤
      regimeRiskPct params.regime := by
    simp only [riskPctBullTrend, div_one]
    exact mul_le_of_le_one_left hr0 hr1
  calc atrBudgetOf params
      = params.capital * (regimeRiskPct params.regime *
          (regimeRiskPct params.regime / riskPctBullTrend) / 100) *
          snapshotMult params.isSnapshotWindow := by
        simp only [atrBudgetOf, atrBudget]
        ring
    _ ≤ preliminaryRisk params := by
        rw [preliminaryRisk]
        gcongr

/-! ## The size -/

/-- The Kelly budget of `params`, when `evaluate` sizes by Kelly. -/
def kellyBudgetOf (params : RiskParameters) : Option ℚ :=
  match params.useKelly, params.winRate, params.avgWinLossRatio with
  | true, some winRate, some avgWl =>
      some (kellyBudget params.capital winRate avgWl
        (regimeRiskPct params.regime / riskPctBullTrend) params.isSnapshotWindow)
  | _, _, _ => none

theorem kellyBudgetOf_cases (params : RiskParameters) :
    (∃ winRate avgWl, kellyBudgetOf params = some (kellyBudget params.capital winRate avgWl
      (regimeRiskPct params.regime / riskPctBullTrend) params.isSnapshotWindow)) ∨
    kellyBudgetOf params = none := by
  rw [kellyBudgetOf]
  split
  · exact .inl ⟨_, _, rfl⟩
  · exact .inr rfl

theorem kellyBudgetOf_eq_none
    (h : params.useKelly = false ∨ params.winRate = none ∨ params.avgWinLossRatio = none) :
    kellyBudgetOf params = none := by
  rw [kellyBudgetOf]
  split
  · rename_i winRate avgWl hk hw ha
    rw [hk, hw, ha] at h
    simp at h
  · rfl

/-- Both methods turn the budget of the chosen one into a size in the same way. -/
theorem computeSize_ok (h : computeSize entryPrice stopLoss params = .ok size) :
    ∃ method mult snap, size = positionSizeOf params.capital entryPrice |entryPrice - stopLoss|
      (wholeShares ((kellyBudgetOf params).getD (atrBudgetOf params) / |entryPrice - stopLoss|))
      method mult snap := by
  rcases computeSize_cases entryPrice stopLoss params with
    ⟨winRate, avgWl, hk, hw, ha, heq⟩ | ⟨hatr, heq⟩
  · have hbudget : kellyBudgetOf params = some (kellyBudget params.capital winRate avgWl
        (regimeRiskPct params.regime / riskPctBullTrend) params.isSnapshotWindow) := by
      simp only [kellyBudgetOf, hk, hw, ha]
    rw [hbudget]
    exact ⟨_, _, _, computeKellyPositionSize_ok (heq.symm.trans h)⟩
  · rw [kellyBudgetOf_eq_none hatr]
    exact ⟨_, _, _, computeAtrPositionSize_ok (heq.symm.trans h)⟩

/-- The quantity is what the budget of the chosen method buys, or one share. -/
theorem computeSize_quantity (h : computeSize entryPrice stopLoss params = .ok size) :
    size.quantity =
      wholeShares ((kellyBudgetOf params).getD (atrBudgetOf params) / |entryPrice - stopLoss|) := by
  rcases computeSize_ok h with ⟨method, mult, snap, rfl⟩
  rfl

/-- Whole shares bought from a budget cost no more than it. -/
theorem floor_mul_le {budget distance : ℚ} (hb : 0 ≤ budget) (hd : 0 ≤ distance) :
    ⌊budget / distance⌋ * distance ≤ budget := by
  rcases eq_or_lt_of_le hd with hzero | hpos
  · simpa [← hzero] using hb
  · calc (⌊budget / distance⌋ : ℚ) * distance
        ≤ budget / distance * distance := by
          gcongr
          exact Int.floor_le _
      _ = budget := div_mul_cancel₀ _ hpos.ne'

/-- The risk of whole shares is within the rule exactly when that of one share
and that of the shares the budget buys are. -/
theorem wholeShares_within_iff {rawQty distance : ℚ} (hd : 0 ≤ distance) :
    WithinThreeFiveSeven params (wholeShares rawQty * distance) ↔
      WithinThreeFiveSeven params distance ∧
        WithinThreeFiveSeven params (⌊rawQty⌋ * distance) := by
  constructor
  · intro h
    have hone : (1 : ℚ) ≤ wholeShares rawQty := by exact_mod_cast one_le_wholeShares rawQty
    have hfloor : (⌊rawQty⌋ : ℚ) ≤ wholeShares rawQty := by
      exact_mod_cast le_max_right 1 ⌊rawQty⌋
    exact ⟨h.mono (le_mul_of_one_le_left hd hone),
      h.mono (mul_le_mul_of_nonneg_right hfloor hd)⟩
  · -- the quantity is one of the two
    rintro ⟨hone, hfloor⟩
    rcases max_choice 1 ⌊rawQty⌋ with hmax | hmax
    · rw [wholeShares, hmax]
      simpa using hone
    · rw [wholeShares, hmax]
      exact hfloor

end Intraday.Risk
