import Intraday.Lib.Raise
import Intraday.Risk.Budget

/-!
# Intraday.Risk.Audit — the audit trail of a risk decision

`Raising` runs `evaluate` with the divisions of Python, which raise on a zero divisor, and
`Raising.evaluate_eq` says that none is reached: every division stands behind a guard on its
divisor. The rest is about the checks a decision carries, which are those of the fixed guard
order up to the first that failed.

ATR sizing rejects an entry price that is not positive; Kelly sizing has no such check.
`audited_iff` is the exact condition under which a decision keeps all that it should.
-/

namespace Intraday.Risk

open Intraday.Core Intraday.Lib.Decimal Intraday.Lib.Raise

/-! ## The evaluation with its exceptions -/

namespace Raising

/-- `check_daily_loss_limit`. -/
def checkDailyLossLimit (dailyPnl capital : ℚ) : Except Exc RiskCheck :=
  if capital ≤ 0 then
    .ok
      { name := "CIRCUIT_BREAKER", passed := false
        detail := "Invalid capital value: " ++ fmtFloat capital }
  else do
    let pnl ← div dailyPnl capital
    let pnlPct := pnl * 100
    if pnlPct ≤ dailyLossLimitPct then
      .ok
        { name := "CIRCUIT_BREAKER", passed := false
          detail := "Daily P&L " ++ fmtFixed 2 pnlPct ++ "% ≤ circuit-breaker limit " ++
            fmtFloat dailyLossLimitPct ++ "% — Kill Switch must be triggered" }
    else
      .ok
        { name := "CIRCUIT_BREAKER", passed := true
          detail := "Daily P&L " ++ fmtFixed 2 pnlPct ++ "% within limit " ++
            fmtFloat dailyLossLimitPct ++ "%" }

/-- `_check_three_five_seven`. -/
def checkThreeFiveSeven (params : RiskParameters) (proposedRiskAmount : ℚ) :
    Except Exc (List RiskCheck) :=
  let capital := params.capital
  if capital ≤ 0 then
    .ok [{ name := "THREE_FIVE_SEVEN", passed := false, detail := "Capital is zero or negative" }]
  else do
    let proposed ← div proposedRiskAmount capital
    let perTradeCheck :=
      limitCheck "MAX_PER_TRADE_RISK" "Proposed risk " (proposed * 100) maxSingleTradeLossPct
    if !perTradeCheck.passed then .ok [perTradeCheck]
    else do
      let sector ← div (sectorRisk params + proposedRiskAmount) capital
      let sectorCheck :=
        limitCheck "MAX_SECTOR_RISK" ("Sector '" ++ params.proposedSector ++ "' total risk ")
          (sector * 100) maxSectorExposurePct
      if !sectorCheck.passed then .ok [perTradeCheck, sectorCheck]
      else do
        let heat ← div (totalHeat params + proposedRiskAmount) capital
        let heatCheck :=
          limitCheck "MAX_PORTFOLIO_HEAT" "Portfolio heat " (heat * 100) maxPortfolioHeatPct
        .ok [perTradeCheck, sectorCheck, heatCheck]

/-- The end of both sizing methods. -/
def positionSizeOf (capital entryPrice stopDistance : ℚ) (quantity : ℤ) (method : String)
    (regimeMultiplier snapshotMultiplier : ℚ) : Except Exc PositionSize := do
  let actualRisk := quantity * stopDistance
  let actualRiskPct ← if 0 < capital then (· * 100) <$> div actualRisk capital else .ok 0
  .ok
    { quantity := quantity
      notionalValue := roundTo 4 (quantity * entryPrice)
      riskAmount := roundTo 4 actualRisk
      riskPct := roundTo 4 actualRiskPct
      sizingMethod := method
      regimeMultiplier := regimeMultiplier
      snapshotMultiplier := snapshotMultiplier }

/-- `compute_atr_position_size`. -/
def computeAtrPositionSize (capital entryPrice stopLoss baseRiskPct regimeMultiplier : ℚ)
    (isSnapshotWindow : Bool) : Except Exc PositionSize :=
  if entryPrice ≤ 0 then
    .error (.valueError ("entry_price must be > 0, got " ++ fmtFloat entryPrice))
  else
    let stopDistance := |entryPrice - stopLoss|
    let minDistance := entryPrice * (minStopDistancePct / 100)
    if stopDistance < minDistance then
      .error (.valueError ("stop_distance " ++ fmtFixed 4 stopDistance ++ " below minimum " ++
        fmtFixed 4 minDistance ++ " (" ++ fmtFloat minStopDistancePct ++ "% of entry)"))
    else do
      let riskAmount := atrBudget capital baseRiskPct regimeMultiplier isSnapshotWindow
      let rawQty ← div riskAmount stopDistance
      positionSizeOf capital entryPrice stopDistance (wholeShares rawQty) "ATR_FIXED_RISK"
        regimeMultiplier (snapshotMult isSnapshotWindow)

/-- `compute_kelly_position_size`. -/
def computeKellyPositionSize
    (capital entryPrice stopLoss winRate avgWinLossRatio regimeMultiplier : ℚ)
    (isSnapshotWindow : Bool) : Except Exc PositionSize :=
  if ¬ (0 < winRate ∧ winRate < 1) then
    .error (.valueError ("win_rate must be in (0, 1), got " ++ fmtFloat winRate))
  else if avgWinLossRatio ≤ 0 then
    .error (.valueError ("avg_win_loss_ratio must be > 0, got " ++ fmtFloat avgWinLossRatio))
  else do
    let b := avgWinLossRatio
    let q := 1 - winRate
    let kellyFull ← div (b * winRate - q) b
    let fraction := kellyFraction * max 0 kellyFull
    let effectiveFraction := fraction * regimeMultiplier * snapshotMult isSnapshotWindow
    let riskAmount := capital * effectiveFraction
    let stopDistance := |entryPrice - stopLoss|
    let minDistance := entryPrice * (minStopDistancePct / 100)
    if stopDistance < minDistance then
      .error (.valueError ("stop_distance " ++ fmtFixed 4 stopDistance ++ " below minimum " ++
        fmtFixed 4 minDistance))
    else do
      let rawQty ← if 0 < stopDistance then div riskAmount stopDistance else .ok 0
      positionSizeOf capital entryPrice stopDistance (wholeShares rawQty) "KELLY"
        regimeMultiplier (snapshotMult isSnapshotWindow)

/-- The sizing branch of `evaluate`. -/
def computeSize (entryPrice stopLoss regimeMultiplier : ℚ) (params : RiskParameters) :
    Except Exc PositionSize :=
  match params.useKelly, params.winRate, params.avgWinLossRatio with
  | true, some winRate, some avgWl =>
      computeKellyPositionSize params.capital entryPrice stopLoss winRate avgWl
        regimeMultiplier params.isSnapshotWindow
  | _, _, _ =>
      computeAtrPositionSize params.capital entryPrice stopLoss (regimeRiskPct params.regime)
        regimeMultiplier params.isSnapshotWindow

/-- Steps 8 and 9 of `evaluate`: only a `ValueError` of the sizing is caught. -/
def sizeAndCap (checks : List RiskCheck) (entryPrice stopLoss : ℚ) (params : RiskParameters) :
    Except Exc RiskDecision := do
  let regimeMultiplier ← div (regimeRiskPct params.regime) riskPctBullTrend
  match computeSize entryPrice stopLoss regimeMultiplier params with
  | .error (.valueError exc) =>
      .ok (reject (checks ++ [{ name := "SIZING", passed := false, detail := exc }]) exc)
  | .error exc => .error exc
  | .ok size =>
      let sizingOk : RiskCheck :=
        { name := "SIZING", passed := true
          detail := "qty=" ++ toString size.quantity ++ " notional=" ++
            fmtFixed 2 size.notionalValue ++ " risk=" ++ fmtFixed 3 size.riskPct ++
            "% method=" ++ size.sizingMethod }
      let checks := checks ++ [sizingOk]
      if maxSingleTradeLossPct < size.riskPct then
        let finalCheck : RiskCheck :=
          { name := "FINAL_PER_TRADE_CAP", passed := false
            detail := "Computed risk " ++ fmtFixed 3 size.riskPct ++ "% exceeds " ++
              fmtFloat maxSingleTradeLossPct ++ "% per-trade cap after sizing" }
        .ok (reject (checks ++ [finalCheck]) finalCheck.detail)
      else
        let finalCheck : RiskCheck :=
          { name := "FINAL_PER_TRADE_CAP", passed := true
            detail := "Computed risk " ++ fmtFixed 3 size.riskPct ++ "% within cap" }
        .ok { approved := true, positionSize := some size, rejectionReason := none
              checks := checks ++ [finalCheck] }

/-- `RiskEngine.evaluate`. -/
def evaluate (entryPrice stopLoss : ℚ) (params : RiskParameters) : Except Exc RiskDecision :=
  let haltedCheck := checkHaltedFlag params.halted
  let checks := [haltedCheck]
  if !haltedCheck.passed then .ok (reject checks haltedCheck.detail) else do
  let cbCheck ← checkDailyLossLimit params.dailyPnl params.capital
  let checks := checks ++ [cbCheck]
  if !cbCheck.passed then .ok (reject checks cbCheck.detail) else do
  let tcCheck := checkDailyTradeCount params.dailyTradeCount
  let checks := checks ++ [tcCheck]
  if !tcCheck.passed then .ok (reject checks tcCheck.detail) else do
  let threeFiveSeven ← checkThreeFiveSeven params (preliminaryRisk params)
  let checks := checks ++ threeFiveSeven
  match threeFiveSeven.find? (!·.passed) with
  | some check => .ok (reject checks check.detail)
  | none =>
      let corrCheck := checkCorrelationGuard params.proposedReturns params.openPositions
      let checks := checks ++ [corrCheck]
      if !corrCheck.passed then .ok (reject checks corrCheck.detail)
      else sizeAndCap checks entryPrice stopLoss params

variable {entryPrice stopLoss : ℚ} {params : RiskParameters}

/-! Each function raises at most the `ValueError` of its total counterpart. -/

theorem checkDailyLossLimit_eq (dailyPnl capital : ℚ) :
    checkDailyLossLimit dailyPnl capital = .ok (Risk.checkDailyLossLimit dailyPnl capital) := by
  by_cases hcap : capital ≤ 0
  · simp only [checkDailyLossLimit, Risk.checkDailyLossLimit, if_pos hcap]
  · have hne : capital ≠ 0 := (not_le.mp hcap).ne'
    simp only [checkDailyLossLimit, Risk.checkDailyLossLimit, if_neg hcap, div_of_ne _ hne, ok_bind]
    split <;> rfl

theorem checkThreeFiveSeven_eq (proposedRiskAmount : ℚ) :
    checkThreeFiveSeven params proposedRiskAmount =
      .ok (Risk.checkThreeFiveSeven params proposedRiskAmount) := by
  by_cases hcap : params.capital ≤ 0
  · simp only [checkThreeFiveSeven, Risk.checkThreeFiveSeven, if_pos hcap]
  · have hne : params.capital ≠ 0 := (not_le.mp hcap).ne'
    simp only [checkThreeFiveSeven, Risk.checkThreeFiveSeven, if_neg hcap, div_of_ne _ hne, ok_bind]
    split
    · rfl
    · split <;> rfl

theorem positionSizeOf_eq (capital stopDistance : ℚ) (quantity : ℤ) (method : String)
    (regimeMultiplier snapshotMultiplier : ℚ) :
    positionSizeOf capital entryPrice stopDistance quantity method regimeMultiplier
        snapshotMultiplier =
      .ok (Risk.positionSizeOf capital entryPrice stopDistance quantity method regimeMultiplier
        snapshotMultiplier) := by
  by_cases hcap : 0 < capital
  · simp only [positionSizeOf, Risk.positionSizeOf, if_pos hcap, div_of_ne _ hcap.ne']
    rfl
  · simp only [positionSizeOf, Risk.positionSizeOf, if_neg hcap, ok_bind]

/-- A positive entry price has a positive minimum distance, so the divisor is not zero. -/
theorem computeAtrPositionSize_eq (capital baseRiskPct regimeMultiplier : ℚ) (snap : Bool) :
    computeAtrPositionSize capital entryPrice stopLoss baseRiskPct regimeMultiplier snap =
      (Risk.computeAtrPositionSize capital entryPrice stopLoss baseRiskPct regimeMultiplier
        snap).mapError .valueError := by
  by_cases hentry : entryPrice ≤ 0
  · simp only [computeAtrPositionSize, Risk.computeAtrPositionSize, if_pos hentry]
    rfl
  · by_cases hstop : |entryPrice - stopLoss| < entryPrice * (minStopDistancePct / 100)
    · simp only [computeAtrPositionSize, Risk.computeAtrPositionSize, if_neg hentry, if_pos hstop]
      rfl
    · have hmin : 0 < entryPrice * (minStopDistancePct / 100) := by
        have hpos := not_le.mp hentry
        norm_num [minStopDistancePct]
        exact hpos
      have hne : |entryPrice - stopLoss| ≠ 0 := (hmin.trans_le (not_lt.mp hstop)).ne'
      simp only [computeAtrPositionSize, Risk.computeAtrPositionSize, if_neg hentry, if_neg hstop,
        div_of_ne _ hne, ok_bind, positionSizeOf_eq]
      rfl

theorem computeKellyPositionSize_eq (capital winRate avgWl regimeMultiplier : ℚ) (snap : Bool) :
    computeKellyPositionSize capital entryPrice stopLoss winRate avgWl regimeMultiplier snap =
      (Risk.computeKellyPositionSize capital entryPrice stopLoss winRate avgWl regimeMultiplier
        snap).mapError .valueError := by
  by_cases hwin : 0 < winRate ∧ winRate < 1
  · by_cases hratio : avgWl ≤ 0
    · simp only [computeKellyPositionSize, Risk.computeKellyPositionSize, hwin,
        if_pos hratio]
      rfl
    · -- the ratio is a divisor from here on
      have hne : avgWl ≠ 0 := (not_le.mp hratio).ne'
      by_cases hstop : |entryPrice - stopLoss| < entryPrice * (minStopDistancePct / 100)
      · simp only [computeKellyPositionSize, Risk.computeKellyPositionSize, hwin,
          if_neg hratio, div_of_ne _ hne, ok_bind, if_pos hstop]
        rfl
      · by_cases hpos : 0 < |entryPrice - stopLoss|
        · simp only [computeKellyPositionSize, Risk.computeKellyPositionSize, hwin,
            if_neg hratio, div_of_ne _ hne, ok_bind, if_neg hstop, if_pos hpos,
            div_of_ne _ hpos.ne', positionSizeOf_eq, kellyBudget]
          rfl
        · simp only [computeKellyPositionSize, Risk.computeKellyPositionSize, hwin,
            if_neg hratio, div_of_ne _ hne, ok_bind, if_neg hstop, if_neg hpos,
            positionSizeOf_eq]
          rfl
  · simp only [computeKellyPositionSize, Risk.computeKellyPositionSize, hwin, not_false_eq_true,
      if_true]
    rfl

theorem computeSize_eq :
    computeSize entryPrice stopLoss (regimeRiskPct params.regime / riskPctBullTrend) params =
      (Risk.computeSize entryPrice stopLoss params).mapError .valueError := by
  cases hk : params.useKelly with
  | false =>
      simp only [computeSize, Risk.computeSize, hk]
      exact computeAtrPositionSize_eq ..
  | true =>
  cases hw : params.winRate with
  | none =>
      simp only [computeSize, Risk.computeSize, hk, hw]
      exact computeAtrPositionSize_eq ..
  | some winRate =>
  cases ha : params.avgWinLossRatio with
  | none =>
      simp only [computeSize, Risk.computeSize, hk, hw, ha]
      exact computeAtrPositionSize_eq ..
  | some avgWl =>
      simp only [computeSize, Risk.computeSize, hk, hw, ha]
      exact computeKellyPositionSize_eq ..

theorem sizeAndCap_eq (checks : List RiskCheck) :
    sizeAndCap checks entryPrice stopLoss params =
      .ok (Risk.sizeAndCap checks entryPrice stopLoss params) := by
  have hbull : riskPctBullTrend ≠ 0 := one_ne_zero
  simp only [sizeAndCap, Risk.sizeAndCap, div_of_ne _ hbull, ok_bind, computeSize_eq]
  cases Risk.computeSize entryPrice stopLoss params with
  | error exc => rfl
  | ok size =>
      simp only [Except.mapError]
      split <;> rfl

/-- No division of `evaluate` has a zero divisor, and it catches the `ValueError`. -/
theorem evaluate_eq (entryPrice stopLoss : ℚ) (params : RiskParameters) :
    evaluate entryPrice stopLoss params = .ok (Risk.evaluate entryPrice stopLoss params) := by
  simp only [evaluate, Risk.evaluate, checkDailyLossLimit_eq, checkThreeFiveSeven_eq, ok_bind,
    sizeAndCap_eq]
  -- both branch on the same checks
  split
  · rfl
  · split
    · rfl
    · split
      · rfl
      · cases (Risk.checkThreeFiveSeven params (preliminaryRisk params)).find? (!·.passed) with
        | some check => rfl
        | none =>
            simp only
            split <;> rfl

end Raising

/-! ## The trail -/

/-- The fixed order of the guards. -/
def guardOrder : List String :=
  ["SYSTEM_HALTED", "CIRCUIT_BREAKER", "DAILY_TRADE_LIMIT", "MAX_PER_TRADE_RISK",
    "MAX_SECTOR_RISK", "MAX_PORTFOLIO_HEAT", "CORRELATION_GUARD", "SIZING",
    "FINAL_PER_TRADE_CAP"]

/-- The checks of a decision are those of the guard order up to the first failure, and the
verdict is theirs. -/
structure AuditTrail (decision : RiskDecision) : Prop where
  in_order : decision.checks.map (·.name) <+: guardOrder
  approved_iff : decision.approved = true ↔
    decision.checks.map (·.name) = guardOrder ∧ ∀ c ∈ decision.checks, c.passed = true
  rejected : decision.approved = false → ∃ passed last, decision.checks = passed ++ [last] ∧
    (∀ c ∈ passed, c.passed = true) ∧ last.passed = false ∧
    decision.rejectionReason = some last.detail

/-- Checks that all passed, with the names they have. -/
def AllPassed (names : List String) (checks : List RiskCheck) : Prop :=
  checks.map (·.name) = names ∧ ∀ c ∈ checks, c.passed = true

theorem AllPassed.append {names names' : List String} {checks checks' : List RiskCheck}
    (h : AllPassed names checks) (h' : AllPassed names' checks') :
    AllPassed (names ++ names') (checks ++ checks') := by
  refine ⟨by rw [List.map_append, h.1, h'.1], ?_⟩
  intro c hc
  rcases List.mem_append.mp hc with hmem | hmem
  · exact h.2 c hmem
  · exact h'.2 c hmem

theorem AllPassed.of_check {name : String} {check : RiskCheck} (hname : check.name = name)
    (hpassed : check.passed = true) : AllPassed [name] [check] := by
  refine ⟨by rw [List.map_singleton, hname], ?_⟩
  intro c hc
  rw [List.mem_singleton.mp hc]
  exact hpassed

/-- Rejecting with the detail of a check that failed after others that passed. -/
theorem reject_trail {names : List String} {checks : List RiskCheck} {last : RiskCheck}
    (hpassed : AllPassed names checks) (horder : names ++ [last.name] <+: guardOrder)
    (hfail : last.passed = false) : AuditTrail (reject (checks ++ [last]) last.detail) := by
  refine ⟨?_, ?_, fun _ => ⟨checks, last, rfl, hpassed.2, hfail, rfl⟩⟩
  · simpa [reject, hpassed.1] using horder
  · constructor
    · intro h
      cases h
    · rintro ⟨-, hall⟩
      have hlast := hall last (List.mem_append_right _ List.mem_cons_self)
      exact absurd (hfail.symm.trans hlast) Bool.false_ne_true

@[simp] theorem checkHaltedFlag_name (halted : Bool) :
    (checkHaltedFlag halted).name = "SYSTEM_HALTED" := by
  cases halted <;> rfl

@[simp] theorem checkDailyLossLimit_name (dailyPnl capital : ℚ) :
    (checkDailyLossLimit dailyPnl capital).name = "CIRCUIT_BREAKER" := by
  simp only [checkDailyLossLimit]
  split
  · rfl
  · split <;> rfl

@[simp] theorem checkDailyTradeCount_name (count : ℤ) :
    (checkDailyTradeCount count).name = "DAILY_TRADE_LIMIT" := by
  simp only [checkDailyTradeCount]
  split <;> rfl

@[simp] theorem checkCorrelationGuard_name (returns : List ℚ) (positions : List OpenPosition) :
    (checkCorrelationGuard returns positions).name = "CORRELATION_GUARD" := by
  simp only [checkCorrelationGuard]
  split
  · rfl
  · split
    · rfl
    · split <;> rfl

variable {entryPrice stopLoss : ℚ} {params : RiskParameters} {size : PositionSize}

/-- The three limits stop at the first that fails, too. -/
theorem checkThreeFiveSeven_cases (hcap : 0 < params.capital) (risk : ℚ) :
    (∃ names passed last, checkThreeFiveSeven params risk = passed ++ [last] ∧
      AllPassed names passed ∧ last.passed = false ∧
      names ++ [last.name] <+: ["MAX_PER_TRADE_RISK", "MAX_SECTOR_RISK", "MAX_PORTFOLIO_HEAT"]) ∨
    AllPassed ["MAX_PER_TRADE_RISK", "MAX_SECTOR_RISK", "MAX_PORTFOLIO_HEAT"]
      (checkThreeFiveSeven params risk) := by
  rw [checkThreeFiveSeven, if_neg (not_le.mpr hcap)]
  -- only the names and the verdicts of the three checks matter
  simp only
  generalize hp : limitCheck "MAX_PER_TRADE_RISK" _ _ _ = perTrade
  generalize hs : limitCheck "MAX_SECTOR_RISK" _ _ _ = sector
  generalize hh : limitCheck "MAX_PORTFOLIO_HEAT" _ _ _ = heat
  have hpn : perTrade.name = "MAX_PER_TRADE_RISK" := by rw [← hp, limitCheck]
  have hsn : sector.name = "MAX_SECTOR_RISK" := by rw [← hs, limitCheck]
  have hhn : heat.name = "MAX_PORTFOLIO_HEAT" := by rw [← hh, limitCheck]
  have hnil : AllPassed [] [] := ⟨rfl, fun c hc => absurd hc List.not_mem_nil⟩
  cases hpp : perTrade.passed with
  | false => exact .inl ⟨[], [], perTrade, rfl, hnil, hpp, by simp [hpn]⟩
  | true =>
  have hfirst := AllPassed.of_check hpn hpp
  cases hsp : sector.passed with
  | false => exact .inl ⟨_, [perTrade], sector, rfl, hfirst, hsp, by simp [hsn]⟩
  | true =>
  have hsecond := hfirst.append (AllPassed.of_check hsn hsp)
  cases hhp : heat.passed with
  | false => exact .inl ⟨_, [perTrade, sector], heat, rfl, hsecond, hhp, by simp [hhn]⟩
  | true => exact .inr (hsecond.append (AllPassed.of_check hhn hhp))

/-- Sizing and the cap end a trail on which the guards before them passed. -/
theorem sizeAndCap_trail {checks : List RiskCheck}
    (hpassed : AllPassed (guardOrder.take 7) checks) :
    AuditTrail (sizeAndCap checks entryPrice stopLoss params) := by
  rw [sizeAndCap]
  cases computeSize entryPrice stopLoss params with
  | error exc => exact reject_trail hpassed (by simp [guardOrder]) rfl
  | ok size =>
      simp only
      generalize hsizing : RiskCheck.mk "SIZING" true _ = sizingOk
      have hsized : AllPassed (guardOrder.take 8) (checks ++ [sizingOk]) := by
        rw [← hsizing]
        exact hpassed.append (AllPassed.of_check rfl rfl)
      by_cases hcap : maxSingleTradeLossPct < size.riskPct
      · rw [if_pos hcap]
        exact reject_trail hsized (by simp [guardOrder]) rfl
      · rw [if_neg hcap]
        generalize hfinal : RiskCheck.mk "FINAL_PER_TRADE_CAP" true _ = finalCheck
        have hall : AllPassed guardOrder (checks ++ [sizingOk] ++ [finalCheck]) := by
          rw [← hfinal]
          exact hsized.append (AllPassed.of_check rfl rfl)
        refine ⟨?_, ⟨fun _ => hall, fun _ => rfl⟩, fun h => ?_⟩
        · exact hall.1.symm ▸ List.prefix_rfl
        · cases h

/-- Every decision carries its trail. -/
theorem evaluate_trail (entryPrice stopLoss : ℚ) (params : RiskParameters) :
    AuditTrail (evaluate entryPrice stopLoss params) := by
  rw [evaluate]
  simp only
  have hnil : AllPassed [] [] := ⟨rfl, fun c hc => absurd hc List.not_mem_nil⟩
  cases hhalt : (checkHaltedFlag params.halted).passed with
  | false => exact reject_trail hnil (by simp [guardOrder]) hhalt
  | true =>
  have h1 := AllPassed.of_check (checkHaltedFlag_name params.halted) hhalt
  cases hcb : (checkDailyLossLimit params.dailyPnl params.capital).passed with
  | false => exact reject_trail h1 (by simp [guardOrder]) hcb
  | true =>
  have h2 := h1.append
    (AllPassed.of_check (checkDailyLossLimit_name params.dailyPnl params.capital) hcb)
  cases htc : (checkDailyTradeCount params.dailyTradeCount).passed with
  | false => exact reject_trail h2 (by simp [guardOrder]) htc
  | true =>
  have h3 := h2.append (AllPassed.of_check (checkDailyTradeCount_name params.dailyTradeCount) htc)
  -- the loss limit has rejected a capital that is not positive
  have hcap := capital_pos_of_checkDailyLossLimit hcb
  rcases checkThreeFiveSeven_cases hcap (preliminaryRisk params) with
    ⟨names, passed, last, heq, hpassed, hlast, horder⟩ | h357
  · have hfind : (passed ++ [last]).find? (!·.passed) = some last := by
      rw [List.find?_append, List.find?_eq_none.mpr (by simpa using hpassed.2)]
      simp [hlast]
    simp only [heq, hfind, ← List.append_assoc]
    refine reject_trail (h3.append hpassed) ?_ hlast
    rw [List.append_assoc]
    exact (List.prefix_append_right_inj _).mpr (horder.trans (by decide))
  · have hfind : (checkThreeFiveSeven params (preliminaryRisk params)).find? (!·.passed) =
        none := List.find?_eq_none.mpr (by simpa using h357.2)
    simp only [hfind]
    have h6 := h3.append h357
    cases hcorr : (checkCorrelationGuard params.proposedReturns params.openPositions).passed with
    | false => exact reject_trail h6 (by simp [guardOrder]) hcorr
    | true =>
        exact sizeAndCap_trail
          (h6.append (AllPassed.of_check (checkCorrelationGuard_name ..) hcorr))

/-! ## The approved size -/

/-- A decision with its trail and, if it approves, a size of at least one share at a positive
entry price, with its stop at least the minimum distance away. -/
structure AuditedDecision (entryPrice stopLoss : ℚ) (decision : RiskDecision) : Prop
    extends AuditTrail decision where
  sized : decision.approved = true → ∃ size, decision.positionSize = some size ∧
    1 ≤ size.quantity ∧ 0 < entryPrice ∧
    minStopDistancePct / 100 * entryPrice ≤ |entryPrice - stopLoss|

/-- Kelly sizing is chosen and goes through: the guards pass, its statistics are in range, and
the rounded risk of the shares it buys is within the cap. -/
def KellyAdmitted (entryPrice stopLoss : ℚ) (params : RiskParameters) : Prop :=
  GuardsPass params ∧ SizingAccepts entryPrice stopLoss params ∧
    ∃ budget, kellyBudgetOf params = some budget ∧
      roundTo 4 (wholeShares (budget / |entryPrice - stopLoss|) * |entryPrice - stopLoss| /
        params.capital * 100) ≤ maxSingleTradeLossPct

/-- The rounded risk of a computed size, by the budget of its method. -/
theorem computeSize_riskPct_eq (hcap : 0 < params.capital)
    (hcomp : computeSize entryPrice stopLoss params = .ok size) :
    size.riskPct = roundTo 4 (wholeShares (riskBudget params / |entryPrice - stopLoss|) *
      |entryPrice - stopLoss| / params.capital * 100) := by
  rw [computeSize_riskPct hcap hcomp, computeSize_quantity hcomp, riskBudget]

/-- ATR sizing accepts positive entry prices only. -/
theorem entryPrice_pos_of_atr (hkelly : kellyBudgetOf params = none)
    (h : SizingAccepts entryPrice stopLoss params) : 0 < entryPrice := by
  have hprice := h.2
  split at hprice
  · rename_i winRate avgWl hk hw ha
    simp [kellyBudgetOf, hk, hw, ha] at hkelly
  · exact hprice

/-- A Kelly size is approved exactly when it is admitted, whatever the entry price. -/
theorem kelly_approved_iff {budget : ℚ} (hkelly : kellyBudgetOf params = some budget) :
    (evaluate entryPrice stopLoss params).approved = true ↔
      KellyAdmitted entryPrice stopLoss params := by
  have hbudget : riskBudget params = budget := by rw [riskBudget, hkelly, Option.getD_some]
  rw [evaluate_approved_iff]
  constructor
  · rintro ⟨hguards, size, hcomp, hcap, -⟩
    refine ⟨hguards, computeSize_isOk_iff.mp ⟨size, hcomp⟩, budget, hkelly, ?_⟩
    rwa [computeSize_riskPct_eq (capital_pos_of_guardsPass hguards) hcomp, hbudget] at hcap
  · rintro ⟨hguards, haccepts, budget', hkelly', hcap⟩
    rcases computeSize_isOk_iff.mpr haccepts with ⟨size, hcomp⟩
    obtain rfl := Option.some.inj (hkelly.symm.trans hkelly')
    rw [← hbudget, ← computeSize_riskPct_eq (capital_pos_of_guardsPass hguards) hcomp] at hcap
    rcases evaluate_of_guardsPass hguards with ⟨checks, heval⟩
    refine ⟨hguards, size, hcomp, hcap, ?_⟩
    rw [heval]
    exact (sizeAndCap_of_computed hcomp hcap).2

/-- Exactly when `evaluate` returns a decision that keeps all this: the entry price is positive,
or no Kelly size is admitted. -/
theorem audited_iff (entryPrice stopLoss : ℚ) (params : RiskParameters) :
    (∃ decision, Raising.evaluate entryPrice stopLoss params = .ok decision ∧
      AuditedDecision entryPrice stopLoss decision) ↔
      0 < entryPrice ∨ ¬ KellyAdmitted entryPrice stopLoss params := by
  rw [Raising.evaluate_eq]
  constructor
  · rintro ⟨decision, heq, haudited⟩
    obtain rfl := Except.ok.inj heq
    by_contra hnot
    rw [not_or, not_not] at hnot
    rcases hnot with ⟨hprice, hadmitted⟩
    -- an admitted Kelly size is approved, whatever the price
    have ⟨_, _, budget, hkelly, _⟩ := hadmitted
    have happ := (kelly_approved_iff hkelly).mpr hadmitted
    rcases haudited.sized happ with ⟨size, -, -, hpos, -⟩
    exact hprice hpos
  · intro hcond
    refine ⟨_, rfl, evaluate_trail entryPrice stopLoss params, ?_⟩
    intro happ
    rcases evaluate_approved_iff.mp happ with ⟨hguards, size, hcomp, -, hsize⟩
    have haccepts := computeSize_isOk_iff.mp ⟨size, hcomp⟩
    have hquantity : 1 ≤ size.quantity := by
      rw [computeSize_quantity hcomp]
      exact one_le_wholeShares _
    have hstop : minStopDistancePct / 100 * entryPrice ≤ |entryPrice - stopLoss| := by
      rw [mul_comm]
      exact haccepts.1
    refine ⟨size, hsize, hquantity, ?_, hstop⟩
    -- ATR sizing checks the price itself
    cases hkelly : kellyBudgetOf params with
    | none => exact entryPrice_pos_of_atr hkelly haccepts
    | some budget => exact hcond.resolve_right (not_not.mpr ((kelly_approved_iff hkelly).mp happ))

/-- Kelly sizing approves a trade at an entry price of zero. -/
theorem kelly_approves_zero_price :
    ¬ ∀ (entryPrice stopLoss : ℚ) (params : RiskParameters),
      ∃ decision, Raising.evaluate entryPrice stopLoss params = .ok decision ∧
        AuditedDecision entryPrice stopLoss decision := by
  intro h
  rcases h 0 1
    { capital := 100000, openPositions := [], dailyPnl := 0, dailyTradeCount := 0
      isSnapshotWindow := false, regime := ⟨.bullTrend⟩, useKelly := true
      winRate := some (2 / 5), avgWinLossRatio := some 2 } with ⟨decision, heq, haudited⟩
  rw [Raising.evaluate_eq] at heq
  obtain rfl := Except.ok.inj heq
  rcases haudited.sized (by decide +kernel) with ⟨size, -, -, hpos, -⟩
  exact lt_irrefl 0 hpos

end Intraday.Risk
