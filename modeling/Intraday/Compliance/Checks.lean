import Mathlib.Tactic.Linarith
import Intraday.Lib.Decimal
import Intraday.Compliance.Models

/-!
# Intraday.Compliance.Checks — `india.py` and `australia.py`

The pre-trade checks of the two markets. Each one returns the list of violations
it found, with the texts of the source; an empty list is a pass. After each check
stands the one fact later proofs use about it: when it passes.
-/

namespace Intraday.Compliance

open Intraday.Core Intraday.Lib.Decimal

/-- `_v`. -/
def v (code detail : String) : ComplianceViolation := { code := code, detail := detail }

/-- The frame most checks share: only for orders of the market, and not for exits. -/
def entryOnly (exchanges : List String) (order : OrderIntent)
    (violations : List ComplianceViolation) : List ComplianceViolation :=
  if order.exchange ∉ exchanges then []
  else if order.isExit then []
  else violations

/-- A check in the frame passes when its body does, for the orders the frame lets in. -/
theorem entryOnly_eq_nil {exchanges : List String} {order : OrderIntent}
    {violations : List ComplianceViolation} {passes : Prop} (h : violations = [] ↔ passes) :
    entryOnly exchanges order violations = [] ↔
      (order.exchange ∈ exchanges → order.isExit = false → passes) := by
  unfold entryOnly
  by_cases hm : order.exchange ∈ exchanges
  · cases hx : order.isExit <;> simp [hm, h]
  · simp [hm]

/-- A check with one violation passes when its condition does not hold. -/
theorem ite_singleton_eq_nil {p : Prop} [Decidable p] {x : ComplianceViolation} :
    (if p then [x] else []) = [] ↔ ¬ p := by
  by_cases hp : p <;> simp [hp]

/-! ## India: NSE and BSE -/

/-- `INDIA_EXCHANGES`. -/
def indiaExchanges : List String := ["NSE", "BSE"]

/-- `check_strategy_id`. -/
def checkStrategyId (order : OrderIntent) (strategyTag : Option String) :
    List ComplianceViolation :=
  if order.exchange ∉ indiaExchanges then []
  else if strategyTag = none then
    [v "NO_STRATEGY_ID"
      ("Strategy '" ++ order.strategyName ++ "' is not registered; " ++
        "order rejected before broker submission (SEBI April 2026).")]
  else []

theorem checkStrategyId_eq_nil {order : OrderIntent} {strategyTag : Option String} :
    checkStrategyId order strategyTag = [] ↔
      (order.exchange ∈ indiaExchanges → strategyTag ≠ none) := by
  unfold checkStrategyId
  by_cases hm : order.exchange ∈ indiaExchanges
  · simp only [hm, not_true, if_false, ite_singleton_eq_nil, true_imp_iff, ne_eq]
  · simp [hm]

/-- `compute_mpp_price`. -/
def computeMppPrice (order : OrderIntent) : Option ℚ :=
  match order.ltp with
  | none => none
  | some ltp =>
      if ltp ≤ 0 then none
      else
        let buf := mppSlippageBufferPct / 100
        if order.direction = "LONG" then some (roundTo 2 (ltp * (1 + buf)))
        else some (roundTo 2 (ltp * (1 - buf)))

theorem computeMppPrice_isSome {order : OrderIntent} :
    (computeMppPrice order).isSome ↔ ∃ ltp, order.ltp = some ltp ∧ 0 < ltp := by
  unfold computeMppPrice
  cases order.ltp with
  | none => simp
  | some ltp =>
      by_cases hl : ltp ≤ 0
      · simp [hl]
      · by_cases hd : order.direction = "LONG" <;> simp [hl, hd] <;> exact not_le.mp hl

/-- `check_market_order`: the violations, the effective order type and the MPP
price. -/
def checkMarketOrder (order : OrderIntent) : List ComplianceViolation × String × Option ℚ :=
  if order.exchange ∉ indiaExchanges ∨ order.orderType ≠ "MARKET" then ([], order.orderType, none)
  else
    match computeMppPrice order with
    | none =>
        ([v "MARKET_ORDER_NO_LTP"
          ("MARKET order on NSE/BSE requires LTP for MPP limit conversion; " ++
            "LTP not provided.")], "MARKET", none)
    | some mpp => ([], "MPP", some mpp)

theorem checkMarketOrder_eq_nil {order : OrderIntent} :
    (checkMarketOrder order).1 = [] ↔
      (order.exchange ∈ indiaExchanges → order.orderType = "MARKET" →
        (computeMppPrice order).isSome) := by
  unfold checkMarketOrder
  by_cases hm : order.exchange ∈ indiaExchanges
  · by_cases ht : order.orderType = "MARKET"
    · cases computeMppPrice order <;> simp [hm, ht]
    · simp [hm, ht]
  · simp [hm]

/-- A passed India order is not of type `MARKET`; a `MARKET` intent has become an
`MPP` order with a price. -/
theorem checkMarketOrder_type {order : OrderIntent} (hm : order.exchange ∈ indiaExchanges)
    (h : (checkMarketOrder order).1 = []) :
    (checkMarketOrder order).2.1 ≠ "MARKET" ∧
      (order.orderType = "MARKET" →
        (checkMarketOrder order).2.1 = "MPP" ∧ (checkMarketOrder order).2.2 ≠ none) := by
  unfold checkMarketOrder at h ⊢
  by_cases ht : order.orderType = "MARKET"
  · cases hp : computeMppPrice order with
    | none => simp [hm, ht, hp] at h
    | some mpp => simp [hm, ht]
  · simp [hm, ht]

/-- `check_leverage`. -/
def checkLeverage (order : OrderIntent) : List ComplianceViolation :=
  entryOnly indiaExchanges order <|
    if order.capital ≤ 0 ∨ order.notionalValue ≤ 0 then []
    else
      let leverage := order.notionalValue / order.capital
      if maxLeverage < leverage then
        [v "LEVERAGE_EXCEEDED"
          ("Leverage " ++ fmtFixed 2 leverage ++ "× exceeds max " ++ fmtFloat maxLeverage ++ "× " ++
            "(20% upfront margin required — SEBI April 2026).")]
      else []

theorem checkLeverage_eq_nil {order : OrderIntent} :
    checkLeverage order = [] ↔
      (order.exchange ∈ indiaExchanges → order.isExit = false →
        0 < order.capital → 0 < order.notionalValue →
        order.notionalValue / order.capital ≤ maxLeverage) := by
  unfold checkLeverage
  apply entryOnly_eq_nil
  by_cases hc : order.capital ≤ 0
  · simp [hc]
  · by_cases hn : order.notionalValue ≤ 0
    · simp [hn]
    · simp only [hc, hn, or_self, if_false, ite_singleton_eq_nil, not_lt, not_le.mp hc,
        not_le.mp hn, true_imp_iff]

/-- `check_mwpl`. -/
def checkMwpl (order : OrderIntent) : List ComplianceViolation :=
  entryOnly indiaExchanges order <|
    match order.mwplPct with
    | none => []
    | some mwplPct =>
        if mwplExclusionThresholdPct < mwplPct then
          [v "MWPL_EXCEEDED"
            ("Symbol '" ++ order.symbol ++ "' OI at " ++ fmtFixed 1 mwplPct ++ "% of MWPL " ++
              "(threshold " ++ fmtFloat mwplExclusionThresholdPct ++ "%) — entry blocked.")]
        else []

theorem checkMwpl_eq_nil {order : OrderIntent} :
    checkMwpl order = [] ↔
      (order.exchange ∈ indiaExchanges → order.isExit = false →
        ∀ pct, order.mwplPct = some pct → pct ≤ mwplExclusionThresholdPct) := by
  unfold checkMwpl
  apply entryOnly_eq_nil
  cases order.mwplPct with
  | none => simp
  | some pct => simp

/-- `check_force_square_off`. -/
def checkForceSquareOff (order : OrderIntent) (nowIst : ClockTime) : List ComplianceViolation :=
  entryOnly indiaExchanges order <|
    if forceSquareOffIstHour < nowIst.hour ∨
        (nowIst.hour = forceSquareOffIstHour ∧ forceSquareOffIstMinute ≤ nowIst.minute) then
      [v "FORCE_SQUARE_OFF"
        ("New entry blocked at " ++ zeroPad 2 nowIst.hour ++ ":" ++ zeroPad 2 nowIst.minute ++
          " IST — " ++ "force square-off active from " ++ zeroPad 2 forceSquareOffIstHour ++ ":" ++
          zeroPad 2 forceSquareOffIstMinute ++ " IST.")]
    else []

/-- Minutes since midnight. -/
def ClockTime.minutes (t : ClockTime) : ℕ := t.hour * 60 + t.minute

/-- Seconds since midnight. -/
def ClockTime.seconds (t : ClockTime) : ℕ := (t.hour * 60 + t.minute) * 60 + t.second

theorem checkForceSquareOff_eq_nil {order : OrderIntent} {nowIst : ClockTime} :
    checkForceSquareOff order nowIst = [] ↔
      (order.exchange ∈ indiaExchanges → order.isExit = false →
        nowIst.minutes < forceSquareOffIstHour * 60 + forceSquareOffIstMinute) := by
  unfold checkForceSquareOff
  apply entryOnly_eq_nil
  rw [ite_singleton_eq_nil]
  -- the comparison by hour and minute is lexicographic because a minute is below 60
  have hmin := nowIst.minute.isLt
  simp only [ClockTime.minutes, forceSquareOffIstHour, forceSquareOffIstMinute]
  omega

/-- `run_india_checks`. -/
def runIndiaChecks (order : OrderIntent) (strategyTag : Option String)
    (nowIst : Option ClockTime) : List ComplianceViolation × String × Option ℚ :=
  let (mktViolations, effectiveType, mppPrice) := checkMarketOrder order
  let squareOff := match nowIst with
    | none => []
    | some t => checkForceSquareOff order t
  (checkStrategyId order strategyTag ++ mktViolations ++ checkLeverage order ++ checkMwpl order ++
    squareOff, effectiveType, mppPrice)

theorem runIndiaChecks_eq_nil {order : OrderIntent} {strategyTag : Option String}
    {nowIst : Option ClockTime} :
    (runIndiaChecks order strategyTag nowIst).1 = [] ↔
      checkStrategyId order strategyTag = [] ∧ (checkMarketOrder order).1 = [] ∧
      checkLeverage order = [] ∧ checkMwpl order = [] ∧
      ∀ t, nowIst = some t → checkForceSquareOff order t = [] := by
  cases nowIst <;> simp [runIndiaChecks]

@[simp] theorem runIndiaChecks_type {order : OrderIntent} {strategyTag : Option String}
    {nowIst : Option ClockTime} :
    (runIndiaChecks order strategyTag nowIst).2 = (checkMarketOrder order).2 := rfl

/-! ## Australia: ASX -/

/-- `ASX_EXCHANGES`. -/
def asxExchanges : List String := ["ASX"]

/-- The direction an order of direction `d` would trade against. -/
def opposite (direction : String) : String := if direction = "LONG" then "SHORT" else "LONG"

/-- An own order the wash-trade check objects to. -/
def IsWash (order : OrderIntent) (nowMs : ℤ) (recent : RecentOrder) : Prop :=
  recent.symbol = order.symbol ∧ recent.direction = opposite order.direction ∧
    nowMs - washTradeLookbackSeconds * 1000 ≤ recent.placedAtMs

instance (order : OrderIntent) (nowMs : ℤ) : DecidablePred (IsWash order nowMs) :=
  fun _ => inferInstanceAs (Decidable (_ ∧ _ ∧ _))

/-- `check_wash_trading`: exits are not exempt. -/
def checkWashTrading (order : OrderIntent) (recentOrders : List RecentOrder) (nowMs : ℤ) :
    List ComplianceViolation :=
  if order.exchange ∉ asxExchanges then []
  else
    match recentOrders.find? (IsWash order nowMs) with
    | some recent =>
        [v "WASH_TRADING"
          ("Opposing " ++ recent.direction ++ " order for '" ++ order.symbol ++ "' " ++
            "placed " ++ fmtFixed 0 ((nowMs - recent.placedAtMs : ℤ) / 1000) ++ "s ago " ++
            "(lookback " ++ toString washTradeLookbackSeconds ++ "s) — " ++
            "potential wash trade blocked (ASIC).")]
    | none => []

theorem checkWashTrading_eq_nil {order : OrderIntent} {recentOrders : List RecentOrder}
    {nowMs : ℤ} :
    checkWashTrading order recentOrders nowMs = [] ↔
      (order.exchange ∈ asxExchanges → ∀ r ∈ recentOrders, ¬ IsWash order nowMs r) := by
  unfold checkWashTrading
  by_cases hm : order.exchange ∈ asxExchanges
  · -- the loop of the source returns at the first wash it meets
    cases hf : recentOrders.find? (IsWash order nowMs) with
    | none => simpa [hm] using hf
    | some r =>
        have hr := List.find?_some hf
        have hmem := List.mem_of_find?_eq_some hf
        simp only [hm, not_true, if_false, List.cons_ne_nil, true_imp_iff, false_iff, not_forall,
          not_not]
        exact ⟨r, hmem, of_decide_eq_true hr⟩
  · simp [hm]

/-- A live order the layering check objects to. -/
def IsLayer (order : OrderIntent) (pending : RecentOrder) : Prop :=
  pending.symbol = order.symbol ∧ pending.direction = opposite order.direction

instance (order : OrderIntent) : DecidablePred (IsLayer order) :=
  fun _ => inferInstanceAs (Decidable (_ ∧ _))

/-- `check_layering`: exits are not exempt. -/
def checkLayering (order : OrderIntent) (pendingOrders : List RecentOrder) :
    List ComplianceViolation :=
  if order.exchange ∉ asxExchanges then []
  else if ∃ pending ∈ pendingOrders, IsLayer order pending then
    [v "LAYERING"
      ("Simultaneous " ++ opposite order.direction ++ " order pending for '" ++ order.symbol ++
        "' — " ++ "placing opposing direction would create layering (ASIC).")]
  else []

theorem checkLayering_eq_nil {order : OrderIntent} {pendingOrders : List RecentOrder} :
    checkLayering order pendingOrders = [] ↔
      (order.exchange ∈ asxExchanges → ∀ p ∈ pendingOrders, ¬ IsLayer order p) := by
  unfold checkLayering
  by_cases hm : order.exchange ∈ asxExchanges
  · simp only [hm, not_true, if_false, ite_singleton_eq_nil, true_imp_iff, not_exists, not_and]
  · simp [hm]

/-- `check_short_sell`. -/
def checkShortSell (order : OrderIntent) (approvedShortList : List String) :
    List ComplianceViolation :=
  if order.exchange ∉ asxExchanges then []
  else if order.direction ≠ "SHORT" then []
  else if order.isExit then []
  else if order.symbol ∉ approvedShortList then
    [v "SHORT_SELL_NOT_APPROVED"
      ("Symbol '" ++ order.symbol ++ "' is not on the IBKR-verified ASX short list — " ++
        "short entry blocked (ASIC).")]
  else []

theorem checkShortSell_eq_nil {order : OrderIntent} {approvedShortList : List String} :
    checkShortSell order approvedShortList = [] ↔
      (order.exchange ∈ asxExchanges → order.isExit = false → order.direction = "SHORT" →
        order.symbol ∈ approvedShortList) := by
  unfold checkShortSell
  by_cases hm : order.exchange ∈ asxExchanges
  · by_cases hd : order.direction = "SHORT"
    · cases hx : order.isExit <;> simp [hm, hd]
    · simp [hd]
  · simp [hm]

/-- `check_staggered_open`. -/
def checkStaggeredOpen (order : OrderIntent) (groupOpenMs : Option ℤ) (nowMs : ℤ) :
    List ComplianceViolation :=
  entryOnly asxExchanges order <|
    match groupOpenMs with
    | none => []
    | some openMs =>
        let elapsedMin : ℚ := (nowMs - openMs : ℤ) / 60000
        if elapsedMin < asxStaggeredOpenNoiseFilterMinutes then
          [v "STAGGERED_OPEN_NOISE_FILTER"
            ("'" ++ order.symbol ++ "' is within " ++
              fmtFixed 1 (asxStaggeredOpenNoiseFilterMinutes - elapsedMin) ++
              " min of its ASX group open" ++
              " — 15-min noise filter active (ASIC staggered open).")]
        else []

theorem checkStaggeredOpen_eq_nil {order : OrderIntent} {groupOpenMs : Option ℤ} {nowMs : ℤ} :
    checkStaggeredOpen order groupOpenMs nowMs = [] ↔
      (order.exchange ∈ asxExchanges → order.isExit = false →
        ∀ openMs, groupOpenMs = some openMs →
          asxStaggeredOpenNoiseFilterMinutes ≤ ((nowMs - openMs : ℤ) : ℚ) / 60000) := by
  unfold checkStaggeredOpen
  apply entryOnly_eq_nil
  cases groupOpenMs with
  | none => simp
  | some openMs => simp

/-- `check_post_close_cutoff`. -/
def checkPostCloseCutoff (order : OrderIntent) (nowAest : ClockTime) : List ComplianceViolation :=
  entryOnly asxExchanges order <|
    if asxPostCloseCutoffHour < nowAest.hour ∨
        (nowAest.hour = asxPostCloseCutoffHour ∧ asxPostCloseCutoffMinute < nowAest.minute) ∨
        (nowAest.hour = asxPostCloseCutoffHour ∧ nowAest.minute = asxPostCloseCutoffMinute ∧
          asxPostCloseCutoffSecond ≤ nowAest.second) then
      [v "POST_CLOSE_CUTOFF"
        ("New entry blocked at " ++ zeroPad 2 nowAest.hour ++ ":" ++ zeroPad 2 nowAest.minute ++
          ":" ++ zeroPad 2 nowAest.second ++ " AEST — " ++ "post-close cutoff is " ++
          zeroPad 2 asxPostCloseCutoffHour ++ ":" ++ zeroPad 2 asxPostCloseCutoffMinute ++ ":" ++
          zeroPad 2 asxPostCloseCutoffSecond ++ " AEST (ASIC).")]
    else []

theorem checkPostCloseCutoff_eq_nil {order : OrderIntent} {nowAest : ClockTime} :
    checkPostCloseCutoff order nowAest = [] ↔
      (order.exchange ∈ asxExchanges → order.isExit = false →
        nowAest.seconds <
          (asxPostCloseCutoffHour * 60 + asxPostCloseCutoffMinute) * 60 +
            asxPostCloseCutoffSecond) := by
  unfold checkPostCloseCutoff
  apply entryOnly_eq_nil
  rw [ite_singleton_eq_nil]
  have hmin := nowAest.minute.isLt
  have hsec := nowAest.second.isLt
  simp only [ClockTime.seconds, asxPostCloseCutoffHour, asxPostCloseCutoffMinute,
    asxPostCloseCutoffSecond]
  omega

/-- `run_australia_checks`. -/
def runAustraliaChecks (order : OrderIntent) (recentOrders pendingOrders : List RecentOrder)
    (approvedShortList : List String) (nowMs : ℤ) (groupOpenMs : Option ℤ)
    (nowAest : Option ClockTime) : List ComplianceViolation :=
  let postClose := match nowAest with
    | none => []
    | some t => checkPostCloseCutoff order t
  checkWashTrading order recentOrders nowMs ++ checkLayering order pendingOrders ++
    checkShortSell order approvedShortList ++ checkStaggeredOpen order groupOpenMs nowMs ++
    postClose

theorem runAustraliaChecks_eq_nil {order : OrderIntent}
    {recentOrders pendingOrders : List RecentOrder} {approvedShortList : List String} {nowMs : ℤ}
    {groupOpenMs : Option ℤ} {nowAest : Option ClockTime} :
    runAustraliaChecks order recentOrders pendingOrders approvedShortList nowMs groupOpenMs
        nowAest = [] ↔
      checkWashTrading order recentOrders nowMs = [] ∧ checkLayering order pendingOrders = [] ∧
      checkShortSell order approvedShortList = [] ∧
      checkStaggeredOpen order groupOpenMs nowMs = [] ∧
      ∀ t, nowAest = some t → checkPostCloseCutoff order t = [] := by
  cases nowAest <;> simp [runAustraliaChecks]

end Intraday.Compliance
