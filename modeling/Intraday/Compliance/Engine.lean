import Mathlib.Algebra.Order.Field.Basic
import Mathlib.Tactic.NormNum
import Intraday.Compliance.Checks
import Intraday.Compliance.StrategyRegistry

/-!
# Intraday.Compliance.Engine — `ComplianceEngine.check`

The gate between signal generation and order submission: the checks of the
order's market, and on a pass the order with its tag and effective type. The
audit id and the clock are drawn outside and come in as arguments.
-/

namespace Intraday.Compliance

open Intraday.Core

/-- The violations of the order's market, the effective order type and the MPP
price. An exchange other than the three (`PAPER`) passes through. -/
def marketChecks (strategyTag : Option String) (nowMs : ℤ) (order : OrderIntent) (ctx : Context) :
    List ComplianceViolation × String × Option ℚ :=
  if order.exchange ∈ indiaExchanges then
    runIndiaChecks order strategyTag ctx.nowIst
  else if order.exchange = "ASX" then
    (runAustraliaChecks order ctx.recentOrders ctx.pendingOrders ctx.approvedShortList nowMs
      ctx.groupOpenMs ctx.nowAest, order.orderType, none)
  else
    ([], order.orderType, none)

/-- The order as it goes to execution. Without a resolved tag (`PAPER`) the first
eight characters of the strategy name stand in. -/
def tagOrder (strategyTag : Option String) (effectiveOrderType : String) (mppPrice : Option ℚ)
    (order : OrderIntent) : TaggedOrder :=
  { original := order
    strategyTag := strategyTag.getD (String.ofList (order.strategyName.toList.take 8))
    effectiveOrderType := effectiveOrderType
    mppPrice := mppPrice }

/-- `ComplianceEngine.check`, with the audit id and the clock reading it draws. -/
def check (registry : StrategyRegistry) (auditId : String) (clockMs : ℤ) (order : OrderIntent)
    (ctx : Context) : ComplianceDecision :=
  let nowMs := ctx.nowMs.getD clockMs
  let strategyTag := registry.resolve order.strategyName
  let (violations, effectiveOrderType, mppPrice) := marketChecks strategyTag nowMs order ctx
  if violations ≠ [] then
    { approved := false, violations := violations, taggedOrder := none, auditId := auditId }
  else
    { approved := true
      violations := []
      taggedOrder := some (tagOrder strategyTag effectiveOrderType mppPrice order)
      auditId := auditId }

/-! ## What a decision says -/

section Decision

variable {registry : StrategyRegistry} {auditId : String} {clockMs : ℤ} {order : OrderIntent}
  {ctx : Context}

/-- The violations `check` collects. -/
def violationsOf (registry : StrategyRegistry) (clockMs : ℤ) (order : OrderIntent)
    (ctx : Context) : List ComplianceViolation :=
  (marketChecks (registry.resolve order.strategyName) (ctx.nowMs.getD clockMs) order ctx).1

theorem check_of_violations (h : violationsOf registry clockMs order ctx ≠ []) :
    check registry auditId clockMs order ctx =
      { approved := false, violations := violationsOf registry clockMs order ctx
        taggedOrder := none, auditId := auditId } := by
  rw [check]
  exact if_pos h

/-- The order an approval hands on. It depends on the registry and the order alone. -/
def taggedFor (registry : StrategyRegistry) (order : OrderIntent) : TaggedOrder :=
  let (effectiveOrderType, mppPrice) :=
    if order.exchange ∈ indiaExchanges then (checkMarketOrder order).2 else (order.orderType, none)
  tagOrder (registry.resolve order.strategyName) effectiveOrderType mppPrice order

theorem marketChecks_snd (strategyTag : Option String) (nowMs : ℤ) :
    (marketChecks strategyTag nowMs order ctx).2 =
      if order.exchange ∈ indiaExchanges then (checkMarketOrder order).2
      else (order.orderType, none) := by
  unfold marketChecks
  by_cases hi : order.exchange ∈ indiaExchanges
  · rw [if_pos hi, if_pos hi, runIndiaChecks_type]
  · rw [if_neg hi, if_neg hi]
    by_cases ha : order.exchange = "ASX"
    · rw [if_pos ha]
    · rw [if_neg ha]

theorem check_of_nil (h : violationsOf registry clockMs order ctx = []) :
    check registry auditId clockMs order ctx =
      { approved := true, violations := [], auditId := auditId
        taggedOrder := some (taggedFor registry order) } := by
  have htag : taggedFor registry order =
      tagOrder (registry.resolve order.strategyName)
        (marketChecks (registry.resolve order.strategyName) (ctx.nowMs.getD clockMs) order ctx).2.1
        (marketChecks (registry.resolve order.strategyName) (ctx.nowMs.getD clockMs) order ctx).2.2
        order := by
    rw [marketChecks_snd]
    rfl
  rw [check, htag]
  exact if_neg (not_not.mpr h)

theorem check_approved_iff :
    (check registry auditId clockMs order ctx).approved = true ↔
      violationsOf registry clockMs order ctx = [] := by
  by_cases h : violationsOf registry clockMs order ctx = []
  · rw [check_of_nil h]
    simp [h]
  · rw [check_of_violations h]
    simp [h]

theorem check_violations :
    (check registry auditId clockMs order ctx).violations =
      violationsOf registry clockMs order ctx := by
  by_cases h : violationsOf registry clockMs order ctx = []
  · rw [check_of_nil h, h]
  · rw [check_of_violations h]

theorem check_taggedOrder_isSome :
    (check registry auditId clockMs order ctx).taggedOrder.isSome ↔
      (check registry auditId clockMs order ctx).approved = true := by
  by_cases h : violationsOf registry clockMs order ctx = []
  · rw [check_of_nil h]
    simp
  · rw [check_of_violations h]
    simp

@[simp] theorem check_auditId : (check registry auditId clockMs order ctx).auditId = auditId := by
  by_cases h : violationsOf registry clockMs order ctx = []
  · rw [check_of_nil h]
  · rw [check_of_violations h]

/-- A tagged order comes from an approval, and is the order's own. -/
theorem check_tagged {tagged : TaggedOrder}
    (h : (check registry auditId clockMs order ctx).taggedOrder = some tagged) :
    violationsOf registry clockMs order ctx = [] ∧ tagged = taggedFor registry order := by
  by_cases hv : violationsOf registry clockMs order ctx = []
  · rw [check_of_nil hv] at h
    exact ⟨hv, (Option.some.inj h).symm⟩
  · rw [check_of_violations hv] at h
    exact nomatch h

theorem violationsOf_india (hm : order.exchange ∈ indiaExchanges) :
    violationsOf registry clockMs order ctx =
      (runIndiaChecks order (registry.resolve order.strategyName) ctx.nowIst).1 := by
  rw [violationsOf, marketChecks, if_pos hm]

theorem not_india_of_asx (hm : order.exchange = "ASX") : order.exchange ∉ indiaExchanges := by
  rw [hm]
  decide

theorem violationsOf_asx (hm : order.exchange = "ASX") :
    violationsOf registry clockMs order ctx =
      runAustraliaChecks order ctx.recentOrders ctx.pendingOrders ctx.approvedShortList
        (ctx.nowMs.getD clockMs) ctx.groupOpenMs ctx.nowAest := by
  rw [violationsOf, marketChecks, if_neg (not_india_of_asx hm), if_pos hm]

theorem violationsOf_other (hi : order.exchange ∉ indiaExchanges) (ha : order.exchange ≠ "ASX") :
    violationsOf registry clockMs order ctx = [] := by
  rw [violationsOf, marketChecks, if_neg hi, if_neg ha]

/-! ## What an approval guarantees -/

/-- The guarantees of an approval on NSE and BSE. -/
structure IndiaSound (registry : StrategyRegistry) (order : OrderIntent) (ctx : Context)
    (tagged : TaggedOrder) : Prop where
  tag : registry.resolve order.strategyName = some tagged.strategyTag
  tag_short : tagged.strategyTag.length ≤ 8
  not_market : tagged.effectiveOrderType ≠ "MARKET"
  mpp : order.orderType = "MARKET" →
    tagged.effectiveOrderType = "MPP" ∧ tagged.mppPrice ≠ none
  leverage : order.isExit = false → 0 < order.capital → 0 < order.notionalValue →
    order.notionalValue / order.capital ≤ 5
  mwpl : order.isExit = false → ∀ pct, order.mwplPct = some pct → pct ≤ 90
  square_off : order.isExit = false → ∀ t, ctx.nowIst = some t → t.minutes < 15 * 60 + 10

/-- The guarantees of an approval on ASX at `nowMs`. -/
structure AsxSound (order : OrderIntent) (ctx : Context) (nowMs : ℤ) : Prop where
  no_wash : ∀ r ∈ ctx.recentOrders, r.symbol = order.symbol →
    r.direction = opposite order.direction → r.placedAtMs < nowMs - 60 * 1000
  no_layer : ∀ p ∈ ctx.pendingOrders, p.symbol = order.symbol →
    p.direction ≠ opposite order.direction
  short_approved : order.isExit = false → order.direction = "SHORT" →
    order.symbol ∈ ctx.approvedShortList
  after_open : order.isExit = false → ∀ openMs, ctx.groupOpenMs = some openMs →
    15 * 60000 ≤ nowMs - openMs
  before_cutoff : order.isExit = false → ∀ t, ctx.nowAest = some t →
    t.seconds < (16 * 60 + 21) * 60 + 30

theorem check_india_sound {tagged : TaggedOrder} (hm : order.exchange ∈ indiaExchanges)
    (h : (check registry auditId clockMs order ctx).taggedOrder = some tagged) :
    IndiaSound registry order ctx tagged := by
  rcases check_tagged h with ⟨hv, rfl⟩
  rw [violationsOf_india hm, runIndiaChecks_eq_nil, checkStrategyId_eq_nil,
    checkLeverage_eq_nil, checkMwpl_eq_nil] at hv
  rcases hv with ⟨hid, hmkt, hlev, hmwpl, hsq⟩
  rcases Option.ne_none_iff_exists'.mp (hid hm) with ⟨tag, htag⟩
  have htype := checkMarketOrder_type hm hmkt
  -- the tag resolved, so the stand-in of `tagOrder` is not used
  simp only [taggedFor, if_pos hm, tagOrder, htag, Option.getD_some]
  exact
    { tag := htag
      tag_short := registry.resolve_short htag
      not_market := htype.1
      mpp := htype.2
      leverage := hlev hm
      mwpl := hmwpl hm
      square_off := fun hx t ht => checkForceSquareOff_eq_nil.mp (hsq t ht) hm hx }

/-- Fifteen minutes, in milliseconds. -/
theorem staggered_ms {elapsed : ℤ}
    (h : asxStaggeredOpenNoiseFilterMinutes ≤ (elapsed : ℚ) / 60000) : 15 * 60000 ≤ elapsed := by
  rw [asxStaggeredOpenNoiseFilterMinutes, le_div_iff₀ (by norm_num)] at h
  exact_mod_cast h

theorem check_asx_sound (hm : order.exchange = "ASX")
    (h : (check registry auditId clockMs order ctx).approved = true) :
    AsxSound order ctx (ctx.nowMs.getD clockMs) := by
  have hasx : order.exchange ∈ asxExchanges := by simp [hm, asxExchanges]
  rw [check_approved_iff, violationsOf_asx hm, runAustraliaChecks_eq_nil,
    checkWashTrading_eq_nil, checkLayering_eq_nil, checkShortSell_eq_nil,
    checkStaggeredOpen_eq_nil] at h
  rcases h with ⟨hwash, hlayer, hshort, hopen, hclose⟩
  exact
    { no_wash := fun r hr hs hd => not_le.mp fun hle => hwash hasx r hr ⟨hs, hd, hle⟩
      no_layer := fun p hp hs hd => hlayer hasx p hp ⟨hs, hd⟩
      short_approved := hshort hasx
      after_open := fun hx openMs ho => staggered_ms (hopen hasx hx openMs ho)
      before_cutoff := fun hx t ht => checkPostCloseCutoff_eq_nil.mp (hclose t ht) hasx hx }

end Decision

end Intraday.Compliance
