import Intraday.Execution.Engine

/-!
# Intraday.Execution.Exits — protective exits and compliance

Stop-loss exits and kill-switch liquidations are marked as exits, and most checks
let an exit pass. The wash-trade and layering checks of ASX do not ask, so there an
exit is at the mercy of the account's own recent and live orders.
-/

namespace Intraday.Execution

open Intraday.Core Intraday.Lib Intraday.Compliance

variable {registry : StrategyRegistry} {auditId : String} {clockMs : ℤ} {order : OrderIntent}
  {ctx : Context}

/-- The exchanges of `OrderIntent`. -/
def supportedExchanges : List String := ["NSE", "BSE", "ASX", "PAPER"]

/-- The orders that must get through: built by the engine's own constructors for a
registered strategy, with a positive quantity and last traded price. -/
inductive ProtectiveExit (registry : StrategyRegistry) : OrderIntent → Prop where
  | slExit {symbol exchange direction : String} {quantity : ℤ} {stopLoss ltp : ℚ}
      {clientOrderId strategyName : String} (hexchange : exchange ∈ supportedExchanges)
      (hquantity : 0 < quantity) (hltp : 0 < ltp) (hreg : registry.resolve strategyName ≠ none) :
      ProtectiveExit registry
        (makeSlExitOrder symbol exchange direction quantity stopLoss clientOrderId strategyName
          (some ltp))
  | liquidation {symbol exchange direction : String} {quantity : ℤ} {ltp : ℚ}
      {clientOrderId strategyName : String} (hexchange : exchange ∈ supportedExchanges)
      (hquantity : 0 < quantity) (hltp : 0 < ltp) (hreg : registry.resolve strategyName ≠ none) :
      ProtectiveExit registry
        (makeKillSwitchLiquidationOrder symbol exchange direction quantity ltp clientOrderId
          strategyName)

theorem ProtectiveExit.isExit (h : ProtectiveExit registry order) : order.isExit = true := by
  cases h <;> rfl

theorem ProtectiveExit.registered (h : ProtectiveExit registry order) :
    registry.resolve order.strategyName ≠ none := by
  cases h <;> assumption

theorem ProtectiveExit.hasLtp (h : ProtectiveExit registry order) :
    (computeMppPrice order).isSome := by
  rw [computeMppPrice_isSome]
  cases h with
  | slExit _ _ hltp _ => exact ⟨_, rfl, hltp⟩
  | liquidation _ _ hltp _ => exact ⟨_, rfl, hltp⟩

/-- No own order of the symbol stands against the order: none recent, none live. -/
def Unopposed (order : OrderIntent) (ctx : Context) (nowMs : ℤ) : Prop :=
  (∀ r ∈ ctx.recentOrders, ¬ IsWash order nowMs r) ∧ ∀ p ∈ ctx.pendingOrders, ¬ IsLayer order p

/-- On NSE and BSE a protective exit finds no objection. -/
theorem ProtectiveExit.india_nil (h : ProtectiveExit registry order)
    (hm : order.exchange ∈ indiaExchanges) : violationsOf registry clockMs order ctx = [] := by
  have hentry : ¬ order.isExit = false := by simp [h.isExit]
  rw [violationsOf_india hm, runIndiaChecks_eq_nil, checkStrategyId_eq_nil,
    checkMarketOrder_eq_nil, checkLeverage_eq_nil, checkMwpl_eq_nil]
  exact ⟨fun _ => h.registered, fun _ _ => h.hasLtp, fun _ hx => absurd hx hentry,
    fun _ hx => absurd hx hentry,
    fun t _ => checkForceSquareOff_eq_nil.mpr fun _ hx => absurd hx hentry⟩

/-- On ASX only the two checks that ignore `is_exit` can object. -/
theorem ProtectiveExit.asx_nil_iff (h : ProtectiveExit registry order)
    (hm : order.exchange = "ASX") :
    violationsOf registry clockMs order ctx = [] ↔
      Unopposed order ctx (ctx.nowMs.getD clockMs) := by
  have hentry : ¬ order.isExit = false := by simp [h.isExit]
  have hasx : order.exchange ∈ asxExchanges := by simp [hm, asxExchanges]
  rw [violationsOf_asx hm, runAustraliaChecks_eq_nil, checkWashTrading_eq_nil,
    checkLayering_eq_nil, checkShortSell_eq_nil, checkStaggeredOpen_eq_nil]
  constructor
  · rintro ⟨hwash, hlayer, -⟩
    exact ⟨hwash hasx, hlayer hasx⟩
  · rintro ⟨hwash, hlayer⟩
    exact ⟨fun _ => hwash, fun _ => hlayer, fun _ hx => absurd hx hentry,
      fun _ hx => absurd hx hentry,
      fun t _ => checkPostCloseCutoff_eq_nil.mpr fun _ hx => absurd hx hentry⟩

/-- A protective exit passes compliance exactly when, on ASX, no own order of the symbol
stands against it. -/
theorem protective_exit_approved_iff (registry : StrategyRegistry) (auditId : String)
    (clockMs : ℤ) (order : OrderIntent) (ctx : Context) (h : ProtectiveExit registry order) :
    (check registry auditId clockMs order ctx).approved = true ↔
      (order.exchange = "ASX" → Unopposed order ctx (ctx.nowMs.getD clockMs)) := by
  rw [check_approved_iff]
  by_cases hi : order.exchange ∈ indiaExchanges
  · have hna : order.exchange ≠ "ASX" := fun ha => not_india_of_asx ha hi
    exact ⟨fun _ ha => absurd ha hna, fun _ => h.india_nil hi⟩
  · by_cases ha : order.exchange = "ASX"
    · rw [h.asx_nil_iff ha]
      exact ⟨fun hu _ => hu, fun hu => hu ha⟩
    · exact ⟨fun _ hx => absurd hx ha, fun _ => violationsOf_other hi ha⟩

/-- The registry of the generic credential. -/
def genericRegistry : StrategyRegistry := .init (fun _ => none) (some true)

/-- The stop-loss exit of a long BHP position. -/
def bhpExit : OrderIntent :=
  makeSlExitOrder "BHP" "ASX" "LONG" 100 44 "SL-1" "EMA_VWAP_TREND" (some 44)

theorem bhpExit_protective : ProtectiveExit genericRegistry bhpExit :=
  .slExit (by decide) (by decide) (by decide) (by decide)

/-- Thirty seconds after the entry. -/
def soonAfterEntry : Context :=
  { nowMs := some 30000
    recentOrders := [{ symbol := "BHP", direction := "LONG", placedAtMs := 0 }] }

/-- The exit passes once the entry is out of the window, and not before. -/
theorem bhp_exit_after_window :
    (check genericRegistry "A1" 0 bhpExit { soonAfterEntry with nowMs := some 60001 }).approved
      = true ∧
    ¬ (check genericRegistry "A1" 0 bhpExit soonAfterEntry).approved = true := by
  constructor
  · rw [protective_exit_approved_iff _ _ _ _ _ bhpExit_protective]
    exact fun _ => ⟨by decide, by decide⟩
  · rw [protective_exit_approved_iff _ _ _ _ _ bhpExit_protective]
    intro h
    exact absurd (h rfl).1 (by decide)

/-- A stop that triggers within a minute of the entry is blocked as a wash trade. -/
theorem early_stop_is_blocked :
    ¬ ∀ registry order, ProtectiveExit registry order →
      ∀ auditId clockMs ctx, (check registry auditId clockMs order ctx).approved = true := by
  intro h
  have happ := h genericRegistry bhpExit bhpExit_protective "A1" 0 soonAfterEntry
  exact absurd happ (by decide +kernel)

end Intraday.Execution
