import Mathlib.Algebra.BigOperators.Group.List.Basic
import Mathlib.Tactic.Ring
import Intraday.Instruments.Models
import Intraday.Lib.Rounding
import Intraday.Patterns.Models

/-!
# Intraday.Instruments.Adjustment — `shared/instruments/adjustment.py`

`adjusted_candles` multiplies, candle by candle, the ratios of the splits and bonuses whose
ex-date comes after the date of the candle. The loop computes one product and its inverse
(`multipliers_eq`), so that the algebra of the function is that of products over a part of
the actions.
-/

namespace Intraday.Instruments

open Intraday.Lib Intraday.Lib.Decimal Intraday.Lib.Raise Intraday.Patterns

/-! ## The function -/

/-- One action of the loop on `price_mult` and `volume_mult`, at a candle of the date `day`. -/
def applyRatio (day : ℤ) (mult : ℚ × ℚ) (r : Ratio) : ℚ × ℚ :=
  if day < r.exDate.toOrdinal then
    (mult.1 * (r.denominator / r.numerator), mult.2 * (r.numerator / r.denominator))
  else mult

/-- `price_mult` and `volume_mult` of a candle. -/
def multipliers (relevant : List Ratio) (day : ℤ) : ℚ × ℚ :=
  relevant.foldl (applyRatio day) (1, 1)

/-- The adjusted copy of a candle. -/
def adjustCandle (relevant : List Ratio) (c : OHLCVCandle) : OHLCVCandle :=
  let mult := multipliers relevant c.time.ordinal
  { time := c.time
    symbol := c.symbol
    exchange := c.exchange
    openPrice := c.openPrice * mult.1
    high := c.high * mult.1
    low := c.low * mult.1
    close := c.close * mult.1
    volume := roundHalfEven (c.volume * mult.2) }

/-- The splits and bonuses, sorted by their ex-dates. -/
def relevantRatios (actions : List (CorporateAction String ℚ)) : List Ratio :=
  (actions.filterMap CorporateAction.ratio?).mergeSort
    fun r s => decide (r.exDate.toOrdinal ≤ s.exDate.toOrdinal)

/-- `adjusted_candles`. -/
def adjustedCandles (candles : List OHLCVCandle) (actions : List (CorporateAction String ℚ)) :
    List OHLCVCandle :=
  if candles = [] then [] else candles.map (adjustCandle (relevantRatios actions))

/-! ## The factor of a day -/

/-- The product of the ratios that take effect after `day`. -/
def factor (ratios : List Ratio) (day : ℤ) : ℚ :=
  ((ratios.filter fun r => decide (day < r.exDate.toOrdinal)).map
    fun r => r.denominator / r.numerator).prod

theorem Ratio.pos (r : Ratio) : 0 < r.denominator / r.numerator :=
  div_pos r.denominator_pos r.numerator_pos

theorem factor_cons (r : Ratio) (ratios : List Ratio) (day : ℤ) :
    factor (r :: ratios) day =
      (if day < r.exDate.toOrdinal then r.denominator / r.numerator else 1) *
        factor ratios day := by
  unfold factor
  by_cases h : day < r.exDate.toOrdinal
  · rw [List.filter_cons_of_pos (by simpa using h), List.map_cons, List.prod_cons, if_pos h]
  · rw [List.filter_cons_of_neg (by simpa using h), if_neg h, one_mul]

theorem factor_append (ratios later : List Ratio) (day : ℤ) :
    factor (ratios ++ later) day = factor ratios day * factor later day := by
  rw [factor, List.filter_append, List.map_append, List.prod_append]
  rfl

theorem factor_perm {ratios ratios' : List Ratio} (h : ratios.Perm ratios') (day : ℤ) :
    factor ratios day = factor ratios' day :=
  ((h.filter _).map _).prod_eq

theorem factor_pos (ratios : List Ratio) (day : ℤ) : 0 < factor ratios day := by
  induction ratios with
  | nil => exact one_pos
  | cons r ratios ih =>
      rw [factor_cons]
      split_ifs
      · exact mul_pos r.pos ih
      · rwa [one_mul]

/-- From the last ex-date on nothing is adjusted. -/
theorem factor_eq_one {ratios : List Ratio} {day : ℤ}
    (h : ∀ r ∈ ratios, (r.exDate.toOrdinal : ℤ) ≤ day) : factor ratios day = 1 := by
  induction ratios with
  | nil => rfl
  | cons r ratios ih =>
      have hr : (r.exDate.toOrdinal : ℤ) ≤ day := h r List.mem_cons_self
      have hrest : ∀ s ∈ ratios, (s.exDate.toOrdinal : ℤ) ≤ day := by
        intro s hs
        exact h s (List.mem_cons_of_mem _ hs)
      rw [factor_cons, if_neg (not_lt.mpr hr), one_mul]
      exact ih hrest

/-- The loop computes the factor and its inverse. -/
theorem foldl_applyRatio (ratios : List Ratio) (day : ℤ) (p v : ℚ) :
    ratios.foldl (applyRatio day) (p, v) =
      (p * factor ratios day, v * (factor ratios day)⁻¹) := by
  induction ratios generalizing p v with
  | nil => simp [factor]
  | cons r ratios ih =>
      rw [List.foldl_cons, factor_cons, applyRatio]
      split_ifs with h
      · rw [ih, mul_inv, inv_div]
        ring_nf
      · rw [ih, one_mul]

theorem multipliers_eq (ratios : List Ratio) (day : ℤ) :
    multipliers ratios day = (factor ratios day, (factor ratios day)⁻¹) := by
  rw [multipliers, foldl_applyRatio, one_mul, one_mul]

/-! ## Adjusted candles -/

/-- A candle with its prices multiplied by `f`, and its volume divided by it. -/
def scaled (f : ℚ) (c : OHLCVCandle) : OHLCVCandle :=
  { time := c.time
    symbol := c.symbol
    exchange := c.exchange
    openPrice := c.openPrice * f
    high := c.high * f
    low := c.low * f
    close := c.close * f
    volume := roundHalfEven (c.volume * f⁻¹) }

theorem scaled_one (c : OHLCVCandle) : scaled 1 c = c := by
  simp [scaled]

/-- The ratios of the actions, in the order of the actions. -/
def ratios (actions : List (CorporateAction String ℚ)) : List Ratio :=
  actions.filterMap CorporateAction.ratio?

theorem factor_relevantRatios (actions : List (CorporateAction String ℚ)) (day : ℤ) :
    factor (relevantRatios actions) day = factor (ratios actions) day :=
  factor_perm (List.mergeSort_perm _ _) day

/-- The function in one equation. -/
theorem adjustedCandles_eq (candles : List OHLCVCandle)
    (actions : List (CorporateAction String ℚ)) :
    adjustedCandles candles actions =
      candles.map fun c => scaled (factor (ratios actions) c.time.ordinal) c := by
  have hadjust : adjustCandle (relevantRatios actions) =
      fun c => scaled (factor (ratios actions) c.time.ordinal) c := by
    funext c
    rw [adjustCandle, multipliers_eq, factor_relevantRatios]
    rfl
  rw [adjustedCandles, hadjust]
  split_ifs with h
  · rw [h, List.map_nil]
  · rfl

theorem mem_ratios {actions : List (CorporateAction String ℚ)} {r : Ratio}
    (h : r ∈ ratios actions) : ∃ a ∈ actions, r.exDate = a.args.exDate := by
  rcases List.mem_filterMap.mp h with ⟨a, ha, hr⟩
  refine ⟨a, ha, ?_⟩
  cases hadjusting : a.priceAdjusting with
  | false =>
      rw [CorporateAction.ratio?_eq_none hadjusting] at hr
      cases hr
  | true =>
      rcases CorporateAction.ratio?_eq_some hadjusting with ⟨s, hs, hdate, -⟩
      rw [hs] at hr
      rcases Option.some.inj hr with rfl
      exact hdate

/-- The four prices of a candle. -/
def prices (c : OHLCVCandle) : List ℚ := [c.openPrice, c.high, c.low, c.close]

/-- `low <= open, close <= high`. -/
def PricesInOrder (c : OHLCVCandle) : Prop :=
  (c.low ≤ c.openPrice ∧ c.openPrice ≤ c.high) ∧ c.low ≤ c.close ∧ c.close ≤ c.high

theorem PricesInOrder.scaled {c : OHLCVCandle} (h : PricesInOrder c) {f : ℚ} (hf : 0 < f) :
    PricesInOrder (scaled f c) := by
  rcases h with ⟨⟨hlowOpen, hopenHigh⟩, hlowClose, hcloseHigh⟩
  refine ⟨⟨?_, ?_⟩, ?_, ?_⟩
  · exact mul_le_mul_of_nonneg_right hlowOpen hf.le
  · exact mul_le_mul_of_nonneg_right hopenHigh hf.le
  · exact mul_le_mul_of_nonneg_right hlowClose hf.le
  · exact mul_le_mul_of_nonneg_right hcloseHigh hf.le

/-- How a candle is related to its adjusted copy. `shares` is the volume before it is rounded. -/
structure AdjustedFrom (actions : List (CorporateAction String ℚ)) (c c' : OHLCVCandle) : Prop where
  time : c'.time = c.time
  symbol : c'.symbol = c.symbol
  exchange : c'.exchange = c.exchange
  unchanged : (∀ a ∈ actions, (a.args.exDate.toOrdinal : ℤ) ≤ c.time.ordinal) → c' = c
  in_order : PricesInOrder c → PricesInOrder c'
  value : ∃ shares : ℚ, |(c'.volume : ℚ) - shares| ≤ 1 / 2 ∧
    (prices c').map (· * shares) = (prices c).map (· * (c.volume : ℚ))

theorem adjustedFrom_scaled (actions : List (CorporateAction String ℚ)) (c : OHLCVCandle) :
    AdjustedFrom actions c (scaled (factor (ratios actions) c.time.ordinal) c) := by
  have hpos := factor_pos (ratios actions) c.time.ordinal
  refine ⟨rfl, rfl, rfl, ?_, ?_, ?_⟩
  · intro hdates
    have hone : factor (ratios actions) c.time.ordinal = 1 := by
      apply factor_eq_one
      intro r hr
      rcases mem_ratios hr with ⟨a, ha, hdate⟩
      rw [hdate]
      exact hdates a ha
    rw [hone, scaled_one]
  · intro horder
    exact horder.scaled hpos
  · refine ⟨c.volume * (factor (ratios actions) c.time.ordinal)⁻¹, ?_, ?_⟩
    · exact abs_roundHalfEven_sub_le _
    · -- the factor of the prices and that of the volume cancel
      have hcancel : ∀ p : ℚ, p * factor (ratios actions) c.time.ordinal *
          (c.volume * (factor (ratios actions) c.time.ordinal)⁻¹) = p * c.volume := by
        intro p
        field_simp
      simp only [prices, scaled, List.map_cons, List.map_nil, hcancel]

theorem prices_scaled (f g : ℚ) (c : OHLCVCandle) :
    prices (scaled (f * g) c) = prices (scaled g (scaled f c)) := by
  simp only [prices, scaled, mul_assoc]

/-- The algebra of back-adjustment: the order of the actions does not matter; adjusting by
`actions ++ later` gives the prices of adjusting twice; the candles keep their number, their
times and the order of their prices, and each the value traded up to the rounding of the volume;
and actions that are neither splits nor bonuses have no effect. -/
theorem adjustedCandles_algebra (candles : List OHLCVCandle)
    (actions : List (CorporateAction String ℚ)) :
    (∀ actions', actions.Perm actions' →
      adjustedCandles candles actions' = adjustedCandles candles actions) ∧
    (∀ later, (adjustedCandles candles (actions ++ later)).map prices =
      (adjustedCandles (adjustedCandles candles actions) later).map prices) ∧
    List.Forall₂ (AdjustedFrom actions) candles (adjustedCandles candles actions) ∧
    (∀ before after a, a.args.actionType = .dividend ∨ a.args.actionType = .symbolChange →
      actions = before ++ a :: after →
      adjustedCandles candles actions = adjustedCandles candles (before ++ after)) := by
  simp only [adjustedCandles_eq]
  refine ⟨?_, ?_, ?_, ?_⟩
  · intro actions' hperm
    have hratios : (ratios actions').Perm (ratios actions) := (hperm.filterMap _).symm
    apply List.map_congr_left
    intro c _
    rw [factor_perm hratios]
  · intro later
    rw [List.map_map, List.map_map, List.map_map]
    apply List.map_congr_left
    intro c _
    -- an adjusted candle has the date that it had before
    have hsplit : factor (ratios (actions ++ later)) c.time.ordinal =
        factor (ratios actions) c.time.ordinal * factor (ratios later) c.time.ordinal := by
      rw [ratios, List.filterMap_append, factor_append]
      rfl
    simp only [Function.comp_apply]
    rw [hsplit, prices_scaled]
    rfl
  · rw [List.forall₂_map_right_iff]
    exact List.forall₂_same.mpr fun c _ => adjustedFrom_scaled actions c
  · intro before after a htype hactions
    have hadjusting : a.priceAdjusting = false := by
      unfold CorporateAction.priceAdjusting
      rcases htype with h | h <;> rw [h] <;> rfl
    have hratios : ratios actions = ratios (before ++ after) := by
      rw [hactions, ratios, ratios, List.filterMap_append, List.filterMap_append,
        List.filterMap_cons_none (CorporateAction.ratio?_eq_none hadjusting)]
    rw [hratios]

end Intraday.Instruments
