import Intraday.Signals.Confidence

/-!
# Intraday.Signals.Geometry — the order of the published prices

The stop and the targets are the price plus and minus multiples of the ATR, rounded to four
decimals; the entry is the price itself. No gate looks at the ATR, so the order of the four depends
on it: an ATR of zero, one that rounding swallows and one that takes a price below zero each break
it.

`price_geometry_iff` is the exact condition on the price and the ATR; `longFits_iff_of_ticks` and
`shortFits_iff_of_ticks` read it for a price of at most four decimals.
-/

namespace Intraday.Signals

open Intraday.Core Intraday.Lib Intraday.Lib.Decimal Intraday.Lib.Raise

variable {ctx : SignalContext} {now : PyDateTime} {result : EvaluatedSignal}

/-- The order of the published prices, for the direction of the signal. -/
structure PriceGeometry (result : EvaluatedSignal) : Prop where
  long : result.direction = "LONG" → 0 < result.stopLoss ∧ result.stopLoss < result.entryPrice ∧
    result.entryPrice < result.target1 ∧ result.target1 < result.target2
  short : result.direction = "SHORT" → result.stopLoss > result.entryPrice ∧
    result.entryPrice > result.target1 ∧ result.target1 > result.target2 ∧ result.target2 > 0

/-- Four decimals, as an integral number of ticks. -/
def ticks (x : ℚ) : ℚ := x * 10 ^ 4

/-- Past rounding the stop of a long stays above zero and below the price, the first target above
the price, and the second above the first. -/
def LongFits (price atr : ℚ) : Prop :=
  0 < atr ∧ PastHalf 0 (ticks (price - 3 / 2 * atr)) ∧
    ¬ PastHalf (⌈ticks price⌉ - 1) (ticks (price - 3 / 2 * atr)) ∧
    PastHalf ⌊ticks price⌋ (ticks (price + 9 / 4 * atr)) ∧
    ∃ n : ℤ, ¬ PastHalf n (ticks (price + 9 / 4 * atr)) ∧
      PastHalf n (ticks (price + 9 / 2 * atr))

/-- The same for a short. -/
def ShortFits (price atr : ℚ) : Prop :=
  0 < atr ∧ PastHalf ⌊ticks price⌋ (ticks (price + 3 / 2 * atr)) ∧
    ¬ PastHalf (⌈ticks price⌉ - 1) (ticks (price - 9 / 4 * atr)) ∧
    (∃ n : ℤ, ¬ PastHalf n (ticks (price - 9 / 2 * atr)) ∧
      PastHalf n (ticks (price - 9 / 4 * atr))) ∧
    PastHalf 0 (ticks (price - 9 / 2 * atr))

/-- The ATR fits the price, for the direction of the trade. -/
structure SpreadFits (ctx : SignalContext) : Prop where
  long : ctx.direction = "LONG" → LongFits ctx.currentPrice ctx.atr
  short : ctx.direction = "SHORT" → ShortFits ctx.currentPrice ctx.atr

/-! ## The published prices -/

/-- A generated signal publishes the price and the rounded stop and targets. -/
theorem published_prices (h : evaluate now ctx = .ok result) (hgen : result.generated = true) :
    result.direction = ctx.direction ∧ result.entryPrice = ctx.currentPrice ∧
      result.stopLoss = roundTo 4 (computeStopAndTargets ctx).1 ∧
      result.target1 = roundTo 4 (computeStopAndTargets ctx).2.1 ∧
      result.target2 = roundTo 4 (computeStopAndTargets ctx).2.2 := by
  rcases evaluate_cases h with ⟨n, rs, r, -, -, -, -, -, rfl⟩ | ⟨rs, -, -, hresult⟩
  · cases hgen
  · cases h9 : (gate9 ctx).passed with
    | true =>
        rw [h9, if_pos rfl] at hresult
        subst hresult
        exact ⟨rfl, rfl, rfl, rfl, rfl⟩
    | false =>
        rw [h9, if_neg Bool.false_ne_true] at hresult
        subst hresult
        cases hgen

theorem published_lt_iff {x y : ℚ} : roundTo 4 x < y ↔ ¬ PastHalf (⌈ticks y⌉ - 1) (ticks x) :=
  roundTo_lt_iff

theorem lt_published_iff {x y : ℚ} : x < roundTo 4 y ↔ PastHalf ⌊ticks x⌋ (ticks y) :=
  lt_roundTo_iff

theorem published_lt_published_iff {x y : ℚ} :
    roundTo 4 x < roundTo 4 y ↔ ∃ n : ℤ, ¬ PastHalf n (ticks x) ∧ PastHalf n (ticks y) :=
  roundTo_lt_roundTo_iff

theorem published_pos_iff {x : ℚ} : 0 < roundTo 4 x ↔ PastHalf 0 (ticks x) := by
  rw [lt_published_iff, ticks, zero_mul, Int.floor_zero]

/-! ## The sign of the ATR -/

theorem ticks_add (x y : ℚ) : ticks (x + y) = ticks x + ticks y := add_mul _ _ _

theorem ticks_sub (x y : ℚ) : ticks (x - y) = ticks x - ticks y := sub_mul _ _ _

theorem ticks_mul (c x : ℚ) : ticks (c * x) = c * ticks x := mul_assoc _ _ _

theorem ticks_neg (x : ℚ) : ticks (-x) = -ticks x := neg_mul _ _

/-- With an ATR that is not positive a long cannot have its stop below the price and two targets
above it. -/
theorem atr_pos_of_long {price atr : ℚ}
    (hstop : ¬ PastHalf (⌈ticks price⌉ - 1) (ticks (price - 3 / 2 * atr)))
    (hfirst : PastHalf ⌊ticks price⌋ (ticks (price + 9 / 4 * |atr|)))
    (hsecond : ∃ n : ℤ, ¬ PastHalf n (ticks (price + 9 / 4 * |atr|)) ∧
      PastHalf n (ticks (price + 9 / 2 * |atr|))) : 0 < atr := by
  by_contra hneg
  rcases hsecond with ⟨n, hbelow, habove⟩
  -- the second target is two ticks above the floor of the price
  have hn : (⌊ticks price⌋ : ℚ) + 1 ≤ n := by exact_mod_cast hfirst.lt_of_not hbelow
  have htarget := habove.le
  have hdistance := le_of_not_pastHalf hstop
  rw [abs_of_nonpos (not_lt.mp hneg)] at htarget
  push_cast at hdistance
  simp only [ticks_add, ticks_sub, ticks_mul, mul_neg, ticks_neg] at htarget hdistance
  have hceil : (⌈ticks price⌉ : ℚ) ≤ ⌊ticks price⌋ + 1 := by
    exact_mod_cast Int.ceil_le_floor_add_one (ticks price)
  have hint : ticks price ≤ ⌊ticks price⌋ := by linarith
  have hexact : (⌈ticks price⌉ : ℚ) ≤ ⌊ticks price⌋ := by exact_mod_cast Int.ceil_le.mpr hint
  linarith [Int.floor_le (ticks price)]

/-- The same for a short. -/
theorem atr_pos_of_short {price atr : ℚ}
    (hstop : PastHalf ⌊ticks price⌋ (ticks (price + 3 / 2 * atr)))
    (hfirst : ¬ PastHalf (⌈ticks price⌉ - 1) (ticks (price - 9 / 4 * |atr|)))
    (hsecond : ∃ n : ℤ, ¬ PastHalf n (ticks (price - 9 / 2 * |atr|)) ∧
      PastHalf n (ticks (price - 9 / 4 * |atr|))) : 0 < atr := by
  by_contra hneg
  rcases hsecond with ⟨n, hbelow, habove⟩
  -- the second target is two ticks below the ceiling of the price
  have hn : (n : ℚ) + 1 ≤ ⌈ticks price⌉ - 1 := by exact_mod_cast habove.lt_of_not hfirst
  have htarget := le_of_not_pastHalf hbelow
  have hdistance := hstop.le
  rw [abs_of_nonpos (not_lt.mp hneg)] at htarget
  simp only [ticks_add, ticks_sub, ticks_mul, mul_neg, ticks_neg] at htarget hdistance
  have hceil : (⌈ticks price⌉ : ℚ) ≤ ⌊ticks price⌋ + 1 := by
    exact_mod_cast Int.ceil_le_floor_add_one (ticks price)
  have hint : (⌈ticks price⌉ : ℚ) ≤ ticks price := by linarith
  have hexact : (⌈ticks price⌉ : ℚ) ≤ ⌊ticks price⌋ := by exact_mod_cast Int.le_floor.mpr hint
  linarith [Int.le_ceil (ticks price)]

/-! ## The condition -/

/-- The stop and the targets before they are rounded. -/
theorem computeStopAndTargets_of (ctx : SignalContext) :
    (ctx.direction = "LONG" → computeStopAndTargets ctx =
      (ctx.currentPrice - 3 / 2 * ctx.atr, ctx.currentPrice + 9 / 4 * |ctx.atr|,
        ctx.currentPrice + 9 / 2 * |ctx.atr|)) ∧
    (ctx.direction = "SHORT" → computeStopAndTargets ctx =
      (ctx.currentPrice + 3 / 2 * ctx.atr, ctx.currentPrice - 9 / 4 * |ctx.atr|,
        ctx.currentPrice - 9 / 2 * |ctx.atr|)) := by
  have hrisk : |3 / 2 * ctx.atr| = 3 / 2 * |ctx.atr| := by
    rw [abs_mul, abs_of_pos (by norm_num)]
  constructor
  · intro hdir
    simp only [computeStopAndTargets, computeStopLoss, computeTargets, hdir, if_true,
      atrStopLossMultiplier, target1RewardRiskRatio, target2RewardRiskRatio, sub_sub_cancel, hrisk]
    ring_nf
  · intro hdir
    have hshort : ctx.direction ≠ "LONG" := by
      rw [hdir]
      decide
    simp only [computeStopAndTargets, computeStopLoss, computeTargets, hshort, if_false,
      atrStopLossMultiplier, target1RewardRiskRatio, target2RewardRiskRatio, sub_add_cancel_left,
      abs_neg, hrisk]
    ring_nf

/-- The order of a long's prices, in terms of the halves that decide the rounding. -/
theorem longFits_iff {price atr : ℚ} :
    LongFits price atr ↔ 0 < roundTo 4 (price - 3 / 2 * atr) ∧
      roundTo 4 (price - 3 / 2 * atr) < price ∧ price < roundTo 4 (price + 9 / 4 * |atr|) ∧
      roundTo 4 (price + 9 / 4 * |atr|) < roundTo 4 (price + 9 / 2 * |atr|) := by
  rw [published_pos_iff, published_lt_iff, lt_published_iff, published_lt_published_iff, LongFits]
  constructor
  · rintro ⟨hatr, hpos, hstop, hfirst, hsecond⟩
    rw [abs_of_pos hatr]
    exact ⟨hpos, hstop, hfirst, hsecond⟩
  · rintro ⟨hpos, hstop, hfirst, hsecond⟩
    have hatr := atr_pos_of_long hstop hfirst hsecond
    rw [abs_of_pos hatr] at hfirst hsecond
    exact ⟨hatr, hpos, hstop, hfirst, hsecond⟩

/-- The order of a short's prices. -/
theorem shortFits_iff {price atr : ℚ} :
    ShortFits price atr ↔ price < roundTo 4 (price + 3 / 2 * atr) ∧
      roundTo 4 (price - 9 / 4 * |atr|) < price ∧
      roundTo 4 (price - 9 / 2 * |atr|) < roundTo 4 (price - 9 / 4 * |atr|) ∧
      0 < roundTo 4 (price - 9 / 2 * |atr|) := by
  rw [published_pos_iff, published_lt_iff, lt_published_iff, published_lt_published_iff, ShortFits]
  constructor
  · rintro ⟨hatr, hstop, hfirst, hsecond, hpos⟩
    rw [abs_of_pos hatr]
    exact ⟨hstop, hfirst, hsecond, hpos⟩
  · rintro ⟨hstop, hfirst, hsecond, hpos⟩
    have hatr := atr_pos_of_short hstop hfirst hsecond
    rw [abs_of_pos hatr] at hfirst hsecond hpos
    exact ⟨hatr, hstop, hfirst, hsecond, hpos⟩

/-- Exactly when a generated signal publishes its prices in order: the ATR is positive, and past
rounding it keeps the stop, the price and the targets apart and above zero. -/
theorem price_geometry_iff (now : PyDateTime) (ctx : SignalContext) (result : EvaluatedSignal)
    (h : evaluate now ctx = .ok result) (hgen : result.generated = true) :
    PriceGeometry result ↔ SpreadFits ctx := by
  rcases published_prices h hgen with ⟨hdir, hentry, hstop, hfirst, hsecond⟩
  rcases computeStopAndTargets_of ctx with ⟨hlong, hshort⟩
  have hlongs : ctx.direction = "LONG" → (LongFits ctx.currentPrice ctx.atr ↔
      0 < result.stopLoss ∧ result.stopLoss < result.entryPrice ∧
        result.entryPrice < result.target1 ∧ result.target1 < result.target2) := by
    intro hd
    rw [longFits_iff, hentry, hstop, hfirst, hsecond, hlong hd]
  have hshorts : ctx.direction = "SHORT" → (ShortFits ctx.currentPrice ctx.atr ↔
      result.stopLoss > result.entryPrice ∧ result.entryPrice > result.target1 ∧
        result.target1 > result.target2 ∧ result.target2 > 0) := by
    intro hd
    rw [shortFits_iff, hentry, hstop, hfirst, hsecond, hshort hd]
  constructor
  · rintro ⟨hordered, hordered'⟩
    exact ⟨fun hd => (hlongs hd).mpr (hordered (hdir.trans hd)),
      fun hd => (hshorts hd).mpr (hordered' (hdir.trans hd))⟩
  · rintro ⟨hfits, hfits'⟩
    exact ⟨fun hd => (hlongs (hdir.symm.trans hd)).mp (hfits (hdir.symm.trans hd)),
      fun hd => (hshorts (hdir.symm.trans hd)).mp (hfits' (hdir.symm.trans hd))⟩

/-- The long of the example publishes 97, 100, 104.5 and 109. -/
theorem sample_geometry :
    PriceGeometry
      (generatedResult (sampleTime 60) (sampleContext false) (sampleTrail false) (3 / 4)) :=
  (price_geometry_iff (sampleTime 60) (sampleContext false)
    (generatedResult (sampleTime 60) (sampleContext false) (sampleTrail false) (3 / 4))
    (by decide +kernel) rfl).mpr
    ⟨fun _ => longFits_iff.mpr (by decide +kernel), fun hshort => absurd hshort (by decide)⟩

/-- With an ATR of zero all four prices are the same. -/
theorem zero_atr_publishes_no_spread :
    ¬ ∀ (now : PyDateTime) (ctx : SignalContext) (result : EvaluatedSignal),
      evaluate now ctx = .ok result → result.generated = true → PriceGeometry result := by
  intro h
  have hresult : evaluate (sampleTime 60) { sampleContext false with atr := 0 } =
      .ok (generatedResult (sampleTime 60) { sampleContext false with atr := 0 }
        (sampleTrail false) (3 / 4)) := by decide +kernel
  have hstop := ((h _ _ _ hresult rfl).long rfl).2.1
  revert hstop
  decide +kernel

/-! ## Prices of at most four decimals -/

/-- Beyond a third of a tick the two targets round apart. -/
theorem targets_apart {n : ℤ} {atr : ℚ} (h : 1 / 3 < atr) :
    (∃ m : ℤ, ¬ PastHalf m (n + 9 / 4 * atr) ∧ PastHalf m (n + 9 / 2 * atr)) ∧
      ∃ m : ℤ, ¬ PastHalf m (n - 9 / 2 * atr) ∧ PastHalf m (n - 9 / 4 * atr) := by
  by_cases hnear : atr < 2 / 3
  · constructor
    · refine ⟨n + 1, fun hpast => ?_, .inl ?_⟩
      · have hle := hpast.le
        push_cast at hle
        linarith
      · push_cast
        linarith
    · refine ⟨n - 2, fun hpast => ?_, .inl ?_⟩
      · have hle := hpast.le
        push_cast at hle
        linarith
      · push_cast
        linarith
  · -- they are more than a tick apart
    exact ⟨exists_half_between (by linarith), exists_half_between (by linarith)⟩

/-- At a price that is a whole number of ticks, the ATR of a long has to exceed a third of a tick
and leave half a tick below the stop. -/
theorem longFits_iff_of_ticks {price atr : ℚ} {n : ℤ} (hprice : ticks price = n) :
    LongFits price atr ↔ 1 / 3 < ticks atr ∧ 3 / 2 * ticks atr < n - 1 / 2 := by
  rw [LongFits, ticks_sub, ticks_add, ticks_add, ticks_mul, ticks_mul, ticks_mul, hprice,
    Int.ceil_intCast, Int.floor_intCast, pastHalf_zero]
  constructor
  · rintro ⟨-, hpos, hstop, -, m, hbelow, habove⟩
    refine ⟨lt_of_le_of_ne ?_ ?_, by linarith⟩
    · have hle := le_of_not_pastHalf hstop
      push_cast at hle
      linarith
    · -- at a third the stop needs an odd price, and the targets an even one
      intro hthird
      rw [pastHalf_tie (by push_cast; linarith)] at hstop
      have hgt : (n : ℚ) < m := by linarith [le_of_not_pastHalf hbelow]
      have hlt : (m : ℚ) < n + 2 := by linarith [habove.le]
      norm_cast at hgt hlt
      obtain rfl : m = n + 1 := by omega
      rw [pastHalf_tie (by push_cast; linarith)] at habove
      omega
  · rintro ⟨hthird, hpos⟩
    have hatr : 0 < atr := by
      rw [ticks] at hthird
      linarith
    refine ⟨hatr, by linarith, fun hpast => ?_, .inl (by linarith), (targets_apart hthird).1⟩
    have hle := hpast.le
    push_cast at hle
    linarith

/-- The ATR of a short has to exceed a third of a tick and leave half a tick below the second
target. -/
theorem shortFits_iff_of_ticks {price atr : ℚ} {n : ℤ} (hprice : ticks price = n) :
    ShortFits price atr ↔ 1 / 3 < ticks atr ∧ 9 / 2 * ticks atr < n - 1 / 2 := by
  rw [ShortFits, ticks_add, ticks_sub, ticks_sub, ticks_mul, ticks_mul, ticks_mul, hprice,
    Int.ceil_intCast, Int.floor_intCast, pastHalf_zero]
  constructor
  · rintro ⟨-, hstop, -, ⟨m, hbelow, habove⟩, hpos⟩
    refine ⟨lt_of_le_of_ne ?_ ?_, by linarith⟩
    · linarith [hstop.le]
    · -- at a third the stop needs an odd price, and the targets an even one
      intro hthird
      rw [pastHalf_tie (by linarith)] at hstop
      have hgt : (n : ℚ) - 3 < m := by linarith [le_of_not_pastHalf hbelow]
      have hlt : (m : ℚ) < n - 1 := by linarith [habove.le]
      norm_cast at hgt hlt
      obtain rfl : m = n - 2 := by omega
      rw [pastHalf_tie (by push_cast; linarith)] at hbelow
      omega
  · rintro ⟨hthird, hpos⟩
    have hatr : 0 < atr := by
      rw [ticks] at hthird
      linarith
    refine ⟨hatr, .inl (by linarith), fun hpast => ?_, (targets_apart hthird).2, by linarith⟩
    have hle := hpast.le
    push_cast at hle
    linarith

end Intraday.Signals
