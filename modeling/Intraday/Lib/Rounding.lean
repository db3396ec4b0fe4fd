import Mathlib.Tactic.FieldSimp
import Mathlib.Tactic.Linarith
import Mathlib.Tactic.Positivity
import Mathlib.Data.Rat.Floor
import Mathlib.Algebra.Order.Floor.Ring
import Intraday.Lib.Decimal

/-!
# Intraday.Lib.Rounding — where `round` changes its value

`round` goes to the nearest integer, and from a half to the even one. One threshold says all that
its order needs, which numbers round above an integer (`PastHalf`); a rounded number is compared
with any other by it.
-/

namespace Intraday.Lib.Decimal

/-- An integer rounds to itself. -/
@[simp] theorem roundHalfEven_intCast (n : ℤ) : roundHalfEven n = n := by
  simp [roundHalfEven]

/-- What rounds above `n`: more than half a unit above it, or exactly that if `n` is odd. -/
theorem int_lt_roundHalfEven_iff (n : ℤ) (x : ℚ) :
    n < roundHalfEven x ↔ (n : ℚ) + 1 / 2 < x ∨ x = n + 1 / 2 ∧ n % 2 = 1 := by
  have hle : (⌊x⌋ : ℚ) ≤ x := Int.floor_le x
  have hlt : x < ⌊x⌋ + 1 := Int.lt_floor_add_one x
  generalize hf : ⌊x⌋ = f at hle hlt
  simp only [roundHalfEven, hf]
  rcases lt_trichotomy n f with hnf | rfl | hfn
  · -- the floor is above `n` already
    have hcast : (n : ℚ) + 1 ≤ f := by exact_mod_cast hnf
    refine iff_of_true ?_ (.inl (by linarith))
    split
    · exact hnf
    · split
      · omega
      · split <;> omega
  · -- `n` is the floor: the fraction decides
    by_cases hlow : x - n < 1 / 2
    · rw [if_pos hlow]
      refine iff_of_false (lt_irrefl n) ?_
      rintro (h | ⟨h, -⟩) <;> linarith
    · rw [if_neg hlow]
      by_cases hhigh : 1 / 2 < x - n
      · rw [if_pos hhigh]
        exact iff_of_true (lt_add_one n) (.inl (by linarith))
      · have hhalf : x = n + 1 / 2 := by linarith
        rw [if_neg hhigh]
        by_cases heven : n % 2 = 0
        · rw [if_pos heven]
          refine iff_of_false (lt_irrefl n) ?_
          rintro (h | ⟨-, h⟩)
          · linarith
          · omega
        · rw [if_neg heven]
          exact iff_of_true (lt_add_one n) (.inr ⟨hhalf, by omega⟩)
  · -- the floor is below `n`, and so is `x`
    have hcast : (f : ℚ) + 1 ≤ n := by exact_mod_cast hfn
    refine iff_of_false ?_ ?_
    · split
      · omega
      · split
        · omega
        · split <;> omega
    · rintro (h | ⟨h, -⟩) <;> linarith

/-- A number with at most `d` decimals rounds to itself. -/
theorem roundTo_of_intCast {d : ℕ} {x : ℚ} {n : ℤ} (h : x * 10 ^ d = n) : roundTo d x = x := by
  have hpow : (10 : ℚ) ^ d ≠ 0 := pow_ne_zero d (by norm_num)
  rw [roundTo, h, roundHalfEven_intCast, ← h, mul_div_cancel_right₀ x hpow]

/-! ## The half above an integer -/

/-- `x` is past the half above `n`, where `round` leaves `n` behind. -/
def PastHalf (n : ℤ) (x : ℚ) : Prop := (n : ℚ) + 1 / 2 < x ∨ x = n + 1 / 2 ∧ n % 2 = 1

instance (n : ℤ) (x : ℚ) : Decidable (PastHalf n x) := inferInstanceAs (Decidable (_ ∨ _))

/-- A half rounds to zero, so what rounds above zero is above the half. -/
theorem pastHalf_zero {x : ℚ} : PastHalf 0 x ↔ 1 / 2 < x := by
  simp [PastHalf]

/-- Exactly at the half above `n` the parity decides. -/
theorem pastHalf_tie {n : ℤ} {x : ℚ} (h : x = n + 1 / 2) : PastHalf n x ↔ n % 2 = 1 := by
  simp [PastHalf, h]

theorem PastHalf.le {n : ℤ} {x : ℚ} (h : PastHalf n x) : (n : ℚ) + 1 / 2 ≤ x := by
  rcases h with hlt | ⟨heq, -⟩
  · exact hlt.le
  · exact heq.ge

theorem le_of_not_pastHalf {n : ℤ} {x : ℚ} (h : ¬ PastHalf n x) : x ≤ (n : ℚ) + 1 / 2 :=
  not_lt.mp fun hlt => h (.inl hlt)

/-- A number is past the halves below the first that it is not past. -/
theorem PastHalf.lt_of_not {m n : ℤ} {x : ℚ} (hm : PastHalf m x) (hn : ¬ PastHalf n x) : m < n := by
  have hle : (m : ℚ) ≤ n := by linarith [hm.le, le_of_not_pastHalf hn]
  refine lt_of_le_of_ne (by exact_mod_cast hle) ?_
  rintro rfl
  exact hn hm

theorem lt_roundHalfEven_iff {x y : ℚ} : x < roundHalfEven y ↔ PastHalf ⌊x⌋ y := by
  rw [← Int.floor_lt]
  exact int_lt_roundHalfEven_iff ⌊x⌋ y

theorem roundHalfEven_lt_iff {x y : ℚ} : roundHalfEven x < y ↔ ¬ PastHalf (⌈y⌉ - 1) x := by
  have hiff : ⌈y⌉ - 1 < roundHalfEven x ↔ PastHalf (⌈y⌉ - 1) x := int_lt_roundHalfEven_iff _ x
  rw [← Int.lt_ceil, ← hiff, not_lt, Int.le_sub_one_iff]

/-- Two numbers round to different integers if a half lies between them. -/
theorem roundHalfEven_lt_roundHalfEven_iff {x y : ℚ} :
    roundHalfEven x < roundHalfEven y ↔ ∃ n : ℤ, ¬ PastHalf n x ∧ PastHalf n y := by
  constructor
  · intro hlt
    refine ⟨roundHalfEven x, fun hpast => ?_, (int_lt_roundHalfEven_iff _ y).mp hlt⟩
    exact lt_irrefl _ ((int_lt_roundHalfEven_iff _ x).mpr hpast)
  · rintro ⟨n, hx, hy⟩
    have hle : roundHalfEven x ≤ n := not_lt.mp fun hlt =>
      hx ((int_lt_roundHalfEven_iff n x).mp hlt)
    exact hle.trans_lt ((int_lt_roundHalfEven_iff n y).mpr hy)

/-! ## Rounding to decimals -/

theorem lt_roundTo_iff {d : ℕ} {x y : ℚ} :
    x < roundTo d y ↔ PastHalf ⌊x * 10 ^ d⌋ (y * 10 ^ d) := by
  have hpow : (0 : ℚ) < 10 ^ d := by positivity
  rw [roundTo, lt_div_iff₀ hpow]
  exact lt_roundHalfEven_iff

theorem roundTo_lt_iff {d : ℕ} {x y : ℚ} :
    roundTo d x < y ↔ ¬ PastHalf (⌈y * 10 ^ d⌉ - 1) (x * 10 ^ d) := by
  have hpow : (0 : ℚ) < 10 ^ d := by positivity
  rw [roundTo, div_lt_iff₀ hpow]
  exact roundHalfEven_lt_iff

theorem roundTo_lt_roundTo_iff {d : ℕ} {x y : ℚ} :
    roundTo d x < roundTo d y ↔ ∃ n : ℤ, ¬ PastHalf n (x * 10 ^ d) ∧ PastHalf n (y * 10 ^ d) := by
  have hpow : (0 : ℚ) < 10 ^ d := by positivity
  rw [roundTo, roundTo, div_lt_div_iff_of_pos_right hpow, Int.cast_lt]
  exact roundHalfEven_lt_roundHalfEven_iff

/-- Rounding moves a number by half a unit at most. -/
theorem abs_roundHalfEven_sub_le (x : ℚ) : |(roundHalfEven x : ℚ) - x| ≤ 1 / 2 := by
  have hle : (⌊x⌋ : ℚ) ≤ x := Int.floor_le x
  have hlt : x < ⌊x⌋ + 1 := Int.lt_floor_add_one x
  rw [abs_le]
  unfold roundHalfEven
  dsimp only
  split
  · constructor <;> linarith
  · split
    · push_cast
      constructor <;> linarith
    · split
      · constructor <;> linarith
      · push_cast
        constructor <;> linarith

/-- Rounding to `d` decimals moves a number by half a unit of the last one. -/
theorem abs_roundTo_sub_le (d : ℕ) (x : ℚ) : |roundTo d x - x| ≤ 1 / 2 / 10 ^ d := by
  have hpow : (0 : ℚ) < 10 ^ d := by positivity
  have hscale : roundTo d x - x = (roundHalfEven (x * 10 ^ d) - x * 10 ^ d) / 10 ^ d := by
    rw [roundTo]
    field_simp
  rw [hscale, abs_div, abs_of_pos hpow]
  exact div_le_div_of_nonneg_right (abs_roundHalfEven_sub_le _) hpow.le

/-- A half lies between two numbers that are more than one apart. -/
theorem exists_half_between {x y : ℚ} (h : x + 1 < y) :
    ∃ n : ℤ, ¬ PastHalf n x ∧ PastHalf n y := by
  have hle := Int.floor_le (x + 1 / 2)
  have hlt := Int.lt_floor_add_one (x + 1 / 2)
  refine ⟨⌊x + 1 / 2⌋, fun hpast => ?_, .inl ?_⟩
  · linarith [hpast.le]
  · linarith

/-! ## Rounding in an ordered field

A result that is no rational, such as one with a root in it, is rounded to the same decimals. -/

section Field

variable {R : Type*} [Field R] [LinearOrder R] [FloorRing R]

/-- `round(x)` in an ordered field; the rest is compared with a half. -/
def roundTies (x : R) : ℤ :=
  let r := x - ⌊x⌋
  if r + r < 1 then ⌊x⌋
  else if 1 < r + r then ⌊x⌋ + 1
  else if ⌊x⌋ % 2 = 0 then ⌊x⌋ else ⌊x⌋ + 1

/-- `round(x, d)` in an ordered field. -/
def roundDecimals (d : ℕ) (x : R) : ℚ := roundTies (x * (10 ^ d : ℕ)) / 10 ^ d

theorem roundTies_rat (x : ℚ) : roundTies x = roundHalfEven x := by
  have hbelow : x - ⌊x⌋ + (x - ⌊x⌋) < 1 ↔ x - ⌊x⌋ < 1 / 2 := by
    constructor <;> intro h <;> linarith
  have habove : 1 < x - ⌊x⌋ + (x - ⌊x⌋) ↔ 1 / 2 < x - ⌊x⌋ := by
    constructor <;> intro h <;> linarith
  simp only [roundTies, roundHalfEven, hbelow, habove]

/-- On rationals it is the same. -/
theorem roundDecimals_rat (d : ℕ) (x : ℚ) : roundDecimals d x = roundTo d x := by
  rw [roundDecimals, roundTies_rat, roundTo]
  push_cast
  rfl

theorem roundDecimals_eq (d : ℕ) (x : R) :
    roundDecimals d x = roundTies (x * 10 ^ d) / 10 ^ d := by
  rw [roundDecimals, Nat.cast_pow, Nat.cast_ofNat]

variable [IsStrictOrderedRing R]

/-- No integer lies between a number and what it rounds to. -/
theorem roundTies_le {x : R} {n : ℤ} (h : x ≤ n) : roundTies x ≤ n := by
  have hle : (⌊x⌋ : R) ≤ x := Int.floor_le x
  rcases lt_or_eq_of_le (Int.cast_le.mp (hle.trans h)) with hlt | heq
  · have hnext : ⌊x⌋ + 1 ≤ n := hlt
    unfold roundTies
    dsimp only
    repeat' split
    all_goals omega
  · -- `x` is the integer itself
    have hx : x = n := le_antisymm h (heq ▸ hle)
    have hhalf : (n : R) - n + (n - n) < 1 := by
      rw [sub_self, add_zero]
      exact zero_lt_one
    simp only [roundTies, hx, Int.floor_intCast, if_pos hhalf, le_refl]

omit [IsStrictOrderedRing R] in
theorem le_roundTies {x : R} {n : ℤ} (h : (n : R) ≤ x) : n ≤ roundTies x := by
  have hfloor : n ≤ ⌊x⌋ := Int.le_floor.mpr h
  unfold roundTies
  dsimp only
  repeat' split
  all_goals omega

/-- A number with at most `d` decimals keeps its value. -/
theorem roundDecimals_of_intCast {d : ℕ} {x : R} {n : ℤ} (h : x * 10 ^ d = n) :
    roundDecimals d x = n / 10 ^ d := by
  have hround : roundTies (x * 10 ^ d) = n :=
    le_antisymm (roundTies_le h.le) (le_roundTies h.ge)
  rw [roundDecimals_eq, hround]

/-- A number that rounds above one of `d` decimals was above it before. -/
theorem lt_of_lt_roundDecimals {d : ℕ} {t : ℚ} {n : ℤ} {x : R} (ht : t * 10 ^ d = n)
    (h : t < roundDecimals d x) : (t : R) < x := by
  have hpow : (0 : ℚ) < 10 ^ d := by positivity
  have hpowR : (0 : R) < 10 ^ d := by positivity
  rw [roundDecimals_eq, lt_div_iff₀ hpow, ht] at h
  by_contra hle
  rw [not_lt] at hle
  have hscaled : x * 10 ^ d ≤ n := by
    have hcast : (t : R) * 10 ^ d = n := by exact_mod_cast congrArg (Rat.cast (K := R)) ht
    rw [← hcast]
    exact mul_le_mul_of_nonneg_right hle hpowR.le
  have hround : (n : ℚ) < roundTies (x * 10 ^ d) := h
  exact absurd (roundTies_le hscaled) (not_le.mpr (by exact_mod_cast hround))

/-- A number that rounds below one of `d` decimals was below it before. -/
theorem lt_of_roundDecimals_lt {d : ℕ} {t : ℚ} {n : ℤ} {x : R} (ht : t * 10 ^ d = n)
    (h : roundDecimals d x < t) : x < (t : R) := by
  have hpow : (0 : ℚ) < 10 ^ d := by positivity
  have hpowR : (0 : R) < 10 ^ d := by positivity
  rw [roundDecimals_eq, div_lt_iff₀ hpow, ht] at h
  by_contra hle
  rw [not_lt] at hle
  have hscaled : (n : R) ≤ x * 10 ^ d := by
    have hcast : (t : R) * 10 ^ d = n := by exact_mod_cast congrArg (Rat.cast (K := R)) ht
    rw [← hcast]
    exact mul_le_mul_of_nonneg_right hle hpowR.le
  have hround : (roundTies (x * 10 ^ d) : ℚ) < n := h
  exact absurd (le_roundTies hscaled) (not_le.mpr (by exact_mod_cast hround))

end Field

end Intraday.Lib.Decimal
