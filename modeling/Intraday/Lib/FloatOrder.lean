import Mathlib.Order.WithBot
import Intraday.Lib.PyFloat

/-!
# Intraday.Lib.FloatOrder — orders of floats with a place for NaN

Floats other than NaN are compared as extended rationals. `numpy.maximum` and the
`max` of a database put NaN above all numbers, `numpy.minimum` puts it below
them; with its place fixed any two floats compare, up to the two zeros.
-/

namespace Intraday.Lib.PyFloat

/-- The extended rational that a float denotes, if it is not NaN. -/
def extended : PyFloat → Option (WithBot (WithTop ℚ))
  | .nan => none
  | .inf true => some ⊥
  | .inf false => some (⊤ : WithTop ℚ)
  | .finite negative d => some ((value negative d : WithTop ℚ) : WithBot (WithTop ℚ))

/-- Floats are compared by what they denote. -/
theorem le_iff {a b : PyFloat} :
    le a b = true ↔ ∃ x y, a.extended = some x ∧ b.extended = some y ∧ x ≤ y := by
  cases a with
  | nan => cases b <;> simp [le, extended]
  | inf na =>
      cases b with
      | nan => cases na <;> simp [le, extended]
      | inf nb => cases na <;> cases nb <;> simp [le, extended]
      | finite nb db => cases na <;> simp [le, extended]
  | finite na da =>
      cases b with
      | nan => simp [le, extended]
      | inf nb => cases nb <;> simp [le, extended]
      | finite nb db => simp [le, extended]

theorem exists_extended {a : PyFloat} (h : a ≠ .nan) : ∃ x, a.extended = some x := by
  cases a with
  | nan => exact absurd rfl h
  | inf negative => cases negative <;> exact ⟨_, rfl⟩
  | finite negative d => exact ⟨_, rfl⟩

theorem le_refl_of_ne_nan {a : PyFloat} (h : a ≠ .nan) : le a a = true := by
  rcases exists_extended h with ⟨x, hx⟩
  exact le_iff.mpr ⟨x, x, hx, hx, le_rfl⟩

theorem le_of_le_of_le {a b c : PyFloat} (hab : le a b = true) (hbc : le b c = true) :
    le a c = true := by
  rcases le_iff.mp hab with ⟨x, y, hx, hy, hxy⟩
  rcases le_iff.mp hbc with ⟨y', z, hy', hz, hyz⟩
  rw [hy] at hy'
  rcases Option.some.inj hy' with rfl
  exact le_iff.mpr ⟨x, z, hx, hz, hxy.trans hyz⟩

theorem le_total_of_ne_nan {a b : PyFloat} (ha : a ≠ .nan) (hb : b ≠ .nan) :
    le a b = true ∨ le b a = true := by
  rcases exists_extended ha with ⟨x, hx⟩
  rcases exists_extended hb with ⟨y, hy⟩
  rcases le_total x y with hxy | hyx
  · exact .inl (le_iff.mpr ⟨x, y, hx, hy, hxy⟩)
  · exact .inr (le_iff.mpr ⟨y, x, hy, hx, hyx⟩)

theorem ne_nan_left {a b : PyFloat} (h : le a b = true) : a ≠ .nan := by
  rintro rfl
  cases b <;> simp [le] at h

theorem ne_nan_right {a b : PyFloat} (h : le a b = true) : b ≠ .nan := by
  rintro rfl
  cases a <;> simp [le] at h

/-! ## The two orders -/

/-- `a <= b` with NaN above all numbers. -/
def LeNanLast (a b : PyFloat) : Prop := b = .nan ∨ le a b = true

/-- `a <= b` with NaN below all numbers. -/
def LeNanFirst (a b : PyFloat) : Prop := a = .nan ∨ le a b = true

theorem LeNanLast.refl (a : PyFloat) : LeNanLast a a := by
  by_cases h : a = .nan
  · exact .inl h
  · exact .inr (le_refl_of_ne_nan h)

theorem LeNanFirst.refl (a : PyFloat) : LeNanFirst a a := by
  by_cases h : a = .nan
  · exact .inl h
  · exact .inr (le_refl_of_ne_nan h)

theorem LeNanLast.trans {a b c : PyFloat} (hab : LeNanLast a b) (hbc : LeNanLast b c) :
    LeNanLast a c := by
  rcases hbc with hc | hbc
  · exact .inl hc
  rcases hab with hb | hab
  · exact absurd hb (ne_nan_left hbc)
  · exact .inr (le_of_le_of_le hab hbc)

theorem LeNanFirst.trans {a b c : PyFloat} (hab : LeNanFirst a b) (hbc : LeNanFirst b c) :
    LeNanFirst a c := by
  rcases hab with ha | hab
  · exact .inl ha
  rcases hbc with hb | hbc
  · exact absurd hb (ne_nan_right hab)
  · exact .inr (le_of_le_of_le hab hbc)

/-! ## `numpy.maximum` and `numpy.minimum` -/

theorem maximum_eq_or (a b : PyFloat) : a.maximum b = a ∨ a.maximum b = b := by
  unfold maximum
  split
  · exact .inl rfl
  · exact .inr rfl

theorem minimum_eq_or (a b : PyFloat) : a.minimum b = a ∨ a.minimum b = b := by
  unfold minimum
  split
  · exact .inl rfl
  · exact .inr rfl

/-- The maximum is above both, with NaN on top. -/
theorem leNanLast_maximum (a b : PyFloat) :
    LeNanLast a (a.maximum b) ∧ LeNanLast b (a.maximum b) := by
  unfold maximum
  split
  · rename_i h
    refine ⟨.refl a, ?_⟩
    rcases h with hle | ha
    · exact .inr hle
    · exact .inl ha
  · rename_i h
    rw [not_or] at h
    refine ⟨?_, .refl b⟩
    by_cases hb : b = .nan
    · exact .inl hb
    · exact .inr ((le_total_of_ne_nan h.2 hb).resolve_right h.1)

/-- The minimum is below both, with NaN at the bottom. -/
theorem leNanFirst_minimum (a b : PyFloat) :
    LeNanFirst (a.minimum b) a ∧ LeNanFirst (a.minimum b) b := by
  unfold minimum
  split
  · rename_i h
    refine ⟨.refl a, ?_⟩
    rcases h with hle | ha
    · exact .inr hle
    · exact .inl ha
  · rename_i h
    rw [not_or] at h
    refine ⟨?_, .refl b⟩
    by_cases hb : b = .nan
    · exact .inl hb
    · exact .inr ((le_total_of_ne_nan h.2 hb).resolve_left h.1)

end Intraday.Lib.PyFloat
