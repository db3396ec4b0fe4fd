import Mathlib.Algebra.BigOperators.Field
import Mathlib.Algebra.BigOperators.Fin
import Mathlib.Algebra.Order.BigOperators.Ring.Finset
import Mathlib.Algebra.Order.Field.Basic
import Mathlib.Tactic.FieldSimp
import Mathlib.Tactic.Ring

/-!
# Intraday.Lib.Correlation — covariance of finite samples

Samples are functions on a finite index type. The covariance is not divided by
the number of points, so that the square of Pearson's coefficient is a quotient
of covariances and needs no root. A sample of no variance has coefficient `0`,
by the convention `x / 0 = 0`.
-/

namespace Intraday.Lib.Correlation

variable {ι K : Type*} [Fintype ι] [Field K]

/-- The mean of a sample. -/
def mean (u : ι → K) : K := (∑ i, u i) / Fintype.card ι

/-- The sum of the products of the deviations. -/
def covariance (u v : ι → K) : K := ∑ i, (u i - mean u) * (v i - mean v)

/-- The square of Pearson's coefficient. -/
def correlationSq (u v : ι → K) : K :=
  covariance u v ^ 2 / (covariance u u * covariance v v)

theorem covariance_comm (u v : ι → K) : covariance u v = covariance v u := by
  apply Finset.sum_congr rfl
  intro i _
  exact mul_comm _ _

theorem correlationSq_comm (u v : ι → K) : correlationSq u v = correlationSq v u := by
  rw [correlationSq, correlationSq, covariance_comm u v, mul_comm (covariance u u)]

/-! ## Change of unit and of origin -/

section Affine

variable [CharZero K] [Nonempty ι]

/-- The mean follows a change of unit and of origin. -/
theorem mean_affine (a b : K) (u : ι → K) : mean (fun i => a * u i + b) = a * mean u + b := by
  have hcard : (Fintype.card ι : K) ≠ 0 := by
    exact_mod_cast Fintype.card_ne_zero
  have hsum : ∑ i, (a * u i + b) = a * ∑ i, u i + Fintype.card ι * b := by
    rw [Finset.sum_add_distrib, ← Finset.mul_sum, Finset.sum_const, Finset.card_univ,
      nsmul_eq_mul]
  rw [mean, mean, hsum]
  field_simp

/-- A change of origin leaves the covariance, a change of unit scales it. -/
theorem covariance_affine_left (a b : K) (u v : ι → K) :
    covariance (fun i => a * u i + b) v = a * covariance u v := by
  rw [covariance, covariance, mean_affine, Finset.mul_sum]
  apply Finset.sum_congr rfl
  intro i _
  ring

theorem covariance_affine_right (a b : K) (u v : ι → K) :
    covariance u (fun i => a * v i + b) = a * covariance u v := by
  rw [covariance_comm, covariance_affine_left, covariance_comm]

/-- The squared coefficient does not see a change of unit or of origin. -/
theorem correlationSq_affine_left {a : K} (ha : a ≠ 0) (b : K) (u v : ι → K) :
    correlationSq (fun i => a * u i + b) v = correlationSq u v := by
  have hsq : a ^ 2 ≠ 0 := pow_ne_zero 2 ha
  rw [correlationSq, covariance_affine_left, covariance_affine_left, covariance_affine_right]
  calc (a * covariance u v) ^ 2 / (a * (a * covariance u u) * covariance v v)
      = (a ^ 2 * covariance u v ^ 2) / (a ^ 2 * (covariance u u * covariance v v)) := by ring
    _ = correlationSq u v := mul_div_mul_left _ _ hsq

theorem correlationSq_affine_right {a : K} (ha : a ≠ 0) (b : K) (u v : ι → K) :
    correlationSq u (fun i => a * v i + b) = correlationSq u v := by
  rw [correlationSq_comm, correlationSq_affine_left ha, correlationSq_comm]

end Affine

/-! ## Comparison with a bound -/

section Bound

variable [LinearOrder K] [IsStrictOrderedRing K]

theorem covariance_self_nonneg (u : ι → K) : 0 ≤ covariance u u := by
  apply Finset.sum_nonneg
  intro i _
  exact mul_self_nonneg _

/-- Above a bound: both samples vary, and the bound holds without the division. -/
theorem lt_correlationSq_iff {c : K} (hc : 0 ≤ c) (u v : ι → K) :
    c < correlationSq u v ↔ covariance u u ≠ 0 ∧ covariance v v ≠ 0 ∧
      c * (covariance u u * covariance v v) < covariance u v ^ 2 := by
  by_cases hu : covariance u u = 0
  · simp [correlationSq, hu, not_lt.mpr hc]
  by_cases hv : covariance v v = 0
  · simp [correlationSq, hv, not_lt.mpr hc]
  have hupos : 0 < covariance u u := lt_of_le_of_ne (covariance_self_nonneg u) (Ne.symm hu)
  have hvpos : 0 < covariance v v := lt_of_le_of_ne (covariance_self_nonneg v) (Ne.symm hv)
  rw [correlationSq, lt_div_iff₀ (mul_pos hupos hvpos)]
  simp [hu, hv]

end Bound

end Intraday.Lib.Correlation
