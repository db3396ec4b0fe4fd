import Intraday.Lib.Correlation
import Intraday.Risk.Guards

/-!
# Intraday.Risk.Correlation — what the correlation guard measures

The guard of `correlation.py` against the statistics it stands for: two series
are too correlated when they share at least two points and the squared Pearson
coefficient of their last shared points is above `0.49`. The coefficient of the
library does not see a change of unit, and from this the verdict does not either.
-/

namespace Intraday.Risk

open Intraday.Core Intraday.Lib.Correlation

/-! ## Aligned points -/

/-- How many points two series are compared on: `min(len, len, 20)`. -/
def alignedPoints (xs ys : List ℚ) : ℕ :=
  min (min xs.length ys.length) correlationLookbackDays

/-- The last `n` points of a series, oldest first. -/
def lastPoints (n : ℕ) (xs : List ℚ) : Fin n → ℚ :=
  fun i => xs.getD (xs.length - n + i) 0

/-- Two series have enough data and a coefficient above `0.7` in size. -/
def TooCorrelated (xs ys : List ℚ) : Prop :=
  2 ≤ alignedPoints xs ys ∧
    49 / 100 < correlationSq (lastPoints (alignedPoints xs ys) xs)
      (lastPoints (alignedPoints xs ys) ys)

theorem alignedPoints_comm (xs ys : List ℚ) : alignedPoints xs ys = alignedPoints ys xs := by
  unfold alignedPoints
  omega

theorem alignedPoints_le_left (xs ys : List ℚ) : alignedPoints xs ys ≤ xs.length := by
  unfold alignedPoints
  omega

theorem alignedPoints_le_right (xs ys : List ℚ) : alignedPoints xs ys ≤ ys.length := by
  unfold alignedPoints
  omega

theorem lastN_eq_ofFn {n : ℕ} {xs : List ℚ} (hn : n ≤ xs.length) :
    lastN n xs = List.ofFn (lastPoints n xs) := by
  have hlen : (lastN n xs).length = n := by
    rw [lastN, List.length_drop]
    omega
  apply List.ext_getElem
  · rw [hlen, List.length_ofFn]
  · intro i h₁ h₂
    have hi : xs.length - n + i < xs.length := by omega
    simp [lastN, lastPoints, List.getElem?_eq_getElem hi]

theorem deviations_ofFn {n : ℕ} (u : Fin n → ℚ) :
    deviations (List.ofFn u) = List.ofFn (fun i => u i - mean u) := by
  rw [deviations, List.map_ofFn, List.sum_ofFn, List.length_ofFn]
  simp [mean, Function.comp_def]

theorem dot_ofFn {n : ℕ} (u v : Fin n → ℚ) :
    dot (List.ofFn u) (List.ofFn v) = ∑ i, u i * v i := by
  have hzip : List.zipWith (· * ·) (List.ofFn u) (List.ofFn v)
      = List.ofFn (fun i => u i * v i) := by
    apply List.ext_getElem
    · simp
    · intro i h₁ h₂
      simp
  rw [dot, hzip, List.sum_ofFn]

/-- The sums of the code are covariances of the last points. -/
theorem dot_deviations {n : ℕ} {xs ys : List ℚ} (hx : n ≤ xs.length) (hy : n ≤ ys.length) :
    dot (deviations (lastN n xs)) (deviations (lastN n ys))
      = covariance (lastPoints n xs) (lastPoints n ys) := by
  rw [lastN_eq_ofFn hx, lastN_eq_ofFn hy, deviations_ofFn, deviations_ofFn, dot_ofFn]
  rfl

/-! ## The coefficient -/

/-- The coefficient of two samples as the code keeps it: the zero coefficient
when one of them is constant. -/
def pearsonOf {n : ℕ} (u v : Fin n → ℚ) : Pearson :=
  if covariance u u = 0 ∨ covariance v v = 0 then .zero
  else { cov := covariance u v, var := covariance u u * covariance v v }

theorem pearsonOf_comm {n : ℕ} (u v : Fin n → ℚ) : pearsonOf u v = pearsonOf v u := by
  unfold pearsonOf
  simp only [covariance_comm u v, mul_comm (covariance u u), or_comm]

theorem zero_absGt : Pearson.zero.absGt maxPositionCorrelation = false := by
  norm_num [Pearson.zero, Pearson.absGt, maxPositionCorrelation]

theorem absGt_pearsonOf {n : ℕ} (u v : Fin n → ℚ) :
    (pearsonOf u v).absGt maxPositionCorrelation = true ↔ 49 / 100 < correlationSq u v := by
  have hbound : ¬ maxPositionCorrelation < 0 := by norm_num [maxPositionCorrelation]
  have hsq : maxPositionCorrelation ^ 2 = 49 / 100 := by norm_num [maxPositionCorrelation]
  rw [lt_correlationSq_iff (by norm_num), pearsonOf]
  split
  · rename_i hconst
    -- a constant sample has no coefficient, and no squared one
    rw [zero_absGt]
    rcases hconst with hu | hv
    · simp [hu]
    · simp [hv]
  · rename_i hvary
    rw [not_or] at hvary
    simp [Pearson.absGt, hbound, hsq, hvary.1, hvary.2]

theorem pearsonCorrelation_of_short {xs ys : List ℚ} (h : alignedPoints xs ys < 2) :
    pearsonCorrelation xs ys = .zero :=
  if_pos h

theorem pearsonCorrelation_of_enough {xs ys : List ℚ} (h : 2 ≤ alignedPoints xs ys) :
    pearsonCorrelation xs ys =
      pearsonOf (lastPoints (alignedPoints xs ys) xs) (lastPoints (alignedPoints xs ys) ys) := by
  have hx := alignedPoints_le_left xs ys
  have hy := alignedPoints_le_right xs ys
  have hn : ¬ alignedPoints xs ys < 2 := by omega
  rw [pearsonOf, ← dot_deviations hx hx, ← dot_deviations hy hy, ← dot_deviations hx hy]
  exact if_neg hn

/-- The coefficient is above `0.7` in size exactly when the series are too
correlated. -/
theorem absGt_pearsonCorrelation (xs ys : List ℚ) :
    (pearsonCorrelation xs ys).absGt maxPositionCorrelation = true ↔ TooCorrelated xs ys := by
  unfold TooCorrelated
  by_cases h : 2 ≤ alignedPoints xs ys
  · rw [pearsonCorrelation_of_enough h, absGt_pearsonOf]
    simp [h]
  · rw [pearsonCorrelation_of_short (by omega), zero_absGt]
    simp [h]

/-- The coefficient is symmetric in its two series. -/
theorem pearsonCorrelation_symm (xs ys : List ℚ) :
    pearsonCorrelation xs ys = pearsonCorrelation ys xs := by
  by_cases h : 2 ≤ alignedPoints xs ys
  · have h' : 2 ≤ alignedPoints ys xs := by rwa [alignedPoints_comm]
    rw [pearsonCorrelation_of_enough h, pearsonCorrelation_of_enough h', alignedPoints_comm xs ys,
      pearsonOf_comm]
  · have h' : alignedPoints ys xs < 2 := by
      rw [alignedPoints_comm]
      omega
    rw [pearsonCorrelation_of_short (by omega), pearsonCorrelation_of_short h']

/-! ## Rescaling -/

/-- A change of unit by a positive factor, with a change of origin. -/
structure Rescaling where
  scale : ℚ
  shift : ℚ
  scale_pos : 0 < scale

/-- A series in the new unit. -/
def Rescaling.apply (r : Rescaling) (xs : List ℚ) : List ℚ :=
  xs.map (fun x => r.scale * x + r.shift)

@[simp] theorem Rescaling.length_apply (r : Rescaling) (xs : List ℚ) :
    (r.apply xs).length = xs.length := by
  simp [Rescaling.apply]

theorem lastPoints_apply (r : Rescaling) {n : ℕ} {xs : List ℚ} (hn : n ≤ xs.length) :
    lastPoints n (r.apply xs) = fun i => r.scale * lastPoints n xs i + r.shift := by
  funext i
  have hi : xs.length - n + i < xs.length := by omega
  simp only [lastPoints, Rescaling.length_apply]
  simp [Rescaling.apply, List.getElem?_eq_getElem hi]

/-- Whether two series are too correlated does not depend on their units. -/
theorem tooCorrelated_apply (r t : Rescaling) (xs ys : List ℚ) :
    TooCorrelated (r.apply xs) (t.apply ys) ↔ TooCorrelated xs ys := by
  have hpoints : alignedPoints (r.apply xs) (t.apply ys) = alignedPoints xs ys := by
    simp [alignedPoints]
  unfold TooCorrelated
  rw [hpoints, lastPoints_apply r (alignedPoints_le_left xs ys),
    lastPoints_apply t (alignedPoints_le_right xs ys)]
  apply and_congr_right
  intro h
  have hne : Nonempty (Fin (alignedPoints xs ys)) := ⟨⟨0, by omega⟩⟩
  rw [correlationSq_affine_left r.scale_pos.ne', correlationSq_affine_right t.scale_pos.ne']

/-! ## The verdict -/

/-- The loop finds no breach exactly when no position breaches. -/
theorem firstCorrelated_eq_none_iff (xs : List ℚ) (bound : ℚ) (ps : List OpenPosition) :
    firstCorrelated xs bound ps = none ↔
      ∀ p ∈ ps, (pearsonCorrelation xs p.returns).absGt bound = false := by
  induction ps with
  | nil => simp [firstCorrelated]
  | cons p ps ih =>
      rw [firstCorrelated]
      cases hp : (pearsonCorrelation xs p.returns).absGt bound with
      | true => simp [hp]
      | false => simpa [hp] using ih

/-- The guard passes exactly when no position is too correlated. -/
theorem checkCorrelationGuard_passed (xs : List ℚ) (ps : List OpenPosition) :
    (checkCorrelationGuard xs ps).passed = true ↔ ∀ p ∈ ps, ¬ TooCorrelated xs p.returns := by
  rw [checkCorrelationGuard]
  by_cases hps : ps = []
  · simp [hps]
  by_cases hxs : xs.length < 2
  · rw [if_neg hps, if_pos hxs]
    -- the early exit: nothing is aligned on two points
    have hshort : ∀ p ∈ ps, ¬ TooCorrelated xs p.returns := by
      intro p _ h
      have hle := alignedPoints_le_left xs p.returns
      have henough := h.1
      omega
    simpa using hshort
  · rw [if_neg hps, if_neg hxs]
    have hnone : firstCorrelated xs maxPositionCorrelation ps = none ↔
        ∀ p ∈ ps, ¬ TooCorrelated xs p.returns := by
      rw [firstCorrelated_eq_none_iff]
      simp only [← absGt_pearsonCorrelation, Bool.not_eq_true]
    rw [← hnone]
    cases firstCorrelated xs maxPositionCorrelation ps with
    | none => simp
    | some found => simp

/-- An open position with its returns in another unit. -/
def RescaledPosition (p q : OpenPosition) : Prop :=
  ∃ r : Rescaling, q = { p with returns := r.apply p.returns }

theorem passed_perm (xs : List ℚ) {ps qs : List OpenPosition} (h : ps.Perm qs) :
    (checkCorrelationGuard xs ps).passed = (checkCorrelationGuard xs qs).passed := by
  rw [Bool.eq_iff_iff, checkCorrelationGuard_passed, checkCorrelationGuard_passed]
  simp only [h.mem_iff]

theorem passed_rescaled (r : Rescaling) (xs : List ℚ) {ps qs : List OpenPosition}
    (h : List.Forall₂ RescaledPosition ps qs) :
    (checkCorrelationGuard (r.apply xs) qs).passed = (checkCorrelationGuard xs ps).passed := by
  rw [Bool.eq_iff_iff, checkCorrelationGuard_passed, checkCorrelationGuard_passed]
  induction h with
  | nil => simp
  | cons hpq _ ih =>
      rcases hpq with ⟨t, rfl⟩
      rw [List.forall_mem_cons, List.forall_mem_cons, tooCorrelated_apply, ih]

/-- The guard passes exactly when no open position is too correlated with the
proposed series. The verdict depends neither on the order of the positions nor
on the unit of any series, and the coefficient is symmetric. -/
theorem correlation_guard_exact (xs : List ℚ) (ps : List OpenPosition) :
    ((checkCorrelationGuard xs ps).passed = true ↔
        ∀ p ∈ ps, ¬ TooCorrelated xs p.returns) ∧
      (∀ qs : List OpenPosition, ps.Perm qs →
        (checkCorrelationGuard xs ps).passed = (checkCorrelationGuard xs qs).passed) ∧
      (∀ (r : Rescaling) (qs : List OpenPosition), List.Forall₂ RescaledPosition ps qs →
        (checkCorrelationGuard (r.apply xs) qs).passed = (checkCorrelationGuard xs ps).passed) ∧
      (∀ ys : List ℚ, pearsonCorrelation xs ys = pearsonCorrelation ys xs) := by
  refine ⟨checkCorrelationGuard_passed xs ps, ?_, ?_, pearsonCorrelation_symm xs⟩
  · intro qs h
    exact passed_perm xs h
  · intro r qs h
    exact passed_rescaled r xs h

/-- Returns in percent, read in basis points. -/
def toBasisPoints : Rescaling := { scale := 100, shift := 0, scale_pos := by norm_num }

/-- A position whose returns move against `[1, 2, 4]`. -/
def hedgePosition : OpenPosition :=
  { symbol := "HINDALCO", sector := "METAL", riskAmount := 350, returns := [9, -1, -2, -4] }

/-- A position with one return on record. -/
def freshPosition : OpenPosition :=
  { symbol := "VEDL", sector := "METAL", riskAmount := 120, returns := [3] }

theorem correlation_guard_exact_hedge :
    ((checkCorrelationGuard [1, 2, 4] [freshPosition, hedgePosition]).passed = true ↔
        ∀ p ∈ [freshPosition, hedgePosition], ¬ TooCorrelated [1, 2, 4] p.returns) ∧
      (checkCorrelationGuard [1, 2, 4] [freshPosition, hedgePosition]).passed
        = (checkCorrelationGuard [1, 2, 4] [hedgePosition, freshPosition]).passed ∧
      (checkCorrelationGuard (toBasisPoints.apply [1, 2, 4])
          [{ freshPosition with returns := toBasisPoints.apply [3] }]).passed
        = (checkCorrelationGuard [1, 2, 4] [freshPosition]).passed := by
  rcases correlation_guard_exact [1, 2, 4] [freshPosition, hedgePosition] with ⟨hiff, hperm, -, -⟩
  rcases correlation_guard_exact [1, 2, 4] [freshPosition] with ⟨-, -, hscale, -⟩
  refine ⟨hiff, hperm _ (List.Perm.swap _ _ _), hscale toBasisPoints _ ?_⟩
  exact List.Forall₂.cons ⟨toBasisPoints, rfl⟩ List.Forall₂.nil

example : (checkCorrelationGuard [1, 2, 4] [freshPosition, hedgePosition]).passed = false := by
  decide +kernel

end Intraday.Risk
