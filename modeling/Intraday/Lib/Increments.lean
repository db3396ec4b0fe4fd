import Mathlib.Algebra.Order.Group.Defs
import Mathlib.Algebra.BigOperators.Group.List.Basic
import Mathlib.Data.List.ReduceOption
import Mathlib.Order.Lattice
import Mathlib.Tactic.Abel
import Mathlib.Tactic.Common

/-!
# Intraday.Lib.Increments — what the increments of a reading add up to

A counter that is read again and again is turned into increments, a fall counted as
no increment. Their sum is never less than the distance from the first reading to
the highest one, and is no more exactly if the readings have no valley: none lies
below both an earlier and a later one.
-/

namespace Intraday.Lib

section Order

variable {α : Type*} [LinearOrder α]

/-- The highest of `p` and the readings `l`. -/
def peak (p : α) : List α → α
  | [] => p
  | y :: l => max p (peak y l)

/-- No reading lies below both an earlier and a later one. -/
def NoValley (l : List α) : Prop := ∀ a b c, [a, b, c].Sublist l → min a c ≤ b

theorem le_peak (p : α) (l : List α) : p ≤ peak p l := by
  cases l with
  | nil => exact le_refl p
  | cons y l => exact le_max_left _ _

theorem peak_le_iff {p b : α} {l : List α} : peak p l ≤ b ↔ ∀ y ∈ p :: l, y ≤ b := by
  induction l generalizing p with
  | nil => simp [peak]
  | cons y l ih => rw [peak, max_le_iff, ih, List.forall_mem_cons (a := p)]

theorem le_peak_iff {p b : α} {l : List α} : b ≤ peak p l ↔ ∃ y ∈ p :: l, b ≤ y := by
  induction l generalizing p with
  | nil => simp [peak]
  | cons y l ih => rw [peak, le_max_iff, ih, List.exists_mem_cons_iff (a := p)]

/-- A rise at the front makes no valley. -/
theorem noValley_cons_of_le {p y : α} (h : p ≤ y) (l : List α) :
    NoValley (p :: y :: l) ↔ NoValley (y :: l) := by
  constructor
  · intro hno a b c hsub
    exact hno a b c (hsub.cons p)
  · intro hno a b c hsub
    cases hsub with
    | cons _ hsub => exact hno a b c hsub
    | cons_cons _ hsub =>
        cases hsub with
        | cons_cons _ _ => exact le_trans (min_le_left _ _) h
        | cons _ hsub =>
            -- `y` stands in for the lower first reading
            calc min p c ≤ min y c := min_le_min h (le_refl c)
              _ ≤ b := hno y b c (hsub.cons_cons y)

/-- After a fall at the front the readings have no valley only if they never rise. -/
theorem noValley_cons_of_lt {p y : α} (h : y < p) (l : List α) :
    NoValley (p :: y :: l) ↔ (y :: l).Pairwise (· ≥ ·) := by
  rw [List.pairwise_iff_forall_sublist]
  constructor
  · intro hno b c hsub
    have hp : min p c ≤ b := hno p b c (hsub.cons_cons p)
    by_contra hlt
    rw [ge_iff_le, not_le] at hlt
    have hpb : p ≤ b := (min_le_iff.mp hp).resolve_right (not_le.mpr hlt)
    cases hsub with
    | cons_cons _ _ => exact absurd h (not_lt.mpr hpb)
    | cons _ hsub =>
        -- `b` is above `p`, so `y` lies in a valley between them
        have hb : [b].Sublist l := ((List.nil_sublist [c]).cons_cons b).trans hsub
        have hy : min p b ≤ y := hno p y b ((hb.cons_cons y).cons_cons p)
        rw [min_eq_left hpb] at hy
        exact absurd h (not_lt.mpr hy)
  · intro hfall a b c hsub
    have hbc : [b, c].Sublist (y :: l) := by
      cases hsub with
      | cons _ hsub => exact (List.sublist_cons_self a [b, c]).trans hsub
      | cons_cons _ hsub => exact hsub
    exact le_trans (min_le_right _ _) (hfall hbc)

end Order

variable {α : Type*} [AddCommGroup α] [LinearOrder α] [IsOrderedAddMonoid α]

/-! ## The sum of the increments -/

/-- The increments of the readings `l` after the reading `p`. -/
def risesFrom (p : α) : List α → List α
  | [] => []
  | y :: l => max 0 (y - p) :: risesFrom y l

/-- The increments of a list of readings, of which the first has none. -/
def increments : List α → List α
  | [] => []
  | p :: l => 0 :: risesFrom p l

/-- The distance from the first reading to the highest one. -/
def climb : List α → α
  | [] => 0
  | p :: l => peak p l - p

theorem sum_risesFrom_nonneg (p : α) (l : List α) : 0 ≤ (risesFrom p l).sum := by
  induction l generalizing p with
  | nil => simp [risesFrom]
  | cons y l ih =>
      rw [risesFrom, List.sum_cons]
      exact add_nonneg (le_max_left _ _) (ih y)

/-- The increments add up to the way to the peak at least. -/
theorem peak_sub_le_sum (p : α) (l : List α) : peak p l - p ≤ (risesFrom p l).sum := by
  induction l generalizing p with
  | nil => simp [risesFrom, peak]
  | cons y l ih =>
      rw [risesFrom, peak, List.sum_cons, sub_le_iff_le_add]
      apply max_le
      · have hnonneg : 0 ≤ max 0 (y - p) + (risesFrom y l).sum :=
          add_nonneg (le_max_left _ _) (sum_risesFrom_nonneg y l)
        exact le_add_of_nonneg_left hnonneg
      · calc peak y l = y + (peak y l - y) := by abel
          _ ≤ (max 0 (y - p) + p) + (risesFrom y l).sum := by
              refine add_le_add ?_ (ih y)
              rw [← sub_le_iff_le_add]
              exact le_max_right _ _
          _ = max 0 (y - p) + (risesFrom y l).sum + p := by abel

/-- Readings whose increments are all zero never rise. -/
theorem sum_risesFrom_le_zero_iff (p : α) (l : List α) :
    (risesFrom p l).sum ≤ 0 ↔ (p :: l).Pairwise (· ≥ ·) := by
  rw [← List.isChain_iff_pairwise]
  induction l generalizing p with
  | nil => simp [risesFrom]
  | cons y l ih =>
      rw [risesFrom, List.sum_cons, List.isChain_cons_cons, ← ih y]
      have hrest := sum_risesFrom_nonneg y l
      constructor
      · intro h
        have hrise : max 0 (y - p) ≤ 0 := le_trans (le_add_of_nonneg_right hrest) h
        have hle : (risesFrom y l).sum ≤ 0 :=
          le_trans (le_add_of_nonneg_left (le_max_left _ _)) h
        exact ⟨sub_nonpos.mp (le_trans (le_max_right _ _) hrise), hle⟩
      · rintro ⟨hge, hle⟩
        rw [max_eq_left (sub_nonpos.mpr hge), zero_add]
        exact hle

/-- The increments add up to no more than the way to the peak exactly if no reading lies
in a valley. -/
theorem sum_risesFrom_le_iff (p : α) (l : List α) :
    (risesFrom p l).sum ≤ peak p l - p ↔ NoValley (p :: l) := by
  induction l generalizing p with
  | nil =>
      have hno : NoValley [p] := by
        intro a b c hsub
        have hlen := hsub.length_le
        simp at hlen
      simpa [risesFrom, peak] using hno
  | cons y l ih =>
      rw [risesFrom, peak, List.sum_cons]
      rcases le_or_gt p y with hle | hlt
      · -- the rise to `y` is counted on both sides
        have hpeak : max p (peak y l) = peak y l :=
          max_eq_right (le_trans hle (le_peak y l))
        have hsame : peak y l - p - (y - p + (risesFrom y l).sum) =
            peak y l - y - (risesFrom y l).sum := by abel
        rw [noValley_cons_of_le hle, ← ih y, hpeak, max_eq_right (sub_nonneg.mpr hle),
          ← sub_nonneg, hsame, sub_nonneg]
      · -- after the fall to `y` nothing may be added any more
        rw [noValley_cons_of_lt hlt, ← sum_risesFrom_le_zero_iff,
          max_eq_left (sub_nonpos.mpr (le_of_lt hlt)), zero_add]
        constructor
        · intro h
          rcases le_or_gt (peak y l) p with hbelow | habove
          · rwa [max_eq_left hbelow, sub_self] at h
          · rw [max_eq_right (le_of_lt habove)] at h
            have hless : peak y l - p < peak y l - y := sub_lt_sub_left hlt _
            exact absurd (peak_sub_le_sum y l) (not_le.mpr (lt_of_le_of_lt h hless))
        · intro h
          exact le_trans h (sub_nonneg.mpr (le_max_left _ _))

/-! ## Readings with gaps

A reading that is missing is taken for zero. The increments are those of the readings
filled up, the climb is that of the readings there are. -/

/-- Readings, a missing one read as zero. -/
def filled (l : List (Option α)) : List α := l.map fun v => v.getD 0

/-- The readings from the first that is there. -/
def fromFirst (l : List (Option α)) : List (Option α) := l.dropWhile Option.isNone

/-- Gaps do no harm: those before the first reading if it is not positive, those after it
if they make no valley and some reading is not negative. -/
structure GapsHarmless (l : List (Option α)) : Prop where
  leading : l.head? = some none → ∀ v ∈ l.reduceOption.head?, v ≤ 0
  noValley : NoValley (filled (fromFirst l))
  nonneg : none ∈ fromFirst l → ∃ v ∈ l.reduceOption, 0 ≤ v

omit [IsOrderedAddMonoid α] [LinearOrder α] in
theorem mem_filled {l : List (Option α)} {v : α} :
    v ∈ filled l ↔ v ∈ l.reduceOption ∨ (none ∈ l ∧ v = 0) := by
  rw [List.reduceOption_mem_iff, filled, List.mem_map]
  constructor
  · rintro ⟨w, hw, rfl⟩
    cases w with
    | none => exact Or.inr ⟨hw, rfl⟩
    | some w => exact Or.inl hw
  · rintro (hv | ⟨hnone, rfl⟩)
    · exact ⟨some v, hv, rfl⟩
    · exact ⟨none, hnone, rfl⟩

omit [IsOrderedAddMonoid α] in
theorem peak_present_le_filled (p : α) (l : List (Option α)) :
    peak p l.reduceOption ≤ peak p (filled l) := by
  rw [peak_le_iff]
  intro y hy
  rw [le_peak_iff]
  refine ⟨y, ?_, le_refl y⟩
  rcases List.mem_cons.mp hy with rfl | hy
  · exact List.mem_cons_self
  · exact List.mem_cons_of_mem _ (mem_filled.mpr (Or.inl hy))

omit [IsOrderedAddMonoid α] in
/-- The gaps are no peak of their own if some reading is not negative. -/
theorem peak_filled_le_present_iff (p : α) (l : List (Option α)) :
    peak p (filled l) ≤ peak p l.reduceOption ↔
      (none ∈ l → ∃ v ∈ p :: l.reduceOption, 0 ≤ v) := by
  rw [peak_le_iff, ← le_peak_iff]
  constructor
  · intro h hnone
    exact h 0 (List.mem_cons_of_mem _ (mem_filled.mpr (Or.inr ⟨hnone, rfl⟩)))
  · intro h y hy
    rcases List.mem_cons.mp hy with rfl | hy
    · exact le_peak y _
    · rcases mem_filled.mp hy with hy | ⟨hnone, rfl⟩
      · exact le_peak_iff.mpr ⟨y, List.mem_cons_of_mem _ hy, le_refl y⟩
      · exact h hnone

theorem sum_filled_le_climb_iff (p : α) (l : List (Option α)) :
    (risesFrom p (filled l)).sum ≤ peak p l.reduceOption - p ↔
      NoValley (p :: filled l) ∧ (none ∈ l → ∃ v ∈ p :: l.reduceOption, 0 ≤ v) := by
  rw [← sum_risesFrom_le_iff, ← peak_filled_le_present_iff]
  constructor
  · intro h
    refine ⟨le_trans h (sub_le_sub_right (peak_present_le_filled p l) p), ?_⟩
    exact (sub_le_sub_iff_right p).mp (le_trans (peak_sub_le_sum p (filled l)) h)
  · rintro ⟨hsum, hpeak⟩
    exact le_trans hsum (sub_le_sub_right hpeak p)

/-- The same for readings of which the first is there. -/
theorem sum_increments_some_iff (w : α) (l : List (Option α)) :
    (risesFrom w (filled l)).sum ≤ climb (some w :: l).reduceOption ↔
      GapsHarmless (some w :: l) := by
  rw [List.reduceOption_cons_of_some, climb, sum_filled_le_climb_iff,
    ← List.reduceOption_cons_of_some]
  constructor
  · rintro ⟨hvalley, hgap⟩
    refine ⟨by simp, hvalley, ?_⟩
    intro hnone
    exact hgap (by simpa [fromFirst] using hnone)
  · rintro ⟨-, hvalley, hgap⟩
    refine ⟨hvalley, ?_⟩
    intro hnone
    exact hgap (by simpa [fromFirst] using hnone)

/-- The same for readings of which the first is missing: the first one there is counted
from zero. -/
theorem sum_increments_none_iff (l : List (Option α)) :
    (risesFrom 0 (filled l)).sum ≤ climb (none :: l).reduceOption ↔
      GapsHarmless (none :: l) := by
  rw [List.reduceOption_cons_of_none]
  induction l with
  | nil =>
      refine iff_of_true (le_refl _) ⟨by simp, ?_, by simp [fromFirst]⟩
      intro a b c hsub
      exact absurd hsub.length_le (by simp [fromFirst, filled])
  | cons v l ih =>
      cases v with
      | none =>
          -- another gap changes neither side
          have hsame : (risesFrom 0 (filled (none :: l))).sum = (risesFrom 0 (filled l)).sum := by
            simp [filled, risesFrom]
          rw [hsame, List.reduceOption_cons_of_none, ih]
          constructor
          · rintro ⟨hlead, hvalley, hgap⟩
            exact ⟨fun _ => hlead rfl, hvalley, hgap⟩
          · rintro ⟨hlead, hvalley, hgap⟩
            exact ⟨fun _ => hlead rfl, hvalley, hgap⟩
      | some w =>
          have hsum : (risesFrom 0 (filled (some w :: l))).sum =
              max 0 w + (risesFrom w (filled l)).sum := by
            simp [filled, risesFrom]
          have hharmless : GapsHarmless (none :: some w :: l) ↔
              w ≤ 0 ∧ GapsHarmless (some w :: l) := by
            constructor
            · rintro ⟨hlead, hvalley, hgap⟩
              exact ⟨hlead rfl w rfl, by simp, hvalley, hgap⟩
            · rintro ⟨hw, -, hvalley, hgap⟩
              refine ⟨?_, hvalley, hgap⟩
              intro _ v hv
              rcases Option.some.inj hv with rfl
              exact hw
          rw [hsum, hharmless, ← sum_increments_some_iff]
          have hclimb : climb (some w :: l).reduceOption ≤ (risesFrom w (filled l)).sum := by
            rw [List.reduceOption_cons_of_some]
            exact le_trans (sub_le_sub_right (peak_present_le_filled w l) w)
              (peak_sub_le_sum w (filled l))
          constructor
          · intro h
            have hpos : max 0 w ≤ 0 := nonpos_of_add_le_left (le_trans h hclimb)
            refine ⟨le_trans (le_max_right _ _) hpos, ?_⟩
            exact le_trans (le_add_of_nonneg_left (le_max_left _ _)) h
          · rintro ⟨hw, hsum⟩
            rw [max_eq_left hw, zero_add]
            exact hsum

/-- The increments of readings with gaps add up to no more than the climb of the readings
there are exactly if the gaps do no harm. -/
theorem sum_increments_filled_le_iff (l : List (Option α)) :
    (increments (filled l)).sum ≤ climb l.reduceOption ↔ GapsHarmless l := by
  rcases l with _ | ⟨v, l⟩
  · refine iff_of_true (le_refl _) ⟨by simp, ?_, by simp [fromFirst]⟩
    intro a b c hsub
    exact absurd hsub.length_le (by simp [fromFirst, filled])
  · have hzero : (increments (filled (v :: l))).sum = (risesFrom (v.getD 0) (filled l)).sum := by
      simp [filled, increments]
    rw [hzero]
    cases v with
    | none => exact sum_increments_none_iff l
    | some w => exact sum_increments_some_iff w l

end Intraday.Lib
