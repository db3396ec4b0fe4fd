import Mathlib.Order.Lattice
import Mathlib.Tactic.Common

/-!
# Intraday.Lib.FirstMax — the first of the greatest

A loop that keeps the best element so far and replaces it by a strictly better one only ends with
the first of the elements of greatest value, if that value exceeds the one it started from
(`firstMax_eq_iff`).
-/

namespace Intraday.Lib

variable {α β : Type} [LinearOrder β] {value : α → β} {start : β} {xs : List α} {x : α}

/-- One turn of the loop. -/
def keepBetter (value : α → β) (best : β × Option α) (x : α) : β × Option α :=
  if value x > best.1 then (value x, some x) else best

/-- The loop, from the value `start`. -/
def firstMax (value : α → β) (start : β) (xs : List α) : β × Option α :=
  xs.foldl (keepBetter value) (start, none)

/-- `x` is the first element of greatest value. -/
def IsFirstMax (value : α → β) (xs : List α) (x : α) : Prop :=
  ∃ before after, xs = before ++ x :: after ∧ (∀ y ∈ before, value y < value x) ∧
    ∀ y ∈ after, value y ≤ value x

/-- Nothing better follows: the loop keeps what it has. -/
theorem foldl_keepBetter_of_le {best : β × Option α} (h : ∀ y ∈ xs, value y ≤ best.1) :
    xs.foldl (keepBetter value) best = best := by
  induction xs with
  | nil => rfl
  | cons y ys ih =>
      rw [List.forall_mem_cons] at h
      rw [List.foldl_cons, keepBetter, if_neg (not_lt.mpr h.1)]
      exact ih h.2

/-- What the loop ends with: what it had, or the first of the greatest. -/
theorem foldl_keepBetter_cases (best : β × Option α) (xs : List α) :
    (xs.foldl (keepBetter value) best = best ∧ ∀ y ∈ xs, value y ≤ best.1) ∨
      ∃ x, xs.foldl (keepBetter value) best = (value x, some x) ∧ best.1 < value x ∧
        IsFirstMax value xs x := by
  induction xs generalizing best with
  | nil => exact .inl ⟨rfl, by simp⟩
  | cons y ys ih =>
      rw [List.foldl_cons]
      by_cases hy : value y > best.1
      · -- `y` is kept to the end, or beaten later
        rw [keepBetter, if_pos hy]
        rcases ih (value y, some y) with ⟨hkept, hle⟩ | ⟨x, hx, hlt, before, after, rfl, hb, ha⟩
        · exact .inr ⟨y, hkept, hy, [], ys, rfl, by simp, hle⟩
        · exact .inr ⟨x, hx, lt_trans hy hlt, y :: before, after, rfl,
            List.forall_mem_cons.mpr ⟨hlt, hb⟩, ha⟩
      · rw [keepBetter, if_neg hy]
        have hle := not_lt.mp hy
        rcases ih best with ⟨hkept, hall⟩ | ⟨x, hx, hlt, before, after, rfl, hb, ha⟩
        · exact .inl ⟨hkept, List.forall_mem_cons.mpr ⟨hle, hall⟩⟩
        · exact .inr ⟨x, hx, hlt, y :: before, after, rfl,
            List.forall_mem_cons.mpr ⟨lt_of_le_of_lt hle hlt, hb⟩, ha⟩

/-- The loop finds exactly the first of the greatest, if it is better than the start. -/
theorem firstMax_eq_iff :
    firstMax value start xs = (value x, some x) ↔ start < value x ∧ IsFirstMax value xs x := by
  constructor
  · intro h
    rcases foldl_keepBetter_cases (start, none) xs with ⟨hkept, -⟩ | ⟨y, hy, hlt, hmax⟩
    · cases hkept.symm.trans h
    · obtain rfl : y = x := Option.some.inj (Prod.mk.inj (hy.symm.trans h)).2
      exact ⟨hlt, hmax⟩
  · rintro ⟨hstart, before, after, rfl, hb, ha⟩
    rw [firstMax, List.foldl_append, List.foldl_cons]
    -- what comes before is worse, and so is the start
    have hworse : (before.foldl (keepBetter value) (start, none)).1 < value x := by
      rcases foldl_keepBetter_cases (start, none) before with ⟨hkept, -⟩ | ⟨y, hy, -, hmax⟩
      · rw [hkept]
        exact hstart
      · rcases hmax with ⟨front, back, rfl, -⟩
        rw [hy]
        exact hb y (by simp)
    rw [keepBetter, if_pos hworse]
    exact foldl_keepBetter_of_le ha

/-- Whatever the loop found, it found with its value. -/
theorem firstMax_fst (h : (firstMax value start xs).2 = some x) :
    firstMax value start xs = (value x, some x) := by
  rcases foldl_keepBetter_cases (start, none) xs with ⟨hkept, -⟩ | ⟨y, hy, -, -⟩
  · rw [firstMax, hkept] at h
    cases h
  · rw [firstMax, hy] at h ⊢
    obtain rfl := Option.some.inj h
    rfl

/-- The loop over the images of elements. -/
theorem firstMax_map {γ : Type} (f : γ → α) (ys : List γ) :
    firstMax value start (ys.map f) =
      ((firstMax (value ∘ f) start ys).1, (firstMax (value ∘ f) start ys).2.map f) := by
  have hfold : ∀ best : β × Option γ,
      (ys.map f).foldl (keepBetter value) (best.1, best.2.map f) =
        ((ys.foldl (keepBetter (value ∘ f)) best).1,
          (ys.foldl (keepBetter (value ∘ f)) best).2.map f) := by
    induction ys with
    | nil => exact fun _ => rfl
    | cons y ys ih =>
        intro best
        rw [List.map_cons, List.foldl_cons, List.foldl_cons, ← ih, keepBetter, keepBetter]
        by_cases hy : value (f y) > best.1
        · rw [if_pos hy, if_pos (show (value ∘ f) y > best.1 from hy), Option.map_some]
          rfl
        · rw [if_neg hy, if_neg (show ¬ (value ∘ f) y > best.1 from hy)]
  exact hfold (start, none)

end Intraday.Lib
