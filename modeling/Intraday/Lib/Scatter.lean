import Mathlib.Data.List.Basic

/-!
# Intraday.Lib.Scatter — values put back at the positions they are for

Some elements of a list are picked out, their positions remembered, and values that were found for
them are written to these positions. An element that was picked gets the value of its rank among
those that were (`getElem?_scatter`, `getElem?_findIdxs_rank`); the others stay
(`getElem?_scatter_of_notMem`).
-/

namespace Intraday.Lib

variable {α : Type}

/-- The list with each value at its position. -/
def scatter (xs : List α) (pairs : List (ℕ × α)) : List α :=
  pairs.foldl (fun xs p => xs.set p.1 p.2) xs

/-- How many elements before a position are picked. -/
def rank (p : α → Bool) (xs : List α) (i : ℕ) : ℕ := (xs.take i).countP p

section Scatter

variable {xs : List α} {pairs : List (ℕ × α)} {i k : ℕ} {a : α}

@[simp] theorem length_scatter (xs : List α) (pairs : List (ℕ × α)) :
    (scatter xs pairs).length = xs.length := by
  induction pairs generalizing xs with
  | nil => rfl
  | cons p pairs ih =>
      rw [scatter, List.foldl_cons]
      exact (ih (xs.set p.1 p.2)).trans List.length_set

/-- An element that no value is for stays. -/
theorem getElem?_scatter_of_notMem (h : i ∉ pairs.map Prod.fst) :
    (scatter xs pairs)[i]? = xs[i]? := by
  induction pairs generalizing xs with
  | nil => rfl
  | cons p pairs ih =>
      rw [List.map_cons, List.mem_cons, not_or] at h
      rw [scatter, List.foldl_cons]
      exact (ih h.2).trans (List.getElem?_set_ne (Ne.symm h.1))

/-- Values for different positions do not overwrite each other. -/
theorem getElem?_scatter (hnodup : (pairs.map Prod.fst).Nodup) (hk : pairs[k]? = some (i, a))
    (hi : i < xs.length) : (scatter xs pairs)[i]? = some a := by
  induction pairs generalizing xs k with
  | nil => cases hk
  | cons p pairs ih =>
      rw [List.map_cons, List.nodup_cons] at hnodup
      cases k with
      | zero =>
          -- the first value, which is for no later position
          obtain rfl : p = (i, a) := Option.some.inj hk
          rw [scatter, List.foldl_cons]
          exact (getElem?_scatter_of_notMem hnodup.1).trans (List.getElem?_set_self hi)
      | succ k =>
          rw [scatter, List.foldl_cons]
          exact ih hnodup.2 hk (by rwa [List.length_set])

end Scatter

section Rank

variable {p : α → Bool} {xs : List α} {i : ℕ} {x : α}

/-- The position of a picked element has the place of its rank among the positions. -/
theorem getElem?_findIdxs_rank (h : xs[i]? = some x) (hp : p x = true) (start : ℕ) :
    (xs.findIdxs p start)[rank p xs i]? = some (i + start) := by
  induction xs generalizing i start with
  | nil => cases h
  | cons y xs ih =>
      rw [List.findIdxs_cons]
      cases i with
      | zero =>
          obtain rfl : y = x := Option.some.inj h
          rw [if_pos hp, Nat.zero_add]
          rfl
      | succ i =>
          rw [List.getElem?_cons_succ] at h
          rw [rank, List.take_succ_cons, Nat.succ_add_eq_add_succ]
          cases hy : p y with
          | true =>
              rw [List.countP_cons_of_pos hy, if_pos rfl, List.getElem?_cons_succ]
              exact ih h (start + 1)
          | false =>
              rw [List.countP_cons_of_neg (Bool.eq_false_iff.mp hy), if_neg Bool.false_ne_true]
              exact ih h (start + 1)

/-- A picked element has the place of its rank among those picked. -/
theorem getElem?_filter_rank (h : xs[i]? = some x) (hp : p x = true) :
    (xs.filter p)[rank p xs i]? = some x := by
  rcases List.getElem?_eq_some_iff.mp (getElem?_findIdxs_rank h hp 0) with ⟨hlt, hposition⟩
  rcases List.getElem?_eq_some_iff.mp h with ⟨hi, hx⟩
  have hrank : rank p xs i < (xs.filter p).length := by
    rwa [← List.countP_eq_length_filter, ← List.length_findIdxs]
  refine List.getElem?_eq_some_iff.mpr ⟨hrank, ?_⟩
  rw [List.getElem_filter_eq_getElem_getElem_findIdxs]
  simp only [hposition, Nat.add_zero, hx]

/-- The rank of a picked element is one of the places. -/
theorem rank_lt_countP (h : xs[i]? = some x) (hp : p x = true) : rank p xs i < xs.countP p := by
  have hget := getElem?_filter_rank h hp
  rw [List.countP_eq_length_filter]
  exact (List.getElem?_eq_some_iff.mp hget).1

end Rank

end Intraday.Lib
