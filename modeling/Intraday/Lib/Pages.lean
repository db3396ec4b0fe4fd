import Mathlib.Data.List.Basic
import Mathlib.Tactic.Common

/-!
# Intraday.Lib.Pages — a list in pages

A list cut into pages of `size` elements, the last of which may be shorter. The pages are the list
(`flatten_pages`), and element `k` is on page `k / size` at place `k % size` (`getElem?_page`).
-/

namespace Intraday.Lib

variable {α : Type}

/-- The pages of a list. -/
def pages (size : ℕ) (xs : List α) : List (List α) :=
  (List.range ((xs.length + size - 1) / size)).map fun b => (xs.drop (size * b)).take size

section Pages

variable {size : ℕ} {xs : List α}

theorem getElem?_pages {b : ℕ} (h : b < (xs.length + size - 1) / size) :
    (pages size xs)[b]? = some ((xs.drop (size * b)).take size) := by
  rw [pages, List.getElem?_map, List.getElem?_range h, Option.map_some]

/-- The pages have room for the list. -/
theorem length_le_pages (hsize : 0 < size) (xs : List α) :
    xs.length ≤ size * ((xs.length + size - 1) / size) := by
  have hdiv := Nat.div_add_mod (xs.length + size - 1) size
  have hmod := Nat.mod_lt (xs.length + size - 1) hsize
  omega

/-- The pages together are the list. -/
theorem flatten_pages (hsize : 0 < size) (xs : List α) : (pages size xs).flatten = xs := by
  have hprefix : ∀ n, ((List.range n).map fun b => (xs.drop (size * b)).take size).flatten =
      xs.take (size * n) := by
    intro n
    induction n with
    | zero => simp
    | succ n ih =>
        rw [List.range_succ, List.map_append, List.flatten_append, ih, Nat.mul_succ, List.take_add]
        simp
  rw [pages, hprefix, List.take_of_length_le (length_le_pages hsize xs)]

theorem zipIdx_pages (size : ℕ) (xs : List α) :
    (pages size xs).zipIdx = (List.range ((xs.length + size - 1) / size)).map fun b =>
      ((xs.drop (size * b)).take size, b) := by
  refine List.ext_getElem? ?_
  intro b
  rw [List.getElem?_zipIdx, pages, List.getElem?_map, List.getElem?_map]
  by_cases hb : b < (xs.length + size - 1) / size
  · rw [List.getElem?_range hb, Nat.zero_add]
    rfl
  · rw [List.getElem?_eq_none (by rwa [List.length_range, ← Nat.not_lt])]
    rfl

/-- What is made of the pages, element by element, is made of the list. -/
theorem flatMap_pages {β : Type} (hsize : 0 < size) (f : ℕ → ℕ → α → β) (xs : List α) :
    ((pages size xs).zipIdx.flatMap fun p => p.1.mapIdx (f p.2)) =
      xs.mapIdx fun k => f (k / size) (k % size) := by
  have hprefix : ∀ n, ((List.range n).flatMap fun b =>
      ((xs.drop (size * b)).take size).mapIdx (f b)) =
        (xs.take (size * n)).mapIdx fun k => f (k / size) (k % size) := by
    intro n
    induction n with
    | zero => simp
    | succ n ih =>
        rw [List.range_succ, List.flatMap_append, ih, Nat.mul_succ, List.take_add,
          List.mapIdx_append, List.flatMap_singleton]
        refine congrArg _ (List.mapIdx_eq_mapIdx_iff.mpr ?_)
        intro i hi
        rw [List.length_take, List.length_drop, Nat.lt_min] at hi
        -- the page is not empty, so those before it are full
        have hfull : (xs.take (size * n)).length = size * n := by
          rw [List.length_take]
          omega
        rw [hfull, Nat.add_mul_div_left _ _ hsize, Nat.div_eq_of_lt hi.1, Nat.zero_add,
          Nat.add_mul_mod_self_left, Nat.mod_eq_of_lt hi.1]
  rw [zipIdx_pages, List.flatMap_map, hprefix, List.take_of_length_le (length_le_pages hsize xs)]

/-- Where an element is. -/
theorem getElem?_page (hsize : 0 < size) {k : ℕ} (hk : k < xs.length) :
    ∃ page, (pages size xs)[k / size]? = some page ∧ page[k % size]? = xs[k]? := by
  have hmod := Nat.mod_lt k hsize
  have hpage : k / size < (xs.length + size - 1) / size := by
    rw [Nat.div_lt_iff_lt_mul hsize]
    have hdiv := Nat.div_add_mod (xs.length + size - 1) size
    have hlt := Nat.mod_lt (xs.length + size - 1) hsize
    rw [Nat.mul_comm]
    omega
  refine ⟨_, getElem?_pages hpage, ?_⟩
  rw [List.getElem?_take_of_lt hmod, List.getElem?_drop, Nat.div_add_mod]

end Pages

end Intraday.Lib
