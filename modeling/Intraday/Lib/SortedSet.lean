import Mathlib.Data.List.Dedup
import Mathlib.Data.List.Sort

/-!
# Intraday.Lib.SortedSet — the different values of a list, in order

`sorted({…})`: every value once, from the least on. A range of values of such a list is a range of
its indices, at both ends (`filter_between`).
-/

namespace Intraday.Lib

variable {α : Type*} [LinearOrder α]

/-- `sorted(set(xs))`. -/
def sortedSet (xs : List α) : List α := xs.dedup.insertionSort (· ≤ ·)

@[simp] theorem mem_sortedSet {xs : List α} {x : α} : x ∈ sortedSet xs ↔ x ∈ xs := by
  rw [sortedSet, List.mem_insertionSort, List.mem_dedup]

theorem nodup_sortedSet (xs : List α) : (sortedSet xs).Nodup := by
  rw [sortedSet, (List.perm_insertionSort _ _).nodup_iff]
  exact List.nodup_dedup xs

theorem sortedSet_pairwise (xs : List α) : (sortedSet xs).Pairwise (· < ·) := by
  have hle : (sortedSet xs).Pairwise (· ≤ ·) := List.pairwise_insertionSort _ _
  refine (hle.and (nodup_sortedSet xs)).imp ?_
  rintro x y ⟨hxy, hne⟩
  exact lt_of_le_of_ne hxy hne

/-- A part of the list has a part of its values. -/
theorem sortedSet_filter (p : α → Bool) (xs : List α) :
    sortedSet (xs.filter p) = (sortedSet xs).filter p := by
  apply (sortedSet_pairwise _).eq_of_mem_iff ((sortedSet_pairwise xs).filter p)
  intro x
  rw [mem_sortedSet, List.mem_filter, List.mem_filter, mem_sortedSet]

/-! ## Ranges -/

section Ranges

variable {ds : List α} (hds : ds.Pairwise (· < ·))
include hds

/-- The values up to one of them. -/
theorem filter_le {m : ℕ} {d : α} (hm : ds[m]? = some d) :
    ds.filter (fun x => decide (x ≤ d)) = ds.take (m + 1) := by
  rcases List.getElem?_eq_some_iff.mp hm with ⟨hlt, rfl⟩
  -- both are in order, so their values decide
  apply (hds.filter _).eq_of_mem_iff (hds.sublist (List.take_sublist _ _))
  intro x
  rw [List.mem_filter, decide_eq_true_iff, List.mem_take_iff_getElem]
  constructor
  · rintro ⟨hmem, hle⟩
    rcases List.mem_iff_getElem.mp hmem with ⟨i, hi, rfl⟩
    have him : i ≤ m := hds.sortedLT.getElem_le_getElem_iff.mp hle
    exact ⟨i, by omega, rfl⟩
  · rintro ⟨i, hi, rfl⟩
    refine ⟨List.getElem_mem _, ?_⟩
    rw [hds.sortedLT.getElem_le_getElem_iff]
    omega

/-- The values between two of them, with both. -/
theorem filter_between {a b : ℕ} {start stop : α} (ha : ds[a]? = some start)
    (hb : ds[b]? = some stop) :
    ds.filter (fun x => decide (start ≤ x ∧ x ≤ stop)) = (ds.drop a).take (b + 1 - a) := by
  rcases List.getElem?_eq_some_iff.mp ha with ⟨haLt, rfl⟩
  rcases List.getElem?_eq_some_iff.mp hb with ⟨hbLt, rfl⟩
  apply (hds.filter _).eq_of_mem_iff
  · exact hds.sublist ((List.take_sublist _ _).trans (List.drop_sublist _ _))
  intro x
  rw [List.mem_filter, decide_eq_true_iff, List.mem_take_iff_getElem]
  constructor
  · rintro ⟨hmem, hstart, hstop⟩
    rcases List.mem_iff_getElem.mp hmem with ⟨i, hi, rfl⟩
    have hai : a ≤ i := hds.sortedLT.getElem_le_getElem_iff.mp hstart
    have hib : i ≤ b := hds.sortedLT.getElem_le_getElem_iff.mp hstop
    refine ⟨i - a, ?_, ?_⟩
    · rw [List.length_drop]
      omega
    · rw [List.getElem_drop]
      congr 1
      omega
  · rintro ⟨i, hi, rfl⟩
    rw [List.length_drop] at hi
    rw [List.getElem_drop]
    refine ⟨List.getElem_mem _, ?_, ?_⟩
    · rw [hds.sortedLT.getElem_le_getElem_iff]
      omega
    · rw [hds.sortedLT.getElem_le_getElem_iff]
      omega

end Ranges

end Intraday.Lib
