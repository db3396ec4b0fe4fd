import Mathlib.Order.Lattice
import Mathlib.Data.List.TakeWhile

/-!
# Intraday.Lib.Phases — a day cut into phases

A list of bounds, each with the label of what lies before it, gives every time the label of
the first bound that it is below. Whatever the order of the bounds, times that do not go back
pass through the labels in the order of the list: the first bound above a time only moves to
the right.
-/

namespace Intraday.Lib

variable {T S : Type}

/-- The label of the first bound that `t` is below, or the last one. -/
def phaseOf [LinearOrder T] (last : S) : List (T × S) → T → S
  | [], _ => last
  | (bound, label) :: rest, t => if t < bound then label else phaseOf last rest t

/-- Runs of the labels, in their order; a run may be empty. -/
def PassesThrough : List S → List S → Prop
  | [], states => states = []
  | label :: labels, states =>
      ∃ n rest, states = List.replicate n label ++ rest ∧ PassesThrough labels rest

/-- Sorted times that are not below a bound at their head are not below it later. -/
theorem forall_dropWhile_le [LinearOrder T] (bound : T) {times : List T}
    (h : times.Pairwise (· ≤ ·)) : ∀ t ∈ times.dropWhile (· < bound), ¬ t < bound := by
  induction times with
  | nil =>
      intro t ht
      cases ht
  | cons u times ih =>
      rcases List.pairwise_cons.mp h with ⟨hu, htimes⟩
      by_cases hbound : u < bound
      · rw [List.dropWhile_cons_of_pos (by simpa using hbound)]
        exact ih htimes
      · rw [List.dropWhile_cons_of_neg (by simpa using hbound)]
        intro t ht
        rcases List.mem_cons.mp ht with rfl | hlater
        · exact hbound
        · intro hlt
          exact hbound ((hu t hlater).trans_lt hlt)

/-- Times that do not go back pass through the phases in their order. -/
theorem passesThrough_phaseOf [LinearOrder T] (last : S) (bounds : List (T × S)) {times : List T}
    (h : times.Pairwise (· ≤ ·)) :
    PassesThrough (bounds.map Prod.snd ++ [last]) (times.map (phaseOf last bounds)) := by
  induction bounds generalizing times with
  | nil =>
      refine ⟨times.length, [], ?_, rfl⟩
      rw [List.append_nil, ← List.map_const']
      rfl
  | cons entry bounds ih =>
      rcases entry with ⟨bound, label⟩
      have hlater := forall_dropWhile_le bound h
      have hsorted : (times.dropWhile (· < bound)).Pairwise (· ≤ ·) :=
        h.sublist (List.dropWhile_sublist _)
      -- the run of the first label is what lies below the first bound
      refine ⟨(times.takeWhile (· < bound)).length,
        (times.dropWhile (· < bound)).map (phaseOf last bounds), ?_, ih hsorted⟩
      have hfirst : (times.takeWhile (· < bound)).map (phaseOf last ((bound, label) :: bounds)) =
          List.replicate (times.takeWhile (· < bound)).length label := by
        rw [← List.map_const']
        apply List.map_congr_left
        intro t ht
        have hlt : t < bound := by simpa using List.mem_takeWhile_imp ht
        rw [phaseOf, if_pos hlt]
      have hrest : (times.dropWhile (· < bound)).map (phaseOf last ((bound, label) :: bounds)) =
          (times.dropWhile (· < bound)).map (phaseOf last bounds) := by
        apply List.map_congr_left
        intro t ht
        rw [phaseOf, if_neg (hlater t ht)]
      rw [← hfirst, ← hrest, ← List.map_append, List.takeWhile_append_dropWhile]

end Intraday.Lib
