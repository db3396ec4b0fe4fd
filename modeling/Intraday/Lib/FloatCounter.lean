import Mathlib.Algebra.Order.Field.Rat
import Mathlib.Logic.Function.Basic
import Intraday.Lib.Redis

/-!
# Intraday.Lib.FloatCounter — counters of numbers, one for each period

The string keys of a Redis server that `INCRBYFLOAT` counts in: each has a text and maybe a
deadline, in microseconds of the server's clock, and is gone once the clock is past it.

A common use is a counter for each period, under a key of its own, that lives for some time after
its last change. If that is no less than the period, the counter of the current period is never
gone, and holds what was added in it: `Totals` is the invariant, `exists_add` the step and
`get_totals` what is read.
-/

namespace Intraday.Lib.FloatCounter

open Intraday.Lib.Redis

/-- A string key: its text, and when it expires. -/
structure Cell where
  value : Text
  deadline : Option ℕ

/-- The string keys of a server. -/
abbrev Store := String → Option Cell

namespace Store

/-- What is at a key at a time. -/
def cell? (s : Store) (now : ℕ) (key : String) : Option Cell :=
  (s key).filter fun c => c.deadline.all fun d => decide (now ≤ d)

/-- `GET key`. -/
def get (s : Store) (now : ℕ) (key : String) : Option Text := (s.cell? now key).map (·.value)

/-- `INCRBYFLOAT key increment`; a key that is not there counts as 0, and one that is keeps its
deadline. `none` is the error of a text that is no number. -/
def incrByFloat (s : Store) (now : ℕ) (key : String) (increment : ℚ) : Option Store :=
  match s.cell? now key with
  | none => some (Function.update s key (some { value := .num increment, deadline := none }))
  | some c =>
      c.value.tonumber.map fun q =>
        Function.update s key (some { value := .num (q + increment), deadline := c.deadline })

/-- `EXPIRE key seconds`. -/
def expire (s : Store) (now : ℕ) (key : String) (seconds : ℕ) : Store :=
  match s.cell? now key with
  | none => s
  | some c =>
      Function.update s key
        (some { value := c.value, deadline := some (now + 1000000 * seconds) })

end Store

/-! ## One counter for each period -/

section Periods

variable {κ : Type} [DecidableEq κ] {keyOf : κ → String} {ends : κ → ℕ} {s : Store}
  {adds : List (κ × ℚ)} {now : ℕ} {k : κ}

/-- What was added in a period. -/
def totalOf (adds : List (κ × ℚ)) (k : κ) : ℚ :=
  ((adds.filter fun a => decide (a.1 = k)).map Prod.snd).sum

theorem totalOf_append_self (adds : List (κ × ℚ)) (k : κ) (x : ℚ) :
    totalOf (adds ++ [(k, x)]) k = totalOf adds k + x := by
  simp [totalOf]

theorem totalOf_append_of_ne {j : κ} (adds : List (κ × ℚ)) (x : ℚ) (h : k ≠ j) :
    totalOf (adds ++ [(k, x)]) j = totalOf adds j := by
  simp [totalOf, h]

/-- Each counter holds what was added in its period, and lives to the end of it. -/
def Totals (keyOf : κ → String) (ends : κ → ℕ) (s : Store) (adds : List (κ × ℚ)) : Prop :=
  ∀ k, (s (keyOf k) = none ∧ totalOf adds k = 0) ∨
    ∃ d, s (keyOf k) = some { value := .num (totalOf adds k), deadline := some d } ∧ ends k ≤ d

theorem totals_empty (keyOf : κ → String) (ends : κ → ℕ) : Totals keyOf ends (fun _ => none) [] :=
  fun _ => .inl ⟨rfl, rfl⟩

/-- During a period its counter is there, unless nothing was added. -/
theorem cell?_totals (h : Totals keyOf ends s adds) (hnow : now ≤ ends k) :
    (s.cell? now (keyOf k) = none ∧ totalOf adds k = 0) ∨
      ∃ d, s.cell? now (keyOf k) = some { value := .num (totalOf adds k), deadline := some d } := by
  rcases h k with ⟨hnone, hzero⟩ | ⟨d, hcell, hend⟩
  · refine .inl ⟨?_, hzero⟩
    rw [Store.cell?, hnone, Option.filter_none]
  · refine .inr ⟨d, ?_⟩
    have hlive : now ≤ d := hnow.trans hend
    rw [Store.cell?, hcell]
    exact Option.filter_some_pos (by simpa using hlive)

/-- During a period its counter reads what was added; nothing reads as 0. -/
theorem get_totals (h : Totals keyOf ends s adds) (hnow : now ≤ ends k) :
    (s.get now (keyOf k) = none ∧ totalOf adds k = 0) ∨
      s.get now (keyOf k) = some (.num (totalOf adds k)) := by
  rcases cell?_totals h hnow with ⟨hnone, hzero⟩ | ⟨d, hcell⟩
  · refine .inl ⟨?_, hzero⟩
    rw [Store.get, hnone, Option.map_none]
  · refine .inr ?_
    rw [Store.get, hcell, Option.map_some]

/-- An addition during a period, with a new deadline not before its end. -/
theorem exists_add (hkey : Function.Injective keyOf) (h : Totals keyOf ends s adds)
    (hnow : now ≤ ends k) {seconds : ℕ} (hend : ends k ≤ now + 1000000 * seconds) (x : ℚ) :
    ∃ s', s.incrByFloat now (keyOf k) x = some s' ∧
      Totals keyOf ends (s'.expire now (keyOf k) seconds) (adds ++ [(k, x)]) := by
  -- the counter after the addition; what it had as a deadline is not before `now`
  have hincr : ∃ deadline : Option ℕ, (deadline.all fun d => decide (now ≤ d)) = true ∧
      s.incrByFloat now (keyOf k) x = some (Function.update s (keyOf k)
        (some { value := .num (totalOf adds k + x), deadline := deadline })) := by
    rcases cell?_totals h hnow with ⟨hnone, hzero⟩ | ⟨d, hcell⟩
    · refine ⟨none, rfl, ?_⟩
      simp only [Store.incrByFloat, hnone, hzero, zero_add]
    · refine ⟨some d, ?_, ?_⟩
      · rw [Store.cell?, Option.filter_eq_some_iff] at hcell
        exact hcell.2
      · simp only [Store.incrByFloat, hcell, Text.tonumber, Option.map_some]
  rcases hincr with ⟨deadline, hlive, hincr⟩
  refine ⟨_, hincr, ?_⟩
  have hcell : Store.cell? (Function.update s (keyOf k)
      (some { value := .num (totalOf adds k + x), deadline := deadline })) now (keyOf k) =
      some { value := .num (totalOf adds k + x), deadline := deadline } := by
    rw [Store.cell?, Function.update_self]
    exact Option.filter_some_pos hlive
  intro j
  rw [Store.expire, hcell]
  by_cases hjk : k = j
  · subst hjk
    refine .inr ⟨_, ?_, hend⟩
    rw [totalOf_append_self]
    exact Function.update_self ..
  · have hne : keyOf j ≠ keyOf k := fun heq => hjk (hkey heq).symm
    rw [totalOf_append_of_ne adds x hjk]
    simp only [Function.update_of_ne hne]
    exact h j

end Periods

end Intraday.Lib.FloatCounter
