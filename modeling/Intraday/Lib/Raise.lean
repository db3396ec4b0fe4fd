import Mathlib.Algebra.Order.Field.Rat
import Mathlib.Tactic.Common

/-!
# Intraday.Lib.Raise — arithmetic that raises

Lean's division by zero is zero; Python's raises. `div` is the division of Python floats in
exact arithmetic, in `Except`, and a `datetime` has a first and a last value, past which its
arithmetic raises too. A function that is run in `Except` with these says what it raises, and
is compared with a total one by the lemmas on what each operation returns.
-/

namespace Intraday.Lib.Raise

/-- The exceptions of arithmetic, and the `ValueError` of an argument check. -/
inductive Exc where
  | zeroDivisionError
  | overflowError
  | typeError
  | valueError (message : String)
deriving DecidableEq, Repr

/-- `x / y`. -/
def div (x y : ℚ) : Except Exc ℚ := if y = 0 then .error .zeroDivisionError else .ok (x / y)

@[simp] theorem div_zero (x : ℚ) : div x 0 = .error .zeroDivisionError := if_pos rfl

theorem div_of_ne (x : ℚ) {y : ℚ} (h : y ≠ 0) : div x y = .ok (x / y) := if_neg h

@[simp] theorem ok_bind {α β : Type} (a : α) (f : α → Except Exc β) :
    (Except.ok a >>= f) = f a := rfl

@[simp] theorem error_bind {α β : Type} (e : Exc) (f : α → Except Exc β) :
    (Except.error e >>= f) = .error e := rfl

/-- A sequence returns if both of its parts do. -/
theorem bind_eq_ok {α β : Type} {x : Except Exc α} {f : α → Except Exc β} {b : β} :
    (x >>= f) = .ok b ↔ ∃ a, x = .ok a ∧ f a = .ok b := by
  cases x with
  | error e =>
      rw [error_bind]
      constructor
      · intro h
        cases h
      · rintro ⟨a, h, -⟩
        cases h
  | ok a =>
      rw [ok_bind]
      constructor
      · intro h
        exact ⟨a, rfl, h⟩
      · rintro ⟨a', h, hf⟩
        obtain rfl := Except.ok.inj h
        exact hf

/-- Two computations agree up to `f`: both raise the same, or both return and `f` agrees. -/
theorem map_eq_map_iff {α β : Type} {f : α → β} {x y : Except Exc α} :
    x.map f = y.map f ↔
      (∃ e, x = .error e ∧ y = .error e) ∨ ∃ a b, x = .ok a ∧ y = .ok b ∧ f a = f b := by
  constructor
  · intro h
    cases x with
    | error e =>
        cases y with
        | error e' =>
            obtain rfl := Except.error.inj h
            exact .inl ⟨e, rfl, rfl⟩
        | ok b => cases h
    | ok a =>
        cases y with
        | error e' => cases h
        | ok b => exact .inr ⟨a, b, rfl, rfl, Except.ok.inj h⟩
  · rintro (⟨e, rfl, rfl⟩ | ⟨a, b, rfl, rfl, hf⟩)
    · rfl
    · exact congrArg Except.ok hf

/-! ## Times -/

/-- The last microsecond of the year 9999, counted from the first of the year 1. -/
def maxWall : ℤ := 315537897599999999

/-- A `datetime`: its wall clock in microseconds since `datetime.min`, and its offset from UTC if
it is aware. -/
structure PyDateTime where
  wall : ℤ
  utcoffset : Option ℤ
  range : 0 ≤ wall ∧ wall ≤ maxWall
deriving DecidableEq, Repr

/-- `timedelta(minutes=n)`, in microseconds. -/
def minutes (n : ℤ) : ℤ := n * 60000000

namespace PyDateTime

/-- The time `delta` later is a `datetime`, too. -/
def InRange (t : PyDateTime) (delta : ℤ) : Prop := 0 ≤ t.wall + delta ∧ t.wall + delta ≤ maxWall

instance (t : PyDateTime) (delta : ℤ) : Decidable (t.InRange delta) :=
  inferInstanceAs (Decidable (_ ∧ _))

/-- `t + delta`. -/
def add (t : PyDateTime) (delta : ℤ) : Except Exc PyDateTime :=
  if h : t.InRange delta then
    .ok { wall := t.wall + delta, utcoffset := t.utcoffset, range := h }
  else .error .overflowError

/-- `s - t`, in microseconds; aware times are compared as instants. -/
def sub (s t : PyDateTime) : Except Exc ℤ :=
  match s.utcoffset, t.utcoffset with
  | none, none => .ok (s.wall - t.wall)
  | some a, some b => .ok (s.wall - a - (t.wall - b))
  | _, _ => .error .typeError

/-- `s < t`. -/
def lt (s t : PyDateTime) : Except Exc Bool := (decide <| · < 0) <$> s.sub t

/-- `s >= t`. -/
def ge (s t : PyDateTime) : Except Exc Bool := (decide <| 0 ≤ ·) <$> s.sub t

/-- Both are naive or both are aware. -/
def Consistent (s t : PyDateTime) : Prop := s.utcoffset.isSome = t.utcoffset.isSome

theorem add_ok {t : PyDateTime} {delta : ℤ} (h : t.InRange delta) :
    t.add delta = .ok { wall := t.wall + delta, utcoffset := t.utcoffset, range := h } :=
  dif_pos h

theorem add_error {t : PyDateTime} {delta : ℤ} (h : ¬ t.InRange delta) :
    t.add delta = .error .overflowError :=
  dif_neg h

theorem exists_sub {s t : PyDateTime} (h : s.Consistent t) : ∃ delta, s.sub t = .ok delta := by
  rw [Consistent] at h
  cases hs : s.utcoffset <;> cases ht : t.utcoffset <;> rw [hs, ht] at h
  · exact ⟨s.wall - t.wall, by simp only [sub, hs, ht]⟩
  · cases h
  · cases h
  · rename_i a b
    exact ⟨s.wall - a - (t.wall - b), by simp only [sub, hs, ht]⟩

theorem Consistent.symm {s t : PyDateTime} (h : s.Consistent t) : t.Consistent s := Eq.symm h

theorem lt_of_sub {s t : PyDateTime} {delta : ℤ} (h : s.sub t = .ok delta) :
    s.lt t = .ok (decide (delta < 0)) := by
  rw [lt, h]
  rfl

theorem ge_of_sub {s t : PyDateTime} {delta : ℤ} (h : s.sub t = .ok delta) :
    s.ge t = .ok (decide (0 ≤ delta)) := by
  rw [ge, h]
  rfl

end PyDateTime

end Intraday.Lib.Raise
