import Mathlib.Data.Rat.Defs

/-!
# Intraday.Lib.Redis — counters as a Lua script sees them

A Redis string reaches a Lua script as text; `tonumber` reads a number off it
or yields `nil`. `INCRBY` and `DECRBY` are stricter: they refuse an increment or
a stored value that is not an integer, and treat a missing key as `0`. A script
runs atomically, but a command that fails half-way does not undo the writes made
before it: `Script` keeps the state on error.

Numbers are exact: a text is identified with the rational it denotes.
-/

namespace Intraday.Lib.Redis

/-- A string value: the number it denotes, or a text that denotes none. -/
inductive Text where
  | num (q : ℚ)
  | word (s : String)
deriving DecidableEq, Repr

/-- Lua `tonumber`: `none` is `nil`. -/
def Text.tonumber : Text → Option ℚ
  | .num q => some q
  | .word _ => none

/-- What makes a script stop. -/
inductive ScriptError where
  /-- `INCRBY`/`DECRBY` on a value or by an increment that is no integer. -/
  | notAnInteger
  /-- `redis.call` given a `nil` argument. -/
  | nilArgument
  /-- Lua comparison of a number with `nil`. -/
  | compareNil
  /-- `WRONGTYPE`: the key holds a value of another type. -/
  | wrongType
  /-- `INCRBY`/`DECRBY` whose result does not fit in 64 bits. -/
  | overflow
deriving DecidableEq, Repr

/-- A script over the keys `σ`: atomic, and not rolled back on error. -/
abbrev Script (σ : Type) := EStateM ScriptError σ

/-- Sequencing after a command that succeeded. -/
theorem run_bind_ok {σ α β : Type} {x : Script σ α} {f : α → Script σ β} {s s' : σ} {v : α}
    (h : x.run s = .ok v s') : (x >>= f).run s = (f v).run s' := by
  simp only [EStateM.run] at h ⊢
  simp only [bind, EStateM.bind, h]

theorem run_get {σ : Type} (s : σ) : (get : Script σ σ).run s = .ok s s := rfl

/-- Lua `a < b`, where either side may be `nil`. -/
def luaLt {σ : Type} : Option ℚ → Option ℚ → Script σ Bool
  | some a, some b => return decide (a < b)
  | _, _ => throw .compareNil

/-- Lua `a <= b`, where either side may be `nil`. -/
def luaLe {σ : Type} : Option ℚ → Option ℚ → Script σ Bool
  | some a, some b => return decide (a ≤ b)
  | _, _ => throw .compareNil

/-- The integer a counter key holds: a missing key counts as `0`. -/
def counterValue : Option Text → Option ℤ
  | none => some 0
  | some (.num q) => if q.den = 1 then some q.num else none
  | some (.word _) => none

/-- The value `INCRBY key by` stores. -/
def incrBy (cell : Option Text) : Option ℚ → Except ScriptError Text
  | none => .error .nilArgument
  | some q =>
      if q.den = 1 then
        match counterValue cell with
        | some n => .ok (.num (n + q.num : ℤ))
        | none => .error .notAnInteger
      else .error .notAnInteger

/-- The value `DECRBY key by` stores. -/
def decrBy (cell : Option Text) (d : Option ℚ) : Except ScriptError Text :=
  incrBy cell (d.map (- ·))

theorem tonumber_natCast (m : ℕ) : (Text.num (m : ℚ)).tonumber = some ((m : ℤ) : ℚ) := by
  rw [Text.tonumber, Rat.intCast_natCast]

@[simp] theorem counterValue_num_int (n : ℤ) : counterValue (some (.num n)) = some n := by
  simp [counterValue]

/-- `GET key or "0"` followed by `tonumber` reads the integer a counter holds. -/
theorem tonumber_getD_of_counterValue {cell : Option Text} {n : ℤ}
    (h : counterValue cell = some n) : (cell.getD (.num 0)).tonumber = some (n : ℚ) := by
  match cell with
  | none =>
      obtain rfl : 0 = n := by simpa [counterValue] using h
      rfl
  | some (.num q) =>
      -- a number text passes as a counter only if it denotes an integer
      have hq : q.den = 1 ∧ q.num = n := by
        simpa [counterValue, ite_eq_iff] using h
      have hval : q = (n : ℚ) := by
        rw [← hq.2]
        exact (Rat.den_eq_one_iff q).mp hq.1 |>.symm
      rw [hval]
      rfl

theorem incrBy_int {cell : Option Text} {n : ℤ} (h : counterValue cell = some n) (d : ℤ) :
    incrBy cell (some (d : ℚ)) = .ok (.num ((n + d : ℤ) : ℚ)) := by
  simp [incrBy, h]

theorem decrBy_int {cell : Option Text} {n : ℤ} (h : counterValue cell = some n) (d : ℤ) :
    decrBy cell (some (d : ℚ)) = .ok (.num ((n - d : ℤ) : ℚ)) := by
  -- `DECRBY d` is `INCRBY (-d)`
  have hneg : (some (d : ℚ)).map (- ·) = some ((-d : ℤ) : ℚ) := by simp
  rw [decrBy, hneg, incrBy_int h, Int.sub_eq_add_neg]

end Intraday.Lib.Redis
