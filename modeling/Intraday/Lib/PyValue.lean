import Intraday.Lib.Dict
import Intraday.Lib.Json

/-!
# Intraday.Lib.PyValue — Python code on a parsed JSON value

`json.loads` returns a value of any type, and code that reads it tests the type first, or
raises. An object becomes a dictionary (`dictOf`); `asDict` is what a method of `dict` needs;
`len`, `truthy`, `isinstance` with `int` or with `(int, float)`, and the conversions `int` and
`float` are those of Python, with the exceptions they raise.

A `bool` is an `int`. What is not computed here is a parameter (`Builtins`): the parsing of
texts, the texts of values that are no strings, the quotient and the product of floats, and the
float that an integer is rounded to, up to `floatBound`, from where on the conversion overflows.
-/

namespace Intraday.Lib

open Intraday.Lib.Python

namespace PyFloat

/-- `a == b`. -/
def eq (a b : PyFloat) : Bool := le a b && le b a

/-- `math.isfinite(x)`. -/
def isFinite : PyFloat → Bool
  | .finite _ _ => true
  | _ => false

/-- `x != 0.0`. -/
def nonzero (x : PyFloat) : Bool := !eq x zero

end PyFloat

/-- `2^1024 - 2^970`: integers from here on have no float, half a step beyond the largest. -/
@[irreducible] def floatBound : ℕ := 2 ^ 970 * (2 ^ 54 - 1)

theorem small_lt_floatBound : 1000 < floatBound := by
  unfold floatBound
  decide +kernel

/-- The built-ins that are not computed here; `none` is an exception. -/
structure Builtins where
  /-- `float(text)` -/
  float : String → Option PyFloat
  /-- `json.loads` -/
  loads : String → Option Json
  /-- `a / b` -/
  divide : PyFloat → PyFloat → PyFloat
  /-- `a * b` -/
  multiply : PyFloat → PyFloat → PyFloat
  /-- `float(i)` of an integer that has one -/
  toFloat : ℤ → PyFloat
  /-- `str(v)` of a value that is no string -/
  repr : Json → String

/-- What `json.load` and `json.loads` raise: a `JSONDecodeError`, or anything else, such as a
`UnicodeDecodeError`, a `RecursionError`, or a `ValueError` for an integer with too many digits. -/
inductive LoadExc where
  | jsonDecodeError
  | other (e : Exc)
deriving DecidableEq

/-- `OverflowError`. -/
def overflowError : Exc := .other "OverflowError"

/-- `float(i)`. -/
def floatOfInt (py : Builtins) (i : ℤ) : Except Exc PyFloat :=
  if i.natAbs < floatBound then .ok (py.toFloat i) else .error overflowError

theorem floatOfInt_isOk_iff (py : Builtins) (i : ℤ) :
    (∃ x, floatOfInt py i = .ok x) ↔ i.natAbs < floatBound := by
  rw [floatOfInt]
  by_cases h : i.natAbs < floatBound
  · rw [if_pos h]
    exact iff_of_true ⟨_, rfl⟩ h
  · rw [if_neg h]
    exact iff_of_false (fun h => nomatch h.choose_spec) h

/-- `int(x)`: towards zero; NaN is a `ValueError`, an infinity an `OverflowError`. -/
def PyFloat.toInt : PyFloat → Except Exc ℤ
  | .nan => .error (.other "cannot convert float NaN to integer")
  | .inf _ => .error overflowError
  | .finite negative d => .ok ((value negative d).num.tdiv (value negative d).den)

namespace Json

/-- The dictionary of an object: the last member of a key counts, at the place of the first. -/
def dictOf (members : List (String × Json)) : Dict String Json :=
  members.foldl (fun d m => d.set m.1 m.2) Dict.empty

/-- `len(v)`. -/
def len : Json → Except Exc ℕ
  | .str s => .ok s.length
  | .arr items => .ok items.length
  | .obj members => .ok (dictOf members).entries.length
  | _ => .error (.typeError "object has no len()")

/-- `bool(v)`. -/
def truthy : Json → Bool
  | .null => false
  | .bool b => b
  | .int i => decide (i ≠ 0)
  | .float x => x.nonzero
  | .str s => decide (s ≠ "")
  | .arr items => !items.isEmpty
  | .obj members => !members.isEmpty

/-- The value as a dictionary, for a call of one of its methods. -/
def asDict : Json → Except Exc (Dict String Json)
  | .obj members => .ok (dictOf members)
  | _ => .error (.other "object has no attribute 'get'")

/-- `int(v) if isinstance(v, int) else 0`. -/
def intOrZero : Json → ℤ
  | .int i => i
  | .bool b => if b then 1 else 0
  | _ => 0

/-- `float(v) if isinstance(v, (int, float)) else 0.0`. -/
def floatOrZero (py : Builtins) : Json → Except Exc PyFloat
  | .int i => floatOfInt py i
  | .bool b => floatOfInt py (if b then 1 else 0)
  | .float x => .ok x
  | _ => .ok .zero

/-- `int(v) if isinstance(v, (int, float)) else 0`. -/
def truncOrZero : Json → Except Exc ℤ
  | .int i => .ok i
  | .bool b => .ok (if b then 1 else 0)
  | .float x => x.toInt
  | _ => .ok 0

/-- `str(v)`. -/
def pyStr (py : Builtins) : Json → String
  | .str s => s
  | v => py.repr v

end Json

/-! ## Dictionaries that were written -/

/-- A list of members with different keys is the list of entries of its dictionary. -/
theorem foldl_set_entries {ν : Type} (l : List (String × ν)) (d : Dict String ν)
    (h : ((d.entries ++ l).map Prod.fst).Nodup) :
    (l.foldl (fun d m => d.set m.1 m.2) d).entries = d.entries ++ l := by
  induction l generalizing d with
  | nil => simp
  | cons m l ih =>
      have hnew : m.1 ∉ d.entries.map Prod.fst := by
        rw [List.map_append, List.nodup_append] at h
        intro hmem
        exact h.2.2 m.1 hmem m.1 (by simp) rfl
      have hassign : (d.set m.1 m.2).entries = d.entries ++ [m] := Dict.assign_of_notMem m.2 hnew
      rw [List.foldl_cons, ih _ (by rw [hassign]; simpa using h), hassign, List.append_assoc]
      rfl

namespace Json

/-- A dictionary is read back from its entries. -/
theorem dictOf_entries (d : Dict String Json) : dictOf d.entries = d := by
  have h := foldl_set_entries d.entries Dict.empty (by simpa [Dict.empty] using d.nodup)
  exact Dict.eq_of_entries h

end Json

end Intraday.Lib
