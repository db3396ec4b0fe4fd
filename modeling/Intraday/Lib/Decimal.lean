import Mathlib.Data.Rat.Floor
import Mathlib.Data.Nat.Sqrt

/-!
# Intraday.Lib.Decimal — Python numbers in exact arithmetic

A Python `float` is taken as the rational it denotes. This file has the library
functions the modules apply to such numbers (`int`, `round`) and the ones that
put them into messages (`f"{x:.2f}"`, `f"{n:06d}"`, `str(x)`).
-/

namespace Intraday.Lib.Decimal

/-! ## Rounding -/

/-- `int(x)`: towards zero. -/
def truncate (x : ℚ) : ℤ := if 0 ≤ x then ⌊x⌋ else ⌈x⌉

/-- `round(x)`: to the nearest integer, ties to even. -/
def roundHalfEven (x : ℚ) : ℤ :=
  let r := x - ⌊x⌋
  if r < 1 / 2 then ⌊x⌋
  else if 1 / 2 < r then ⌊x⌋ + 1
  else if ⌊x⌋ % 2 = 0 then ⌊x⌋ else ⌊x⌋ + 1

/-- `round(x, d)`: to `d` decimals, ties to even. -/
def roundTo (d : ℕ) (x : ℚ) : ℚ := roundHalfEven (x * 10 ^ d) / 10 ^ d

/-! ## Integers in messages -/

/-- Decimal digits of `n`, filled with zeros up to `width`. -/
def zeroPad (width n : ℕ) : String :=
  String.ofList (List.replicate (width - n.repr.length) '0') ++ n.repr

theorem ofDigitChars_replicate_zero (k : ℕ) (ds : List Char) :
    Nat.ofDigitChars 10 (List.replicate k '0' ++ ds) 0 = Nat.ofDigitChars 10 ds 0 := by
  induction k with
  | zero => rfl
  | succ k ih => simpa [List.replicate_succ, Nat.ofDigitChars] using ih

/-- Padding loses nothing: the digits still denote the number. -/
theorem ofDigitChars_zeroPad (width n : ℕ) :
    Nat.ofDigitChars 10 (zeroPad width n).toList 0 = n := by
  simp [zeroPad, Nat.toList_repr, ofDigitChars_replicate_zero]

theorem zeroPad_injective (width : ℕ) : Function.Injective (zeroPad width) := by
  intro m n h
  rw [← ofDigitChars_zeroPad width m, h, ofDigitChars_zeroPad width n]

/-! ## Numbers in messages -/

/-- `f"{x:.<d>f}"`: `d` decimals, ties to even, with the sign of `x`. -/
def fmtFixed (d : ℕ) (x : ℚ) : String :=
  let n := (roundHalfEven (x * 10 ^ d)).natAbs
  let sign := if x < 0 then "-" else ""
  if d = 0 then sign ++ n.repr
  else sign ++ (n / 10 ^ d).repr ++ "." ++ zeroPad d (n % 10 ^ d)

/-- `f"{x:+.<d>f}"`. -/
def fmtSigned (d : ℕ) (x : ℚ) : String := (if x < 0 then "" else "+") ++ fmtFixed d x

/-- The number of decimals `x` needs, looked for from `d` on, `k` times. -/
def decimalsFrom (x : ℚ) : ℕ → ℕ → ℕ
  | d, 0 => d
  | d, k + 1 => if (x * 10 ^ d).den = 1 then d else decimalsFrom x (d + 1) k

/-- `str(x)` for a float with at most 17 decimals: as many as it needs, and at
least one. -/
def fmtFloat (x : ℚ) : String := fmtFixed (decimalsFrom x 1 16) x

/-- `f"{x:.<d>f}"` for the square root of `x`. -/
def fmtSqrt (d : ℕ) (x : ℚ) : String :=
  let scaled := x * 100 ^ d * 4
  fmtFixed d (((Nat.sqrt ⌊scaled⌋.toNat + 1) / 2 : ℕ) / 10 ^ d : ℚ)

/-- `f"{x:.<d>%}"`. -/
def fmtPercent (d : ℕ) (x : ℚ) : String := fmtFixed d (x * 100) ++ "%"

/-! ## Numbers read from text -/

/-- A run of digits, single underscores between two of them allowed: its digits. -/
def digitRun (cs : List Char) : Option (List Char) :=
  let parts := cs.splitOn '_'
  if parts.all (fun part => !part.isEmpty && part.all Char.isDigit) then some parts.flatten
  else none

/-- `float(text)`; `none` is a `ValueError`. The infinities and NaN are no numbers here. -/
def parseFloat (text : String) : Option ℚ :=
  let cs := (text.toList.dropWhile Char.isWhitespace).reverse.dropWhile Char.isWhitespace |>.reverse
  let (sign, cs) : ℚ × List Char :=
    match cs with
    | '-' :: rest => (-1, rest)
    | '+' :: rest => (1, rest)
    | _ => (1, cs)
  let isExp := fun c => c == 'e' || c == 'E'
  let mantissa := cs.takeWhile (!isExp ·)
  let whole := mantissa.takeWhile (· != '.')
  let fraction := (mantissa.dropWhile (· != '.')).drop 1
  let digits := fun part : List Char => if part.isEmpty then some [] else digitRun part
  let exponent : Option ℤ :=
    match cs.dropWhile (!isExp ·) with
    | [] => some 0
    | _ :: '-' :: ds => (digitRun ds).map fun ds => -(Nat.ofDigitChars 10 ds 0 : ℤ)
    | _ :: '+' :: ds => (digitRun ds).map fun ds => (Nat.ofDigitChars 10 ds 0 : ℤ)
    | _ :: ds => (digitRun ds).map fun ds => (Nat.ofDigitChars 10 ds 0 : ℤ)
  match digits whole, digits fraction, exponent with
  | some w, some f, some e =>
      if w.isEmpty && f.isEmpty then none
      else some (sign * (Nat.ofDigitChars 10 (w ++ f) 0 / 10 ^ f.length) * 10 ^ e)
  | _, _, _ => none

end Intraday.Lib.Decimal
