import Mathlib.Data.Rat.Defs
import Mathlib.Algebra.Order.Field.Rat
import Intraday.Lib.Decimal

/-!
# Intraday.Lib.PyFloat — floats by their shortest text

`repr` writes a float as the shortest decimal that is read back as the same float. A finite
float is therefore given by that decimal: its sign, its digits without trailing zeros, and the
power of ten. Two floats are the same exactly if these agree.

Number texts follow the grammar of JSON, which `repr` stays within: an integer part without
leading zeros, a fraction and an exponent. A text is read as the decimal it denotes; this is the
float that Python makes of it whenever the text is the `repr` of a float.

`scanNumber_repr` and `scanNumber_int` are the round trips.
-/

namespace Intraday.Lib

/-- A decimal `digits * 10 ^ exp` without trailing zeros. -/
structure Shortest where
  digits : ℕ
  exp : ℤ
  normal : digits % 10 ≠ 0 ∨ digits = 0 ∧ exp = 0
deriving DecidableEq

/-- A Python `float`. -/
inductive PyFloat where
  | nan
  | inf (negative : Bool)
  | finite (negative : Bool) (decimal : Shortest)
deriving DecidableEq

namespace PyFloat

/-- The rational that a finite float denotes. -/
def value (negative : Bool) (d : Shortest) : ℚ :=
  (if negative then -1 else 1) * d.digits * (10 : ℚ) ^ d.exp

/-- `a <= b`: false if either is NaN. -/
def le : PyFloat → PyFloat → Bool
  | .nan, _ | _, .nan => false
  | .inf true, _ | _, .inf false => true
  | .inf false, _ | _, .inf true => false
  | .finite na a, .finite nb b => decide (value na a ≤ value nb b)

/-- `0.0`. -/
def zero : PyFloat := .finite false { digits := 0, exp := 0, normal := .inr ⟨rfl, rfl⟩ }

/-- `numpy.maximum`: NaN if either is. -/
def maximum (a b : PyFloat) : PyFloat := if le b a ∨ a = .nan then a else b

/-- `numpy.minimum`: NaN if either is. -/
def minimum (a b : PyFloat) : PyFloat := if le a b ∨ a = .nan then a else b

end PyFloat

/-! ## Number texts -/

/-- The parts of a number text after its sign: the digits before and after the point, and the
exponent. Without a point the fraction is empty. -/
structure NumberParts where
  whole : List Char
  fraction : List Char
  exponent : Option ℤ
deriving DecidableEq, Repr

namespace NumberParts

/-- An exponent as `repr` writes it: with its sign and at least two digits. -/
def exponentText : Option ℤ → List Char
  | none => []
  | some e =>
      let digits := Nat.toDigits 10 e.natAbs
      'e' :: (if e < 0 then '-' else '+') :: (List.replicate (2 - digits.length) '0' ++ digits)

/-- The text of the parts. -/
def text (p : NumberParts) : List Char :=
  p.whole ++ (if p.fraction = [] then [] else '.' :: p.fraction) ++ exponentText p.exponent

/-- Strips trailing zeros off a decimal, at most `fuel` of them. -/
def stripZeros : ℕ → ℕ → ℤ → ℕ × ℤ
  | 0, m, e => (m, e)
  | fuel + 1, m, e => if m % 10 = 0 then stripZeros fuel (m / 10) (e + 1) else (m, e)

theorem stripZeros_normal {fuel m : ℕ} (hm : 0 < m) (hfuel : m ≤ fuel) (e : ℤ) :
    (stripZeros fuel m e).1 % 10 ≠ 0 := by
  induction fuel generalizing m e with
  | zero => omega
  | succ fuel ih =>
      rw [stripZeros]
      split
      · refine ih ?_ ?_ _
        · omega
        · omega
      · assumption

/-- Zeros that were appended are stripped. -/
theorem stripZeros_mul_pow {d k fuel : ℕ} (hd : d % 10 ≠ 0) (hfuel : k ≤ fuel) (e : ℤ) :
    stripZeros fuel (d * 10 ^ k) e = (d, e + k) := by
  induction k generalizing fuel e with
  | zero =>
      cases fuel with
      | zero => simp [stripZeros]
      | succ fuel => simp [stripZeros, hd]
  | succ k ih =>
      cases fuel with
      | zero => omega
      | succ fuel =>
          have hmod : d * 10 ^ (k + 1) % 10 = 0 := by
            rw [Nat.pow_succ, ← Nat.mul_assoc]
            exact Nat.mul_mod_left _ _
          have hdiv : d * 10 ^ (k + 1) / 10 = d * 10 ^ k := by
            rw [Nat.pow_succ, ← Nat.mul_assoc]
            exact Nat.mul_div_cancel _ (by omega)
          rw [stripZeros, if_pos hmod, hdiv, ih (by omega)]
          congr 1
          push_cast
          omega

/-- The decimal `m * 10 ^ e`, without trailing zeros. -/
def shortest (m : ℕ) (e : ℤ) : Shortest :=
  if h : m = 0 then { digits := 0, exp := 0, normal := .inr ⟨rfl, rfl⟩ }
  else
    { digits := (stripZeros m m e).1
      exp := (stripZeros m m e).2
      normal := .inl (stripZeros_normal (Nat.pos_of_ne_zero h) (Nat.le_refl m) e) }

theorem shortest_mul_pow (d : Shortest) (k : ℕ) :
    shortest (d.digits * 10 ^ k) (d.exp - k) = d := by
  rcases d with ⟨digits, exp, normal⟩
  by_cases hzero : digits = 0
  · have hexp : exp = 0 := by
      rcases normal with hmod | ⟨-, hexp⟩
      · omega
      · exact hexp
    subst hzero hexp
    simp [shortest]
  · have hmod : digits % 10 ≠ 0 := normal.resolve_right fun h => hzero h.1
    have hpos : ¬ digits * 10 ^ k = 0 := by
      exact Nat.mul_ne_zero hzero (pow_ne_zero k (by omega))
    have hk : k ≤ digits * 10 ^ k :=
      calc k ≤ 10 ^ k := (Nat.lt_pow_self (by omega)).le
        _ ≤ digits * 10 ^ k := Nat.le_mul_of_pos_left _ (Nat.pos_of_ne_zero hzero)
    have hstrip := stripZeros_mul_pow hmod hk (exp - k)
    rw [sub_add_cancel] at hstrip
    simp only [shortest, dif_neg hpos, hstrip]

/-- `float` of the text: the decimal that the parts denote. -/
def decimal (p : NumberParts) : Shortest :=
  shortest (Nat.ofDigitChars 10 (p.whole ++ p.fraction) 0)
    (p.exponent.getD 0 - p.fraction.length)

/-- The text is one that the grammar allows. -/
structure WellFormed (p : NumberParts) : Prop where
  whole_ne_nil : p.whole ≠ []
  whole_digits : ∀ c ∈ p.whole, c.isDigit = true
  whole_zero : p.whole.head? = some '0' → p.whole = ['0']
  fraction_digits : ∀ c ∈ p.fraction, c.isDigit = true

end NumberParts

/-! ## `repr` -/

namespace Shortest

/-- The parts of the `repr` of a float, without its sign. The decimal point stands after
`decpt` digits; beyond 16 digits before it or 3 zeros after it the exponent is written. -/
def parts (d : Shortest) : NumberParts :=
  let digits := Nat.toDigits 10 d.digits
  let decpt : ℤ := digits.length + d.exp
  if -4 < decpt ∧ decpt ≤ 16 then
    if decpt ≤ 0 then
      { whole := ['0'], fraction := List.replicate (-decpt).toNat '0' ++ digits, exponent := none }
    else if decpt < digits.length then
      { whole := digits.take decpt.toNat, fraction := digits.drop decpt.toNat, exponent := none }
    else
      { whole := digits ++ List.replicate d.exp.toNat '0', fraction := ['0'], exponent := none }
  else
    { whole := digits.take 1, fraction := digits.drop 1, exponent := some (decpt - 1) }

theorem isDigit_of_mem_toDigits {n : ℕ} {c : Char} (h : c ∈ Nat.toDigits 10 n) :
    c.isDigit = true :=
  Nat.isDigit_of_mem_toDigits (by omega) (by omega) h

/-- Only zero begins with a zero. -/
theorem toDigits_head {n : ℕ} (h : (Nat.toDigits 10 n).head? = some '0') : n = 0 := by
  induction n using Nat.strongRecOn with
  | ind n ih =>
      by_cases hlt : n < 10
      · rw [Nat.toDigits_of_lt_base hlt, List.head?_cons, Option.some.injEq] at h
        have hvalue := Nat.toNat_digitChar_sub_48_of_lt_ten hlt
        rw [h] at hvalue
        exact hvalue.symm
      · rw [Nat.toDigits_of_base_le (by omega) (by omega),
          List.head?_append_of_ne_nil _ Nat.toDigits_ne_nil] at h
        have := ih (n / 10) (by omega) h
        omega

theorem eq_zero_of_head {d : Shortest} (h : (Nat.toDigits 10 d.digits).head? = some '0') :
    Nat.toDigits 10 d.digits = ['0'] ∧ d.exp = 0 := by
  have hzero : d.digits = 0 := toDigits_head h
  refine ⟨by rw [hzero, Nat.toDigits_zero], ?_⟩
  rcases d.normal with hmod | ⟨-, hexp⟩
  · omega
  · exact hexp

theorem parts_wellFormed (d : Shortest) : d.parts.WellFormed := by
  have hdigits : ∀ c ∈ Nat.toDigits 10 d.digits, c.isDigit = true :=
    fun c hc => isDigit_of_mem_toDigits hc
  have hne : Nat.toDigits 10 d.digits ≠ [] := Nat.toDigits_ne_nil
  have hzero := @eq_zero_of_head d
  simp only [parts]
  generalize Nat.toDigits 10 d.digits = digits at hdigits hne hzero ⊢
  have hpos : 0 < digits.length := List.length_pos_iff.mpr hne
  have hzeros : ∀ n, ∀ c ∈ List.replicate n '0', c.isDigit = true := by
    intro n c hc
    rw [List.eq_of_mem_replicate hc]
    rfl
  split
  · split
    · refine ⟨by simp, by simp, by simp, ?_⟩
      intro c hc
      rcases List.mem_append.mp hc with hc | hc
      · exact hzeros _ c hc
      · exact hdigits c hc
    · split
      · -- the point stands between two digits
        refine ⟨?_, ?_, ?_, ?_⟩
        · simp only [ne_eq, List.take_eq_nil_iff, not_or]
          exact ⟨by omega, hne⟩
        · intro c hc
          exact hdigits c (List.mem_of_mem_take hc)
        · intro hhead
          rw [List.head?_take, if_neg (by omega)] at hhead
          have hexp := (hzero hhead).2
          omega
        · intro c hc
          exact hdigits c (List.mem_of_mem_drop hc)
      · refine ⟨by simp [hne], ?_, ?_, by simp⟩
        · intro c hc
          rcases List.mem_append.mp hc with hc | hc
          · exact hdigits c hc
          · exact hzeros _ c hc
        · intro hhead
          rw [List.head?_append_of_ne_nil _ hne] at hhead
          rcases hzero hhead with ⟨hone, hexp⟩
          simp [hone, hexp]
  · refine ⟨?_, ?_, ?_, ?_⟩
    · simp [hne]
    · intro c hc
      exact hdigits c (List.mem_of_mem_take hc)
    · intro hhead
      rw [List.head?_take, if_neg (by omega)] at hhead
      rw [(hzero hhead).1]
      rfl
    · intro c hc
      exact hdigits c (List.mem_of_mem_drop hc)

theorem ofDigitChars_zeros (ds : List Char) (k : ℕ) :
    Nat.ofDigitChars 10 (ds ++ List.replicate k '0') 0 = Nat.ofDigitChars 10 ds 0 * 10 ^ k := by
  rw [Nat.ofDigitChars_append, Nat.ofDigitChars_replicate_zero, Nat.mul_comm]

/-- The parts of the `repr` denote the float. -/
theorem parts_decimal (d : Shortest) : d.parts.decimal = d := by
  have hvalue : Nat.ofDigitChars 10 (Nat.toDigits 10 d.digits) 0 = d.digits :=
    Nat.ofDigitChars_ten_toDigits
  have hne : Nat.toDigits 10 d.digits ≠ [] := Nat.toDigits_ne_nil
  have hself : NumberParts.shortest d.digits d.exp = d := by
    simpa using NumberParts.shortest_mul_pow d 0
  simp only [parts]
  generalize Nat.toDigits 10 d.digits = digits at hvalue hne ⊢
  have hpos : 0 < digits.length := List.length_pos_iff.mpr hne
  split
  · split
    · have hdigits : ['0'] ++ (List.replicate (-(digits.length + d.exp)).toNat '0' ++ digits) =
          List.replicate ((-(digits.length + d.exp)).toNat + 1) '0' ++ digits := by
        rw [List.replicate_succ]
        rfl
      have hexp : (0 : ℤ) - ((-(digits.length + d.exp)).toNat + digits.length : ℕ) = d.exp := by
        omega
      simp only [NumberParts.decimal, hdigits, Decimal.ofDigitChars_replicate_zero, hvalue,
        List.length_append, List.length_replicate, Option.getD_none, hexp, hself]
    · split
      · have hexp : (0 : ℤ) - (digits.length - (digits.length + d.exp : ℤ).toNat : ℕ) = d.exp := by
          omega
        simp only [NumberParts.decimal, List.take_append_drop, hvalue, List.length_drop,
          Option.getD_none, hexp, hself]
      · -- the zeros before the point and the one after it are stripped again
        have hdigits : digits ++ List.replicate d.exp.toNat '0' ++ ['0'] =
            digits ++ List.replicate (d.exp.toNat + 1) '0' := by
          rw [List.append_assoc, List.replicate_succ']
        have hexp : (0 : ℤ) - (1 : ℕ) = d.exp - (d.exp.toNat + 1 : ℕ) := by
          omega
        simp only [NumberParts.decimal, hdigits, ofDigitChars_zeros, hvalue, List.length_singleton,
          Option.getD_none, hexp, NumberParts.shortest_mul_pow]
  · have hexp : (digits.length + d.exp - 1 : ℤ) - (digits.length - 1 : ℕ) = d.exp := by
      omega
    simp only [NumberParts.decimal, List.take_append_drop, hvalue, List.length_drop,
      Option.getD_some, hexp, hself]

end Shortest

/-- The sign of a number text. -/
def signText (negative : Bool) : List Char := if negative then ['-'] else []

namespace PyFloat

/-- `repr(x)` of a finite float. -/
def reprFinite (negative : Bool) (d : Shortest) : List Char :=
  signText negative ++ d.parts.text

/-- `repr(x)`, which is also `str(x)`. -/
def repr : PyFloat → String
  | .nan => "nan"
  | .inf negative => String.ofList (signText negative) ++ "inf"
  | .finite negative d => String.ofList (reprFinite negative d)

end PyFloat

/-! ## Reading numbers -/

/-- A number read from a text: an integer, or a float if it has a fraction or an exponent. -/
inductive Number where
  | int (i : ℤ)
  | float (x : PyFloat)
deriving DecidableEq

/-- The integer part: `0`, or digits that do not begin with it. -/
def scanWhole : List Char → Option (List Char × List Char)
  | '0' :: rest => some (['0'], rest)
  | cs =>
      let digits := cs.takeWhile Char.isDigit
      if digits = [] then none else some (digits, cs.dropWhile Char.isDigit)

/-- The fraction: a point and digits, or nothing. -/
def scanFraction : List Char → List Char × List Char
  | '.' :: rest =>
      let digits := rest.takeWhile Char.isDigit
      if digits = [] then ([], '.' :: rest) else (digits, rest.dropWhile Char.isDigit)
  | cs => ([], cs)

/-- A sign. -/
def scanSign : List Char → Bool × List Char
  | '-' :: rest => (true, rest)
  | '+' :: rest => (false, rest)
  | cs => (false, cs)

/-- The exponent: `e` or `E`, a sign and digits, or nothing. -/
def scanExponent (cs : List Char) : Option ℤ × List Char :=
  if cs.head? = some 'e' ∨ cs.head? = some 'E' then
    let signed := scanSign cs.tail
    let digits := signed.2.takeWhile Char.isDigit
    let n : ℤ := Nat.ofDigitChars 10 digits 0
    if digits = [] then (none, cs)
    else (some (if signed.1 then -n else n), signed.2.dropWhile Char.isDigit)
  else (none, cs)

/-- The number that a sign and the parts after it denote. -/
def NumberParts.number (negative : Bool) (p : NumberParts) : Number :=
  if p.fraction = [] ∧ p.exponent = none then
    let n : ℤ := Nat.ofDigitChars 10 p.whole 0
    .int (if negative then -n else n)
  else .float (.finite negative p.decimal)

/-- A number at the beginning of a text, and what follows it. -/
def scanNumber (cs : List Char) : Option (Number × List Char) :=
  let negative := cs.head? = some '-'
  match scanWhole (if negative then cs.tail else cs) with
  | none => none
  | some (whole, rest) =>
      let fraction := scanFraction rest
      let exponent := scanExponent fraction.2
      some (NumberParts.number negative
        { whole := whole, fraction := fraction.1, exponent := exponent.1 }, exponent.2)

/-- The text cannot continue a number. -/
def Stops (rest : List Char) : Prop :=
  ∀ c ∈ rest.head?, c.isDigit = false ∧ c ≠ '.' ∧ c ≠ 'e' ∧ c ≠ 'E'

/-- The text does not begin with a digit. -/
def NoDigit (rest : List Char) : Prop := ∀ c ∈ rest.head?, c.isDigit = false

theorem takeWhile_digits {digits rest : List Char} (h : ∀ c ∈ digits, c.isDigit = true)
    (hrest : NoDigit rest) : (digits ++ rest).takeWhile Char.isDigit = digits := by
  rw [List.takeWhile_append_of_pos h]
  cases rest with
  | nil => simp
  | cons c rest => simp [hrest c rfl]

theorem dropWhile_digits {digits rest : List Char} (h : ∀ c ∈ digits, c.isDigit = true)
    (hrest : NoDigit rest) : (digits ++ rest).dropWhile Char.isDigit = rest := by
  rw [List.dropWhile_append_of_pos h]
  cases rest with
  | nil => rfl
  | cons c rest => simp [hrest c rfl]

theorem scanWhole_append {whole rest : List Char} (hne : whole ≠ [])
    (hdigits : ∀ c ∈ whole, c.isDigit = true) (hzero : whole.head? = some '0' → whole = ['0'])
    (hrest : NoDigit rest) : scanWhole (whole ++ rest) = some (whole, rest) := by
  by_cases hhead : whole.head? = some '0'
  · rw [hzero hhead]
    rfl
  · have htake := takeWhile_digits hdigits hrest
    have hdrop := dropWhile_digits hdigits hrest
    rw [scanWhole]
    · simp [htake, hdrop, hne]
    · -- the first digit is no zero
      intro r heq
      cases whole with
      | nil => exact hne rfl
      | cons c cs =>
          rcases List.cons.inj heq with ⟨rfl, -⟩
          exact hhead rfl

theorem scanFraction_append {fraction rest : List Char}
    (hdigits : ∀ c ∈ fraction, c.isDigit = true) (hrest : NoDigit rest)
    (hpoint : rest.head? ≠ some '.') :
    scanFraction ((if fraction = [] then [] else '.' :: fraction) ++ rest) = (fraction, rest) := by
  by_cases hnil : fraction = []
  · subst hnil
    rw [if_pos rfl, List.nil_append, scanFraction]
    intro r heq
    rw [heq] at hpoint
    exact hpoint rfl
  · rw [if_neg hnil, List.cons_append, scanFraction, takeWhile_digits hdigits hrest,
      dropWhile_digits hdigits hrest, if_neg hnil]

theorem scanExponent_append (exponent : Option ℤ) {rest : List Char} (hrest : Stops rest) :
    scanExponent (NumberParts.exponentText exponent ++ rest) = (exponent, rest) := by
  cases exponent with
  | none =>
      rw [NumberParts.exponentText, List.nil_append, scanExponent, if_neg]
      rintro (h | h)
      · exact (hrest 'e' h).2.2.1 rfl
      · exact (hrest 'E' h).2.2.2 rfl
  | some e =>
      have hdigits : ∀ c ∈ List.replicate (2 - (Nat.toDigits 10 e.natAbs).length) '0' ++
          Nat.toDigits 10 e.natAbs, c.isDigit = true := by
        intro c hc
        rcases List.mem_append.mp hc with hc | hc
        · rw [List.eq_of_mem_replicate hc]
          rfl
        · exact Shortest.isDigit_of_mem_toDigits hc
      have hstop : NoDigit rest := fun c hc => (hrest c hc).1
      have hne : ¬ (List.replicate (2 - (Nat.toDigits 10 e.natAbs).length) '0' ++
          Nat.toDigits 10 e.natAbs = []) := by
        simp [Nat.toDigits_ne_nil]
      have hvalue : Nat.ofDigitChars 10 (List.replicate (2 - (Nat.toDigits 10 e.natAbs).length) '0'
          ++ Nat.toDigits 10 e.natAbs) 0 = e.natAbs := by
        rw [Decimal.ofDigitChars_replicate_zero, Nat.ofDigitChars_ten_toDigits]
      have htake := takeWhile_digits hdigits hstop
      have hdrop := dropWhile_digits hdigits hstop
      simp only [NumberParts.exponentText]
      generalize List.replicate (2 - (Nat.toDigits 10 e.natAbs).length) '0' ++
        Nat.toDigits 10 e.natAbs = digits at hne hvalue htake hdrop ⊢
      by_cases hneg : e < 0
      · have habs : -|e| = e := by rw [abs_of_neg hneg, neg_neg]
        simp [scanExponent, scanSign, hneg, htake, hdrop, hne, hvalue, habs]
      · have habs : |e| = e := abs_of_nonneg (not_lt.mp hneg)
        simp [scanExponent, scanSign, hneg, htake, hdrop, hne, hvalue, habs]

theorem exponentText_head (exponent : Option ℤ) {rest : List Char} (hrest : Stops rest) :
    ∀ c ∈ (NumberParts.exponentText exponent ++ rest).head?, c.isDigit = false ∧ c ≠ '.' := by
  cases exponent with
  | none =>
      intro c hc
      exact ⟨(hrest c hc).1, (hrest c hc).2.1⟩
  | some e =>
      intro c hc
      obtain rfl : 'e' = c := Option.some.inj hc
      exact ⟨rfl, by decide⟩

/-- The parts of a well-formed text are read back. -/
theorem scanNumber_text {p : NumberParts} (h : p.WellFormed) (negative : Bool) {rest : List Char}
    (hrest : Stops rest) :
    scanNumber (signText negative ++ p.text ++ rest) = some (p.number negative, rest) := by
  have hexp := exponentText_head p.exponent hrest
  have hwhole : scanWhole (p.text ++ rest) = some (p.whole,
      (if p.fraction = [] then [] else '.' :: p.fraction) ++
        (NumberParts.exponentText p.exponent ++ rest)) := by
    simp only [NumberParts.text, List.append_assoc]
    refine scanWhole_append h.whole_ne_nil h.whole_digits h.whole_zero ?_
    intro c hc
    by_cases hnil : p.fraction = []
    · rw [if_pos hnil, List.nil_append] at hc
      exact (hexp c hc).1
    · rw [if_neg hnil] at hc
      obtain rfl : '.' = c := Option.some.inj hc
      rfl
  have hfraction : scanFraction ((if p.fraction = [] then [] else '.' :: p.fraction) ++
      (NumberParts.exponentText p.exponent ++ rest)) =
      (p.fraction, NumberParts.exponentText p.exponent ++ rest) := by
    refine scanFraction_append h.fraction_digits (fun c hc => (hexp c hc).1) ?_
    intro hpoint
    exact (hexp '.' hpoint).2 rfl
  have hexponent := scanExponent_append p.exponent hrest
  cases negative with
  | true => simp [scanNumber, signText, hwhole, hfraction, hexponent]
  | false =>
      -- the first character is a digit, not a sign
      have hhead : (p.text ++ rest).head? ≠ some '-' := by
        rw [NumberParts.text, List.append_assoc, List.append_assoc,
          List.head?_append_of_ne_nil _ h.whole_ne_nil]
        intro hminus
        exact absurd (h.whole_digits '-' (List.mem_of_head? hminus)) (by decide)
      simp only [signText, Bool.false_eq_true, if_false, List.nil_append]
      generalize p.text ++ rest = cs at hwhole hhead
      simp [scanNumber, hhead, hwhole, hfraction, hexponent]

/-- A finite float is read back from its `repr`. -/
theorem scanNumber_repr (negative : Bool) (d : Shortest) {rest : List Char} (hrest : Stops rest) :
    scanNumber (PyFloat.reprFinite negative d ++ rest) =
      some (.float (.finite negative d), rest) := by
  have hfloat : ¬ (d.parts.fraction = [] ∧ d.parts.exponent = none) := by
    have hne : Nat.toDigits 10 d.digits ≠ [] := Nat.toDigits_ne_nil
    simp only [Shortest.parts]
    split
    · split
      · simp [hne]
      · split
        · simp only [List.drop_eq_nil_iff, not_and]
          omega
        · simp
    · simp
  rw [PyFloat.reprFinite, scanNumber_text d.parts_wellFormed negative hrest,
    NumberParts.number, if_neg hfloat, d.parts_decimal]

/-- `str(i)`. -/
def intText (i : ℤ) : List Char := signText (decide (i < 0)) ++ Nat.toDigits 10 i.natAbs

/-- An integer is read back from its text. -/
theorem scanNumber_int (i : ℤ) {rest : List Char} (hrest : Stops rest) :
    scanNumber (intText i ++ rest) = some (.int i, rest) := by
  have hparts : NumberParts.WellFormed
      { whole := Nat.toDigits 10 i.natAbs, fraction := [], exponent := none } := by
    refine ⟨Nat.toDigits_ne_nil, fun c hc => Shortest.isDigit_of_mem_toDigits hc, ?_, by simp⟩
    intro hhead
    rw [Shortest.toDigits_head hhead, Nat.toDigits_zero]
  have htext := scanNumber_text hparts (decide (i < 0)) hrest
  simp only [NumberParts.text, if_true, NumberParts.exponentText, List.append_nil] at htext
  rw [intText, htext, NumberParts.number]
  by_cases hneg : i < 0
  · have habs : -|i| = i := by rw [abs_of_neg hneg, neg_neg]
    simp [hneg, habs]
  · have habs : |i| = i := abs_of_nonneg (not_lt.mp hneg)
    simp [hneg, habs]

end Intraday.Lib
