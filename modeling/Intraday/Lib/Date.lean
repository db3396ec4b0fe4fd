import Intraday.Lib.PyFloat

/-!
# Intraday.Lib.Date — dates and times as texts

The two texts that `strftime` makes of a date here: `%Y%m%d` has digits only, `%Y-%m-%d` has
dashes, so no two dates share a text across the two forms (`compact_ne_iso`).

A time is one of UTC. Its `isoformat` has fields of fixed widths, and is read back as the same
time (`fromisoformat_isoformat`).
-/

namespace Intraday.Lib

/-- A number with leading zeros, of at least `width` digits. -/
def padded (width n : ℕ) : List Char :=
  List.replicate (width - (Nat.toDigits 10 n).length) '0' ++ Nat.toDigits 10 n

theorem isDigit_of_mem_padded {width n : ℕ} {c : Char} (h : c ∈ padded width n) :
    c.isDigit = true := by
  rcases List.mem_append.mp h with hzero | hdigit
  · rw [List.eq_of_mem_replicate hzero]
    rfl
  · exact Shortest.isDigit_of_mem_toDigits hdigit

/-- The number of days of a month. -/
def daysIn (year month : ℕ) : ℕ :=
  if month = 2 then if year % 4 = 0 ∧ (year % 100 ≠ 0 ∨ year % 400 = 0) then 29 else 28
  else if month ∈ [4, 6, 9, 11] then 30
  else 31

/-- A `datetime.date`. -/
structure Date where
  year : ℕ
  month : ℕ
  day : ℕ
  year_range : 1 ≤ year ∧ year ≤ 9999
  month_range : 1 ≤ month ∧ month ≤ 12
  day_range : 1 ≤ day ∧ day ≤ daysIn year month
deriving DecidableEq

namespace Date

/-- `strftime("%Y%m%d")`. -/
def compact (d : Date) : String :=
  String.ofList (padded 4 d.year ++ padded 2 d.month ++ padded 2 d.day)

/-- `strftime("%Y-%m-%d")`, or `date.isoformat()`. -/
def iso (d : Date) : String :=
  String.ofList (padded 4 d.year ++ '-' :: padded 2 d.month ++ '-' :: padded 2 d.day)

theorem isDigit_of_mem_compact {d : Date} {c : Char} (h : c ∈ d.compact.toList) :
    c.isDigit = true := by
  rw [compact, String.toList_ofList, List.mem_append, List.mem_append] at h
  rcases h with (hyear | hmonth) | hday
  · exact isDigit_of_mem_padded hyear
  · exact isDigit_of_mem_padded hmonth
  · exact isDigit_of_mem_padded hday

theorem dash_mem_iso (d : Date) : '-' ∈ d.iso.toList := by
  rw [iso, String.toList_ofList]
  simp

/-- The texts of two dates in the two forms are different. -/
theorem compact_ne_iso (d e : Date) : d.compact ≠ e.iso := by
  intro heq
  have hdigit := isDigit_of_mem_compact (heq ▸ e.dash_mem_iso)
  exact absurd hdigit (by decide)

/-- `toordinal()`: the first day of the year 1 is day 1. -/
def toOrdinal (d : Date) : ℕ :=
  (d.year - 1) * 365 + (d.year - 1) / 4 - (d.year - 1) / 100 + (d.year - 1) / 400 +
    ((List.range' 1 (d.month - 1)).map (daysIn d.year)).sum + d.day

/-- `weekday()`: Monday is 0 and Sunday is 6. -/
def weekday (d : Date) : ℕ := (d.toOrdinal + 6) % 7

theorem daysIn_le (year month : ℕ) : daysIn year month ≤ 31 := by
  rw [daysIn]
  repeat' split
  all_goals omega

/-- The fields of a date have the widths that its texts give them. -/
theorem fields_lt (d : Date) : d.year < 10 ^ 4 ∧ d.month < 10 ^ 2 ∧ d.day < 10 ^ 2 := by
  have hdays := daysIn_le d.year d.month
  have hyear := d.year_range
  have hmonth := d.month_range
  have hday := d.day_range
  refine ⟨?_, ?_, ?_⟩
  · omega
  · omega
  · omega

end Date

/-! ## Reading fields of fixed widths -/

/-- A number of exactly `width` digits, and what follows it. -/
def takeNumber (width : ℕ) (cs : List Char) : Option (ℕ × List Char) :=
  if (cs.take width).length = width ∧ (cs.take width).all Char.isDigit = true then
    some (Nat.ofDigitChars 10 (cs.take width) 0, cs.drop width)
  else none

/-- What follows the character `c`. -/
def skipChar (c : Char) : List Char → Option (List Char)
  | [] => none
  | c' :: cs => if c' = c then some cs else none

theorem length_padded {width n : ℕ} (hwidth : 0 < width) (h : n < 10 ^ width) :
    (padded width n).length = width := by
  have hle := (Nat.length_toDigits_le_iff (by decide) hwidth).mpr h
  rw [padded, List.length_append, List.length_replicate]
  omega

theorem takeNumber_padded {width n : ℕ} (hwidth : 0 < width) (h : n < 10 ^ width)
    (rest : List Char) : takeNumber width (padded width n ++ rest) = some (n, rest) := by
  have hlength := length_padded hwidth h
  have htake : (padded width n ++ rest).take width = padded width n :=
    List.take_left' hlength
  have hdrop : (padded width n ++ rest).drop width = rest :=
    List.drop_left' hlength
  have hdigits : (padded width n).all Char.isDigit = true := by
    rw [List.all_eq_true]
    exact fun _ => isDigit_of_mem_padded
  have hvalue : Nat.ofDigitChars 10 (padded width n) 0 = n := by
    rw [padded, Nat.ofDigitChars_append, Nat.ofDigitChars_replicate_zero, Nat.mul_zero,
      Nat.ofDigitChars_ten_toDigits]
  rw [takeNumber, htake, hdrop, if_pos ⟨hlength, hdigits⟩, hvalue]

/-- A field of fixed width is read off a text in one way. -/
theorem padded_append_inj {width m n : ℕ} (hwidth : 0 < width) (hm : m < 10 ^ width)
    (hn : n < 10 ^ width) {rest rest' : List Char}
    (h : padded width m ++ rest = padded width n ++ rest') : m = n ∧ rest = rest' := by
  have hread := takeNumber_padded hwidth hm rest
  rw [h, takeNumber_padded hwidth hn rest', Option.some.injEq, Prod.mk.injEq] at hread
  exact ⟨hread.1.symm, hread.2.symm⟩

theorem skipChar_cons (c : Char) (rest : List Char) : skipChar c (c :: rest) = some rest :=
  if_pos rfl

namespace Date

/-- `date(year, month, day)`; `none` is a `ValueError`. -/
def ofFields (year month day : ℕ) : Option Date :=
  if h : (1 ≤ year ∧ year ≤ 9999) ∧ (1 ≤ month ∧ month ≤ 12) ∧ 1 ≤ day ∧ day ≤ daysIn year month
  then
    some
      { year := year, month := month, day := day
        year_range := h.1, month_range := h.2.1, day_range := h.2.2 }
  else none

theorem compact_injective : Function.Injective compact := by
  intro d e h
  rcases d.fields_lt with ⟨hdYear, hdMonth, hdDay⟩
  rcases e.fields_lt with ⟨heYear, heMonth, heDay⟩
  rw [compact, compact, String.ofList_inj, List.append_assoc, List.append_assoc] at h
  rcases padded_append_inj (by decide) hdYear heYear h with ⟨hyear, hrest⟩
  rcases padded_append_inj (by decide) hdMonth heMonth hrest with ⟨hmonth, hlast⟩
  rw [← List.append_nil (padded 2 d.day), ← List.append_nil (padded 2 e.day)] at hlast
  rcases padded_append_inj (by decide) hdDay heDay hlast with ⟨hday, -⟩
  cases d
  cases e
  simp only at hyear hmonth hday
  subst hyear hmonth hday
  rfl

/-- `date.fromisoformat`, on the texts that `isoformat` writes; `none` is a `ValueError`. -/
def fromisoformat (text : String) : Option Date := do
  let (year, cs) ← takeNumber 4 text.toList
  let cs ← skipChar '-' cs
  let (month, cs) ← takeNumber 2 cs
  let cs ← skipChar '-' cs
  let (day, cs) ← takeNumber 2 cs
  if cs = [] then ofFields year month day else none

/-- A date is read back from its text. -/
theorem fromisoformat_iso (d : Date) : fromisoformat d.iso = some d := by
  rcases d.fields_lt with ⟨hyear, hmonth, hday⟩
  have hfields : ofFields d.year d.month d.day = some d := by
    rw [ofFields, dif_pos ⟨d.year_range, d.month_range, d.day_range⟩]
  have hlast : takeNumber 2 (padded 2 d.day) = some (d.day, []) := by
    have h := takeNumber_padded (by decide) hday []
    rwa [List.append_nil] at h
  simp only [fromisoformat, iso, String.toList_ofList, List.append_assoc, List.cons_append,
    takeNumber_padded (by decide) hyear, takeNumber_padded (by decide) hmonth, hlast,
    skipChar_cons, bind, Option.bind, if_true, hfields]

end Date

/-! ## Times -/

/-- A `datetime` of UTC. -/
structure DateTime where
  date : Date
  hour : ℕ
  minute : ℕ
  second : ℕ
  microsecond : ℕ
  hour_range : hour < 24
  minute_range : minute < 60
  second_range : second < 60
  microsecond_range : microsecond < 1000000
deriving DecidableEq

namespace DateTime

/-- A number that orders times as they follow each other. -/
def stamp (t : DateTime) : ℕ :=
  (((((t.date.year * 13 + t.date.month) * 32 + t.date.day) * 24 + t.hour) * 60 + t.minute) * 60 +
    t.second) * 1000000 + t.microsecond

/-- The microseconds since the day before the year 1. -/
def micros (t : DateTime) : ℕ :=
  (((t.date.toOrdinal * 24 + t.hour) * 60 + t.minute) * 60 + t.second) * 1000000 + t.microsecond

/-- `isoformat()`: without a fraction on a full second. -/
def isoformat (t : DateTime) : String :=
  String.ofList (padded 4 t.date.year ++ ('-' :: padded 2 t.date.month) ++
    ('-' :: padded 2 t.date.day) ++ ('T' :: padded 2 t.hour) ++ (':' :: padded 2 t.minute) ++
    (':' :: padded 2 t.second) ++
    (if t.microsecond = 0 then [] else '.' :: padded 6 t.microsecond) ++ "+00:00".toList)

/-- `datetime(year, …, tzinfo=timezone.utc)`; `none` is a `ValueError`. -/
def ofFields (year month day hour minute second microsecond : ℕ) : Option DateTime :=
  if h : (1 ≤ year ∧ year ≤ 9999) ∧ (1 ≤ month ∧ month ≤ 12) ∧ (1 ≤ day ∧ day ≤ daysIn year month) ∧
      hour < 24 ∧ minute < 60 ∧ second < 60 ∧ microsecond < 1000000 then
    some
      { date :=
          { year := year, month := month, day := day
            year_range := h.1, month_range := h.2.1, day_range := h.2.2.1 }
        hour := hour
        minute := minute
        second := second
        microsecond := microsecond
        hour_range := h.2.2.2.1
        minute_range := h.2.2.2.2.1
        second_range := h.2.2.2.2.2.1
        microsecond_range := h.2.2.2.2.2.2 }
  else none

/-- The fraction of a second, if there is one. -/
def takeFraction (cs : List Char) : Option (ℕ × List Char) :=
  match skipChar '.' cs with
  | some rest => takeNumber 6 rest
  | none => some (0, cs)

/-- `datetime.fromisoformat`, on the texts that `isoformat` writes; `none` is a `ValueError`. -/
def fromisoformat (text : String) : Option DateTime := do
  let (year, cs) ← takeNumber 4 text.toList
  let cs ← skipChar '-' cs
  let (month, cs) ← takeNumber 2 cs
  let cs ← skipChar '-' cs
  let (day, cs) ← takeNumber 2 cs
  let cs ← skipChar 'T' cs
  let (hour, cs) ← takeNumber 2 cs
  let cs ← skipChar ':' cs
  let (minute, cs) ← takeNumber 2 cs
  let cs ← skipChar ':' cs
  let (second, cs) ← takeNumber 2 cs
  let (microsecond, cs) ← takeFraction cs
  if cs = "+00:00".toList then ofFields year month day hour minute second microsecond else none

theorem takeFraction_text {n : ℕ} (h : n < 1000000) :
    takeFraction ((if n = 0 then [] else '.' :: padded 6 n) ++ "+00:00".toList) =
      some (n, "+00:00".toList) := by
  by_cases hzero : n = 0
  · subst hzero
    rfl
  · rw [if_neg hzero, List.cons_append, takeFraction, skipChar_cons]
    exact takeNumber_padded (by decide) h _

/-- A time is read back from its text. -/
theorem fromisoformat_isoformat (t : DateTime) : fromisoformat t.isoformat = some t := by
  rcases t.date.fields_lt with ⟨hyear, hmonth, hday⟩
  have hhour : t.hour < 10 ^ 2 := by
    have := t.hour_range
    omega
  have hminute : t.minute < 10 ^ 2 := by
    have := t.minute_range
    omega
  have hsecond : t.second < 10 ^ 2 := by
    have := t.second_range
    omega
  -- what was read is in range again
  have hfields : ofFields t.date.year t.date.month t.date.day t.hour t.minute t.second
      t.microsecond = some t := by
    rw [ofFields, dif_pos ⟨t.date.year_range, t.date.month_range, t.date.day_range, t.hour_range,
      t.minute_range, t.second_range, t.microsecond_range⟩]
  simp only [fromisoformat, isoformat, String.toList_ofList, List.append_assoc, List.cons_append,
    takeNumber_padded (by decide) hyear, takeNumber_padded (by decide) hmonth,
    takeNumber_padded (by decide) hday, takeNumber_padded (by decide) hhour,
    takeNumber_padded (by decide) hminute, takeNumber_padded (by decide) hsecond,
    takeFraction_text t.microsecond_range, skipChar_cons, bind, Option.bind, if_true, hfields]

end DateTime

end Intraday.Lib
