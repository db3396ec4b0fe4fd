import Intraday.Lib.Clock

/-!
# Intraday.Lib.OffsetTime — datetimes with any offset, and their texts

A `datetime` is what a clock shows, with the offset of the clock to UTC if it is aware. Its
`isoformat` has fields of fixed widths and leaves out what is zero at the end; it is read back as
the same clock and the same offset (`fromisoformat_isoformat`), but without the timezone that the
offset came from.

Two aware datetimes of different timezones are equal if they are the same moment. An exception is
a datetime whose offset depends on its fold, in an hour that the clocks of its timezone repeat or
skip: that one equals nothing in another timezone.
-/

namespace Intraday.Lib

/-! ## Offsets -/

/-- An offset to UTC, of less than a day; zero has no sign. -/
@[ext]
structure UtcOffset where
  negative : Bool
  hours : ℕ
  minutes : ℕ
  seconds : ℕ
  microseconds : ℕ
  hours_range : hours < 24
  minutes_range : minutes < 60
  seconds_range : seconds < 60
  microseconds_range : microseconds < 1000000
  sign : negative = true → 0 < hours + minutes + seconds + microseconds

instance : DecidableEq UtcOffset := fun _ _ => decidable_of_iff _ UtcOffset.ext_iff.symm

/-- The fraction of a second in a text. -/
def fractionText (n : ℕ) : List Char := if n = 0 then [] else '.' :: padded 6 n

theorem takeFraction_fractionText {n : ℕ} (h : n < 1000000) {rest : List Char}
    (hrest : ∀ c ∈ rest.head?, c ≠ '.') :
    DateTime.takeFraction (fractionText n ++ rest) = some (n, rest) := by
  rw [fractionText]
  split
  case isTrue hzero =>
    rw [List.nil_append, DateTime.takeFraction, hzero]
    cases rest with
    | nil => rfl
    | cons c rest => rw [skipChar, if_neg (hrest c rfl)]
  case isFalse hzero =>
    rw [List.cons_append, DateTime.takeFraction, skipChar_cons]
    exact takeNumber_padded (by decide) h rest

namespace UtcOffset

/-- The offset in microseconds. -/
def micros (o : UtcOffset) : ℤ :=
  let size : ℕ := ((o.hours * 60 + o.minutes) * 60 + o.seconds) * 1000000 + o.microseconds
  if o.negative then -size else size

/-- The seconds of an offset in a text, if it is no whole number of minutes. -/
def secondsText (seconds microseconds : ℕ) : List Char :=
  if seconds = 0 ∧ microseconds = 0 then []
  else ':' :: padded 2 seconds ++ fractionText microseconds

/-- An offset at the end of a text. -/
def text (o : UtcOffset) : List Char :=
  (if o.negative then '-' else '+') :: padded 2 o.hours ++ ':' :: padded 2 o.minutes ++
    secondsText o.seconds o.microseconds

/-- `timezone(sign * timedelta(…))`; `none` is a `ValueError`. -/
def ofFields (negative : Bool) (hours minutes seconds microseconds : ℕ) : Option UtcOffset :=
  if h : hours < 24 ∧ minutes < 60 ∧ seconds < 60 ∧ microseconds < 1000000 then
    some
      { negative := negative && decide (0 < hours + minutes + seconds + microseconds)
        hours := hours, minutes := minutes, seconds := seconds, microseconds := microseconds
        hours_range := h.1, minutes_range := h.2.1, seconds_range := h.2.2.1
        microseconds_range := h.2.2.2
        sign := by
          intro hneg
          rw [Bool.and_eq_true, decide_eq_true_eq] at hneg
          exact hneg.2 }
  else none

/-- The seconds of an offset, if there are any. -/
def takeSeconds (cs : List Char) : Option (ℕ × ℕ × List Char) :=
  match skipChar ':' cs with
  | none => some (0, 0, cs)
  | some cs => do
      let (seconds, cs) ← takeNumber 2 cs
      let (microseconds, cs) ← DateTime.takeFraction cs
      some (seconds, microseconds, cs)

/-- The sign of an offset. -/
def sign? (c : Char) : Option Bool :=
  if c = '-' then some true else if c = '+' then some false else none

/-- The offset that a text ends with. -/
def take : List Char → Option UtcOffset
  | [] => none
  | c :: cs => do
      let negative ← sign? c
      let (hours, cs) ← takeNumber 2 cs
      let cs ← skipChar ':' cs
      let (minutes, cs) ← takeNumber 2 cs
      let (seconds, microseconds, cs) ← takeSeconds cs
      if cs = [] then ofFields negative hours minutes seconds microseconds else none

theorem takeSeconds_secondsText {seconds microseconds : ℕ} (hseconds : seconds < 60)
    (hmicros : microseconds < 1000000) :
    takeSeconds (secondsText seconds microseconds) = some (seconds, microseconds, []) := by
  rw [secondsText]
  split
  case isTrue hzero =>
    rw [hzero.1, hzero.2]
    rfl
  case isFalse hsome =>
    have hfraction : DateTime.takeFraction (fractionText microseconds ++ []) =
        some (microseconds, []) := takeFraction_fractionText hmicros (by simp)
    rw [List.append_nil] at hfraction
    simp only [takeSeconds, List.cons_append, skipChar_cons,
      takeNumber_padded (by decide) (show seconds < 10 ^ 2 by omega), hfraction, bind, Option.bind]

/-- An offset is read back from its text. -/
theorem take_text (o : UtcOffset) : take o.text = some o := by
  have hhours : o.hours < 10 ^ 2 := by
    have := o.hours_range
    omega
  have hminutes : o.minutes < 10 ^ 2 := by
    have := o.minutes_range
    omega
  have hsign : sign? (if o.negative then '-' else '+') = some o.negative := by
    cases o.negative <;> rfl
  have hnegative : (o.negative && decide (0 < o.hours + o.minutes + o.seconds + o.microseconds)) =
      o.negative := by
    cases hneg : o.negative with
    | false => rfl
    | true => rw [Bool.true_and, decide_eq_true (o.sign hneg)]
  have hfields : ofFields o.negative o.hours o.minutes o.seconds o.microseconds = some o := by
    rw [ofFields, dif_pos ⟨o.hours_range, o.minutes_range, o.seconds_range, o.microseconds_range⟩]
    cases o
    simp only [Option.some.injEq, mk.injEq, and_true]
    exact hnegative
  simp only [take, text, List.cons_append, List.append_assoc, hsign,
    takeNumber_padded (by decide) hhours, takeNumber_padded (by decide) hminutes, skipChar_cons,
    takeSeconds_secondsText o.seconds_range o.microseconds_range, bind, Option.bind, if_true,
    hfields]

end UtcOffset

/-! ## Datetimes -/

/-- What the clock of a `datetime` shows, as a text. -/
def clockText (t : DateTime) : List Char :=
  padded 4 t.date.year ++ '-' :: padded 2 t.date.month ++ '-' :: padded 2 t.date.day ++
    'T' :: padded 2 t.hour ++ ':' :: padded 2 t.minute ++ ':' :: padded 2 t.second ++
    fractionText t.microsecond

/-- The clock that a text starts with, and what follows it. -/
def takeClock (cs : List Char) : Option (DateTime × List Char) := do
  let (year, cs) ← takeNumber 4 cs
  let cs ← skipChar '-' cs
  let (month, cs) ← takeNumber 2 cs
  let cs ← skipChar '-' cs
  let (day, cs) ← takeNumber 2 cs
  let cs ← skipChar 'T' cs
  let (hour, cs) ← takeNumber 2 cs
  let cs ← skipChar ':' cs
  let (minute, cs) ← takeNumber 2 cs
  let cs ← skipChar ':' cs
  let (second, cs) ← takeNumber 2 cs
  let (microsecond, cs) ← DateTime.takeFraction cs
  let t ← DateTime.ofFields year month day hour minute second microsecond
  some (t, cs)

theorem takeClock_clockText (t : DateTime) {rest : List Char} (hrest : ∀ c ∈ rest.head?, c ≠ '.') :
    takeClock (clockText t ++ rest) = some (t, rest) := by
  rcases t.date.fields_lt with ⟨hyear, hmonth, hday⟩
  have hhour : t.hour < 10 ^ 2 := by
    have := t.hour_range
    omega
  have hminute : t.minute < 10 ^ 2 := by
    have := t.minute_range
    omega
  have hsecond : t.second < 10 ^ 2 := by
    have := t.second_range
    omega
  -- what was read is in range again
  have hfields : DateTime.ofFields t.date.year t.date.month t.date.day t.hour t.minute t.second
      t.microsecond = some t := by
    rw [DateTime.ofFields, dif_pos ⟨t.date.year_range, t.date.month_range, t.date.day_range,
      t.hour_range, t.minute_range, t.second_range, t.microsecond_range⟩]
  simp only [takeClock, clockText, List.append_assoc, List.cons_append,
    takeNumber_padded (by decide) hyear, takeNumber_padded (by decide) hmonth,
    takeNumber_padded (by decide) hday, takeNumber_padded (by decide) hhour,
    takeNumber_padded (by decide) hminute, takeNumber_padded (by decide) hsecond,
    takeFraction_fractionText t.microsecond_range hrest, skipChar_cons, bind, Option.bind, hfields]

/-- A `datetime` with the offset of its clock, if it is aware. -/
structure OffsetTime where
  clock : DateTime
  offset : Option UtcOffset
deriving DecidableEq

namespace OffsetTime

/-- `isoformat()`. -/
def isoformat (t : OffsetTime) : String :=
  String.ofList (clockText t.clock ++ t.offset.elim [] UtcOffset.text)

/-- `datetime.fromisoformat`, on the texts that `isoformat` writes; `none` is a `ValueError`. -/
def fromisoformat (text : String) : Option OffsetTime := do
  let (clock, cs) ← takeClock text.toList
  if cs = [] then some { clock := clock, offset := none }
  else (UtcOffset.take cs).map fun o => { clock := clock, offset := some o }

/-- A time is read back from its text, with its offset. -/
theorem fromisoformat_isoformat (t : OffsetTime) : fromisoformat t.isoformat = some t := by
  rcases t with ⟨clock, _ | o⟩
  · have hclock : takeClock (clockText clock ++ []) = some (clock, []) :=
      takeClock_clockText clock (by simp)
    simp only [fromisoformat, isoformat, String.toList_ofList, Option.elim_none, hclock, bind,
      Option.bind, if_true]
  · have hhead : ∀ c ∈ o.text.head?, c ≠ '.' := by
      intro c hc
      obtain rfl := Option.some.inj hc
      cases o.negative <;> decide
    have hne : o.text ≠ [] := List.cons_ne_nil _ _
    simp only [fromisoformat, isoformat, String.toList_ofList, Option.elim_some,
      takeClock_clockText clock hhead, bind, Option.bind, if_neg hne, UtcOffset.take_text,
      Option.map_some]

/-- The moment of an aware time, in microseconds; the clock of a naive one. -/
def instant (t : OffsetTime) : ℤ := t.clock.micros - (t.offset.elim 0 UtcOffset.micros)

end OffsetTime

/-- A `datetime` with its timezone, as far as comparisons see it: whether its offset depends on
its fold. -/
structure ZonedTime extends OffsetTime where
  folds : Bool
deriving DecidableEq

/-- `s == t`, where `s` has an offset and no timezone of its own. -/
def OffsetTime.eqZoned (s : OffsetTime) (t : ZonedTime) : Bool :=
  match s.offset, t.offset with
  | none, none => decide (s.clock = t.clock)
  | some _, some _ => !t.folds && decide (s.instant = t.toOffsetTime.instant)
  | _, _ => false

/-- A time equals what is left of it in its text, unless its offset depends on its fold. -/
theorem eqZoned_self (t : ZonedTime) :
    t.toOffsetTime.eqZoned t = true ↔ (t.offset.isSome = true → t.folds = false) := by
  rw [OffsetTime.eqZoned]
  cases t.offset with
  | none => simp
  | some o => simp

end Intraday.Lib
