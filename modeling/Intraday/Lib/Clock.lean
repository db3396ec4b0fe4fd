import Mathlib.Order.Lattice
import Mathlib.Tactic.Ring
import Intraday.Lib.Date
import Intraday.Lib.Raise

/-!
# Intraday.Lib.Clock — what the clocks of a timezone show

A `datetime` is a date and a time of day, as a clock on the wall shows them. A timezone says
what its clocks show at a moment, and two datetimes of one timezone are compared by what the
clocks show.
-/

namespace Intraday.Lib

namespace Date

/-- A number that orders dates as `date` compares them. -/
def stamp (d : Date) : ℕ := (d.year * 13 + d.month) * 32 + d.day

theorem stamp_injective : Function.Injective stamp := by
  intro d e h
  have hd := d.day_range.2.trans (daysIn_le d.year d.month)
  have he := e.day_range.2.trans (daysIn_le e.year e.month)
  have hdMonth := d.month_range
  have heMonth := e.month_range
  unfold stamp at h
  have hday : d.day = e.day := by omega
  have hmonth : d.month = e.month := by omega
  have hyear : d.year = e.year := by omega
  cases d
  cases e
  simp only at hday hmonth hyear
  subst hday hmonth hyear
  rfl

end Date

/-- The microseconds of a day. -/
def dayMicros : ℕ := 24 * 60 * 60 * 1000000

/-- A `time`, by its microseconds since midnight. -/
@[ext] structure Time where
  micros : ℕ
  micros_range : micros < dayMicros
deriving DecidableEq

namespace Time

theorem micros_injective : Function.Injective micros := by
  intro t u h
  ext
  exact h

instance : LinearOrder Time := LinearOrder.lift' micros micros_injective

theorem le_iff {t u : Time} : t ≤ u ↔ t.micros ≤ u.micros := Iff.rfl

/-- `time(hour, minute)`; `none` is a `ValueError`. -/
def ofHourMinute (hour minute : ℤ) : Option Time :=
  if h : (0 ≤ hour ∧ hour < 24) ∧ 0 ≤ minute ∧ minute < 60 then
    some
      { micros := (hour.toNat * 60 + minute.toNat) * 60000000
        micros_range := by
          unfold dayMicros
          omega }
  else none

end Time

/-- What a clock on the wall shows. -/
@[ext] structure Wall where
  date : Date
  time : Time
deriving DecidableEq

namespace Wall

/-- A number that orders the datetimes of one timezone as they are compared. -/
def stamp (w : Wall) : ℕ := w.date.stamp * dayMicros + w.time.micros

/-- The microseconds since the midnight before the first day. -/
def moment (w : Wall) : ℕ := dayMicros * w.date.toOrdinal + w.time.micros

/-- On one day the times decide. -/
theorem stamp_le_stamp {v w : Wall} (h : v.date = w.date) :
    v.stamp ≤ w.stamp ↔ v.time ≤ w.time := by
  unfold stamp
  rw [h, Time.le_iff]
  omega

end Wall

namespace Date

/-- `fromordinal`; `none` is a `ValueError`. -/
def ofOrdinal (n : ℕ) : Option Date :=
  -- years of 400, 100, 4 and 1, as they fit into the days before
  let n := n - 1
  let n400 := n % 146097
  let n100 := n400 % 36524
  let n4 := n100 % 1461
  let year := n / 146097 * 400 + n400 / 36524 * 100 + n100 / 1461 * 4 + n4 / 365 + 1
  if n400 / 36524 = 4 ∨ n4 / 365 = 4 then ofFields (year - 1) 12 31
  else
    let before := fun month => ((List.range' 1 (month - 1)).map (daysIn year)).sum
    let month := ((List.range' 1 12).filter (before · ≤ n4 % 365)).length
    ofFields year month (n4 % 365 - before month + 1)

example : (ofOrdinal 736329).map toOrdinal = some 736329 := by decide
example : (ofOrdinal 736330).map toOrdinal = some 736330 := by decide

end Date

/-- A timezone: what its clocks show at a moment, given by the microseconds that a clock of UTC
shows since the first midnight. -/
abbrev Zone := ℤ → Wall

/-- The first midnight. -/
def firstDay : Wall where
  date := (Date.ofFields 1 1 1).get rfl
  time := ⟨0, Nat.zero_lt_succ _⟩

/-- What a clock shows so many microseconds after the first midnight. -/
def Wall.ofMicros (n : ℤ) : Option Wall := do
  let date ← Date.ofOrdinal (n / dayMicros + 1).toNat
  if h : (n % dayMicros).toNat < dayMicros then some ⟨date, ⟨_, h⟩⟩ else none

/-- A timezone that keeps its offset to UTC. -/
def fixedZone (offset : ℤ) : Zone := fun moment => (Wall.ofMicros (moment + offset)).getD firstDay

namespace Raise.PyDateTime

/-- `t.date().toordinal()`; two dates are compared as their ordinals are. -/
def ordinal (t : PyDateTime) : ℤ := t.wall / dayMicros + 1

/-- The moment of an aware time; the clock of a naive one. -/
def instant (t : PyDateTime) : ℤ := t.wall - t.utcoffset.getD 0

theorem sub_eq {s t : PyDateTime} (h : s.Consistent t) : s.sub t = .ok (s.instant - t.instant) := by
  unfold Consistent at h
  unfold sub instant
  cases hs : s.utcoffset <;> cases ht : t.utcoffset <;> rw [hs, ht] at h
  · simp
  · cases h
  · cases h
  · rfl

theorem consistent_of_sub {s t : PyDateTime} {delta : ℤ} (h : s.sub t = .ok delta) :
    s.Consistent t := by
  unfold sub at h
  unfold Consistent
  cases hs : s.utcoffset with
  | none =>
      cases ht : t.utcoffset with
      | none => rfl
      | some b =>
          rw [hs, ht] at h
          cases h
  | some a =>
      cases ht : t.utcoffset with
      | none =>
          rw [hs, ht] at h
          cases h
      | some b => rfl

theorem lt_eq {s t : PyDateTime} (h : s.Consistent t) :
    s.lt t = .ok (decide (s.instant < t.instant)) := by
  rw [lt, sub_eq h]
  exact congrArg Except.ok (decide_eq_decide.mpr sub_neg)

theorem ge_eq {s t : PyDateTime} (h : s.Consistent t) :
    s.ge t = .ok (decide (t.instant ≤ s.instant)) := by
  rw [ge, sub_eq h]
  exact congrArg Except.ok (decide_eq_decide.mpr sub_nonneg)

theorem consistent_of_lt {s t : PyDateTime} {b : Bool} (h : s.lt t = .ok b) : s.Consistent t := by
  rw [lt] at h
  cases hsub : s.sub t with
  | error e =>
      rw [hsub] at h
      cases h
  | ok delta => exact consistent_of_sub hsub

theorem consistent_of_ge {s t : PyDateTime} {b : Bool} (h : s.ge t = .ok b) : s.Consistent t := by
  rw [ge] at h
  cases hsub : s.sub t with
  | error e =>
      rw [hsub] at h
      cases h
  | ok delta => exact consistent_of_sub hsub

theorem Consistent.trans {s t u : PyDateTime} (h : s.Consistent t) (h' : t.Consistent u) :
    s.Consistent u := Eq.trans h h'

/-- A later time is as aware, and its moment is later by as much. -/
theorem add_eq_ok {t u : PyDateTime} {delta : ℤ} (h : t.add delta = .ok u) :
    u.utcoffset = t.utcoffset ∧ u.instant = t.instant + delta := by
  unfold add at h
  split_ifs at h with hrange
  rcases Except.ok.inj h with rfl
  refine ⟨rfl, ?_⟩
  unfold instant
  ring

end Raise.PyDateTime

end Intraday.Lib
