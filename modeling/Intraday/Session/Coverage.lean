import Mathlib.Logic.Function.Basic
import Intraday.Lib.Machine
import Intraday.Session.Holidays

/-!
# Intraday.Session.Coverage — which data a trading day is decided on

A payload of the exchange is filtered by the year, so one without any entry of that
year gives the empty set, as if the year had no holidays. It is written to the cache
and used there for as long as the file is fresh, and after that while the source is
down. Beside each file stands, as a ghost, whether the data it was made of cover its
year.
-/

namespace Intraday.Session

open Intraday.Lib

/-- How `get_holidays` comes by its set. -/
inductive DataUsed where
  | cached (holidays : Finset Date)
  | live (holidays : Finset Date)
  | unavailable

namespace HolidayCalendar

/-- The data of a live fetch, or those of a stale cache. -/
def liveOr (fetch : Except CalendarFetchError (Finset Date)) (stale : DataUsed) : DataUsed :=
  match fetch with
  | .ok fresh => .live fresh
  | .error _ => stale

/-- The data that `get_holidays` uses. -/
def dataUsed (py : Readers) (cal : HolidayCalendar) (dir : CacheDir) (year : ℕ) (now : DateTime)
    (fetch : Except CalendarFetchError (Finset Date)) : DataUsed :=
  match readCache py cal dir year with
  | .error _ => .unavailable
  | .ok none => liveOr fetch .unavailable
  | .ok (some (_, .naive _)) => .unavailable
  | .ok (some (holidays, .aware fetchedAt)) =>
      if now.micros - fetchedAt ≤ cacheMaxAge then .cached holidays
      else liveOr fetch (.cached holidays)

/-- What `get_holidays` does with its data. -/
theorem getHolidays_of_dataUsed (py : Readers) (cal : HolidayCalendar) (dir : CacheDir)
    (year : ℕ) (now written : DateTime) (fetch : Except CalendarFetchError (Finset Date)) :
    match dataUsed py cal dir year now fetch with
    | .cached holidays => getHolidays py cal dir year now written fetch = (.ok holidays, dir) ∧
        ∃ file, dir.get? (cal.cachePath year) = some file
    | .live holidays => getHolidays py cal dir year now written fetch =
        (.ok holidays, cal.writeCache dir year holidays written) ∧ fetch = .ok holidays
    | .unavailable => ∃ e, getHolidays py cal dir year now written fetch = (.error e, dir) := by
  rw [dataUsed, getHolidays]
  cases hread : readCache py cal dir year with
  | error e => exact ⟨_, rfl⟩
  | ok cached =>
      cases cached with
      | none =>
          cases fetch with
          | ok fresh => exact ⟨rfl, rfl⟩
          | error e => exact ⟨_, rfl⟩
      | some cached =>
          rcases cached with ⟨holidays, t⟩
          have hfile : ∃ file, dir.get? (cal.cachePath year) = some file := by
            rw [readCache] at hread
            cases hget : dir.get? (cal.cachePath year) with
            | none =>
                rw [hget] at hread
                cases hread
            | some file => exact ⟨file, rfl⟩
          cases t with
          | naive micros => exact ⟨_, rfl⟩
          | aware micros =>
              by_cases hage : now.micros - micros ≤ cacheMaxAge
              · simp only [hage, if_true]
                exact ⟨trivial, hfile⟩
              · simp only [hage, if_false]
                cases fetch with
                | ok fresh => exact ⟨rfl, rfl⟩
                | error e => exact ⟨rfl, hfile⟩

/-- The files of two years have different names. -/
theorem cachePath_injective (cal : HolidayCalendar) : Function.Injective cal.cachePath := by
  intro year year' h
  have hlist := congrArg String.toList h
  simp only [cachePath, String.toList_append, List.append_assoc] at hlist
  have hdigits : (toString year).toList = (toString year').toList := by
    have hrest := List.append_cancel_left (List.append_cancel_left hlist)
    exact List.append_cancel_right hrest
  have hchars : Nat.toDigits 10 year = Nat.toDigits 10 year' := by
    simpa using hdigits
  have hvalue := congrArg (Nat.ofDigitChars 10 · 0) hchars
  simpa using hvalue

end HolidayCalendar

/-! ## The calendar over many days -/

/-- One call of `is_trading_day`: the day, the clock at the age test and at the write, and what
the request to the exchange would return. -/
structure DayCall where
  day : Date
  now : DateTime
  written : DateTime
  response : Except String Json

/-- Whether a payload has an entry of the year. -/
def covers (py : Readers) (src : HolidaySource) (response : Except String Json) (year : ℕ) :
    Bool :=
  match response with
  | .error _ => false
  | .ok payload => match src.entryDates py payload with
    | .error _ => false
    | .ok dates => decide (∃ d ∈ dates, d.year = year)

/-- The cache directory, and for each year whether the data in its file cover it. -/
structure CalendarState where
  dir : CacheDir
  covered : ℕ → Bool

namespace CalendarState

/-- An empty cache. -/
def initial : CalendarState := { dir := .empty, covered := fun _ => false }

end CalendarState

/-- A calendar with its source. -/
structure LiveCalendar where
  py : Readers
  cal : HolidayCalendar
  src : HolidaySource

namespace LiveCalendar

variable (c : LiveCalendar)

/-- What the source returns to a call. -/
def fetched (call : DayCall) : Except CalendarFetchError (Finset Date) :=
  c.src.fetchHolidays c.py call.response call.day.year

/-- The data that a call uses on a weekday. -/
def used (s : CalendarState) (call : DayCall) : DataUsed :=
  c.cal.dataUsed c.py s.dir call.day.year call.now (c.fetched call)

/-- Calls one after the other. A live fetch writes the file of its year. -/
def machine : Machine CalendarState DayCall (Except CalendarExc Bool) where
  step s call :=
    let r := c.cal.isTradingDay c.py s.dir call.day call.now call.written (c.fetched call)
    let covered := match c.used s call with
      | .live _ => Function.update s.covered call.day.year
          (covers c.py c.src call.response call.day.year)
      | _ => s.covered
    ({ dir := r.2, covered := if 5 ≤ call.day.weekday then s.covered else covered }, r.1)

/-- The data used cover the year. -/
def UsesCovered (s : CalendarState) (call : DayCall) : Prop :=
  match c.used s call with
  | .cached _ => s.covered call.day.year = true
  | .live _ => covers c.py c.src call.response call.day.year = true
  | .unavailable => False

/-- A trading day is one by data that cover its year. -/
def Sound (t : Trans CalendarState DayCall (Except CalendarExc Bool)) : Prop :=
  t.reply = .ok true → c.UsesCovered t.pre t.op

/-- A weekend, or a payload with an entry of the year, or a cache made of one, or of data that
have the day as a holiday, or no data at all. -/
def Fine (s : CalendarState) (call : DayCall) : Prop :=
  5 ≤ call.day.weekday ∨
    match c.used s call with
    | .cached holidays => s.covered call.day.year = true ∨ call.day ∈ holidays
    | .live _ => covers c.py c.src call.response call.day.year = true
    | .unavailable => True

/-- A payload that is used on a weekday has an entry of the year. -/
def FetchCovers (s : CalendarState) (call : DayCall) : Prop :=
  call.day.weekday < 5 → ∀ holidays, c.used s call = .live holidays →
    covers c.py c.src call.response call.day.year = true

/-- A payload without an entry of the year gives the empty set. -/
theorem fetched_of_not_covers {call : DayCall} {holidays : Finset Date}
    (h : c.fetched call = .ok holidays)
    (hcovers : covers c.py c.src call.response call.day.year = false) : holidays = ∅ := by
  unfold fetched HolidaySource.fetchHolidays at h
  unfold covers at hcovers
  cases hresponse : call.response with
  | error text =>
      rw [hresponse] at h
      cases h
  | ok payload =>
      simp only [hresponse] at h hcovers
      cases hdates : c.src.entryDates c.py payload with
      | error e =>
          rw [hdates] at h
          cases h
      | ok dates =>
          simp only [hdates] at h hcovers
          rcases Except.ok.inj h with rfl
          rw [Finset.filter_eq_empty_iff]
          intro d hd hyear
          rw [decide_eq_false_iff_not] at hcovers
          exact hcovers ⟨d, hd, hyear⟩

/-- What a call can do: nothing on a weekend; answer by the cache, which stays; answer by the
live data, which are written; or raise. -/
theorem step_cases (s : CalendarState) (call : DayCall) :
    (5 ≤ call.day.weekday ∧ c.machine.step s call = (s, .ok false)) ∨
      call.day.weekday < 5 ∧
        ((∃ holidays file, c.used s call = .cached holidays ∧
            s.dir.get? (c.cal.cachePath call.day.year) = some file ∧
            c.machine.step s call = (s, .ok (decide (call.day ∉ holidays)))) ∨
          (∃ holidays, c.used s call = .live holidays ∧ c.fetched call = .ok holidays ∧
            c.machine.step s call =
              ({ dir := c.cal.writeCache s.dir call.day.year holidays call.written
                 covered := Function.update s.covered call.day.year
                  (covers c.py c.src call.response call.day.year) },
                .ok (decide (call.day ∉ holidays)))) ∨
          ∃ e, c.used s call = .unavailable ∧ c.machine.step s call = (s, .error e)) := by
  by_cases hweekend : 5 ≤ call.day.weekday
  · refine Or.inl ⟨hweekend, ?_⟩
    simp [machine, HolidayCalendar.isTradingDay, hweekend]
  · refine Or.inr ⟨not_le.mp hweekend, ?_⟩
    have hspec := c.cal.getHolidays_of_dataUsed c.py s.dir call.day.year call.now call.written
      (c.fetched call)
    have hdef : c.cal.dataUsed c.py s.dir call.day.year call.now (c.fetched call) =
      c.used s call := rfl
    rw [hdef] at hspec
    cases hused : c.used s call with
    | cached holidays =>
        rw [hused] at hspec
        rcases hspec with ⟨hget, file, hfile⟩
        refine Or.inl ⟨holidays, file, rfl, hfile, ?_⟩
        simp [machine, HolidayCalendar.isTradingDay, hweekend, hused, hget, Except.map]
    | live holidays =>
        rw [hused] at hspec
        rcases hspec with ⟨hget, hfetch⟩
        refine Or.inr (Or.inl ⟨holidays, rfl, hfetch, ?_⟩)
        simp [machine, HolidayCalendar.isTradingDay, hweekend, hused, hget, Except.map]
    | unavailable =>
        rw [hused] at hspec
        rcases hspec with ⟨e, hget⟩
        refine Or.inr (Or.inr ⟨e, rfl, ?_⟩)
        simp [machine, HolidayCalendar.isTradingDay, hweekend, hused, hget, Except.map]

/-- A call is sound exactly if it is fine: live data without an entry of the year make every
weekday a trading day. -/
theorem sound_iff_fine (s : CalendarState) (call : DayCall) :
    c.Sound (c.machine.fire s call) ↔ c.Fine s call := by
  have hreply : (c.machine.fire s call).reply = (c.machine.step s call).2 := rfl
  unfold Sound Fine UsesCovered
  rw [hreply]
  rcases c.step_cases s call with ⟨hweekend, hstep⟩ | ⟨hweekday, hcases⟩
  · simp [hstep, hweekend]
  · have hnot : ¬ 5 ≤ call.day.weekday := not_le.mpr hweekday
    rcases hcases with ⟨holidays, file, hused, -, hstep⟩ | ⟨holidays, hused, hfetch, hstep⟩ |
      ⟨e, hused, hstep⟩
    · simp only [hstep, Machine.fire, hused, hnot, false_or, Except.ok.injEq, decide_eq_true_eq]
      rw [or_comm, or_iff_not_imp_left]
    · simp only [hstep, Machine.fire, hused, hnot, false_or, Except.ok.injEq, decide_eq_true_eq]
      constructor
      · intro hsound
        by_contra hcovers
        rw [Bool.not_eq_true] at hcovers
        have hempty := c.fetched_of_not_covers hfetch hcovers
        rw [hempty] at hsound
        rw [hsound (Finset.notMem_empty _)] at hcovers
        cases hcovers
      · intro hcovers _
        exact hcovers
    · simp only [hstep, Machine.fire, hused, hnot, false_or]
      simp

/-! ## From an empty cache -/

/-- Every file is made of data that cover its year. -/
def AllCovered (s : CalendarState) : Prop :=
  ∀ year file, s.dir.get? (c.cal.cachePath year) = some file → s.covered year = true

theorem allCovered_initial : c.AllCovered .initial := by
  intro year file hfile
  cases hfile

/-- A step whose payload covers its year keeps every file covered. -/
theorem allCovered_next {s : CalendarState} {call : DayCall} (h : c.AllCovered s)
    (hcovers : c.FetchCovers s call) : c.AllCovered (c.machine.next s call) := by
  rw [Machine.next]
  rcases c.step_cases s call with ⟨-, hstep⟩ | ⟨hweekday, hcases⟩
  · rw [hstep]
    exact h
  · rcases hcases with ⟨holidays, file, -, -, hstep⟩ | ⟨holidays, hused, -, hstep⟩ |
      ⟨e, -, hstep⟩
    · rw [hstep]
      exact h
    · rw [hstep]
      intro year file hfile
      dsimp only at hfile ⊢
      by_cases hyear : year = call.day.year
      · rw [hyear, Function.update_self]
        exact hcovers hweekday holidays hused
      · -- the file of another year has another name
        have hpath : c.cal.cachePath year ≠ c.cal.cachePath call.day.year := by
          intro heq
          exact hyear (c.cal.cachePath_injective heq)
        rw [Function.update_of_ne hyear]
        apply h year file
        rw [← hfile]
        exact (Dict.get?_set_of_ne _ _ hpath).symm
    · rw [hstep]
      exact h

theorem fetchCovers_of_fine {s : CalendarState} {call : DayCall} (h : c.Fine s call) :
    c.FetchCovers s call := by
  intro hweekday holidays hused
  rcases h with hweekend | hdata
  · exact absurd hweekend (not_le.mpr hweekday)
  · rw [hused] at hdata
    exact hdata

/-- With all files covered only the live payload matters. -/
theorem fine_of_fetchCovers {s : CalendarState} {call : DayCall} (h : c.AllCovered s)
    (hcovers : c.FetchCovers s call) : c.Fine s call := by
  rcases c.step_cases s call with ⟨hweekend, -⟩ | ⟨hweekday, hcases⟩
  · exact Or.inl hweekend
  · refine Or.inr ?_
    rcases hcases with ⟨holidays, file, hused, hfile, -⟩ | ⟨holidays, hused, -, -⟩ | ⟨e, hused, -⟩
    · rw [hused]
      exact Or.inl (h call.day.year file hfile)
    · rw [hused]
      exact hcovers hweekday holidays hused
    · rw [hused]
      trivial

/-- Over every run, from every cache, all trading days are decided on data that cover their year
exactly if all calls are fine; from an empty cache exactly if every payload that is used on a
weekday has an entry of the year. -/
theorem trading_days_covered_iff :
    (∀ s calls, (∀ t ∈ c.machine.trans s calls, c.Sound t) ↔
      ∀ t ∈ c.machine.trans s calls, c.Fine t.pre t.op) ∧
    ∀ calls, (∀ t ∈ c.machine.trans .initial calls, c.Sound t) ↔
      ∀ t ∈ c.machine.trans .initial calls, c.FetchCovers t.pre t.op := by
  have hrun : ∀ s calls, (∀ t ∈ c.machine.trans s calls, c.Sound t) ↔
      ∀ t ∈ c.machine.trans s calls, c.Fine t.pre t.op := by
    intro s calls
    refine @Machine.trans_forall_fire_iff _ _ _ c.machine (fun _ => True) c.Sound c.Fine ?_ ?_
      s trivial calls
    · intro s call _
      trivial
    · intro s call _
      exact c.sound_iff_fine s call
  refine ⟨hrun, ?_⟩
  intro calls
  rw [hrun]
  constructor
  · intro hfine t ht
    exact c.fetchCovers_of_fine (hfine t ht)
  · intro hcovers t ht
    -- no file is ever written of data that do not cover its year
    have hinv := c.machine.trans_invariant_of_allowed
      (fun _ _ => c.allCovered_next) c.allCovered_initial hcovers t ht
    exact c.fine_of_fetchCovers hinv.1 (hcovers t ht)

/-- 26 January 2027, a Tuesday. -/
def republicDay : Date := (Date.ofFields 2027 1 26).get rfl

/-- A payload of the exchange that has the holidays of 2026 only. -/
def holidaysOf2026 : Json :=
  .obj [("CM", .arr [.obj [("tradingDate", .str "26-Jan-2026")],
    .obj [("tradingDate", .str "25-Dec-2026")]])]

/-- The payload of the year before makes a trading day of a holiday. -/
theorem other_year_makes_trading_day :
    ¬ ∀ (c : LiveCalendar) (s : CalendarState) (calls : List DayCall),
      ∀ t ∈ c.machine.trans s calls, c.Sound t := by
  intro h
  rcases (⟨_, rfl⟩ : ∃ now, DateTime.ofFields 2027 1 26 4 0 0 0 = some now) with ⟨now, -⟩
  have hsound := h ⟨isoReaders, ⟨.nse⟩, nseHolidaySource⟩ .initial
    [⟨republicDay, now, now, .ok holidaysOf2026⟩] _ List.mem_cons_self
  rw [sound_iff_fine] at hsound
  rcases hsound with hweekend | hdata
  · change 5 ≤ republicDay.weekday at hweekend
    exact absurd hweekend (by decide)
  · change covers isoReaders nseHolidaySource (.ok holidaysOf2026) 2027 = true at hdata
    exact absurd hdata (by decide +kernel)

end LiveCalendar

end Intraday.Session
