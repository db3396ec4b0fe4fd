import Mathlib.Data.Set.List
import Intraday.Lib.Traverse
import Intraday.Session.Holidays

/-!
# Intraday.Session.CacheShapes — which cache files the calendar survives

A file that is written is read back as the same set. A file that holds something else
is treated as missing if the first thing wrong with it is a missing key or a text that
cannot be read; if it is a value of another type the `TypeError` is not caught, and a
time without a timezone raises one later, in the age test.
-/

namespace Intraday.Session

open Intraday.Lib

/-! ## What is written is read back -/

theorem iso_injective (py : Readers) : Function.Injective Date.iso := by
  intro d e h
  have hd := py.date_iso d
  rw [h, py.date_iso e] at hd
  exact (Option.some.inj hd).symm

/-- The texts of dates are read as these dates. -/
theorem mapM_iso (py : Readers) (dates : List Date) :
    (dates.map fun d => Json.str d.iso).mapM (readText py.date) = .ok dates := by
  induction dates with
  | nil => rfl
  | cons d dates ih =>
      have hd : readText py.date (.str d.iso) = .ok d := by rw [readText, py.date_iso]
      rw [List.map_cons, mapM_cons_ok hd, ih]
      rfl

/-- The sorted texts of a set are read as the set. -/
theorem datesOf_sorted (py : Readers) (holidays : Finset Date) :
    datesOf (readText py.date) (.arr (((holidays.image Date.iso).sort (· ≤ ·)).map .str)) =
      .ok holidays := by
  -- the sorted texts are those of some list of dates
  have hrange : (holidays.image Date.iso).sort (· ≤ ·) ∈ Set.range (List.map Date.iso) := by
    rw [Set.range_list_map]
    intro text htext
    rw [Finset.mem_sort, Finset.mem_image] at htext
    rcases htext with ⟨d, -, rfl⟩
    exact ⟨d, rfl⟩
  rcases hrange with ⟨dates, hdates⟩
  have hset : dates.toFinset = holidays := by
    ext d
    rw [List.mem_toFinset, ← List.mem_map_of_injective (iso_injective py), hdates,
      Finset.mem_sort, (iso_injective py).mem_finset_image]
  have hmap : (dates.map Date.iso).map Json.str = dates.map fun d => Json.str d.iso := by
    rw [List.map_map]
    rfl
  rw [← hdates, hmap, datesOf, iterate]
  simp only [bind, Except.bind, pure, Except.pure, mapM_iso, hset]

namespace HolidayCalendar

/-- The cache that was written is read back: the same set, and the time of writing. -/
theorem readCache_writeCache (py : Readers) (cal : HolidayCalendar) (dir : CacheDir) (year : ℕ)
    (holidays : Finset Date) (now : DateTime) :
    readCache py cal (cal.writeCache dir year holidays now) year =
      .ok (some (holidays, .aware now.micros)) := by
  have htime : readText py.time (.str now.isoformat) = .ok (.aware now.micros) := by
    rw [readText, py.time_isoformat]
  have hparse : parseCache py (.text (cacheText holidays now)) =
      .ok (holidays, .aware now.micros) := by
    rw [parseCache, CacheFile.readText]
    simp only [bind, Except.bind, cacheText, Json.loads_dumpsIndent]
    -- both keys are there
    simp only [parseRaw, subscript, Json.getItem, List.reverse_cons, List.reverse_nil,
      List.nil_append, List.cons_append, List.lookup_cons, bind, Except.bind, pure, Except.pure,
      show ("holidays" == "fetched_at") = false from by decide, beq_self_eq_true,
      datesOf_sorted, htime]
  rw [readCache, writeCache, Dict.get?_set_self]
  simp only [hparse]

end HolidayCalendar

/-! ## Files with anything in them -/

/-- A text that is read as a date. -/
def IsDate (py : Readers) (v : Json) : Prop := ∃ text d, v = .str text ∧ py.date text = some d

/-- The first item that is not read as a date is a text. -/
def StopsAtText (py : Readers) (items : List Json) : Prop :=
  ∃ before text after, items = before ++ .str text :: after ∧ (∀ i ∈ before, IsDate py i) ∧
    py.date text = none

/-- A text that is not read as a time without a timezone. -/
def NotNaive (py : Readers) (v : Json) : Prop :=
  ∃ text, v = .str text ∧ ∀ t, py.time text ≠ some (.naive t)

/-- The types are right as far as they are looked at: the value is an object; its holidays, if
there are any, can be iterated over, up to a text that is no date, or all of them are dates and
the time of the fetch, if there is one, is a text, and none without a timezone. -/
def WellTyped (py : Readers) (raw : Json) : Prop :=
  ∃ members, raw = .obj members ∧ ∀ v, Json.getItem members "holidays" = some v →
    ∃ items, iterate v = .ok items ∧
      (StopsAtText py items ∨ (∀ i ∈ items, IsDate py i) ∧
        ∀ w, Json.getItem members "fetched_at" = some w → NotNaive py w)

/-- A file that cannot be read or is no JSON has nothing of a wrong type. -/
def CacheFile.WellTyped (py : Readers) : CacheFile → Prop
  | .unreadable | .undecodable => True
  | .text content => ∀ raw, Json.loads content = some raw → Session.WellTyped py raw

theorem subscript_some {members : List (String × Json)} {key : String} {w : Json}
    (h : Json.getItem members key = some w) : subscript (.obj members) key = .ok w := by
  simp only [subscript, h]

theorem subscript_none {members : List (String × Json)} {key : String}
    (h : Json.getItem members key = none) :
    subscript (.obj members) key = .error (.keyError key) := by
  simp only [subscript, h]

theorem readText_ok_iff {α : Type} {read : String → Option α} {v : Json} {a : α} :
    readText read v = .ok a ↔ ∃ text, v = .str text ∧ read text = some a := by
  cases v with
  | str text =>
      rw [readText]
      cases hread : read text with
      | none => simp [hread]
      | some b => simp [hread]
  | null | bool _ | int _ | float _ | arr _ | obj _ => simp [readText]

theorem readText_error_iff {α : Type} {read : String → Option α} {v : Json} {e : PyExc} :
    readText read v = .error e ↔
      (e = .valueError ∧ ∃ text, v = .str text ∧ read text = none) ∨
        (e = .typeError ∧ ∀ text, v ≠ .str text) := by
  cases v with
  | str text =>
      rw [readText]
      cases hread : read text with
      | none => simp [hread, eq_comm]
      | some b => simp [hread]
  | null | bool _ | int _ | float _ | arr _ | obj _ => simp [readText, eq_comm]

/-- All items are read exactly if all of them are dates. -/
theorem mapM_dates_ok_iff {py : Readers} {items : List Json} :
    (∃ dates, items.mapM (readText py.date) = .ok dates) ↔ ∀ i ∈ items, IsDate py i := by
  have hitem : ∀ i, (∃ d, readText py.date i = .ok d) ↔ IsDate py i := by
    intro i
    simp only [readText_ok_iff, IsDate]
    exact exists_comm
  constructor
  · rintro ⟨dates, hdates⟩
    rcases all_or_first (readText py.date) items with hall | ⟨before, i, after, e, rfl, hbefore, hi⟩
    · intro i hi
      exact (hitem i).mp (hall i hi)
    · rw [mapM_error hbefore hi] at hdates
      cases hdates
  · intro hall
    exact mapM_ok fun i hi => (hitem i).mpr (hall i hi)

/-- A `ValueError` comes from the first item that is no date, if that is a text. -/
theorem mapM_dates_valueError_iff {py : Readers} {items : List Json} :
    items.mapM (readText py.date) = .error .valueError ↔ StopsAtText py items := by
  constructor
  · intro h
    rcases all_or_first (readText py.date) items with hall | ⟨before, i, after, e, rfl, hbefore, hi⟩
    · rcases mapM_ok hall with ⟨dates, hdates⟩
      rw [hdates] at h
      cases h
    · rw [mapM_error hbefore hi] at h
      rcases Except.error.inj h with rfl
      rcases readText_error_iff.mp hi with ⟨-, text, rfl, htext⟩ | ⟨htype, -⟩
      · refine ⟨before, text, after, rfl, ?_, htext⟩
        exact mapM_dates_ok_iff.mp (mapM_ok hbefore)
      · cases htype
  · rintro ⟨before, text, after, rfl, hbefore, htext⟩
    refine mapM_error ?_ (readText_error_iff.mpr (Or.inl ⟨rfl, text, rfl, htext⟩))
    intro i hi
    rcases hbefore i hi with ⟨t, d, rfl, hd⟩
    exact ⟨d, readText_ok_iff.mpr ⟨t, rfl, hd⟩⟩

theorem mapM_dates_error {py : Readers} {items : List Json} {e : PyExc}
    (h : items.mapM (readText py.date) = .error e) : e = .valueError ∨ e = .typeError := by
  rcases all_or_first (readText py.date) items with hall | ⟨before, i, after, e', rfl, hbefore, hi⟩
  · rcases mapM_ok hall with ⟨dates, hok⟩
    rw [hok] at h
    cases h
  · rw [mapM_error hbefore hi] at h
    rcases Except.error.inj h with rfl
    rcases readText_error_iff.mp hi with ⟨hvalue, -⟩ | ⟨htype, -⟩
    · exact Or.inl hvalue
    · exact Or.inr htype

theorem iterate_error {v : Json} {e : PyExc} (h : iterate v = .error e) : e = .typeError := by
  cases v with
  | str _ | arr _ | obj _ => cases h
  | null | bool _ | int _ | float _ => exact (Except.error.inj h).symm

/-- What ends `get_holidays` with an exception that it does not raise itself: a `TypeError` in
the reading, or a time without a timezone. -/
def Crashes (r : Except PyExc (Finset Date × Timestamp)) : Prop :=
  r = .error .typeError ∨ ∃ holidays t, r = .ok (holidays, .naive t)

/-- The time of the fetch, once the holidays are read. -/
theorem crashes_time_iff (py : Readers) (members : List (String × Json)) (holidays : Finset Date) :
    ¬ Crashes (do
        let fetchedAt ← readText py.time (← subscript (.obj members) "fetched_at")
        return (holidays, fetchedAt)) ↔
      ∀ w, Json.getItem members "fetched_at" = some w → NotNaive py w := by
  cases hitem : Json.getItem members "fetched_at" with
  | none => simp [subscript_none hitem, bind, Except.bind, Crashes]
  | some w =>
      simp only [subscript_some hitem, bind, Except.bind, pure, Except.pure, Option.some.injEq,
        forall_eq']
      cases htime : readText py.time w with
      | ok t =>
          rcases readText_ok_iff.mp htime with ⟨text, rfl, ht⟩
          cases t with
          | naive micros =>
              refine iff_of_false (fun h => h (Or.inr ⟨holidays, micros, rfl⟩)) ?_
              rintro ⟨text', heq, hnot⟩
              cases heq
              exact hnot micros ht
          | aware micros =>
              refine iff_of_true (by simp [Crashes]) ⟨text, rfl, ?_⟩
              intro t h
              rw [ht] at h
              cases h
      | error e =>
          rcases readText_error_iff.mp htime with ⟨rfl, text, rfl, ht⟩ | ⟨rfl, hno⟩
          · refine iff_of_true (by simp [Crashes]) ⟨text, rfl, ?_⟩
            intro t h
            rw [ht] at h
            cases h
          · refine iff_of_false (fun h => h (Or.inl rfl)) ?_
            rintro ⟨text, rfl, -⟩
            exact hno text rfl

/-- The items and the time after them: an item that is no date ends the reading, with an
exception that is caught if the item is a text. -/
theorem crashes_items_iff (py : Readers) (members : List (String × Json)) (items : List Json) :
    ¬ Crashes (do
        let dates ← items.mapM (readText py.date)
        let fetchedAt ← readText py.time (← subscript (.obj members) "fetched_at")
        return (dates.toFinset, fetchedAt)) ↔
      StopsAtText py items ∨ (∀ i ∈ items, IsDate py i) ∧
        ∀ w, Json.getItem members "fetched_at" = some w → NotNaive py w := by
  rw [← mapM_dates_ok_iff, ← mapM_dates_valueError_iff]
  cases hdates : items.mapM (readText py.date) with
  | ok dates =>
      have htime := crashes_time_iff py members dates.toFinset
      simp only [bind, Except.bind, pure, Except.pure] at htime ⊢
      simpa using htime
  | error e =>
      rcases mapM_dates_error hdates with rfl | rfl
      · simp [bind, Except.bind, Crashes]
      · simp [bind, Except.bind, Crashes]

namespace HolidayCalendar

/-- What is read from a value does no harm exactly if its types are right. -/
theorem crashes_parseRaw_iff (py : Readers) (raw : Json) :
    ¬ Crashes (parseRaw py raw) ↔ WellTyped py raw := by
  cases raw with
  | null | bool _ | int _ | float _ | str _ | arr _ =>
      refine iff_of_false (fun h => h (Or.inl rfl)) ?_
      rintro ⟨members, hmembers, -⟩
      cases hmembers
  | obj members =>
      cases hitem : Json.getItem members "holidays" with
      | none =>
          have hmissing : ¬ Crashes (parseRaw py (.obj members)) := by
            simp [parseRaw, subscript_none hitem, bind, Except.bind, Crashes]
          refine iff_of_true hmissing ⟨members, rfl, ?_⟩
          intro v hv
          rw [hitem] at hv
          cases hv
      | some v =>
          have htyped : WellTyped py (.obj members) ↔ ∃ items, iterate v = .ok items ∧
              (StopsAtText py items ∨ (∀ i ∈ items, IsDate py i) ∧
                ∀ w, Json.getItem members "fetched_at" = some w → NotNaive py w) := by
            simp [WellTyped, hitem]
          rw [htyped]
          cases hiter : iterate v with
          | error e =>
              rcases iterate_error hiter with rfl
              refine iff_of_false (fun h => h (Or.inl ?_)) (by simp)
              simp only [parseRaw, subscript_some hitem, datesOf, hiter, bind, Except.bind]
          | ok items =>
              have hitems := crashes_items_iff py members items
              simp only [bind, Except.bind, pure, Except.pure] at hitems
              simp only [parseRaw, subscript_some hitem, datesOf, hiter, bind, Except.bind, pure,
                Except.pure, Except.ok.injEq, exists_eq_left', ← hitems]
              cases items.mapM (readText py.date) with
              | ok dates => exact Iff.rfl
              | error e => exact Iff.rfl

theorem crashes_parseCache_iff (py : Readers) (file : CacheFile) :
    ¬ Crashes (parseCache py file) ↔ file.WellTyped py := by
  cases file with
  | unreadable | undecodable =>
      refine iff_of_true ?_ trivial
      simp [parseCache, CacheFile.readText, bind, Except.bind, Crashes]
  | text content =>
      rw [CacheFile.WellTyped]
      cases hloads : Json.loads content with
      | none =>
          have hparse : parseCache py (.text content) = .error .valueError := by
            simp only [parseCache, CacheFile.readText, bind, Except.bind, hloads]
          simp [hparse, Crashes]
      | some raw =>
          have hparse : parseCache py (.text content) = parseRaw py raw := by
            simp only [parseCache, CacheFile.readText, bind, Except.bind, hloads]
          simpa [hparse] using crashes_parseRaw_iff py raw

/-- A set of dates, or `CalendarUnavailableError`. -/
def Settled (r : Except CalendarExc (Finset Date)) : Prop :=
  (∃ holidays, r = .ok holidays) ∨ ∃ message, r = .error (.calendarUnavailableError message)

theorem not_settled_uncaught (e : PyExc) : ¬ Settled (.error (.uncaught e)) := by
  rintro (⟨_, h⟩ | ⟨_, h⟩)
  · cases h
  · cases h

theorem refresh_settled (cal : HolidayCalendar) (dir : CacheDir) (year : ℕ) (written : DateTime)
    (fetch : Except CalendarFetchError (Finset Date)) (stale : Option (Finset Date)) :
    Settled (cal.refresh dir year written fetch stale).1 := by
  cases fetch with
  | ok fresh => exact Or.inl ⟨fresh, rfl⟩
  | error e =>
      cases stale with
      | some holidays => exact Or.inl ⟨holidays, rfl⟩
      | none => exact Or.inr ⟨_, rfl⟩

/-- The reading of the cache is all that can go wrong. -/
theorem getHolidays_settled_iff (py : Readers) (cal : HolidayCalendar) (dir : CacheDir)
    (year : ℕ) (now written : DateTime) (fetch : Except CalendarFetchError (Finset Date)) :
    Settled (getHolidays py cal dir year now written fetch).1 ↔
      ∀ file, dir.get? (cal.cachePath year) = some file → ¬ Crashes (parseCache py file) := by
  cases hfile : dir.get? (cal.cachePath year) with
  | none =>
      have hread : readCache py cal dir year = .ok none := by rw [readCache, hfile]
      rw [getHolidays, hread]
      exact iff_of_true (refresh_settled cal dir year written fetch none) (by simp)
  | some file =>
      simp only [Option.some.injEq, forall_eq']
      cases hparse : parseCache py file with
      | error e =>
          cases e with
          | typeError =>
              have hread : readCache py cal dir year = .error .typeError := by
                simp only [readCache, hfile, hparse]
              rw [getHolidays, hread]
              exact iff_of_false (not_settled_uncaught _) (fun h => h (Or.inl rfl))
          | osError | keyError _ | valueError =>
              have hread : readCache py cal dir year = .ok none := by
                simp only [readCache, hfile, hparse]
              rw [getHolidays, hread]
              exact iff_of_true (refresh_settled cal dir year written fetch none)
                (by simp [Crashes])
      | ok cached =>
          rcases cached with ⟨holidays, t⟩
          have hread : readCache py cal dir year = .ok (some (holidays, t)) := by
            simp only [readCache, hfile, hparse]
          rw [getHolidays, hread]
          cases t with
          | naive micros =>
              exact iff_of_false (not_settled_uncaught _)
                (fun h => h (Or.inr ⟨holidays, micros, rfl⟩))
          | aware micros =>
              refine iff_of_true ?_ (by simp [Crashes])
              by_cases hage : now.micros - micros ≤ cacheMaxAge
              · simp only [hage, if_true]
                exact Or.inl ⟨holidays, rfl⟩
              · simp only [hage, if_false]
                exact refresh_settled cal dir year written fetch (some holidays)

/-- `get_holidays` returns a set of dates or raises `CalendarUnavailableError` exactly if what
the cache file holds is of the right types, and what is written to the cache is read back as
the same set. -/
theorem cache_robust_iff (py : Readers) (cal : HolidayCalendar) (dir : CacheDir) (year : ℕ)
    (now written : DateTime) (fetch : Except CalendarFetchError (Finset Date)) :
    (Settled (getHolidays py cal dir year now written fetch).1 ↔
      ∀ file, dir.get? (cal.cachePath year) = some file → file.WellTyped py) ∧
    ∀ holidays, readCache py cal (cal.writeCache dir year holidays written) year =
      .ok (some (holidays, .aware written.micros)) := by
  constructor
  · rw [getHolidays_settled_iff]
    simp only [crashes_parseCache_iff]
  · intro holidays
    exact readCache_writeCache py cal dir year holidays written

/-- A cache file that holds a list: the `TypeError` of its subscript is not caught, although
the source would have had the holidays. -/
theorem list_in_cache_crashes :
    ¬ ∀ (py : Readers) (cal : HolidayCalendar) (dir : CacheDir) (year : ℕ)
      (now written : DateTime) (fetch : Except CalendarFetchError (Finset Date)),
      Settled (getHolidays py cal dir year now written fetch).1 := by
  intro h
  rcases (⟨_, rfl⟩ : ∃ now, DateTime.ofFields 2026 1 2 9 0 0 0 = some now) with ⟨now, -⟩
  have hsettled := h isoReaders ⟨.nse⟩ (.set .empty "NSE_2026.json" (.text "[]")) 2026 now now
    (.ok ∅)
  rw [getHolidays_settled_iff] at hsettled
  exact hsettled (.text "[]") rfl (Or.inl rfl)

end HolidayCalendar

end Intraday.Session
