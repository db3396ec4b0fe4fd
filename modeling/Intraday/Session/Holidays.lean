import Mathlib.Data.Finset.Sort
import Mathlib.Data.String.Basic
import Intraday.Core.Constants
import Intraday.Lib.Date
import Intraday.Lib.JsonIndent
import Intraday.Lib.PyValue

/-!
# Intraday.Session.Holidays — the holiday calendar of `shared/session_manager.py`

The holidays of a year come from a cache file that is fresh enough, or from the
exchange, which writes the file, or from a file that is stale. The file and the
payload of the exchange hold any values, so every access may raise, and only some of
the exceptions are caught.

What the code takes from the standard library is a structure (`Readers`): it reads
any texts it likes, and reads back those that `isoformat` writes.
-/

namespace Intraday.Session

open Intraday.Core Intraday.Lib

/-- `Exchange`. -/
inductive Exchange where
  | nse
  | bse
  | asx
deriving DecidableEq, Repr

/-- `Exchange.value`. -/
def Exchange.value : Exchange → String
  | .nse => "NSE"
  | .bse => "BSE"
  | .asx => "ASX"

/-- The exceptions that reading a file or a payload raises. -/
inductive PyExc where
  | osError
  | keyError (key : String)
  | valueError
  | typeError
deriving DecidableEq, Repr

/-- A `datetime`, by its microseconds: of UTC, or of no timezone. -/
inductive Timestamp where
  | naive (micros : ℤ)
  | aware (micros : ℤ)
deriving DecidableEq, Repr

/-- The readers of the standard library; `none` is a `ValueError`. -/
structure Readers where
  /-- `date.fromisoformat` -/
  date : String → Option Date
  date_iso : ∀ d : Date, date d.iso = some d
  /-- `datetime.fromisoformat` -/
  time : String → Option Timestamp
  time_isoformat : ∀ t : DateTime, time t.isoformat = some (.aware t.micros)
  /-- `datetime.strptime(text, format).date()` -/
  strptime : String → String → Option Date
  /-- `str(exc)` -/
  describe : PyExc → String

/-- `%b`. -/
def monthNames : List (List Char) :=
  ["Jan".toList, "Feb".toList, "Mar".toList, "Apr".toList, "May".toList, "Jun".toList,
    "Jul".toList, "Aug".toList, "Sep".toList, "Oct".toList, "Nov".toList, "Dec".toList]

/-- A date in the format `%d-%b-%Y`, with two digits for the day. -/
def dayMonthYear (text : String) : Option Date := do
  let (day, cs) ← takeNumber 2 text.toList
  let cs ← skipChar '-' cs
  let month ← monthNames.idxOf? (cs.take 3)
  let cs ← skipChar '-' (cs.drop 3)
  let (year, cs) ← takeNumber 4 cs
  if cs = [] then Date.ofFields year (month + 1) day else none

/-- Readers of the texts that are written, and of the formats that the exchanges use. -/
def isoReaders : Readers where
  date := Date.fromisoformat
  date_iso := Date.fromisoformat_iso
  time text := (DateTime.fromisoformat text).map fun t => .aware t.micros
  time_isoformat t := by rw [DateTime.fromisoformat_isoformat, Option.map_some]
  strptime text format :=
    if format = "%d-%b-%Y" then dayMonthYear text
    else if format = "%Y-%m-%d" then Date.fromisoformat text
    else none
  describe
    | .keyError key => "'" ++ key ++ "'"
    | _ => ""

/-! ## Values of any type -/

/-- `v[key]`. -/
def subscript (v : Json) (key : String) : Except PyExc Json :=
  match v with
  | .obj members => match Json.getItem members key with
    | some w => .ok w
    | none => .error (.keyError key)
  | _ => .error .typeError

/-- `list(v)`: a text is its characters, and an object its keys. -/
def iterate : Json → Except PyExc (List Json)
  | .str s => .ok (s.toList.map fun c => .str (String.ofList [c]))
  | .arr items => .ok items
  | .obj members => .ok ((Json.dictOf members).entries.map fun m => .str m.1)
  | _ => .error .typeError

/-- A reader of texts on a value of any type. -/
def readText {α : Type} (read : String → Option α) : Json → Except PyExc α
  | .str s => match read s with
    | some a => .ok a
    | none => .error .valueError
  | _ => .error .typeError

/-- `{date(item) for item in v}`: the first item that raises ends it. -/
def datesOf (date : Json → Except PyExc Date) (v : Json) : Except PyExc (Finset Date) := do
  let items ← iterate v
  let dates ← items.mapM date
  return dates.toFinset

/-! ## The live sources -/

/-- A `HolidaySource`: its name, the key of the entries, that of the date in an entry, and the
format of the date. -/
structure HolidaySource where
  name : String
  entriesKey : String
  dateKey : String
  format : String

/-- `NSEHolidaySource`. -/
def nseHolidaySource : HolidaySource where
  name := "NSE"
  entriesKey := "CM"
  dateKey := "tradingDate"
  format := "%d-%b-%Y"

/-- `ASXHolidaySource`. -/
def asxHolidaySource : HolidaySource where
  name := "ASX"
  entriesKey := "holidays"
  dateKey := "date"
  format := "%Y-%m-%d"

/-- `CalendarFetchError`. -/
structure CalendarFetchError where
  message : String
deriving DecidableEq, Repr

namespace HolidaySource

/-- The dates of the entries of a payload. -/
def entryDates (py : Readers) (src : HolidaySource) (payload : Json) :
    Except PyExc (Finset Date) := do
  let entries ← subscript payload src.entriesKey
  datesOf (fun entry => do
    let text ← subscript entry src.dateKey
    readText (py.strptime · src.format) text) entries

/-- `fetch_holidays`, given what the request returned: the payload, or the text of the
exception. Everything that the payload can raise is caught. -/
def fetchHolidays (py : Readers) (src : HolidaySource) (response : Except String Json)
    (year : ℕ) : Except CalendarFetchError (Finset Date) :=
  match response with
  | .error text => .error ⟨src.name ++ " holiday fetch failed: " ++ text⟩
  | .ok payload => match entryDates py src payload with
    | .error e => .error ⟨src.name ++ " holiday response malformed: " ++ py.describe e⟩
    | .ok holidays => .ok (holidays.filter fun d => d.year = year)

end HolidaySource

/-! ## The cache -/

/-- A file of the cache directory: one that cannot be read, one that is no UTF-8, or a text. -/
inductive CacheFile where
  | unreadable
  | undecodable
  | text (content : String)

/-- `path.read_text(encoding="utf-8")`. -/
def CacheFile.readText : CacheFile → Except PyExc String
  | .unreadable => .error .osError
  | .undecodable => .error .valueError
  | .text content => .ok content

/-- The cache directory. -/
abbrev CacheDir := Dict String CacheFile

/-- The exceptions of `get_holidays`: its own, and those that nothing catches. -/
inductive CalendarExc where
  | calendarUnavailableError (message : String)
  | uncaught (e : PyExc)
deriving DecidableEq, Repr

/-- `HolidayCalendar`, as far as the cache depends on it. -/
structure HolidayCalendar where
  exchange : Exchange

namespace HolidayCalendar

/-- `_cache_path`. -/
def cachePath (cal : HolidayCalendar) (year : ℕ) : String :=
  cal.exchange.value ++ "_" ++ toString year ++ ".json"

/-- What `_read_cache` takes from the value in the file. -/
def parseRaw (py : Readers) (raw : Json) : Except PyExc (Finset Date × Timestamp) := do
  let holidays ← datesOf (readText py.date) (← subscript raw "holidays")
  let fetchedAt ← readText py.time (← subscript raw "fetched_at")
  return (holidays, fetchedAt)

/-- The body of the `try` in `_read_cache`; a text that is no JSON is a `ValueError` too. -/
def parseCache (py : Readers) (file : CacheFile) : Except PyExc (Finset Date × Timestamp) := do
  let content ← file.readText
  match Json.loads content with
  | some raw => parseRaw py raw
  | none => .error .valueError

/-- `_read_cache`: a `TypeError` is not caught. -/
def readCache (py : Readers) (cal : HolidayCalendar) (dir : CacheDir) (year : ℕ) :
    Except PyExc (Option (Finset Date × Timestamp)) :=
  match dir.get? (cal.cachePath year) with
  | none => .ok none
  | some file => match parseCache py file with
    | .ok cached => .ok (some cached)
    | .error .osError | .error (.keyError _) | .error .valueError => .ok none
    | .error .typeError => .error .typeError

/-- The text that `_write_cache` writes. -/
def cacheText (holidays : Finset Date) (now : DateTime) : String :=
  Json.dumpsIndent 2 (.obj
    [("holidays", .arr (((holidays.image Date.iso).sort (· ≤ ·)).map .str)),
      ("fetched_at", .str now.isoformat)])

/-- `_write_cache`. -/
def writeCache (cal : HolidayCalendar) (dir : CacheDir) (year : ℕ) (holidays : Finset Date)
    (now : DateTime) : CacheDir :=
  dir.set (cal.cachePath year) (.text (cacheText holidays now))

/-- `timedelta(days=HOLIDAY_CACHE_MAX_AGE_DAYS)`, in microseconds. -/
def cacheMaxAge : ℤ := holidayCacheMaxAgeDays * (24 * 60 * 60 * 1000000)

/-- The second half of `get_holidays`: the live fetch, with the holidays of a stale cache to
fall back on, if there is one. -/
def refresh (cal : HolidayCalendar) (dir : CacheDir) (year : ℕ) (written : DateTime)
    (fetch : Except CalendarFetchError (Finset Date)) (stale : Option (Finset Date)) :
    Except CalendarExc (Finset Date) × CacheDir :=
  match fetch with
  | .error e => match stale with
    | some holidays => (.ok holidays, dir)
    | none =>
        (.error (.calendarUnavailableError ("No cached holidays for " ++ cal.exchange.value ++
          " " ++ toString year ++ " and the live fetch failed: " ++ e.message)), dir)
  | .ok fresh => (.ok fresh, cal.writeCache dir year fresh written)

/-- `get_holidays`, given the clock at the age test and at the write, and what the source
would return. A time without a timezone has no distance from one of UTC. -/
def getHolidays (py : Readers) (cal : HolidayCalendar) (dir : CacheDir) (year : ℕ)
    (now written : DateTime) (fetch : Except CalendarFetchError (Finset Date)) :
    Except CalendarExc (Finset Date) × CacheDir :=
  match readCache py cal dir year with
  | .error e => (.error (.uncaught e), dir)
  | .ok none => cal.refresh dir year written fetch none
  | .ok (some (_, .naive _)) => (.error (.uncaught .typeError), dir)
  | .ok (some (holidays, .aware fetchedAt)) =>
      if now.micros - fetchedAt ≤ cacheMaxAge then (.ok holidays, dir)
      else cal.refresh dir year written fetch (some holidays)

/-- `is_trading_day`: a weekend needs no calendar. -/
def isTradingDay (py : Readers) (cal : HolidayCalendar) (dir : CacheDir) (day : Date)
    (now written : DateTime) (fetch : Except CalendarFetchError (Finset Date)) :
    Except CalendarExc Bool × CacheDir :=
  if 5 ≤ day.weekday then (.ok false, dir)
  else
    let (holidays, dir') := getHolidays py cal dir day.year now written fetch
    (holidays.map fun h => decide (day ∉ h), dir')

end HolidayCalendar

end Intraday.Session
