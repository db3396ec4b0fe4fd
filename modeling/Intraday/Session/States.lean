import Intraday.Lib.Clock
import Intraday.Lib.Phases
import Intraday.Session.Coverage

/-!
# Intraday.Session.States — the session state machine of `shared/session_manager.py`

`SessionStateMachine` finds the state of a session by comparing the time of day with the
bounds of the region, on a trading day of the calendar. `SquareOffScheduler` computes the
deadline of the day as a `datetime`. On a trading day the states are the phases of
`Intraday.Lib.Phases` (`stateAt_eq_phaseOf`), so they follow each other in their order, and
the two classes agree about the square-off.
-/

namespace Intraday.Session

open Intraday.Lib

/-- `SessionState`. -/
inductive SessionState where
  | closed
  | preMarket
  | open
  | snapshotWindow
  | approachingClose
deriving DecidableEq, Repr

/-- `TRADEABLE_STATES`. -/
def tradeableStates : List SessionState := [.open, .snapshotWindow]

/-- The fields of `RegionConfig` that a session reads; the times are texts `HH:MM`. -/
structure RegionConfig where
  timezone : String
  preMarketLocal : String
  marketOpenLocal : String
  marketCloseLocal : String
  squareOffLocal : String
  snapshotWindowStartLocal : Option String

/-- What a session takes from the standard library. -/
structure SessionLib where
  /-- `int(text)`; `none` is a `ValueError` -/
  int : String → Option ℤ
  /-- `ZoneInfo(key)`; `none` is a `ZoneInfoNotFoundError` -/
  zoneInfo : String → Option Zone

/-- What a query of the session raises. -/
inductive SessionExc where
  | zoneInfoNotFound
  | valueError
  | calendar (e : CalendarExc)
deriving DecidableEq

/-- The argument `now`: a `datetime` that is naive or of the timezone of the region is kept as
it is, one of another timezone is converted by the moment it stands for. -/
inductive Now where
  | none
  | naive (wall : Wall)
  | aware (moment : ℤ)

variable (lib : SessionLib)

/-- `_parse_hhmm`. -/
def parseHhmm (value : String) : Except SessionExc Time :=
  match value.toList.splitOn ':' with
  | [hour, minute] =>
      match lib.int (String.ofList hour), lib.int (String.ofList minute) with
      | some h, some m => (Time.ofHourMinute h m).elim (.error .valueError) .ok
      | _, _ => .error .valueError
  | _ => .error .valueError

/-- The bounds of a session. -/
structure Bounds where
  preMarket : Time
  marketOpen : Time
  marketClose : Time
  squareOff : Time
  snapshotStart : Option Time
deriving DecidableEq

namespace RegionConfig

variable (region : RegionConfig)

/-- `snapshot_start`: an empty text counts as none. -/
def parseSnapshotStart : Except SessionExc (Option Time) :=
  match region.snapshotWindowStartLocal with
  | some text => if text = "" then .ok none else (parseHhmm lib text).map some
  | none => .ok none

/-- The times of a region, as `get_state` parses them. -/
def bounds : Except SessionExc Bounds := do
  let preMarket ← parseHhmm lib region.preMarketLocal
  let marketOpen ← parseHhmm lib region.marketOpenLocal
  let marketClose ← parseHhmm lib region.marketCloseLocal
  let squareOff ← parseHhmm lib region.squareOffLocal
  let snapshotStart ← region.parseSnapshotStart lib
  pure ⟨preMarket, marketOpen, marketClose, squareOff, snapshotStart⟩

/-- The `tz` property. -/
def tz : Except SessionExc Zone :=
  (lib.zoneInfo region.timezone).elim (.error .zoneInfoNotFound) .ok

end RegionConfig

/-- `_local_now`, with the clock at `clock`. -/
def localNow (tz : Zone) (clock : ℤ) : Now → Wall
  | .none => tz clock
  | .naive wall => wall
  | .aware moment => tz moment

/-- The state at a time of day of a trading day. -/
def stateAt (b : Bounds) (t : Time) : SessionState :=
  if t < b.preMarket ∨ b.marketClose ≤ t then .closed
  else if t < b.marketOpen then .preMarket
  else if b.squareOff ≤ t then .approachingClose
  else if b.snapshotStart.any (· ≤ t) then .snapshotWindow
  else .open

/-- What one query sees: the argument and the clock, and, for the calendar, the cache, its own
readings of the clock and what a request to the exchange would return. -/
structure Query where
  now : Now
  clock : ℤ
  cache : CacheDir
  utcNow : DateTime
  written : DateTime
  response : Except String Json

/-- `SessionStateMachine`. -/
structure SessionStateMachine where
  region : RegionConfig
  holidayCalendar : LiveCalendar

namespace SessionStateMachine

variable (m : SessionStateMachine)

/-- `holiday_calendar.is_trading_day(today)`. -/
def isTradingDay (q : Query) (today : Date) : Except CalendarExc Bool × CacheDir :=
  m.holidayCalendar.cal.isTradingDay m.holidayCalendar.py q.cache today q.utcNow q.written
    (m.holidayCalendar.src.fetchHolidays m.holidayCalendar.py q.response today.year)

/-- `get_state`: the state, and the cache as the calendar leaves it. -/
def getState (q : Query) : Except SessionExc SessionState × CacheDir :=
  match m.region.tz lib with
  | .error e => (.error e, q.cache)
  | .ok tz =>
      let now := localNow tz q.clock q.now
      let (trading, cache) := m.isTradingDay q now.date
      (match trading with
        | .error e => .error (.calendar e)
        | .ok false => .ok .closed
        | .ok true => (m.region.bounds lib).map fun b => stateAt b now.time,
       cache)

/-- `is_snapshot_window_active`. -/
def isSnapshotWindowActive (q : Query) : Except SessionExc Bool :=
  (m.getState lib q).1.map fun s => decide (s = .snapshotWindow)

end SessionStateMachine

/-- `SquareOffScheduler`. -/
structure SquareOffScheduler where
  region : RegionConfig

namespace SquareOffScheduler

variable (s : SquareOffScheduler)

/-- `square_off_at`, in the timezone of the region. -/
def squareOffAt (marketDate : Date) : Except SessionExc Wall :=
  (parseHhmm lib s.region.squareOffLocal).map fun t => ⟨marketDate, t⟩

/-- `square_off_due`: both sides are in the timezone of the region. -/
def squareOffDue (q : Query) : Except SessionExc Bool :=
  match s.region.tz lib with
  | .error e => .error e
  | .ok tz =>
      let now := localNow tz q.clock q.now
      (s.squareOffAt lib now.date).map fun due => decide (due.stamp ≤ now.stamp)

end SquareOffScheduler

/-! ## The states of a day -/

namespace Bounds

variable (b : Bounds)

/-- The bounds follow each other; some may coincide. -/
structure Ordered : Prop where
  preMarket_le : b.preMarket ≤ b.marketOpen
  open_le : b.marketOpen ≤ b.squareOff
  open_le_snapshot : ∀ s ∈ b.snapshotStart, b.marketOpen ≤ s
  snapshot_le : ∀ s ∈ b.snapshotStart, s ≤ b.squareOff
  squareOff_le : b.squareOff ≤ b.marketClose

/-- Where `SNAPSHOT_WINDOW` starts; without a snapshot window it is empty. -/
def snapshot : Time := b.snapshotStart.getD b.squareOff

/-- The interval of each state. -/
def Holds (t : Time) : SessionState → Prop
  | .closed => t < b.preMarket ∨ b.marketClose ≤ t
  | .preMarket => b.preMarket ≤ t ∧ t < b.marketOpen
  | .open => b.marketOpen ≤ t ∧ t < b.snapshot
  | .snapshotWindow => b.snapshot ≤ t ∧ t < b.squareOff
  | .approachingClose => b.squareOff ≤ t ∧ t < b.marketClose

/-- The day cut at the bounds. -/
def phases : List (Time × SessionState) :=
  [(b.preMarket, .closed), (b.marketOpen, .preMarket), (b.snapshot, .open),
    (b.squareOff, .snapshotWindow), (b.marketClose, .approachingClose)]

variable {b}

theorem Ordered.snapshot_bounds (h : b.Ordered) :
    b.marketOpen ≤ b.snapshot ∧ b.snapshot ≤ b.squareOff := by
  unfold snapshot
  cases hstart : b.snapshotStart with
  | none => exact ⟨h.open_le, le_rfl⟩
  | some s => exact ⟨h.open_le_snapshot s hstart, h.snapshot_le s hstart⟩

end Bounds

/-- Before the square-off the code's test of the snapshot window is that of its start. -/
theorem any_snapshotStart {b : Bounds} {t : Time} (h : t < b.squareOff) :
    b.snapshotStart.any (· ≤ t) = true ↔ b.snapshot ≤ t := by
  unfold Bounds.snapshot
  cases b.snapshotStart with
  | none => simpa using h
  | some s => simp

/-- On a trading day the states are the phases of the day. -/
theorem stateAt_eq_phaseOf {b : Bounds} (h : b.Ordered) (t : Time) :
    stateAt b t = phaseOf .closed b.phases t := by
  have hsnapshot := h.snapshot_bounds
  have hpre := h.preMarket_le
  have hclose := h.squareOff_le
  simp only [stateAt, Bounds.phases, phaseOf]
  by_cases hbefore : t < b.preMarket
  · rw [if_pos (Or.inl hbefore), if_pos hbefore]
  by_cases hafter : b.marketClose ≤ t
  · have hoff := hclose.trans hafter
    rw [if_pos (Or.inr hafter), if_neg hbefore,
      if_neg (not_lt.mpr ((hsnapshot.1.trans hsnapshot.2).trans hoff)),
      if_neg (not_lt.mpr (hsnapshot.2.trans hoff)), if_neg (not_lt.mpr hoff),
      if_neg (not_lt.mpr hafter)]
  rw [if_neg (not_or.mpr ⟨hbefore, hafter⟩), if_neg hbefore]
  by_cases hopen : t < b.marketOpen
  · rw [if_pos hopen, if_pos hopen]
  rw [if_neg hopen, if_neg hopen]
  by_cases hoff : b.squareOff ≤ t
  · rw [if_pos hoff, if_neg (not_lt.mpr (hsnapshot.2.trans hoff)), if_neg (not_lt.mpr hoff),
      if_pos (not_le.mp hafter)]
  · rw [if_neg hoff, if_pos (not_le.mp hoff)]
    by_cases hwindow : b.snapshot ≤ t
    · rw [if_pos ((any_snapshotStart (not_le.mp hoff)).mpr hwindow),
        if_neg (not_lt.mpr hwindow)]
    · rw [if_neg (fun hany => hwindow ((any_snapshotStart (not_le.mp hoff)).mp hany)),
        if_pos (not_le.mp hwindow)]

/-- The state is the one whose interval holds the time. -/
theorem holds_iff {b : Bounds} (h : b.Ordered) (t : Time) (s : SessionState) :
    b.Holds t s ↔ stateAt b t = s := by
  have hsnapshot := h.snapshot_bounds
  have hpre := h.preMarket_le
  have hclose := h.squareOff_le
  rw [stateAt_eq_phaseOf h]
  simp only [Bounds.phases, phaseOf]
  constructor
  · intro hs
    cases s <;> simp only [Bounds.Holds] at hs <;> split_ifs <;> grind
  · intro hs
    subst hs
    split_ifs <;> simp only [Bounds.Holds] <;> grind

/-! ## The two classes on one region -/

/-- The timezone and the times of a region can be read. -/
structure RegionConfig.Reads (region : RegionConfig) (tz : Zone) (b : Bounds) : Prop where
  tz : region.tz lib = .ok tz
  bounds : region.bounds lib = .ok b

variable {lib}

theorem RegionConfig.Reads.squareOff {region : RegionConfig} {tz : Zone} {b : Bounds}
    (h : region.Reads lib tz b) : parseHhmm lib region.squareOffLocal = .ok b.squareOff := by
  have hbounds := h.bounds
  simp only [RegionConfig.bounds, bind, Except.bind, pure, Except.pure] at hbounds
  split at hbounds
  · cases hbounds
  split at hbounds
  · cases hbounds
  split at hbounds
  · cases hbounds
  split at hbounds
  · cases hbounds
  rename_i squareOff hsquareOff
  split at hbounds
  · cases hbounds
  · rcases Except.ok.inj hbounds with rfl
    exact hsquareOff

namespace SessionStateMachine

variable {m : SessionStateMachine} {tz : Zone} {b : Bounds}

/-- What the calendar answers on the day of a query. -/
def trading (m : SessionStateMachine) (tz : Zone) (q : Query) : Except CalendarExc Bool :=
  (m.isTradingDay q (localNow tz q.clock q.now).date).1

theorem getState_eq (h : m.region.Reads lib tz b) (q : Query) :
    (m.getState lib q).1 = match m.trading tz q with
      | .error e => .error (.calendar e)
      | .ok false => .ok .closed
      | .ok true => .ok (stateAt b (localNow tz q.clock q.now).time) := by
  rw [getState, h.tz]
  simp only [trading]
  cases (m.isTradingDay q (localNow tz q.clock q.now).date).1 with
  | error e => rfl
  | ok answer =>
      cases answer with
      | false => rfl
      | true => simp only [h.bounds, Except.map]

theorem getState_of_trading (h : m.region.Reads lib tz b) {q : Query}
    (hq : m.trading tz q = .ok true) :
    (m.getState lib q).1 = .ok (stateAt b (localNow tz q.clock q.now).time) := by
  rw [getState_eq h, hq]

end SessionStateMachine

/-- The deadline is on the day of the query, so it is due by the time of day. -/
theorem squareOffDue_eq {region : RegionConfig} {tz : Zone} {b : Bounds}
    (h : region.Reads lib tz b) (q : Query) :
    (SquareOffScheduler.mk region).squareOffDue lib q =
      .ok (decide (b.squareOff ≤ (localNow tz q.clock q.now).time)) := by
  rw [SquareOffScheduler.squareOffDue, h.tz]
  have hdue := Wall.stamp_le_stamp (v := ⟨(localNow tz q.clock q.now).date, b.squareOff⟩)
    (w := localNow tz q.clock q.now) rfl
  simp only [SquareOffScheduler.squareOffAt, h.squareOff, Except.map]
  rw [decide_eq_decide.mpr hdue]

/-- A state in which entries and exits are allowed ends at the square-off. -/
theorem lt_squareOff_of_tradeable {b : Bounds} {t : Time} (h : stateAt b t ∈ tradeableStates) :
    t < b.squareOff := by
  unfold stateAt at h
  by_contra hoff
  split_ifs at h with hclosed hopen hsquareOff
  · exact absurd h (by decide)
  · exact absurd h (by decide)
  · exact absurd h (by decide)
  · exact hsquareOff (not_lt.mp hoff)
  · exact hsquareOff (not_lt.mp hoff)

/-- Numbers in decimal digits, and the one timezone of India. -/
def indiaLib : SessionLib where
  int text :=
    if text.toList.all Char.isDigit && text != "" then some (Nat.ofDigitChars 10 text.toList 0)
    else none
  zoneInfo key := if key = "Asia/Kolkata" then some (fixedZone (330 * 60000000)) else none

/-- `apps/india/config.yaml`. -/
def indiaRegion : RegionConfig where
  timezone := "Asia/Kolkata"
  preMarketLocal := "08:45"
  marketOpenLocal := "09:15"
  marketCloseLocal := "15:30"
  squareOffLocal := "15:10"
  snapshotWindowStartLocal := some "14:45"

/-- The bounds of India. -/
def indiaBounds : Bounds where
  preMarket := (Time.ofHourMinute 8 45).get rfl
  marketOpen := (Time.ofHourMinute 9 15).get rfl
  marketClose := (Time.ofHourMinute 15 30).get rfl
  squareOff := (Time.ofHourMinute 15 10).get rfl
  snapshotStart := Time.ofHourMinute 14 45

theorem indiaRegion_reads :
    indiaRegion.Reads indiaLib (fixedZone (330 * 60000000)) indiaBounds where
  tz := rfl
  bounds := by decide +kernel

theorem indiaBounds_ordered : indiaBounds.Ordered where
  preMarket_le := by decide
  open_le := by decide
  open_le_snapshot := by decide
  snapshot_le := by decide
  squareOff_le := by decide

/-- On a trading day the session goes through its states in their order and is in exactly one
of them at each time; it approaches the close from the square-off to the close; and in no state
that allows trading is the square-off due. -/
theorem session_progression {m : SessionStateMachine} {tz : Zone} {b : Bounds}
    (h : m.region.Reads lib tz b) (hordered : b.Ordered) :
    (∀ (day : Date) (qs : List Query),
      (∀ q ∈ qs, (localNow tz q.clock q.now).date = day ∧ m.trading tz q = .ok true) →
      (qs.map fun q => (localNow tz q.clock q.now).time).Pairwise (· ≤ ·) →
      ∃ states, qs.map (fun q => (m.getState lib q).1) = states.map .ok ∧
        PassesThrough
          [.closed, .preMarket, .open, .snapshotWindow, .approachingClose, .closed] states ∧
        (b.snapshotStart = none → .snapshotWindow ∉ states)) ∧
    (∀ q, m.trading tz q = .ok true →
      ∃ s, (m.getState lib q).1 = .ok s ∧ b.Holds (localNow tz q.clock q.now).time s ∧
        ∀ s', b.Holds (localNow tz q.clock q.now).time s' → s' = s) ∧
    (∀ q, m.trading tz q = .ok true →
      ((m.getState lib q).1 = .ok .approachingClose ↔
        (SquareOffScheduler.mk m.region).squareOffDue lib q = .ok true ∧
          (localNow tz q.clock q.now).time < b.marketClose)) ∧
    (∀ q s, (m.getState lib q).1 = .ok s → s ∈ tradeableStates →
      (SquareOffScheduler.mk m.region).squareOffDue lib q = .ok false) := by
  refine ⟨?_, ?_, ?_, ?_⟩
  · intro day qs hday hsorted
    refine ⟨(qs.map fun q => (localNow tz q.clock q.now).time).map (stateAt b), ?_, ?_, ?_⟩
    · rw [List.map_map, List.map_map]
      apply List.map_congr_left
      intro q hq
      exact SessionStateMachine.getState_of_trading h (hday q hq).2
    · have hphases : stateAt b = phaseOf .closed b.phases := by
        funext t
        exact stateAt_eq_phaseOf hordered t
      rw [hphases]
      exact passesThrough_phaseOf .closed b.phases hsorted
    · intro hnone hmem
      rcases List.mem_map.mp hmem with ⟨t, -, hstate⟩
      have hwindow := (holds_iff hordered t _).mpr hstate
      simp only [Bounds.Holds, Bounds.snapshot, hnone, Option.getD_none] at hwindow
      exact absurd hwindow.1 (not_le.mpr hwindow.2)
  · intro q hq
    refine ⟨_, SessionStateMachine.getState_of_trading h hq, ?_, ?_⟩
    · exact (holds_iff hordered _ _).mpr rfl
    · intro s' hs'
      exact ((holds_iff hordered _ _).mp hs').symm
  · intro q hq
    rw [SessionStateMachine.getState_of_trading h hq, squareOffDue_eq h, Except.ok.injEq,
      Except.ok.injEq, decide_eq_true_eq, ← holds_iff hordered]
    exact Iff.rfl
  · intro q s hs htradeable
    rw [SessionStateMachine.getState_eq h] at hs
    rw [squareOffDue_eq h]
    have hbefore : (localNow tz q.clock q.now).time < b.squareOff := by
      split at hs
      · cases hs
      · rcases Except.ok.inj hs with rfl
        exact absurd htradeable (by decide)
      · rcases Except.ok.inj hs with rfl
        exact lt_squareOff_of_tradeable htradeable
    rw [decide_eq_false (not_le.mpr hbefore)]

/-- The machine of India with the calendar of the NSE. -/
def indiaMachine : SessionStateMachine := ⟨indiaRegion, ⟨isoReaders, ⟨.nse⟩, nseHolidaySource⟩⟩

/-- A query of the India session with a time of 30 June 2026, a Tuesday. -/
def indiaQuery (hour minute : ℤ) : Option Query := do
  let date ← Date.ofFields 2026 6 30
  let time ← Time.ofHourMinute hour minute
  let utcNow ← DateTime.ofFields 2026 6 30 4 0 0 0
  pure
    { now := .naive ⟨date, time⟩
      clock := 0
      cache := .empty
      utcNow := utcNow
      written := utcNow
      response := .ok (.obj [("CM", .arr [.obj [("tradingDate", .str "26-Jan-2026")]])]) }

/-- Before the market, in the snapshot window and after the square-off. -/
theorem session_progression_india :
    ∃ states,
      [(indiaQuery 8 50).get rfl, (indiaQuery 14 50).get rfl, (indiaQuery 15 12).get rfl].map
        (fun q => (indiaMachine.getState indiaLib q).1) = states.map .ok ∧
      PassesThrough
        [.closed, .preMarket, .open, .snapshotWindow, .approachingClose, .closed] states ∧
      (indiaBounds.snapshotStart = none → .snapshotWindow ∉ states) :=
  (session_progression (m := indiaMachine) indiaRegion_reads indiaBounds_ordered).1
    ((Date.ofFields 2026 6 30).get rfl) _ (by decide +kernel) (by decide +kernel)

end Intraday.Session
