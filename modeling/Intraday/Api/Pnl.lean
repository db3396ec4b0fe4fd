import Intraday.Api.Status
import Intraday.Lib.Date
import Intraday.Monitor.Agent

/-!
# Intraday.Api.Pnl — `api/routers/pnl.py`

`GET /pnl` and the monitor read the P&L of the day from the same database, each under a key
that it builds from the date. The monitor writes the date as `%Y%m%d`, as the constant's comment
says, the endpoint as `%Y-%m-%d`, so they never read the same entry: what is written for the
monitor is not seen by the endpoint on any day (`getPnl_put_compact`).
-/

namespace Intraday.Api.Pnl

open Intraday.Core Intraday.Lib Intraday.Lib.Python
open Intraday.Api.Status Intraday.Monitor.Agent

/-- `PnLOut`. -/
structure PnLOut where
  date : String
  totalPnl : PyFloat
  totalPnlPct : PyFloat
  startingCapital : PyFloat
  openPositionsCount : ℕ
  isHalted : Bool

/-- `100`, as the float that it is multiplied as. -/
def hundred : PyFloat := .finite false { digits := 1, exp := 2, normal := .inl (by decide) }

/-- `total_pnl`: a finite number, zero if there is none. -/
def totalPnl (py : Builtins) (get : Get) (key : String) : PyFloat :=
  match get key with
  | .ok (some rawPnl) =>
      if rawPnl = "" then .zero
      else
        match py.float rawPnl with
        | some v => if v.isFinite then v else .zero
        | none => .zero
  | _ => .zero

/-- `starting_capital`: a finite positive number, else zero. -/
def startingCapital (py : Builtins) (state : Dict String Json) : Except Exc PyFloat :=
  match ((state.get? "starting_capital").getD .null).floatOrZero py with
  | .ok sc => .ok (if sc.isFinite && !PyFloat.le sc .zero then sc else .zero)
  | .error exc => .error exc

/-- `get_pnl`, on the day `now`. -/
def getPnl (py : Builtins) (now : Date) (get : Get) : Except Exc PnLOut := do
  let today := now.iso
  let total := totalPnl py get (riskDailyPnlRedisKey today)
  let state ← (readState py get).asDict
  let capital ← startingCapital py state
  return {
    date := today
    totalPnl := total
    totalPnlPct :=
      if capital.nonzero then py.multiply (py.divide total capital) hundred else .zero
    startingCapital := capital
    openPositionsCount := stateDictLen state "open_positions"
    isHalted := boolKey get killSwitchHaltedKey }

/-! ## One database, two clients -/

/-- The client of the API decodes what the database answers. -/
def decoded (reads : RedisReads) : Get := fun key =>
  match reads.get key with
  | .ok (some raw) =>
      match String.fromUTF8? raw with
      | some text => .ok (some text)
      | none => .error (.other "UnicodeDecodeError")
  | .ok none => .ok none
  | .error exc => .error exc

/-- The database after `SET key text`. -/
def put (reads : RedisReads) (key text : String) : RedisReads :=
  { reads with get := Function.update reads.get key (.ok (some text.toByteArray)) }

/-- The monitor's client on the same database. -/
def monitor (reads : RedisReads) (capital : PyFloat) : PnLTracker where
  redis := some reads
  startingCapital := capital

/-- The text under a key, if there is one. -/
def textAt (reads : RedisReads) (key : String) : Option String :=
  (monitor reads .zero).textAt key

theorem decoded_eq_ok_some_iff {reads : RedisReads} {key text : String} :
    decoded reads key = .ok (some text) ↔ textAt reads key = some text := by
  simp only [decoded, textAt, monitor, PnLTracker.textAt]
  rcases reads.get key with exc | _ | raw
  · simp
  · simp
  · cases h : String.fromUTF8? raw with
    | none => simp [h]
    | some t => simp [h]

/-! ## What the two agree on -/

/-- The number under a key: zero if there is no text, or none that denotes a number. -/
def numberAt (py : Builtins) (reads : RedisReads) (key : String) : PyFloat :=
  ((textAt reads key).bind py.float).getD .zero

/-- The same, where the empty text and the texts of `nan` and `inf` count as zero too. -/
def finiteAt (py : Builtins) (reads : RedisReads) (key : String) : PyFloat :=
  match textAt reads key with
  | none => .zero
  | some text =>
      if text = "" ∨ ¬ (numberAt py reads key).isFinite then .zero else numberAt py reads key

theorem totalPnl_decoded (py : Builtins) (reads : RedisReads) (key : String) :
    totalPnl py (decoded reads) key = finiteAt py reads key := by
  cases htext : textAt reads key with
  | some text =>
      -- the endpoint tests the text before it converts it, and the float after
      rw [totalPnl, decoded_eq_ok_some_iff.mpr htext]
      by_cases hempty : text = ""
      · simp [finiteAt, htext, hempty]
      · cases hfloat : py.float text with
        | none => simp [finiteAt, numberAt, htext, hempty, hfloat]
        | some v => cases hfinite : v.isFinite <;>
            simp [finiteAt, numberAt, htext, hempty, hfloat, hfinite]
  | none =>
      have hget : ∀ text, decoded reads key ≠ .ok (some text) := by
        intro text h
        rw [decoded_eq_ok_some_iff, htext] at h
        cases h
      rw [totalPnl, finiteAt, htext]
      rcases hraw : decoded reads key with exc | _ | text
      · rfl
      · rfl
      · exact absurd hraw (hget text)

/-- A starting capital that has a float, as all but huge integers do. -/
def Convertible (state : Dict String Json) : Prop :=
  ∀ i, state.get? "starting_capital" = some (.int i) → i.natAbs < floatBound

theorem startingCapital_isOk_iff (py : Builtins) (state : Dict String Json) :
    (∃ x, startingCapital py state = .ok x) ↔ Convertible state := by
  have hok : (∃ x, startingCapital py state = .ok x) ↔
      ∃ x, ((state.get? "starting_capital").getD .null).floatOrZero py = .ok x := by
    rw [startingCapital]
    cases ((state.get? "starting_capital").getD .null).floatOrZero py with
    | ok sc => simp
    | error exc => simp
  rw [hok, Convertible]
  cases hcapital : state.get? "starting_capital" with
  | none => simp [Json.floatOrZero]
  | some v =>
      cases v with
      | int i => simpa [Json.floatOrZero] using floatOfInt_isOk_iff py i
      | bool b =>
          have hsmall : (if b then (1 : ℤ) else 0).natAbs < floatBound := by
            have := small_lt_floatBound
            cases b <;> simp <;> omega
          simpa [Json.floatOrZero] using (floatOfInt_isOk_iff py _).mpr hsmall
      | _ => simp [Json.floatOrZero]

/-- The state is a dictionary, and its capital has a float: the endpoint answers. -/
def Answers (py : Builtins) (reads : RedisReads) : Prop :=
  ∃ members, readState py (decoded reads) = .obj members ∧ Convertible (Json.dictOf members)

theorem getPnl_isOk_iff (py : Builtins) (now : Date) (reads : RedisReads) :
    (∃ out, getPnl py now (decoded reads) = .ok out) ↔ Answers py reads := by
  have hobj : ∀ members, readState py (decoded reads) = .obj members →
      ((∃ out, getPnl py now (decoded reads) = .ok out) ↔ Answers py reads) := by
    intro members hstate
    have hanswers : Answers py reads ↔ Convertible (Json.dictOf members) := by
      simp [Answers, hstate]
    rw [hanswers, ← startingCapital_isOk_iff py]
    simp only [getPnl, hstate, Json.asDict, bind, Except.bind, pure, Except.pure]
    cases startingCapital py (Json.dictOf members) with
    | ok capital => simp
    | error exc => simp
  cases hstate : readState py (decoded reads) with
  | obj members => exact hobj members hstate
  | _ => simp [getPnl, Answers, hstate, Json.asDict, bind, Except.bind]

theorem getPnl_totalPnl {py : Builtins} {now : Date} {reads : RedisReads} {out : PnLOut}
    (h : getPnl py now (decoded reads) = .ok out) :
    out.totalPnl = finiteAt py reads (riskDailyPnlRedisKey now.iso) := by
  rw [← totalPnl_decoded]
  simp only [getPnl, bind, Except.bind, pure, Except.pure] at h
  cases hstate : (readState py (decoded reads)).asDict with
  | error exc =>
      rw [hstate] at h
      cases h
  | ok state =>
      simp only [hstate] at h
      cases hcapital : startingCapital py state with
      | error exc =>
          rw [hcapital] at h
          cases h
      | ok capital =>
          rw [hcapital] at h
          cases h
          rfl

/-- The endpoint answers with the P&L of the monitor's snapshot. -/
def Agrees (py : Builtins) (now : Date) (reads : RedisReads) (capital : PyFloat) : Prop :=
  ∃ out, getPnl py now (decoded reads) = .ok out ∧
    PyFloat.eq out.totalPnl ((monitor reads capital).snapshot py now.compact).pnlToday = true

/-- Exactly when the two agree: the endpoint answers, and the two entries denote the same
number, where one that is not there or not finite counts as zero for the endpoint. -/
theorem pnl_agrees_iff (py : Builtins) (now : Date) (reads : RedisReads) (capital : PyFloat) :
    Agrees py now reads capital ↔ Answers py reads ∧
      PyFloat.eq (finiteAt py reads (riskDailyPnlRedisKey now.iso))
        (numberAt py reads (riskDailyPnlRedisKey now.compact)) = true := by
  rw [← getPnl_isOk_iff py now]
  have hmonitor : ((monitor reads capital).snapshot py now.compact).pnlToday =
      numberAt py reads (riskDailyPnlRedisKey now.compact) := rfl
  rw [Agrees, hmonitor]
  constructor
  · rintro ⟨out, hout, heq⟩
    rw [getPnl_totalPnl hout] at heq
    exact ⟨⟨out, hout⟩, heq⟩
  · rintro ⟨⟨out, hout⟩, heq⟩
    refine ⟨out, hout, ?_⟩
    rw [getPnl_totalPnl hout]
    exact heq

/-- `-25000.0`. -/
def loss : PyFloat := .finite true { digits := 25, exp := 3, normal := .inl (by decide) }

/-- A day with a loss under the monitor's key, as a risk engine that follows the constant's
comment writes it, and nothing else in the database. -/
def lossDay : RedisReads where
  get key :=
    .ok (if key = riskDailyPnlRedisKey "20260702" then some "-25000.0".toByteArray else none)
  xrevrange _ _ := .ok ⟨[], Nat.zero_le _⟩

/-- The day. -/
def secondOfJuly : Date where
  year := 2026
  month := 7
  day := 2
  year_range := by decide
  month_range := by decide
  day_range := by decide

/-- Built-ins that read the loss. -/
def readsLoss : Builtins where
  float text := if text = "-25000.0" then some loss else none
  loads := Json.loads
  divide x _ := x
  multiply x _ := x
  toFloat _ := .zero
  repr _ := ""

/-- On that day the monitor reads the loss, and the endpoint answers zero. -/
theorem loss_day_reported_as_zero :
    ¬ ∀ (py : Builtins) (now : Date) (reads : RedisReads) (capital : PyFloat),
      Agrees py now reads capital := by
  intro h
  rcases h readsLoss secondOfJuly lossDay .zero with ⟨out, hout, heq⟩
  have hiso : secondOfJuly.iso = "2026-07-02" := by decide
  have hcompact : secondOfJuly.compact = "20260702" := by decide
  have hmonitor : ((monitor lossDay .zero).snapshot readsLoss "20260702").pnlToday = loss := by
    simp [PnLTracker.snapshot, PnLTracker.readPnl, monitor, PnLTracker.textAt, lossDay,
      fromUTF8?_toByteArray, readsLoss]
  have hendpoint : finiteAt readsLoss lossDay (riskDailyPnlRedisKey "2026-07-02") = .zero := by
    simp [finiteAt, textAt, monitor, PnLTracker.textAt, lossDay, riskDailyPnlRedisKey]
  rw [getPnl_totalPnl hout, hiso, hcompact, hendpoint, hmonitor] at heq
  -- zero is above the loss
  have hne : PyFloat.le .zero loss = false := by
    simp only [PyFloat.le, PyFloat.zero, loss, PyFloat.value]
    norm_num
  rw [PyFloat.eq, hne] at heq
  cases heq

/-! ## The entry of the monitor -/

/-- The key of the monitor on any day is none that the endpoint reads. -/
theorem compactKey_ne (d now : Date) :
    riskDailyPnlRedisKey d.compact ≠ riskDailyPnlRedisKey now.iso ∧
      riskDailyPnlRedisKey d.compact ≠ orchestratorStateRedisKey ∧
      riskDailyPnlRedisKey d.compact ≠ killSwitchHaltedKey := by
  refine ⟨?_, ?_, ?_⟩
  · intro heq
    rw [riskDailyPnlRedisKey, riskDailyPnlRedisKey, String.append_right_inj] at heq
    exact Date.compact_ne_iso d now heq
  -- the other two keys do not even begin with the same letter
  · intro heq
    have hhead := congrArg (fun s => s.toList.head?) heq
    simp [riskDailyPnlRedisKey, orchestratorStateRedisKey, String.toList_append] at hhead
  · intro heq
    have hhead := congrArg (fun s => s.toList.head?) heq
    simp [riskDailyPnlRedisKey, killSwitchHaltedKey, String.toList_append] at hhead

/-- What is written for the monitor, on any day, changes nothing that the endpoint answers. -/
theorem getPnl_put_compact (py : Builtins) (now d : Date) (reads : RedisReads) (text : String) :
    getPnl py now (decoded (put reads (riskDailyPnlRedisKey d.compact) text)) =
      getPnl py now (decoded reads) := by
  rcases compactKey_ne d now with ⟨hiso, hstate, hhalted⟩
  have hother : ∀ key, riskDailyPnlRedisKey d.compact ≠ key →
      decoded (put reads (riskDailyPnlRedisKey d.compact) text) key = decoded reads key := by
    intro key hne
    simp only [decoded, put, Function.update_of_ne hne.symm]
  simp only [getPnl, totalPnl, readState, boolKey, hother _ hiso, hother _ hstate,
    hother _ hhalted]

end Intraday.Api.Pnl
