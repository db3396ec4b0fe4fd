import Intraday.Lua.CircuitBreaker
import Intraday.Orchestrator.Cycle
import Intraday.Risk.Guards

/-!
# Intraday.Monitor.PnlTracker — `shared/monitor/pnl_tracker.py`

The monitor's reading of the day's P&L, and the four places that compare it with the −2% limit:
the risk check, the monitor, `circuit_breaker.lua` and `risk_node`. The first takes a capital
that is not positive for a failed check, the second for a P&L of zero (`thresholds_agree`).

Numbers are exact.
-/

namespace Intraday.Monitor

open Intraday.Core Intraday.Lib Intraday.Lib.Redis Intraday.Orchestrator
open Intraday.Lua.CircuitBreaker (Keys Trips trips_num_iff)
open Intraday.Risk (checkDailyLossLimit)

/-! ## The tracker -/

/-- `PnLSnapshot`. -/
structure PnLSnapshot where
  pnlToday : ℚ
  pnlTodayPct : ℚ
  startingCapital : ℚ
  isCircuitBreaker : Bool
deriving DecidableEq, Repr

/-- `PnLTracker`. The client is given by the string keys of its database. -/
structure PnLTracker where
  redis : Option (Dict String Text)
  startingCapital : ℚ := 1000000

/-- `_CIRCUIT_BREAKER_THRESHOLD`. -/
def circuitBreakerThreshold : ℚ := -2 / 100

namespace PnLTracker

/-- `_read_pnl`, on the day `today`; whatever fails reads as zero. -/
def readPnl (t : PnLTracker) (today : String) (getRaises : Bool) : ℚ :=
  match t.redis with
  | none => 0
  | some db =>
      if getRaises then 0
      else
        match db.get? (riskDailyPnlRedisKey today) with
        | none => 0
        | some text => text.tonumber.getD 0

/-- `snapshot`. -/
def snapshot (t : PnLTracker) (today : String) (getRaises : Bool) : PnLSnapshot :=
  let pnlToday := t.readPnl today getRaises
  let pnlPct := if t.startingCapital > 0 then pnlToday / t.startingCapital else 0
  { pnlToday := pnlToday
    pnlTodayPct := pnlPct
    startingCapital := t.startingCapital
    isCircuitBreaker := decide (pnlPct ≤ circuitBreakerThreshold) }

end PnLTracker

/-! ## The four thresholds -/

/-- `risk_node` sets the circuit breaker. -/
def Activates (startingCapital : ℚ) (missingIsNone : Bool) (s : StateDict) (env : Env) : Prop :=
  ∃ u, (riskNode startingCapital missingIsNone s).eval env = .ok u ∧
    u.circuitBreakerActive = some true

/-- A P&L and a capital, and everything else that the four see: the database in which the day's
P&L has been written, the keys of the script, and the state, setup and clock of the node. -/
structure Reading where
  pnl : ℚ
  capital : ℚ
  today : String
  db : Dict String Text
  keys : Keys
  nodeCapital : ℚ
  missingIsNone : Bool
  state : StateDict
  env : Env

namespace Reading

variable (c : Reading)

/-- The monitor's snapshot. -/
def snapshot : PnLSnapshot :=
  let db := c.db.set (riskDailyPnlRedisKey c.today) (.num c.pnl)
  PnLTracker.snapshot { redis := some db, startingCapital := c.capital } c.today false

/-- `check_daily_loss_limit` fails. -/
def CheckFails : Prop := (checkDailyLossLimit c.pnl c.capital).passed = false

/-- `PnLTracker` reports a breach. -/
def TrackerReports : Prop := c.snapshot.isCircuitBreaker = true

/-- `circuit_breaker.lua` trips on the percentage of the snapshot. -/
def ScriptTrips : Prop :=
  Trips (.num (c.snapshot.pnlTodayPct * 100)) (.num dailyLossLimitPct) c.keys

/-- `risk_node` activates on the fraction of the snapshot, with the breaker not active yet. -/
def NodeActivates : Prop :=
  Activates c.nodeCapital c.missingIsNone
    { c.state with
      pnlTodayPct := some c.snapshot.pnlTodayPct
      circuitBreakerActive := some false } c.env

theorem snapshot_pnlTodayPct :
    c.snapshot.pnlTodayPct = if 0 < c.capital then c.pnl / c.capital else 0 := by
  simp [snapshot, PnLTracker.snapshot, PnLTracker.readPnl, Text.tonumber]

theorem trackerReports_iff : c.TrackerReports ↔ c.snapshot.pnlTodayPct ≤ -2 / 100 :=
  decide_eq_true_iff

theorem scriptTrips_iff : c.ScriptTrips ↔ c.snapshot.pnlTodayPct ≤ -2 / 100 := by
  rw [ScriptTrips, trips_num_iff, dailyLossLimitPct]
  constructor <;> intro h <;> linarith

/-- Above the threshold `risk_node` leaves the breaker alone. -/
theorem riskOn_above {startingCapital pnlPct : ℚ} {missingIsNone : Bool} {s u : StateDict}
    {env : Env} (h : circuitBreakerPct < pnlPct)
    (hu : (riskOn startingCapital missingIsNone s pnlPct).eval env = .ok u) :
    u.circuitBreakerActive = none := by
  have hkeep : ∀ positions, (requestHitl startingCapital positions).eval env = .ok u →
      u.circuitBreakerActive = none := by
    intro positions heval
    rcases requestHitl_eval startingCapital positions env with ⟨pending, hpending⟩
    rw [hpending] at heval
    cases heval
    rfl
  have hnot : ¬ (pnlPct ≤ circuitBreakerPct ∧ ¬ s.circuitBreakerActive.getD false) :=
    fun hboth => absurd hboth.1 (not_le.mpr h)
  rw [riskOn, if_neg hnot] at hu
  split at hu
  · cases hu
    rfl
  · cases hpos : s.openPositions with
    | some positions =>
        rw [hpos] at hu
        exact hkeep positions hu
    | none =>
        rw [hpos] at hu
        cases missingIsNone with
        | true => cases hu
        | false => exact hkeep Dict.empty hu

theorem nodeActivates_iff : c.NodeActivates ↔ c.snapshot.pnlTodayPct ≤ -2 / 100 := by
  have hpct : circuitBreakerPct = -2 / 100 := by norm_num [circuitBreakerPct]
  rw [NodeActivates, Activates, ← hpct]
  constructor
  · rintro ⟨u, hu, hactive⟩
    by_contra habove
    have hnone := riskOn_above (not_le.mp habove) hu
    rw [hactive] at hnone
    cases hnone
  · intro hbelow
    refine ⟨breakCircuit c.snapshot.pnlTodayPct (c.env (.utcnow .riskNode)), ?_, rfl⟩
    simp only [riskNode, riskOn]
    rw [if_pos ⟨hbelow, Bool.false_ne_true⟩]
    rfl

theorem checkFails_iff :
    c.CheckFails ↔ c.capital ≤ 0 ∨ 0 < c.capital ∧ c.pnl / c.capital ≤ -2 / 100 := by
  rw [CheckFails, checkDailyLossLimit]
  by_cases hcapital : c.capital ≤ 0
  · simp [hcapital]
  · have hpos : 0 < c.capital := not_le.mp hcapital
    have hlimit : c.pnl / c.capital * 100 ≤ dailyLossLimitPct ↔ c.pnl / c.capital ≤ -2 / 100 := by
      rw [dailyLossLimitPct]
      constructor <;> intro h <;> linarith
    rw [if_neg hcapital]
    by_cases hbreach : c.pnl / c.capital ≤ -2 / 100
    · simp [hlimit, hbreach, hcapital, hpos]
    · simp [hlimit, hbreach, hcapital]

/-- The four are activated by the same P&L and capital. -/
def Agree : Prop :=
  (c.CheckFails ↔ c.TrackerReports) ∧ (c.TrackerReports ↔ c.ScriptTrips) ∧
    (c.ScriptTrips ↔ c.NodeActivates)

/-- With a positive capital all four agree, on exactly the losses of 2% and more. With any other
capital the check fails, and the other three see a P&L of zero. -/
theorem thresholds_agree (c : Reading) :
    (0 < c.capital → c.Agree ∧ (c.CheckFails ↔ c.pnl / c.capital ≤ -2 / 100)) ∧
    (c.capital ≤ 0 →
      c.CheckFails ∧ ¬ c.TrackerReports ∧ ¬ c.ScriptTrips ∧ ¬ c.NodeActivates) := by
  rw [Agree, c.trackerReports_iff, c.scriptTrips_iff, c.nodeActivates_iff, c.checkFails_iff,
    c.snapshot_pnlTodayPct]
  constructor
  · intro hpos
    have hnot : ¬ c.capital ≤ 0 := not_le.mpr hpos
    simp [hpos, hnot]
  · intro hcapital
    have hnot : ¬ 0 < c.capital := not_lt.mpr hcapital
    have hzero : ¬ (0 : ℚ) ≤ -2 / 100 := by norm_num
    rw [if_neg hnot]
    exact ⟨.inl hcapital, hzero, hzero, hzero⟩

end Reading

/-- Without capital and without a P&L the check fails and the tracker reports nothing. -/
theorem thresholds_differ_without_capital : ¬ ∀ c : Reading, c.Agree := by
  intro h
  let c : Reading :=
    { pnl := 0, capital := 0, today := "20260702", db := .empty, keys := .empty, nodeCapital := 0
      missingIsNone := false, state := {}, env := fun
        | .utcnow _ => "2026-07-02T10:00:00"
        | .xrevrange _ _ => .ok []
        | .get _ => .ok none
        | .blocked _ _ => .ok false }
  have hfails : c.CheckFails := c.checkFails_iff.mpr (.inl (le_refl 0))
  have hreports : ¬ c.TrackerReports := by
    rw [c.trackerReports_iff, c.snapshot_pnlTodayPct]
    norm_num [c]
  exact hreports ((h c).1.mp hfails)

end Intraday.Monitor
