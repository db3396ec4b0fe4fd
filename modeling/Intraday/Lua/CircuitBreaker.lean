import Mathlib.Algebra.Order.Field.Rat
import Intraday.Core.Constants
import Intraday.Lib.Dict
import Intraday.Lib.Redis

/-!
# Intraday.Lua.CircuitBreaker — `circuit_breaker.lua`

The script compares the P&L of its caller with a limit and sets the halt flag. Numbers are
exact, as in `Lib.Redis`; an argument that is no number stops the script before it writes.
-/

namespace Intraday.Lua.CircuitBreaker

open Intraday.Core Intraday.Lib Intraday.Lib.Redis

/-- The string keys of the server. -/
abbrev Keys := Dict String String

/-- `redis.call('SET', key, value)`. -/
def setKey (key value : String) : Script Keys Unit := modify fun db => db.set key value

/-- `circuit_breaker.lua`: 1 if halted. -/
def circuitBreaker (currentPnlPct limit : Text) : Script Keys ℕ := do
  if ← luaLe currentPnlPct.tonumber limit.tonumber then
    setKey killSwitchHaltedKey "true"
    setKey "system:status:reason" "DAILY_LOSS_LIMIT_VIOLATION"
    return 1
  return 0

/-- The script answers 1 and has set the halt flag. -/
def Trips (currentPnlPct limit : Text) (db : Keys) : Prop :=
  ∃ db', (circuitBreaker currentPnlPct limit).run db = .ok 1 db' ∧
    db'.get? killSwitchHaltedKey = some "true"

/-- The keys after the script has tripped. -/
def tripped (db : Keys) : Keys :=
  (db.set killSwitchHaltedKey "true").set "system:status:reason" "DAILY_LOSS_LIMIT_VIOLATION"

theorem circuitBreaker_num (pct limit : ℚ) (db : Keys) :
    (circuitBreaker (.num pct) (.num limit)).run db =
      if pct ≤ limit then .ok 1 (tripped db) else .ok 0 db := by
  have hle : (luaLe (some pct) (some limit) : Script Keys Bool).run db =
      .ok (decide (pct ≤ limit)) db := rfl
  rw [circuitBreaker, Text.tonumber, Text.tonumber, run_bind_ok hle]
  by_cases hpct : pct ≤ limit
  · rw [if_pos hpct, decide_eq_true hpct]
    rfl
  · rw [if_neg hpct, decide_eq_false hpct]
    rfl

/-- On two numbers the script trips exactly at or below the limit. -/
theorem trips_num_iff (pct limit : ℚ) (db : Keys) :
    Trips (.num pct) (.num limit) db ↔ pct ≤ limit := by
  rw [Trips, circuitBreaker_num]
  constructor
  · rintro ⟨db', hrun, _⟩
    by_contra hpct
    rw [if_neg hpct] at hrun
    cases hrun
  · intro hpct
    refine ⟨tripped db, if_pos hpct, ?_⟩
    have hne : killSwitchHaltedKey ≠ "system:status:reason" := by decide
    rw [tripped, Dict.get?_set_of_ne _ _ hne, Dict.get?_set_self]

end Intraday.Lua.CircuitBreaker
