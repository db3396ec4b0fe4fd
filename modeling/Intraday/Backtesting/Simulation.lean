import Intraday.Backtesting.WalkForward

/-!
# Intraday.Backtesting.Simulation — a portfolio that can be computed with

`vectorbt` goes through the bars of its arguments: at an entry without a position it spends a share
of the cash, at an exit it sells the position, and a position that is left counts as a trade that
ends with the last bar. Its value is positive at every bar (`value_simulate_pos`).

The draws are the first ones of `numpy`'s generator with the seed 42.
-/

namespace Intraday.Backtesting

open Intraday.Core Intraday.Lib Intraday.Lib.Decimal Intraday.Lib.Raise
open Intraday.Patterns (OHLCVCandle)

/-! ## The portfolio -/

/-- A bar with the signals and the price of a fill. -/
structure Bar where
  time : PyDateTime
  close : ℚ
  entry : Bool
  exit : Bool
  price : ℚ

/-- The bars of the arguments. -/
def Signals.bars (s : Signals) : List Bar :=
  (s.timestamps.zip (s.close.zip (s.entries.zip (s.exits.zip s.price)))).map fun bar =>
    { time := bar.1
      close := bar.2.1
      entry := bar.2.2.1
      exit := bar.2.2.2.1
      price := bar.2.2.2.2 }

/-- Cash and shares, the time and the price of the entry, and what there is so far. -/
structure Account where
  cash : ℚ
  shares : ℚ
  entryTime : PyDateTime
  entryPrice : ℚ
  value : List ℚ
  records : List TradeRecord

/-- The trade of a position that ends at a bar. -/
def Account.trade (a : Account) (time : PyDateTime) (price : ℚ) : TradeRecord where
  size := a.shares
  entryTimestamp := a.entryTime
  avgEntryPrice := a.entryPrice
  exitTimestamp := time
  avgExitPrice := price
  pnl := a.shares * (price - a.entryPrice)
  ret := (price - a.entryPrice) / a.entryPrice

/-- The order of a bar. -/
def Account.order (size : ℚ) (a : Account) (bar : Bar) : Account :=
  if bar.entry = true ∧ bar.exit = false ∧ a.shares = 0 then
    { a with
      cash := a.cash - size * a.cash
      shares := size * a.cash / bar.price
      entryTime := bar.time
      entryPrice := bar.price }
  else if bar.exit = true ∧ bar.entry = false ∧ 0 < a.shares then
    { a with
      cash := a.cash + a.shares * bar.price
      shares := 0
      records := a.records ++ [a.trade bar.time bar.price] }
  else a

/-- A bar: its order, and the value at its close. -/
def Account.step (size : ℚ) (a : Account) (bar : Bar) : Account :=
  let after := a.order size bar
  { after with value := after.value ++ [after.cash + after.shares * bar.close] }

/-- The account before the first bar. -/
def Account.start (initCash : ℚ) (time : PyDateTime) : Account where
  cash := initCash
  shares := 0
  entryTime := time
  entryPrice := 0
  value := []
  records := []

/-- The portfolio of the arguments. -/
def simulate (s : Signals) : Except Fault Portfolio :=
  match s.bars.head?, s.bars.getLast? with
  | some first, some last =>
      let a := s.bars.foldl (Account.step s.size) (Account.start s.initCash first.time)
      .ok
        { value := a.value
          records :=
            if 0 < a.shares then a.records ++ [a.trade last.time last.close] else a.records }
  | _, _ => .error .valueError

/-! ## Its value -/

/-- There is cash or a position, and no debt. -/
structure Account.Solvent (a : Account) : Prop where
  cash : 0 ≤ a.cash
  shares : 0 ≤ a.shares
  funded : 0 < a.cash ∨ 0 < a.shares

theorem Account.Solvent.order {size : ℚ} {a : Account} {bar : Bar} (h : a.Solvent)
    (hsize : 0 < size ∧ size ≤ 1) (hprice : 0 < bar.price) : (a.order size bar).Solvent := by
  unfold Account.order
  split
  · rename_i hentry
    have hcash : 0 < a.cash := by
      rcases h.funded with hcash | hshares
      · exact hcash
      · exact absurd hentry.2.2 hshares.ne'
    -- a part of the cash is spent, and it buys something
    have hspent : size * a.cash ≤ a.cash := mul_le_of_le_one_left hcash.le hsize.2
    have hbought : 0 < size * a.cash / bar.price := div_pos (mul_pos hsize.1 hcash) hprice
    exact ⟨sub_nonneg.mpr hspent, hbought.le, Or.inr hbought⟩
  · split
    · rename_i hexit
      have hproceeds : 0 < a.shares * bar.price := mul_pos hexit.2.2 hprice
      have hcash : 0 < a.cash + a.shares * bar.price := add_pos_of_nonneg_of_pos h.cash hproceeds
      exact ⟨hcash.le, le_rfl, Or.inl hcash⟩
    · exact h

/-- What a solvent account is worth. -/
theorem Account.Solvent.worth_pos {a : Account} (h : a.Solvent) {close : ℚ} (hclose : 0 < close) :
    0 < a.cash + a.shares * close := by
  have hposition : 0 ≤ a.shares * close := mul_nonneg h.shares hclose.le
  rcases h.funded with hcash | hshares
  · exact add_pos_of_pos_of_nonneg hcash hposition
  · exact add_pos_of_nonneg_of_pos h.cash (mul_pos hshares hclose)

/-- Bars with positive prices keep the account solvent, and its values positive. -/
theorem solvent_foldl {size : ℚ} (hsize : 0 < size ∧ size ≤ 1) {bars : List Bar}
    (hbars : ∀ bar ∈ bars, 0 < bar.close ∧ 0 < bar.price) {a : Account} (h : a.Solvent)
    (hvalue : ∀ v ∈ a.value, 0 < v) :
    (bars.foldl (Account.step size) a).Solvent ∧
      ∀ v ∈ (bars.foldl (Account.step size) a).value, 0 < v := by
  induction bars generalizing a with
  | nil => exact ⟨h, hvalue⟩
  | cons bar bars ih =>
      have hbar := hbars bar List.mem_cons_self
      have hafter := h.order hsize hbar.2
      -- only the step records a value, after its order
      have hsame : (a.order size bar).value = a.value := by
        unfold Account.order
        split
        · rfl
        · split <;> rfl
      rw [List.foldl_cons]
      apply ih fun b hb => hbars b (List.mem_cons_of_mem _ hb)
      · exact ⟨hafter.cash, hafter.shares, hafter.funded⟩
      · intro v hv
        have hv' : v ∈ (a.order size bar).value ++
            [(a.order size bar).cash + (a.order size bar).shares * bar.close] := hv
        rw [hsame] at hv'
        rcases List.mem_append.mp hv' with hold | hnew
        · exact hvalue v hold
        · rw [List.mem_singleton.mp hnew]
          exact hafter.worth_pos hbar.1

/-- A portfolio of positive prices is worth something at every bar. -/
theorem value_simulate_pos {s : Signals} {pf : Portfolio} (h : simulate s = .ok pf)
    (hcash : 0 < s.initCash) (hsize : 0 < s.size ∧ s.size ≤ 1)
    (hbars : ∀ bar ∈ s.bars, 0 < bar.close ∧ 0 < bar.price) : ∀ v ∈ pf.value, 0 < v := by
  unfold simulate at h
  split at h
  · rename_i first last hfirst hlast
    rw [← Except.ok.inj h]
    have hstart : (Account.start s.initCash first.time).Solvent := ⟨hcash.le, le_rfl, Or.inl hcash⟩
    exact (solvent_foldl hsize hbars hstart fun v hv => absurd hv List.not_mem_nil).2
  · cases h

/-! ## The draws -/

/-- The first draws of the standard normal distribution with the seed 42. -/
def standardNormals : List ℚ :=
  [30471708, -103998411, 75045120, 94056472, -195103519, -130217951, 12784040, -31624259,
    -1680116, -85304393].map (· / 10 ^ 8)

/-- The exponential, by twelve terms of its series, to six decimals. -/
def expSeries (x : ℚ) : ℚ :=
  roundTo 6 (((List.range 12).map fun k => x ^ k / k.factorial).sum)

/-- The libraries, with a generator that is the number of its draws. -/
def simulated : Libraries ℕ ℚ where
  defaultRng _ := 0
  lognormal mu sigma n := (expSeries (mu + sigma * standardNormals.getD n 0), n + 1)
  fromSignals := simulate
  numerics := decimalNumerics

/-! ## Sessions -/

/-- The candle of a session that begins at ten, with a candle for every five minutes. -/
def sessionCandle (day bar : ℕ) (openPrice close : ℚ) : OHLCVCandle where
  time :=
    { wall := (738000 + (day % 1000 : ℕ) : ℤ) * dayMicros +
        (600 + 5 * (bar % 60 : ℕ) : ℤ) * 60000000
      utcoffset := some 19800000000
      range := by
        have hday : day % 1000 < 1000 := Nat.mod_lt day (by decide)
        have hbar : bar % 60 < 60 := Nat.mod_lt bar (by decide)
        unfold Raise.maxWall dayMicros
        constructor <;> omega }
  symbol := "RELIANCE"
  exchange := "NSE"
  openPrice := openPrice
  high := max openPrice close
  low := min openPrice close
  close := close
  volume := 100

/-- Thirty candles at a hundred; in a session with a rise, one that goes up to a hundred and, later,
one that comes down to a hundred and the rise. -/
def sessionCandles (day : ℕ) (rise : Option ℚ) : List OHLCVCandle :=
  (List.range 30).map fun bar =>
    match rise with
    | none => sessionCandle day bar 100 100
    | some r =>
        if bar = 5 then sessionCandle day bar (999 / 10) 100
        else if bar = 25 then sessionCandle day bar (100 + r + 1 / 10) (100 + r)
        else sessionCandle day bar 100 100

/-- To enter at a candle that rises by more than the parameter, and to exit at one that falls. -/
def momentumSignals : SignalFn := fun candles params =>
  (candles.map fun c => decide (c.openPrice + (params.get? "move").getD 0 < c.close),
    candles.map fun c => decide (c.close < c.openPrice))

/-- The configuration of the momentum strategy. -/
def momentumConfig : BacktestConfig where
  strategyId := "momentum"
  symbol := "RELIANCE"
  exchange := "NSE"
  startDate := firstDay.date
  endDate := firstDay.date
  riskFreeRateAnnual := 0

end Intraday.Backtesting
