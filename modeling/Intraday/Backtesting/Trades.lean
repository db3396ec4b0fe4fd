import Mathlib.Data.List.Forall2
import Intraday.Backtesting.Models
import Intraday.Lib.Decimal
import Intraday.Patterns.Models

/-!
# Intraday.Backtesting.Trades — `_extract_trades` of `shared/backtesting/engine.py`

The trades of a portfolio come as a table, and each field of a `Trade` is read from it by the name
of a column, with a default. The table has no columns of four of these names: neither the prices
nor the bars of a trade are read (`extractTrades_eq`).
-/

namespace Intraday.Backtesting

open Intraday.Lib Intraday.Lib.Decimal Intraday.Lib.Raise
open Intraday.Patterns (OHLCVCandle)

/-! ## The table -/

/-- A row of `trades.records_readable`. -/
structure TradeRecord where
  size : ℚ
  entryTimestamp : PyDateTime
  avgEntryPrice : ℚ
  exitTimestamp : PyDateTime
  avgExitPrice : ℚ
  pnl : ℚ
  ret : ℚ
deriving DecidableEq

/-- What a row holds in a column. -/
inductive Cell where
  | number (x : ℚ)
  | time (t : PyDateTime)
deriving DecidableEq

/-- A row, by the names of its columns. -/
def TradeRecord.columns (r : TradeRecord) : List (String × Cell) :=
  [("Size", .number r.size), ("Entry Timestamp", .time r.entryTimestamp),
    ("Avg Entry Price", .number r.avgEntryPrice), ("Exit Timestamp", .time r.exitTimestamp),
    ("Avg Exit Price", .number r.avgExitPrice), ("PnL", .number r.pnl), ("Return", .number r.ret)]

/-- `row.get(column, default)`, of a column of numbers. -/
def TradeRecord.get (r : TradeRecord) (column : String) (default : ℚ) : ℚ :=
  match r.columns.lookup column with
  | some (.number x) => x
  | _ => default

/-! ## The trades -/

/-- The loop body of `_extract_trades`; the candles are some, the last one stands in for the
missing ones. -/
def extractTrade (config : BacktestConfig) (candles : List OHLCVCandle) (hne : candles ≠ [])
    (entrySlippage exitSlippage : List ℚ) (rowIdx : ℕ) (row : TradeRecord) : Trade :=
  -- bars are numbered from zero
  let entryIdx := (truncate (row.get "Open Index" 0)).toNat
  let exitIdx := (truncate (row.get "Close Index" 0)).toNat
  let entryPrice := row.get "Open Price" 0
  let exitPrice := row.get "Close Price" 0
  let pnlPct := row.get "Return" 0 * 100
  let quantity := row.get "Size" 0
  let pnl := (exitPrice - entryPrice) * quantity
  { tradeId := toString rowIdx
    symbol := config.symbol
    exchange := config.exchange
    strategyId := config.strategyId
    direction := directionLong
    entryTime := (candles.getD entryIdx (candles.getLast hne)).time
    exitTime := (candles.getD exitIdx (candles.getLast hne)).time
    entryPrice := entryPrice
    exitPrice := exitPrice
    entrySlippageBps := entrySlippage.getD entryIdx 0
    exitSlippageBps := exitSlippage.getD exitIdx 0
    quantity := quantity
    pnl := roundTo 4 pnl
    pnlPct := roundTo 4 pnlPct }

/-- `_extract_trades`. -/
def extractTrades (records : List TradeRecord) (config : BacktestConfig)
    (candles : List OHLCVCandle) (hne : candles ≠ []) (entrySlippage exitSlippage : List ℚ) :
    List Trade :=
  records.mapIdx (extractTrade config candles hne entrySlippage exitSlippage)

/-! ## What the trades carry -/

/-- The trade is that of the record: its prices and times, the slippage of the bars at these
times, and the profit. -/
structure Carries (candles : List OHLCVCandle) (entrySlippage exitSlippage : List ℚ)
    (r : TradeRecord) (t : Trade) : Prop where
  entryPrice : t.entryPrice = r.avgEntryPrice
  exitPrice : t.exitPrice = r.avgExitPrice
  entryTime : t.entryTime = r.entryTimestamp
  exitTime : t.exitTime = r.exitTimestamp
  entrySlippage : ∃ i c, candles[i]? = some c ∧ c.time = r.entryTimestamp ∧
    t.entrySlippageBps = entrySlippage.getD i 0
  exitSlippage : ∃ i c, candles[i]? = some c ∧ c.time = r.exitTimestamp ∧
    t.exitSlippageBps = exitSlippage.getD i 0
  pnl : t.pnl = (r.avgExitPrice - r.avgEntryPrice) * r.size

/-- The record is one of the first bar, at prices of zero. -/
structure Blank (first : OHLCVCandle) (r : TradeRecord) : Prop where
  entryPrice : r.avgEntryPrice = 0
  exitPrice : r.avgExitPrice = 0
  entryTime : r.entryTimestamp = first.time
  exitTime : r.exitTimestamp = first.time

section Candles

variable {first : OHLCVCandle} {rest : List OHLCVCandle} {config : BacktestConfig}
  {entrySlippage exitSlippage : List ℚ}

/-- The price and the bar of a trade are the defaults. -/
theorem extractTrade_eq (rowIdx : ℕ) (r : TradeRecord) :
    extractTrade config (first :: rest) (List.cons_ne_nil _ _) entrySlippage exitSlippage rowIdx r =
      { tradeId := toString rowIdx
        symbol := config.symbol
        exchange := config.exchange
        strategyId := config.strategyId
        direction := directionLong
        entryTime := first.time
        exitTime := first.time
        entryPrice := 0
        exitPrice := 0
        entrySlippageBps := entrySlippage.getD 0 0
        exitSlippageBps := exitSlippage.getD 0 0
        quantity := r.size
        pnl := 0
        pnlPct := roundTo 4 (r.ret * 100) } := by
  have hmissing : ∀ column ∈ ["Open Index", "Close Index", "Open Price", "Close Price"],
      r.get column 0 = 0 := by
    intro column hcolumn
    simp only [List.mem_cons, List.not_mem_nil, or_false] at hcolumn
    rcases hcolumn with rfl | rfl | rfl | rfl <;> rfl
  -- two of the columns exist
  have hreturn : r.get "Return" 0 = r.ret := rfl
  have hsize : r.get "Size" 0 = r.size := rfl
  have hbar : (truncate 0).toNat = 0 := by decide +kernel
  have hzero : roundTo 4 0 = 0 := by decide +kernel
  unfold extractTrade
  simp only [hmissing "Open Index" (by simp), hmissing "Close Index" (by simp),
    hmissing "Open Price" (by simp), hmissing "Close Price" (by simp), hreturn, hsize, hbar,
    List.getD_cons_zero, sub_self, zero_mul, hzero]

/-- A trade carries its record exactly if the record is blank. -/
theorem carries_extractTrade_iff (rowIdx : ℕ) (r : TradeRecord) :
    Carries (first :: rest) entrySlippage exitSlippage r
        (extractTrade config (first :: rest) (List.cons_ne_nil _ _) entrySlippage exitSlippage
          rowIdx r) ↔ Blank first r := by
  rw [extractTrade_eq]
  constructor
  · intro h
    exact
      { entryPrice := h.entryPrice.symm
        exitPrice := h.exitPrice.symm
        entryTime := h.entryTime.symm
        exitTime := h.exitTime.symm }
  · intro h
    exact
      { entryPrice := h.entryPrice.symm
        exitPrice := h.exitPrice.symm
        entryTime := h.entryTime.symm
        exitTime := h.exitTime.symm
        entrySlippage := ⟨0, first, rfl, h.entryTime.symm, rfl⟩
        exitSlippage := ⟨0, first, rfl, h.exitTime.symm, rfl⟩
        pnl := by rw [h.entryPrice, h.exitPrice, sub_self, zero_mul] }

end Candles

/-- Elements and their images by index are related if each is, whatever its index. -/
theorem forall₂_mapIdx_iff {α β : Type} {related : α → β → Prop} {holds : α → Prop} {f : ℕ → α → β}
    (h : ∀ i a, related a (f i a) ↔ holds a) (as : List α) :
    List.Forall₂ related as (as.mapIdx f) ↔ ∀ a ∈ as, holds a := by
  induction as generalizing f with
  | nil => simp
  | cons a as ih =>
      rw [List.mapIdx_cons, List.forall₂_cons, h, ih fun i b => h (i + 1) b, List.forall_mem_cons]

/-- There is one trade for each record, and they carry the records exactly if all are blank. -/
theorem extractTrades_carry_iff (records : List TradeRecord) (config : BacktestConfig)
    (first : OHLCVCandle) (rest : List OHLCVCandle) (entrySlippage exitSlippage : List ℚ) :
    List.Forall₂ (Carries (first :: rest) entrySlippage exitSlippage) records
        (extractTrades records config (first :: rest) (List.cons_ne_nil _ _) entrySlippage
          exitSlippage) ↔
      ∀ r ∈ records, Blank first r :=
  forall₂_mapIdx_iff carries_extractTrade_iff records

/-! ## A trade of one share -/

/-- A bar of five minutes, counted from a quarter past nine. -/
def shareBar (k : Fin 100) (close : ℚ) : OHLCVCandle where
  time :=
    { wall := 33300000000 + 300000000 * (k : ℕ)
      utcoffset := some 0
      range := by
        have hk := k.isLt
        unfold maxWall
        omega }
  symbol := "RELIANCE"
  exchange := "NSE"
  openPrice := close
  high := close
  low := close
  close := close
  volume := 10000

/-- Bought at the second bar and sold at the third. -/
def shareRecord : TradeRecord where
  size := 1
  entryTimestamp := (shareBar 1 101).time
  avgEntryPrice := 10105 / 100
  exitTimestamp := (shareBar 2 103).time
  avgExitPrice := 10295 / 100
  pnl := 190 / 100
  ret := 190 / 10105

/-- The trade of the record is one at the price of zero. -/
theorem extractTrades_loses_price :
    ¬ List.Forall₂
        (Carries [shareBar 0 100, shareBar 1 101, shareBar 2 103]
          [0, 5, 0] [0, 0, 5])
        [shareRecord]
        (extractTrades [shareRecord]
          { strategyId := "EMA9X21", symbol := "RELIANCE", exchange := "NSE"
            startDate := (Date.ofFields 2024 1 2).get rfl
            endDate := (Date.ofFields 2024 12 31).get rfl }
          [shareBar 0 100, shareBar 1 101, shareBar 2 103]
          (List.cons_ne_nil _ _) [0, 5, 0] [0, 0, 5]) := by
  intro h
  cases h with
  | cons hcarries _ =>
      have hprice := hcarries.entryPrice
      exact absurd hprice (by decide +kernel)

end Intraday.Backtesting
