import Mathlib.Order.Defs.LinearOrder
import Intraday.Ingestion.Validator

/-!
# Intraday.Ingestion.Aggregator — `shared/ingestion/aggregator.py`

The aggregator has one open bar for a symbol and closes it whenever a tick falls into another
bar, be it later or earlier. The candles that it emits for a symbol are therefore those of all
runs of ticks in one bar but the last, and they are in order exactly if no tick that goes back
to an earlier bar is followed by one that leaves it again (`candles_ordered_iff`).
-/

namespace Intraday.Ingestion

open Intraday.Lib

/-! ## The aggregator -/

/-- `_BarState`. -/
structure BarState where
  intervalStartMs : ℤ
  openPrice : PyFloat
  high : PyFloat
  low : PyFloat
  close : PyFloat
  volume : ℤ
  tickCount : ℕ
deriving DecidableEq

/-- `_bar_start_ms`. -/
def barStartMs (timestampMs intervalSeconds : ℤ) : ℤ :=
  let intervalMs := intervalSeconds * 1000
  timestampMs.fdiv intervalMs * intervalMs

/-- `CandleAggregator`. Its interval is positive. -/
structure CandleAggregator where
  interval : ℤ
  positive : 0 < interval
  bars : Dict String BarState := .empty

/-- The bar of a first tick. -/
def BarState.ofTick (start : ℤ) (tick : RawTick) : BarState :=
  { intervalStartMs := start
    openPrice := tick.ltp
    high := tick.ltp
    low := tick.ltp
    close := tick.ltp
    volume := tick.volume
    tickCount := 1 }

/-- The bar with another tick of it. -/
def BarState.add (bar : BarState) (tick : RawTick) : BarState :=
  { bar with
    high := bar.high.maximum tick.ltp
    low := bar.low.minimum tick.ltp
    close := tick.ltp
    volume := bar.volume + tick.volume
    tickCount := bar.tickCount + 1 }

/-- The candle of a bar. -/
def BarState.candle (bar : BarState) (symbol exchange : String) (interval : ℤ) : OHLCVCandle :=
  { symbol := symbol
    exchange := exchange
    intervalSeconds := interval
    openPrice := bar.openPrice
    high := bar.high
    low := bar.low
    close := bar.close
    volume := bar.volume
    timestampMs := bar.intervalStartMs
    tickCount := bar.tickCount }

/-- The bar of a candle. -/
def OHLCVCandle.bar (c : OHLCVCandle) : BarState :=
  { intervalStartMs := c.timestampMs
    openPrice := c.openPrice
    high := c.high
    low := c.low
    close := c.close
    volume := c.volume
    tickCount := c.tickCount }

namespace CandleAggregator

/-- The start of the bar that a tick falls into. -/
def barStart (a : CandleAggregator) (tick : RawTick) : ℤ := barStartMs tick.timestampMs a.interval

/-- `ingest`: the aggregator after it, and the candle that was completed. -/
def ingest (a : CandleAggregator) (tick : RawTick) : CandleAggregator × Option OHLCVCandle :=
  match a.bars.get? tick.key with
  | none =>
      ({ a with bars := a.bars.set tick.key (.ofTick (a.barStart tick) tick) }, none)
  | some existing =>
      if a.barStart tick = existing.intervalStartMs then
        ({ a with bars := a.bars.set tick.key (existing.add tick) }, none)
      else
        ({ a with bars := a.bars.set tick.key (.ofTick (a.barStart tick) tick) },
          some (existing.candle tick.symbol tick.exchange a.interval))

/-- The candles that are emitted for a list of ticks. -/
def emitted (a : CandleAggregator) : List RawTick → List OHLCVCandle
  | [] => []
  | tick :: rest => (a.ingest tick).2.toList ++ (a.ingest tick).1.emitted rest

@[simp] theorem ingest_interval (a : CandleAggregator) (tick : RawTick) :
    (a.ingest tick).1.interval = a.interval := by
  rw [ingest]
  split
  · rfl
  · split
    · rfl
    · rfl

end CandleAggregator

/-! ## The runs of a list

The bars that a sequence of bar starts closes, over any linear order. -/

section Closings

variable {α : Type} [LinearOrder α]

/-- What is closed by the elements of a list, given what is open before it: an element that
differs from the open one closes it and is open from then on. -/
def closings : Option α → List α → List α
  | _, [] => []
  | none, b :: rest => closings (some b) rest
  | some a, b :: rest => if b = a then closings (some a) rest else a :: closings (some b) rest

/-- After a step back, the list stays where it is. -/
def Settles : List α → Prop
  | [] => True
  | [_] => True
  | a :: b :: rest => (b < a → ∀ c ∈ rest, c = b) ∧ Settles (b :: rest)

/-- Nothing is closed exactly if the list stays with the open element. -/
theorem closings_eq_nil_iff {a : α} {rest : List α} :
    closings (some a) rest = [] ↔ ∀ c ∈ rest, c = a := by
  induction rest with
  | nil => simp [closings]
  | cons b rest ih =>
      by_cases hb : b = a
      · subst hb
        simp [closings, ih]
      · simp [closings, hb]

/-- The first element that is closed is the one that was open. -/
theorem closings_head {a c : α} {rest more : List α} (h : closings (some a) rest = c :: more) :
    c = a := by
  induction rest with
  | nil => cases h
  | cons b rest ih =>
      by_cases hb : b = a
      · subst hb
        rw [closings, if_pos rfl] at h
        exact ih h
      · rw [closings, if_neg hb] at h
        exact (List.cons.inj h).1.symm

/-- The closed elements are in strict order exactly if the list settles. -/
theorem pairwise_closings_iff (a : α) (rest : List α) :
    (closings (some a) rest).Pairwise (· < ·) ↔ Settles (a :: rest) := by
  induction rest generalizing a with
  | nil => simp [closings, Settles]
  | cons b rest ih =>
      rw [closings, Settles]
      by_cases hb : b = a
      · subst hb
        rw [if_pos rfl, ih]
        simp
      · rw [if_neg hb, List.pairwise_cons, ih]
        refine and_congr_left fun hsettles => ?_
        rw [← ih] at hsettles
        constructor
        · -- a step back: nothing may be closed after it
          intro hall hback
          rw [← closings_eq_nil_iff]
          cases hclosed : closings (some b) rest with
          | nil => rfl
          | cons c more =>
              rw [hclosed] at hall
              have hlt : a < c := hall c List.mem_cons_self
              rw [closings_head hclosed] at hlt
              exact absurd hback (not_lt_of_gt hlt)
        · intro hsettled c hc
          rcases lt_or_gt_of_ne hb with hback | hforward
          · rw [closings_eq_nil_iff.mpr (hsettled hback)] at hc
            cases hc
          · -- the closed elements begin with `b` and increase
            cases hclosed : closings (some b) rest with
            | nil =>
                rw [hclosed] at hc
                cases hc
            | cons c' more =>
                rw [hclosed] at hc hsettles
                obtain rfl : c' = b := closings_head hclosed
                rcases List.mem_cons.mp hc with rfl | hc
                · exact hforward
                · exact lt_trans hforward ((List.pairwise_cons.mp hsettles).1 c hc)

end Closings

/-! ## The candles of a key -/

/-- The key of a candle. -/
def OHLCVCandle.key (c : OHLCVCandle) : String := joinKey c.exchange c.symbol

namespace CandleAggregator

variable {a : CandleAggregator} {tick : RawTick} {ticks : List RawTick} {key : String}

theorem barStart_ingest (a : CandleAggregator) (tick : RawTick) :
    (a.ingest tick).1.barStart = a.barStart := by
  funext t
  rw [barStart, barStart, ingest_interval]

/-- A tick touches the bar of its key only. -/
theorem ingest_bars_of_ne (h : key ≠ tick.key) :
    (a.ingest tick).1.bars.get? key = a.bars.get? key := by
  rw [ingest]
  split
  · exact Dict.get?_set_of_ne _ _ h
  · split
    · exact Dict.get?_set_of_ne _ _ h
    · exact Dict.get?_set_of_ne _ _ h

/-- A candle is labelled by the tick that completes it. -/
theorem ingest_candle {c : OHLCVCandle} (h : (a.ingest tick).2 = some c) :
    c.symbol = tick.symbol ∧ c.exchange = tick.exchange := by
  rw [ingest] at h
  split at h
  · cases h
  · split at h
    · cases h
    · cases h
      exact ⟨rfl, rfl⟩

theorem ingest_candle_key {c : OHLCVCandle} (h : (a.ingest tick).2 = some c) :
    c.key = tick.key := by
  rcases ingest_candle h with ⟨hsymbol, hexchange⟩
  rw [OHLCVCandle.key, RawTick.key, hsymbol, hexchange]

/-- The bar that is open for a key after one of its ticks. -/
theorem ingest_start (a : CandleAggregator) (tick : RawTick) :
    ((a.ingest tick).1.bars.get? tick.key).map (·.intervalStartMs) = some (a.barStart tick) := by
  rw [ingest]
  split
  · rw [Dict.get?_set_self]
    rfl
  · split
    case isTrue hsame =>
        rw [Dict.get?_set_self, hsame]
        rfl
    · rw [Dict.get?_set_self]
      rfl

/-- The candle that a tick completes is that of the open bar, if the tick is not in it. -/
theorem ingest_emits (a : CandleAggregator) (tick : RawTick) :
    (a.ingest tick).2.toList.map (·.timestampMs) =
      match (a.bars.get? tick.key).map (·.intervalStartMs) with
      | none => []
      | some start => if a.barStart tick = start then [] else [start] := by
  rw [ingest]
  cases a.bars.get? tick.key with
  | none => rfl
  | some bar =>
      by_cases hsame : a.barStart tick = bar.intervalStartMs
      · simp [hsame]
      · simp [hsame, BarState.candle]

/-- The emitted bars of a key are the runs of its ticks, closed one by the next. -/
theorem starts_emitted (a : CandleAggregator) (ticks : List RawTick) (key : String) :
    ((a.emitted ticks).filter fun c => c.key = key).map (·.timestampMs) =
      closings ((a.bars.get? key).map (·.intervalStartMs))
        ((ticks.filter fun t => t.key = key).map a.barStart) := by
  induction ticks generalizing a with
  | nil => simp [emitted, closings]
  | cons tick rest ih =>
      rw [emitted, List.filter_append, List.map_append, ih, barStart_ingest]
      by_cases hkey : tick.key = key
      · subst hkey
        have hlabel : ∀ c ∈ (a.ingest tick).2.toList, decide (c.key = tick.key) = true := by
          intro c hc
          exact decide_eq_true (ingest_candle_key (Option.mem_toList.mp hc))
        rw [List.filter_eq_self.mpr hlabel, ingest_emits, ingest_start,
          List.filter_cons_of_pos (by simp), List.map_cons]
        cases (a.bars.get? tick.key).map (·.intervalStartMs) with
        | none => rfl
        | some start =>
            rw [closings]
            by_cases hsame : a.barStart tick = start
            · simp [hsame]
            · simp [hsame]
      · have hlabel : ∀ c ∈ (a.ingest tick).2.toList, ¬ decide (c.key = key) = true := by
          intro c hc
          rw [decide_eq_true_eq, ingest_candle_key (Option.mem_toList.mp hc)]
          exact hkey
        rw [List.filter_eq_nil_iff.mpr hlabel, ingest_bars_of_ne (Ne.symm hkey),
          List.filter_cons_of_neg (by simpa using hkey)]
        rfl

/-- A candle carries the names of a tick. -/
theorem exists_tick_of_mem_emitted {c : OHLCVCandle} (h : c ∈ a.emitted ticks) :
    ∃ t ∈ ticks, c.symbol = t.symbol ∧ c.exchange = t.exchange := by
  induction ticks generalizing a with
  | nil => cases h
  | cons tick rest ih =>
      rcases List.mem_append.mp h with hfirst | hrest
      · exact ⟨tick, List.mem_cons_self, ingest_candle (Option.mem_toList.mp hfirst)⟩
      · rcases ih hrest with ⟨t, ht, hnames⟩
        exact ⟨t, List.mem_cons_of_mem _ ht, hnames⟩

end CandleAggregator

/-! ## The order of the candles -/

/-- The starts of the candles of every symbol on every exchange increase strictly. -/
def CandlesOrdered (candles : List OHLCVCandle) : Prop :=
  ∀ symbol exchange, ((candles.filter fun c => c.symbol = symbol ∧ c.exchange = exchange).map
    (·.timestampMs)).Pairwise (· < ·)

/-- Whenever a tick of a key falls into an earlier bar than the tick before it, all later ticks
of the key are in that bar. -/
def TicksSettle (interval : ℤ) (ticks : List RawTick) : Prop :=
  ∀ key, Settles ((ticks.filter fun t => t.key = key).map
    fun t => barStartMs t.timestampMs interval)

theorem pairwise_starts_iff (interval : ℤ) (positive : 0 < interval) (ticks : List RawTick)
    (key : String) :
    ((((CandleAggregator.mk interval positive .empty).emitted ticks).filter
      fun c => c.key = key).map (·.timestampMs)).Pairwise (· < ·) ↔
      Settles ((ticks.filter fun t => t.key = key).map
        fun t => barStartMs t.timestampMs interval) := by
  rw [CandleAggregator.starts_emitted]
  change (closings none ((ticks.filter fun t => t.key = key).map
    fun t => barStartMs t.timestampMs interval)).Pairwise (· < ·) ↔ _
  cases (ticks.filter fun t => t.key = key).map fun t => barStartMs t.timestampMs interval with
  | nil => simp [closings, Settles]
  | cons b rest => exact pairwise_closings_iff b rest

theorem ordered_of_settle {interval : ℤ} {positive : 0 < interval} {ticks : List RawTick}
    (h : TicksSettle interval ticks) :
    CandlesOrdered ((CandleAggregator.mk interval positive .empty).emitted ticks) := by
  intro symbol exchange
  have hkey := (pairwise_starts_iff interval positive ticks (joinKey exchange symbol)).mpr
    (h (joinKey exchange symbol))
  refine hkey.sublist (List.Sublist.map _ (List.monotone_filter_right _ ?_))
  intro c hc
  rw [decide_eq_true_eq] at hc ⊢
  rw [OHLCVCandle.key, hc.1, hc.2]

theorem settle_of_ordered {interval : ℤ} {positive : 0 < interval} {ticks : List RawTick}
    (hnames : ∀ t ∈ ticks, ':' ∉ t.exchange.toList)
    (h : CandlesOrdered ((CandleAggregator.mk interval positive .empty).emitted ticks)) :
    TicksSettle interval ticks := by
  intro key
  cases hticks : ticks.filter fun t => t.key = key with
  | nil => trivial
  | cons t rest =>
      rw [← hticks, ← pairwise_starts_iff interval positive]
      have ht : t ∈ ticks ∧ t.key = key := by
        have hmem : t ∈ ticks.filter fun t => t.key = key := hticks ▸ List.mem_cons_self
        rwa [List.mem_filter, decide_eq_true_eq] at hmem
      -- without colons, the candles of the key are those of the pair
      have hsame : ((CandleAggregator.mk interval positive .empty).emitted ticks).filter
          (fun c => c.key = key) =
          ((CandleAggregator.mk interval positive .empty).emitted ticks).filter
            fun c => c.symbol = t.symbol ∧ c.exchange = t.exchange := by
        refine List.filter_congr ?_
        intro c hc
        rcases CandleAggregator.exists_tick_of_mem_emitted hc with ⟨t', ht', -, hexchange⟩
        have hcolon : ':' ∉ c.exchange.toList := hexchange ▸ hnames t' ht'
        rw [decide_eq_decide, ← ht.2, OHLCVCandle.key, RawTick.key,
          joinKey_inj hcolon (hnames t ht.1), and_comm]
      rw [hsame]
      exact h t.symbol t.exchange

/-- Candles of accepted ticks are in order if the ticks settle; and, as long as exchange names
have no colon, only then. -/
theorem candles_ordered_iff (interval : ℤ) (positive : 0 < interval) (arrivals : List Arrival) :
    (TicksSettle interval (TickSequenceValidator.accepted {} arrivals) →
      CandlesOrdered ((CandleAggregator.mk interval positive .empty).emitted
        (TickSequenceValidator.accepted {} arrivals))) ∧
    ((∀ t ∈ TickSequenceValidator.accepted {} arrivals, ':' ∉ t.exchange.toList) →
      CandlesOrdered ((CandleAggregator.mk interval positive .empty).emitted
        (TickSequenceValidator.accepted {} arrivals)) →
      TicksSettle interval (TickSequenceValidator.accepted {} arrivals)) :=
  ⟨ordered_of_settle, settle_of_ordered⟩

/-- A tick of INFY at 1500.0, given at 2 minutes past midnight. -/
def infyTick (timestampMs : ℤ) : Arrival :=
  { nowMs := 120000
    tick :=
      { symbol := "INFY"
        exchange := "NSE"
        ltp := .finite false { digits := 15, exp := 2, normal := .inl (by decide) }
        volume := 10
        timestampMs := timestampMs } }

/-- The third tick is 100 ms late and goes back to the first minute, which is then closed a
second time, after the second minute. -/
theorem late_tick_reopens_a_closed_bar :
    ¬ CandlesOrdered ((CandleAggregator.mk 60 (by decide) .empty).emitted
      (TickSequenceValidator.accepted {}
        [infyTick 59000, infyTick 60000, infyTick 59900, infyTick 60100])) := by
  intro h
  exact absurd (h "INFY" "NSE") (by decide +kernel)

/-- Ticks that are late within their minute leave the candles in order. -/
theorem candles_ordered_of_infy :
    CandlesOrdered ((CandleAggregator.mk 60 (by decide) .empty).emitted
      (TickSequenceValidator.accepted {} [infyTick 59000, infyTick 58900, infyTick 60000])) ∧
    ((CandleAggregator.mk 60 (by decide) .empty).emitted
      (TickSequenceValidator.accepted {}
        [infyTick 59000, infyTick 58900, infyTick 60000])).map (·.timestampMs) = [0] := by
  refine ⟨(candles_ordered_iff 60 (by decide) _).1 ?_, by decide +kernel⟩
  have haccepted : TickSequenceValidator.accepted {}
      [infyTick 59000, infyTick 58900, infyTick 60000] =
      [(infyTick 59000).tick, (infyTick 58900).tick, (infyTick 60000).tick] := by decide +kernel
  rw [haccepted]
  intro key
  by_cases hkey : joinKey "NSE" "INFY" = key
  · simp only [List.filter_cons, List.filter_nil, infyTick, RawTick.key, hkey, decide_true, if_true,
      List.map_cons, List.map_nil]
    simp [Settles, barStartMs]
  · simp [infyTick, RawTick.key, hkey, Settles]

end Intraday.Ingestion
