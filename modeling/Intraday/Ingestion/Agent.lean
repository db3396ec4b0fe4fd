import Mathlib.Algebra.Order.BigOperators.Group.List
import Intraday.Ingestion.Aggregator
import Intraday.Ingestion.Buffer

/-!
# Intraday.Ingestion.Agent — `shared/ingestion/agent.py`

A tick that the validator accepts goes to two aggregators, of one-minute and of five-minute bars.
At the end of the session their open bars are merged into one dictionary by symbol, in which the
five-minute bar of a symbol takes the place of its one-minute bar. An open one-minute bar is
therefore never returned, and every session with an accepted tick has one
(`session_counts_iff`).
-/

namespace Intraday.Ingestion

open Intraday.Core Intraday.Lib

/-! ## The agent -/

/-- `flush`: the aggregator after it, and the candles of the open bars by key. -/
def CandleAggregator.flush (a : CandleAggregator) :
    CandleAggregator × Dict String OHLCVCandle :=
  ({ a with bars := .empty },
    a.bars.mapEntries fun key bar => bar.candle (splitKey key).2 (splitKey key).1 a.interval)

/-- `DataIngestionAgent`. The client for the degraded flag is given by whether its database has
the key. -/
structure DataIngestionAgent where
  validator : TickSequenceValidator := {}
  agg1m : CandleAggregator := { interval := candleInterval1m, positive := by decide }
  agg5m : CandleAggregator := { interval := candleInterval5m, positive := by decide }
  buffer : TickBuffer
  statusRedis : Option Bool
  mode : IngestionStatus := .paper
  lastTickTs : ℚ := 0
  latest1m : Dict String OHLCVCandle := .empty
  latest5m : Dict String OHLCVCandle := .empty

/-- A tick that is given to the agent, the clock as the validator and then the agent read it,
and whether the `rpush` of the buffer raises. -/
structure Delivery extends Arrival where
  now : ℚ
  rpushRaises : Bool := false

namespace DataIngestionAgent

/-- `latest[tick.symbol] = candle`, if a candle was completed. -/
def remember (latest : Dict String OHLCVCandle) (tick : RawTick) :
    Option OHLCVCandle → Dict String OHLCVCandle
  | some candle => latest.set tick.symbol candle
  | none => latest

/-- `inject_tick`: the agent after it, and the candles that were completed. -/
def injectTick (a : DataIngestionAgent) (d : Delivery) :
    DataIngestionAgent × Except TickValidationError (List OHLCVCandle) :=
  match a.validator.validate d.nowMs d.tick with
  | .error e => (a, .error e)
  | .ok validator =>
      let c1m := a.agg1m.ingest d.tick
      let c5m := a.agg5m.ingest d.tick
      ({ a with
         validator := validator
         agg1m := c1m.1
         agg5m := c5m.1
         buffer := a.buffer.push d.rpushRaises d.tick
         lastTickTs := d.now
         latest1m := remember a.latest1m d.tick c1m.2
         latest5m := remember a.latest5m d.tick c5m.2 },
        .ok (c1m.2.toList ++ c5m.2.toList))

/-- `flush_open_bars`. -/
def flushOpenBars (a : DataIngestionAgent) : DataIngestionAgent × Dict String OHLCVCandle :=
  ({ a with agg1m := a.agg1m.flush.1, agg5m := a.agg5m.flush.1 },
    a.agg1m.flush.2.update a.agg5m.flush.2)

/-- The agent after a list of ticks, and the candles that the calls returned. -/
def injectAll (a : DataIngestionAgent) : List Delivery → DataIngestionAgent × List OHLCVCandle
  | [] => (a, [])
  | d :: rest =>
      let first := a.injectTick d
      let others := first.1.injectAll rest
      (others.1, first.2.toOption.getD [] ++ others.2)

/-- The candles of a session: those that `inject_tick` returned, and those of the final flush. -/
def session (a : DataIngestionAgent) (ds : List Delivery) : List OHLCVCandle :=
  (a.injectAll ds).2 ++ (a.injectAll ds).1.flushOpenBars.2.values

end DataIngestionAgent

/-! ## What the candles count -/

/-- The bar of a symbol. -/
structure BarLabel where
  symbol : String
  exchange : String
  startMs : ℤ
deriving DecidableEq, Repr

/-- The bar of a candle. -/
def OHLCVCandle.label (c : OHLCVCandle) : BarLabel :=
  { symbol := c.symbol, exchange := c.exchange, startMs := c.timestampMs }

/-- The bar that a tick falls into. -/
def RawTick.label (t : RawTick) (interval : ℤ) : BarLabel :=
  { symbol := t.symbol, exchange := t.exchange, startMs := barStartMs t.timestampMs interval }

/-- Each tick is counted once by the candles of an interval, in its own bar: by their tick
counts, and by their volumes. -/
structure CountedOnce (interval : ℤ) (ticks : List RawTick) (candles : List OHLCVCandle) :
    Prop where
  count : ((candles.filter fun c => c.intervalSeconds = interval).flatMap
    fun c => List.replicate c.tickCount c.label).Perm (ticks.map fun t => t.label interval)
  volume : ∀ label, ((candles.filter fun c => c.intervalSeconds = interval ∧ c.label = label).map
    (·.volume)).sum = ((ticks.filter fun t => t.label interval = label).map (·.volume)).sum

/-- The ticks in open bars. -/
def CandleAggregator.openTicks (a : CandleAggregator) : ℕ :=
  (a.bars.values.map (·.tickCount)).sum

/-- The ticks in the candles of an interval. -/
def countedTicks (interval : ℤ) (candles : List OHLCVCandle) : ℕ :=
  ((candles.filter fun c => c.intervalSeconds = interval).map (·.tickCount)).sum

theorem countedTicks_append (interval : ℤ) (cs cs' : List OHLCVCandle) :
    countedTicks interval (cs ++ cs') = countedTicks interval cs + countedTicks interval cs' := by
  simp [countedTicks]

theorem countedTicks_eq_zero {interval : ℤ} {cs : List OHLCVCandle}
    (h : ∀ c ∈ cs, c.intervalSeconds ≠ interval) : countedTicks interval cs = 0 := by
  have hnil : cs.filter (fun c => c.intervalSeconds = interval) = [] := by
    rw [List.filter_eq_nil_iff]
    intro c hc
    simpa using h c hc
  simp [countedTicks, hnil]

/-- Ticks that are counted once are as many as the candles count. -/
theorem CountedOnce.countedTicks_eq {interval : ℤ} {ticks : List RawTick}
    {candles : List OHLCVCandle} (h : CountedOnce interval ticks candles) :
    countedTicks interval candles = ticks.length := by
  have hlength := h.count.length_eq
  rw [List.length_map, List.length_flatMap] at hlength
  simpa [countedTicks] using hlength

namespace CandleAggregator

variable {a : CandleAggregator} {tick : RawTick}

/-- Candles have the interval of their aggregator. -/
theorem ingest_intervalSeconds {c : OHLCVCandle} (h : (a.ingest tick).2 = some c) :
    c.intervalSeconds = a.interval := by
  rw [ingest] at h
  split at h
  · cases h
  · split at h
    · cases h
    · cases h
      rfl

/-- What is added up tick by tick is in the open bars, or moves with a bar to its candle. -/
theorem ingest_total {M : Type*} [AddCancelCommMonoid M] {ofBar : BarState → M}
    {ofTick : RawTick → M} (hfirst : ∀ start tick, ofBar (.ofTick start tick) = ofTick tick)
    (hadd : ∀ bar tick, ofBar (bar.add tick) = ofBar bar + ofTick tick) (a : CandleAggregator)
    (tick : RawTick) :
    ((a.ingest tick).1.bars.values.map ofBar).sum + (a.ingest tick).2.elim 0 (fun c => ofBar c.bar)
      = (a.bars.values.map ofBar).sum + ofTick tick := by
  rw [ingest]
  cases hbar : a.bars.get? tick.key with
  | none =>
      have hset := a.bars.sum_values_set tick.key (.ofTick (a.barStart tick) tick) ofBar
      rw [hbar, hfirst] at hset
      exact hset
  | some bar =>
      by_cases hsame : a.barStart tick = bar.intervalStartMs
      · have hset := a.bars.sum_values_set tick.key (bar.add tick) ofBar
        rw [hbar, hadd, Option.elim_some, add_comm (ofBar bar), ← add_assoc] at hset
        simp only [if_pos hsame, Option.elim_none, add_zero]
        exact add_right_cancel hset
      · have hset := a.bars.sum_values_set tick.key (.ofTick (a.barStart tick) tick) ofBar
        rw [hbar, hfirst] at hset
        simp only [if_neg hsame]
        exact hset

/-- A tick is counted by the open bars, or moves the ticks of a bar to its candle. -/
theorem ingest_openTicks (a : CandleAggregator) (tick : RawTick) :
    (a.ingest tick).1.openTicks + (a.ingest tick).2.elim 0 (·.tickCount) = a.openTicks + 1 := by
  have hone : ∀ start tick, (BarState.ofTick start tick).tickCount = 1 := fun _ _ => rfl
  exact ingest_total hone (fun _ _ => rfl) a tick

/-- After a tick its bar is open. -/
theorem ingest_openTicks_pos (a : CandleAggregator) (tick : RawTick) :
    0 < (a.ingest tick).1.openTicks := by
  have hbar : ∃ bar, (a.ingest tick).1.bars.get? tick.key = some bar ∧ 0 < bar.tickCount := by
    rw [ingest]
    split
    · exact ⟨_, Dict.get?_set_self _ _ _, Nat.one_pos⟩
    · split
      · exact ⟨_, Dict.get?_set_self _ _ _, Nat.succ_pos _⟩
      · exact ⟨_, Dict.get?_set_self _ _ _, Nat.one_pos⟩
  rcases hbar with ⟨bar, hget, hpos⟩
  have hmem : bar ∈ (a.ingest tick).1.bars.values := Dict.mem_values.mpr ⟨tick.key, hget⟩
  have hle : bar.tickCount ≤ (a.ingest tick).1.openTicks :=
    List.le_sum_of_mem (List.mem_map_of_mem hmem)
  omega

/-- The keys with an open bar after a tick. -/
theorem ingest_isSome (a : CandleAggregator) (tick : RawTick) (key : String) :
    ((a.ingest tick).1.bars.get? key).isSome =
      (decide (key = tick.key) || (a.bars.get? key).isSome) := by
  by_cases hkey : key = tick.key
  · subst hkey
    have hstart := a.ingest_start tick
    cases hget : (a.ingest tick).1.bars.get? tick.key with
    | none =>
        rw [hget] at hstart
        cases hstart
    | some bar => simp
  · rw [ingest_bars_of_ne hkey]
    simp [hkey]

end CandleAggregator

namespace DataIngestionAgent

variable {a : DataIngestionAgent}

/-- The two aggregators have their intervals, and open bars for the same keys. -/
structure Paired (a : DataIngestionAgent) : Prop where
  interval1m : a.agg1m.interval = candleInterval1m
  interval5m : a.agg5m.interval = candleInterval5m
  keys : ∀ key, (a.agg1m.bars.get? key).isSome = (a.agg5m.bars.get? key).isSome

/-- The one-minute candles that a tick completes. -/
theorem countedTicks_ingest (h : Paired a) (tick : RawTick) :
    countedTicks candleInterval1m
        ((a.agg1m.ingest tick).2.toList ++ (a.agg5m.ingest tick).2.toList) =
      (a.agg1m.ingest tick).2.elim 0 (·.tickCount) := by
  have hother : countedTicks candleInterval1m (a.agg5m.ingest tick).2.toList = 0 := by
    apply countedTicks_eq_zero
    intro c hc
    rw [CandleAggregator.ingest_intervalSeconds (Option.mem_toList.mp hc), h.interval5m]
    decide
  rw [countedTicks_append, hother]
  cases hc : (a.agg1m.ingest tick).2 with
  | none => rfl
  | some c =>
      have hinterval : c.intervalSeconds = candleInterval1m := by
        rw [CandleAggregator.ingest_intervalSeconds hc, h.interval1m]
      simp [countedTicks, hinterval]

/-- A tick that is rejected changes nothing. -/
theorem injectTick_error {d : Delivery} {e : TickValidationError}
    (h : a.validator.validate d.nowMs d.tick = .error e) : a.injectTick d = (a, .error e) := by
  simp [injectTick, h]

/-- A tick that is accepted is counted once by the one-minute bars and candles. -/
theorem injectTick_ok {d : Delivery} {v : TickSequenceValidator} (hpaired : Paired a)
    (h : a.validator.validate d.nowMs d.tick = .ok v) :
    ∃ candles, (a.injectTick d).2 = .ok candles ∧ (a.injectTick d).1.validator = v ∧
      Paired (a.injectTick d).1 ∧ 0 < (a.injectTick d).1.agg1m.openTicks ∧
      countedTicks candleInterval1m candles + (a.injectTick d).1.agg1m.openTicks =
        a.agg1m.openTicks + 1 := by
  simp only [injectTick, h]
  refine ⟨_, rfl, trivial, ?_, a.agg1m.ingest_openTicks_pos d.tick, ?_⟩
  · constructor
    · exact (a.agg1m.ingest_interval d.tick).trans hpaired.interval1m
    · exact (a.agg5m.ingest_interval d.tick).trans hpaired.interval5m
    · intro key
      rw [CandleAggregator.ingest_isSome, CandleAggregator.ingest_isSome, hpaired.keys]
  · rw [countedTicks_ingest hpaired, Nat.add_comm]
    exact a.agg1m.ingest_openTicks d.tick

/-- The run lemma: every accepted tick is in a one-minute candle or an open one-minute bar. -/
theorem injectAll_count (hpaired : Paired a) (ds : List Delivery) :
    Paired (a.injectAll ds).1 ∧
    countedTicks candleInterval1m (a.injectAll ds).2 + (a.injectAll ds).1.agg1m.openTicks =
      a.agg1m.openTicks + (a.validator.accepted (ds.map (·.toArrival))).length ∧
    (0 < a.agg1m.openTicks ∨ a.validator.accepted (ds.map (·.toArrival)) ≠ [] →
      0 < (a.injectAll ds).1.agg1m.openTicks) := by
  induction ds generalizing a with
  | nil =>
      refine ⟨hpaired, by simp [injectAll, countedTicks, TickSequenceValidator.accepted], ?_⟩
      rintro (hopen | hne)
      · exact hopen
      · exact absurd rfl hne
  | cons d rest ih =>
      simp only [injectAll, List.map_cons, TickSequenceValidator.accepted]
      cases hvalid : a.validator.validate d.nowMs d.tick with
      | error e =>
          simp only [injectTick_error hvalid, Except.toOption, Option.getD_none, List.nil_append]
          exact ih hpaired
      | ok v =>
          rcases injectTick_ok hpaired hvalid with
            ⟨candles, hcandles, hvalidator, hnext, hopen, hcount⟩
          rcases ih hnext with ⟨hpaired', hcount', hopen'⟩
          rw [hvalidator] at hcount'
          refine ⟨hpaired', ?_, fun _ => hopen' (.inl hopen)⟩
          simp only [hcandles, Except.toOption, Option.getD_some, countedTicks_append,
            List.length_cons]
          omega

/-- Without an accepted tick nothing happens. -/
theorem injectAll_of_accepted_nil {ds : List Delivery}
    (h : a.validator.accepted (ds.map (·.toArrival)) = []) : a.injectAll ds = (a, []) := by
  induction ds with
  | nil => rfl
  | cons d rest ih =>
      simp only [List.map_cons, TickSequenceValidator.accepted] at h
      cases hvalid : a.validator.validate d.nowMs d.tick with
      | error e =>
          simp only [hvalid] at h
          simp [injectAll, injectTick_error hvalid, ih h, Except.toOption]
      | ok v => simp [hvalid] at h

/-- The final flush returns five-minute candles only. -/
theorem flushOpenBars_intervalSeconds (hpaired : Paired a) :
    ∀ c ∈ a.flushOpenBars.2.values, c.intervalSeconds = candleInterval5m := by
  intro c hc
  rcases Dict.mem_values.mp hc with ⟨key, hget⟩
  rw [flushOpenBars, Dict.get?_update, CandleAggregator.flush, CandleAggregator.flush,
    Dict.get?_mapEntries, Dict.get?_mapEntries] at hget
  cases hbar : a.agg5m.bars.get? key with
  | none =>
      -- the one-minute bars have no other keys
      have hnone : a.agg1m.bars.get? key = none := by
        rw [← Option.isNone_iff_eq_none, ← Option.not_isSome, hpaired.keys, hbar]
        rfl
      rw [hbar, hnone] at hget
      cases hget
  | some bar =>
      rw [hbar] at hget
      cases hget
      exact hpaired.interval5m

/-- A new agent. -/
def new (buffer : TickBuffer) (statusRedis : Option Bool) (mode : IngestionStatus) :
    DataIngestionAgent :=
  { buffer := buffer, statusRedis := statusRedis, mode := mode }

theorem paired_new (buffer : TickBuffer) (statusRedis : Option Bool) (mode : IngestionStatus) :
    Paired (new buffer statusRedis mode) where
  interval1m := rfl
  interval5m := rfl
  keys := fun _ => rfl

end DataIngestionAgent

/-- Every accepted tick of a session is counted once by the one-minute candles and once by the
five-minute candles that it returns. -/
def SessionCounts (a : DataIngestionAgent) (ds : List Delivery) : Prop :=
  CountedOnce candleInterval1m (a.validator.accepted (ds.map (·.toArrival))) (a.session ds) ∧
    CountedOnce candleInterval5m (a.validator.accepted (ds.map (·.toArrival))) (a.session ds)

/-- The session of a new agent counts its ticks exactly if it accepts none. -/
theorem session_counts_iff (buffer : TickBuffer) (statusRedis : Option Bool)
    (mode : IngestionStatus) (ds : List Delivery) :
    SessionCounts (.new buffer statusRedis mode) ds ↔
      TickSequenceValidator.accepted {} (ds.map (·.toArrival)) = [] := by
  have hpaired := DataIngestionAgent.paired_new buffer statusRedis mode
  constructor
  · rintro ⟨hcounted, -⟩
    by_contra hne
    rcases DataIngestionAgent.injectAll_count hpaired ds with ⟨hpaired', hcount, hopen⟩
    have hflush : countedTicks candleInterval1m
        ((DataIngestionAgent.new buffer statusRedis mode).injectAll ds).1.flushOpenBars.2.values =
        0 := by
      apply countedTicks_eq_zero
      intro c hc
      rw [DataIngestionAgent.flushOpenBars_intervalSeconds hpaired' c hc]
      decide
    have htotal := hcounted.countedTicks_eq
    rw [DataIngestionAgent.session, countedTicks_append, hflush] at htotal
    -- the open one-minute bars are missing
    have hstart : (DataIngestionAgent.new buffer statusRedis mode).agg1m.openTicks = 0 := rfl
    have hleft := hopen (.inr hne)
    omega
  · intro hnil
    have hsession : (DataIngestionAgent.new buffer statusRedis mode).session ds = [] := by
      rw [DataIngestionAgent.session, DataIngestionAgent.injectAll_of_accepted_nil hnil]
      rfl
    have haccepted : (DataIngestionAgent.new buffer statusRedis mode).validator.accepted
        (ds.map (·.toArrival)) = [] := hnil
    rw [SessionCounts, hsession, haccepted]
    constructor
    · exact ⟨by simp, by simp⟩
    · exact ⟨by simp, by simp⟩

/-- One tick, whose one-minute bar is open at the end. -/
theorem open_minute_is_lost :
    ¬ SessionCounts (.new (.new false) none .paper)
      [{ toArrival := infyTick 59000, now := 59 }] := by
  intro h
  have htotal := h.1.countedTicks_eq
  exact absurd htotal (by decide +kernel)

end Intraday.Ingestion
