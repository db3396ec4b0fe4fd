import Mathlib.Algebra.BigOperators.Group.List.Basic
import Intraday.Ingestion.GroupBy

/-!
# Intraday.Ingestion.FiveMinute — five-minute candles from one-minute candles

The agent folds the ticks twice, into one-minute and into five-minute bars, and
the database rolls the one-minute candles up into five minutes again
(`ohlcv_5m` of `schema.sql`). Both aggregators group the ticks, and a five-minute
group is the union of the one-minute groups in its window; the two roll-ups agree
for this reason.
-/

namespace Intraday.Ingestion

open Intraday.Core Intraday.Lib

/-! ## The roll-up of the database -/

/-- The rows of `ohlcv_1m` in one group: one symbol, and a start in the five minutes
from `start`. -/
def rowsOf (candles : List OHLCVCandle) (key : String) (start : ℤ) : List OHLCVCandle :=
  candles.filter fun r => r.key = key ∧ start ≤ r.timestampMs ∧ r.timestampMs < start + 300000

/-- `first(open, time)`, `max(high)`, `min(low)`, `last(close, time)` and
`sum(volume)`. The database compares floats with NaN above all numbers, and the
two zeros are equal to it. -/
structure DbRollUp (rows : List OHLCVCandle) (c : OHLCVCandle) : Prop where
  first_open : ∃ r ∈ rows, r.openPrice = c.openPrice ∧ ∀ r' ∈ rows, r.timestampMs ≤ r'.timestampMs
  max_high : (∃ r ∈ rows, PyFloat.LeNanLast c.high r.high) ∧
    ∀ r ∈ rows, PyFloat.LeNanLast r.high c.high
  min_low : (∃ r ∈ rows, PyFloat.LeNanLast r.low c.low) ∧
    ∀ r ∈ rows, PyFloat.LeNanLast c.low r.low
  last_close : ∃ r ∈ rows, r.close = c.close ∧ ∀ r' ∈ rows, r'.timestampMs ≤ r.timestampMs
  sum_volume : c.volume = (rows.map (·.volume)).sum

/-! ## Windows -/

theorem candleInterval1m_pos : 0 < candleInterval1m := by decide

theorem candleInterval5m_pos : 0 < candleInterval5m := by decide

theorem barStartMs_mono {interval t u : ℤ} (h : 0 < interval) (htu : t ≤ u) :
    barStartMs t interval ≤ barStartMs u interval := by
  have hms : 0 < interval * 1000 := by omega
  unfold barStartMs
  dsimp only
  rw [Int.fdiv_eq_ediv_of_nonneg t hms.le, Int.fdiv_eq_ediv_of_nonneg u hms.le]
  exact Int.mul_le_mul_of_nonneg_right (Int.ediv_le_ediv hms htu) hms.le

/-- A one-minute bar starts in the window of the five-minute bar of its ticks, and
in no other. -/
theorem window_iff (t u : ℤ) :
    (barStartMs u candleInterval5m ≤ barStartMs t candleInterval1m ∧
      barStartMs t candleInterval1m < barStartMs u candleInterval5m + 300000) ↔
    barStartMs t candleInterval5m = barStartMs u candleInterval5m := by
  have hone : (0 : ℤ) ≤ 60000 := by omega
  have hfive : (0 : ℤ) ≤ 300000 := by omega
  simp only [barStartMs, candleInterval1m, candleInterval5m, Int.reduceMul,
    Int.fdiv_eq_ediv_of_nonneg _ hone, Int.fdiv_eq_ediv_of_nonneg _ hfive]
  omega

/-- Of two ticks of one key the later one has no earlier timestamp. -/
def TimesAscend (ticks : List RawTick) : Prop :=
  ticks.Pairwise fun t u => t.key = u.key → t.timestampMs ≤ u.timestampMs

theorem TimesAscend.bars {ticks : List RawTick} (h : TimesAscend ticks) {interval : ℤ}
    (positive : 0 < interval) : BarsAscend interval ticks :=
  h.imp fun htu hkey => barStartMs_mono positive (htu hkey)

/-! ## Groups of groups -/

section Groups

variable {ticks : List RawTick} {fine coarse : List OHLCVCandle} {c r : OHLCVCandle}

/-- In the window of a five-minute candle, a one-minute group is a part of the
five-minute group. -/
theorem bucket_one_eq (key : String) {start : ℤ} {u : RawTick}
    (hwindow : barStartMs u.timestampMs candleInterval5m ≤ start ∧
      start < barStartMs u.timestampMs candleInterval5m + 300000) :
    bucket candleInterval1m key start ticks =
      (bucket candleInterval5m key (barStartMs u.timestampMs candleInterval5m) ticks).filter
        fun t => barStartMs t.timestampMs candleInterval1m = start := by
  rw [bucket, bucket, List.filter_filter]
  apply List.filter_congr
  intro t _
  have hiff := window_iff t.timestampMs u.timestampMs
  simp only [← Bool.decide_and, decide_eq_decide]
  constructor
  · rintro ⟨hkey, rfl⟩
    exact ⟨rfl, hkey, hiff.mp hwindow⟩
  · rintro ⟨hstart, hkey, -⟩
    exact ⟨hkey, hstart⟩

/-- What is known of the rows of a five-minute candle: each sums up the part of the
candle's ticks in its minute, and every tick is in one of them. -/
structure RowsOf (ticks : List RawTick) (rows : List OHLCVCandle) : Prop where
  rolled : ∀ r ∈ rows, r.bar.RollsUp
    (ticks.filter fun t => barStartMs t.timestampMs candleInterval1m = r.timestampMs)
  covered : ∀ t ∈ ticks, ∃ r ∈ rows,
    r.timestampMs = barStartMs t.timestampMs candleInterval1m
  once : (rows.map (·.timestampMs)).Nodup

theorem rowsOf_spec (hfine : GroupBy candleInterval1m ticks fine)
    (hcoarse : GroupBy candleInterval5m ticks coarse) (hc : c ∈ coarse) :
    RowsOf (bucket candleInterval5m c.key c.timestampMs ticks)
      (rowsOf fine c.key c.timestampMs) := by
  rcases hcoarse.exists_tick hc with ⟨u, -, -, hu⟩
  refine { rolled := ?_, covered := ?_, once := ?_ }
  · intro r hr
    rw [rowsOf, List.mem_filter, decide_eq_true_eq] at hr
    rcases hr with ⟨hmem, hkey, hwindow⟩
    rw [← hu] at hwindow ⊢
    rw [← bucket_one_eq c.key hwindow, ← hkey]
    exact (hfine.rolled r hmem).2
  · intro t ht
    rcases mem_bucket.mp ht with ⟨hmem, hkey, hstart⟩
    rcases hfine.covered t hmem with ⟨r, hr, hrkey, hrstart⟩
    refine ⟨r, ?_, hrstart⟩
    rw [rowsOf, List.mem_filter, decide_eq_true_eq, hrstart, ← hu]
    refine ⟨hr, hrkey.trans hkey, (window_iff _ _).mpr ?_⟩
    rw [hstart, hu]
  · -- candles of one key with one start are the same
    have hnodup : (rowsOf fine c.key c.timestampMs).Nodup :=
      (List.Nodup.of_map _ hfine.once).filter _
    apply hnodup.map_on
    intro r hr r' hr' hstart
    rw [rowsOf, List.mem_filter, decide_eq_true_eq] at hr hr'
    have hlabel : (r.key, r.timestampMs) = (r'.key, r'.timestampMs) := by
      rw [hr.2.1, hr'.2.1, hstart]
    exact List.inj_on_of_nodup_map hfine.once hr.1 hr'.1 hlabel

/-- The ticks of a bucket are in order. -/
theorem TimesAscend.bucket (h : TimesAscend ticks) (interval : ℤ) (key : String) (start : ℤ) :
    (bucket interval key start ticks).Pairwise fun t u => t.timestampMs ≤ u.timestampMs := by
  have hsorted := h.filter fun t => t.key = key ∧ barStartMs t.timestampMs interval = start
  refine List.Pairwise.imp_of_mem ?_ hsorted
  intro t u ht hu htu
  have htkey := (mem_bucket.mp ht).2.1
  have hukey := (mem_bucket.mp hu).2.1
  exact htu (htkey.trans hukey.symm)

/-- The rows of the candle of some ticks in order roll up to it. -/
theorem RowsOf.dbRollUp {rows : List OHLCVCandle} (h : RowsOf ticks rows)
    (hc : c.bar.RollsUp ticks)
    (hsorted : ticks.Pairwise fun t u => t.timestampMs ≤ u.timestampMs)
    (hnumbers : ∀ t ∈ ticks, t.ltp ≠ .nan) : DbRollUp rows c := by
  -- a row has ticks, all of them ticks of the candle
  have hsub : ∀ r ∈ rows, ∀ x, x ∈ (ticks.filter fun t =>
      barStartMs t.timestampMs candleInterval1m = r.timestampMs).map (·.ltp) →
      x ∈ ticks.map (·.ltp) := by
    intro r _ x hx
    rcases List.mem_map.mp hx with ⟨t, ht, rfl⟩
    exact List.mem_map_of_mem (List.mem_of_mem_filter ht)
  have hnan : ∀ x ∈ ticks.map (·.ltp), x ≠ .nan := by
    intro x hx
    rcases List.mem_map.mp hx with ⟨t, ht, rfl⟩
    exact hnumbers t ht
  have hrow : ∀ t ∈ ticks, ∃ r ∈ rows, t ∈ ticks.filter fun u =>
      barStartMs u.timestampMs candleInterval1m = r.timestampMs := by
    intro t ht
    rcases h.covered t ht with ⟨r, hr, hstart⟩
    exact ⟨r, hr, List.mem_filter.mpr ⟨ht, decide_eq_true hstart.symm⟩⟩
  have hminute : ∀ r ∈ rows, ∃ t ∈ ticks,
      barStartMs t.timestampMs candleInterval1m = r.timestampMs := by
    intro r hr
    rcases (h.rolled r hr).exists_mem with ⟨t, ht⟩
    rcases List.mem_filter.mp ht with ⟨hmem, hstart⟩
    exact ⟨t, hmem, of_decide_eq_true hstart⟩
  have hpositive := candleInterval1m_pos
  have hrefl : ∀ t : RawTick, t.timestampMs ≤ t.timestampMs := fun _ => le_rfl
  refine { first_open := ?_, max_high := ?_, min_low := ?_, last_close := ?_, sum_volume := ?_ }
  · rcases Option.map_eq_some_iff.mp hc.first with ⟨t, hhead, hopen⟩
    rcases h.covered t (List.mem_of_mem_head? hhead) with ⟨r, hr, hstart⟩
    refine ⟨r, hr, ?_, ?_⟩
    · -- the first tick of all is the first of its minute
      have hfirst := (h.rolled r hr).first
      rw [head?_filter_of_head? hhead (decide_eq_true hstart.symm)] at hfirst
      exact (Option.some.inj hfirst).symm.trans hopen
    · intro r' hr'
      rcases hminute r' hr' with ⟨t', ht', hstart'⟩
      rw [hstart, ← hstart']
      have hle := le_of_head? hrefl hsorted hhead ht'
      exact barStartMs_mono hpositive hle
  · constructor
    · rcases List.mem_map.mp hc.highest.mem with ⟨t, ht, hhigh⟩
      rcases hrow t ht with ⟨r, hr, hmem⟩
      refine ⟨r, hr, ?_⟩
      have htop := (h.rolled r hr).highest.top t.ltp (List.mem_map_of_mem hmem)
      rw [hhigh] at htop
      exact htop
    · intro r hr
      exact hc.highest.top r.high (hsub r hr _ (h.rolled r hr).highest.mem)
  · constructor
    · rcases List.mem_map.mp hc.lowest.mem with ⟨t, ht, hlow⟩
      rcases hrow t ht with ⟨r, hr, hmem⟩
      refine ⟨r, hr, .inr ?_⟩
      have hbottom := (h.rolled r hr).lowest.top t.ltp (List.mem_map_of_mem hmem)
      rw [hlow] at hbottom
      exact hbottom.resolve_left (hnan _ (hsub r hr _ (h.rolled r hr).lowest.mem))
    · intro r hr
      have hbottom := hc.lowest.top r.low (hsub r hr _ (h.rolled r hr).lowest.mem)
      exact .inr (hbottom.resolve_left (hnan _ hc.lowest.mem))
  · rcases Option.map_eq_some_iff.mp hc.last with ⟨t, hlast, hclose⟩
    rcases h.covered t (List.mem_of_getLast? hlast) with ⟨r, hr, hstart⟩
    refine ⟨r, hr, ?_, ?_⟩
    · have hfinal := (h.rolled r hr).last
      rw [getLast?_filter_of_getLast? hlast (decide_eq_true hstart.symm)] at hfinal
      exact (Option.some.inj hfinal).symm.trans hclose
    · intro r' hr'
      rcases hminute r' hr' with ⟨t', ht', hstart'⟩
      rw [hstart, ← hstart']
      have hle := le_of_getLast? hrefl hsorted hlast ht'
      exact barStartMs_mono hpositive hle
  · have hlabel : ∀ t ∈ ticks, barStartMs t.timestampMs candleInterval1m ∈
        rows.map (·.timestampMs) := by
      intro t ht
      rcases h.covered t ht with ⟨r, hr, hstart⟩
      rw [← hstart]
      exact List.mem_map_of_mem hr
    have hgroups := sum_groups h.once hlabel fun t : RawTick => t.volume
    have hvolume : c.volume = (ticks.map (·.volume)).sum := hc.volume_eq
    rw [hvolume, ← hgroups, List.map_map]
    congr 1
    apply List.map_congr_left
    intro r hr
    exact (h.rolled r hr).volume_eq.symm

/-- A one-minute candle is in the window of one five-minute candle of its key. -/
theorem exists_window (hfine : GroupBy candleInterval1m ticks fine)
    (hcoarse : GroupBy candleInterval5m ticks coarse) (hr : r ∈ fine) :
    ∃ c ∈ coarse, r ∈ rowsOf fine c.key c.timestampMs ∧
      ∀ c' ∈ coarse, r ∈ rowsOf fine c'.key c'.timestampMs → c' = c := by
  rcases hfine.exists_tick hr with ⟨t, ht, htkey, htstart⟩
  rcases hcoarse.covered t ht with ⟨c, hc, hckey, hcstart⟩
  -- of the windows of five-minute candles, the minute is in that of its tick
  have hwindow : ∀ c' ∈ coarse, r ∈ rowsOf fine c'.key c'.timestampMs ↔
      c'.key = r.key ∧ c'.timestampMs = barStartMs t.timestampMs candleInterval5m := by
    intro c' hc'
    rcases hcoarse.exists_tick hc' with ⟨u, -, -, hu⟩
    rw [rowsOf, List.mem_filter, decide_eq_true_eq, ← htstart, ← hu, window_iff]
    constructor
    · rintro ⟨-, hkey, hsame⟩
      exact ⟨hkey.symm, hsame.symm⟩
    · rintro ⟨hkey, hsame⟩
      exact ⟨hr, hkey.symm, hsame.symm⟩
  refine ⟨c, hc, (hwindow c hc).mpr ⟨hckey.trans htkey, hcstart⟩, ?_⟩
  intro c' hc' hr'
  rcases (hwindow c' hc').mp hr' with ⟨hkey, hstart⟩
  have hlabel : (c'.key, c'.timestampMs) = (c.key, c.timestampMs) := by
    rw [hkey, hstart, hckey, hcstart, htkey]
  exact List.inj_on_of_nodup_map hcoarse.once hc' hc hlabel

end Groups

/-! ## The two folds -/

/-- The one-minute candles of a list of ticks. -/
def candles1m (ticks : List RawTick) : List OHLCVCandle :=
  (CandleAggregator.mk candleInterval1m candleInterval1m_pos .empty).candles ticks

/-- The five-minute candles of a list of ticks. -/
def candles5m (ticks : List RawTick) : List OHLCVCandle :=
  (CandleAggregator.mk candleInterval5m candleInterval5m_pos .empty).candles ticks

/-- Both aggregators of the agent have seen the ticks that the validator accepted. -/
theorem DataIngestionAgent.injectAll_after (a : DataIngestionAgent) (ds : List Delivery) :
    (a.injectAll ds).1.agg1m = a.agg1m.after (a.validator.accepted (ds.map (·.toArrival))) ∧
    (a.injectAll ds).1.agg5m = a.agg5m.after (a.validator.accepted (ds.map (·.toArrival))) := by
  induction ds generalizing a with
  | nil => exact ⟨rfl, rfl⟩
  | cons d rest ih =>
      rw [injectAll, List.map_cons, TickSequenceValidator.accepted]
      cases hvalid : a.validator.validate d.nowMs d.tick with
      | error e =>
          rw [injectTick_error hvalid]
          exact ih a
      | ok v =>
          have hstep := ih (a.injectTick d).1
          simp only [injectTick, hvalid] at hstep ⊢
          exact hstep

/-- Three ticks of one symbol in two windows, two of them in one minute. -/
def threeTicks : List RawTick :=
  [{ symbol := "NHPC", exchange := "NSE", ltp := priceOf 863 (by decide), volume := 40
     timestampMs := 241000 },
   { symbol := "NHPC", exchange := "NSE", ltp := priceOf 859 (by decide), volume := 15
     timestampMs := 299999 },
   { symbol := "NHPC", exchange := "NSE", ltp := priceOf 871 (by decide), volume := 90
     timestampMs := 300000 }]

end Intraday.Ingestion
