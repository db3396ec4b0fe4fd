import Mathlib.Algebra.BigOperators.Group.List.Basic
import Intraday.Lib.FloatOrder
import Intraday.Lib.Grouping
import Intraday.Ingestion.Agent

/-!
# Intraday.Ingestion.GroupBy — the candles as a grouping of the ticks

The aggregator keeps one open bar for a key and closes it when a tick falls into
another one. While the bars of a key do not go back, its candles are the groups
of its ticks by bar: the emitted ones are complete, and the open bar has the
ticks of the last bar so far (`Grouped`, an invariant over the ticks one by one).
What the candles count in total does not need the order.
-/

namespace Intraday.Ingestion

open Intraday.Lib

/-! ## All candles of a list of ticks -/

namespace CandleAggregator

/-- The aggregator after a list of ticks. -/
def after (a : CandleAggregator) : List RawTick → CandleAggregator
  | [] => a
  | tick :: rest => (a.ingest tick).1.after rest

/-- The candles of a list of ticks: the emitted ones, then those of the flush. -/
def candles (a : CandleAggregator) (ticks : List RawTick) : List OHLCVCandle :=
  a.emitted ticks ++ (a.after ticks).flush.2.values

variable (a : CandleAggregator) (ticks : List RawTick) (tick : RawTick)

theorem after_concat : a.after (ticks ++ [tick]) = ((a.after ticks).ingest tick).1 := by
  induction ticks generalizing a with
  | nil => rfl
  | cons t rest ih => exact ih (a.ingest t).1

theorem emitted_concat :
    a.emitted (ticks ++ [tick]) = a.emitted ticks ++ ((a.after ticks).ingest tick).2.toList := by
  induction ticks generalizing a with
  | nil => simp [emitted, after]
  | cons t rest ih =>
      rw [List.cons_append, emitted, ih, emitted, after, List.append_assoc]

theorem after_interval : (a.after ticks).interval = a.interval := by
  induction ticks generalizing a with
  | nil => rfl
  | cons t rest ih => exact (ih _).trans (a.ingest_interval t)

end CandleAggregator

/-! ## The groups -/

/-- The ticks of a key in one bar. -/
def bucket (interval : ℤ) (key : String) (start : ℤ) (ticks : List RawTick) : List RawTick :=
  ticks.filter fun t => t.key = key ∧ barStartMs t.timestampMs interval = start

/-- A bar sums up a list of ticks: first price, maximum, minimum, last price,
volume and count. The maximum and the minimum are NaN if a price is. -/
structure BarState.RollsUp (bar : BarState) (ticks : List RawTick) : Prop where
  first : ticks.head?.map (·.ltp) = some bar.openPrice
  highest : IsTop PyFloat.LeNanLast (ticks.map (·.ltp)) bar.high
  lowest : IsTop (fun x y => PyFloat.LeNanFirst y x) (ticks.map (·.ltp)) bar.low
  last : ticks.getLast?.map (·.ltp) = some bar.close
  volume_eq : bar.volume = (ticks.map (·.volume)).sum
  count_eq : bar.tickCount = ticks.length

/-- Of two ticks of one key the later one is not in an earlier bar. -/
def BarsAscend (interval : ℤ) (ticks : List RawTick) : Prop :=
  ticks.Pairwise fun t u => t.key = u.key →
    barStartMs t.timestampMs interval ≤ barStartMs u.timestampMs interval

/-- The candles are the groups of the ticks by key and bar, each of them once. -/
structure GroupBy (interval : ℤ) (ticks : List RawTick) (candles : List OHLCVCandle) : Prop where
  rolled : ∀ c ∈ candles, c.intervalSeconds = interval ∧
    c.bar.RollsUp (bucket interval c.key c.timestampMs ticks)
  covered : ∀ t ∈ ticks, ∃ c ∈ candles,
    c.key = t.key ∧ c.timestampMs = barStartMs t.timestampMs interval
  once : (candles.map fun c => (c.key, c.timestampMs)).Nodup

theorem BarState.rollsUp_ofTick (start : ℤ) (tick : RawTick) :
    (BarState.ofTick start tick).RollsUp [tick] where
  first := rfl
  highest := .singleton (.refl _)
  lowest := .singleton (.refl _)
  last := rfl
  volume_eq := by simp [BarState.ofTick]
  count_eq := rfl

/-- A bar with another tick sums up one tick more. -/
theorem BarState.RollsUp.add {bar : BarState} {ticks : List RawTick} (h : bar.RollsUp ticks)
    (tick : RawTick) : (bar.add tick).RollsUp (ticks ++ [tick]) where
  first := by
    rw [List.head?_append]
    cases hhead : ticks.head? with
    | none =>
        have hfirst := h.first
        rw [hhead] at hfirst
        cases hfirst
    | some t =>
        have hfirst := h.first
        rw [hhead] at hfirst
        exact hfirst
  highest := by
    rcases PyFloat.leNanLast_maximum bar.high tick.ltp with ⟨hold, hnew⟩
    rw [List.map_append]
    exact h.highest.concat PyFloat.LeNanLast.trans (PyFloat.maximum_eq_or _ _) hold hnew
  lowest := by
    rcases PyFloat.leNanFirst_minimum bar.low tick.ltp with ⟨hold, hnew⟩
    rw [List.map_append]
    exact h.lowest.concat (fun hab hbc => hbc.trans hab) (PyFloat.minimum_eq_or _ _) hold hnew
  last := by simp [BarState.add]
  volume_eq := by simp [BarState.add, h.volume_eq]
  count_eq := by simp [BarState.add, h.count_eq]

/-- What sums up a bucket sums up at least one tick of it. -/
theorem BarState.RollsUp.exists_mem {bar : BarState} {ticks : List RawTick}
    (h : bar.RollsUp ticks) : ∃ t, t ∈ ticks := by
  have hfirst := h.first
  cases ticks with
  | nil => cases hfirst
  | cons t rest => exact ⟨t, List.mem_cons_self⟩

theorem mem_bucket {interval start : ℤ} {key : String} {ticks : List RawTick} {t : RawTick} :
    t ∈ bucket interval key start ticks ↔
      t ∈ ticks ∧ t.key = key ∧ barStartMs t.timestampMs interval = start := by
  simp [bucket]

theorem bucket_concat_self {interval : ℤ} (ticks : List RawTick) (tick : RawTick) :
    bucket interval tick.key (barStartMs tick.timestampMs interval) (ticks ++ [tick]) =
      bucket interval tick.key (barStartMs tick.timestampMs interval) ticks ++ [tick] := by
  simp [bucket]

/-- A tick changes the bucket of its key and bar only. -/
theorem bucket_concat_of_ne {interval start : ℤ} {key : String} {ticks : List RawTick}
    {tick : RawTick} (h : tick.key = key → barStartMs tick.timestampMs interval ≠ start) :
    bucket interval key start (ticks ++ [tick]) = bucket interval key start ticks := by
  have hnot : ¬ (tick.key = key ∧ barStartMs tick.timestampMs interval = start) :=
    fun hboth => h hboth.1 hboth.2
  rw [bucket, bucket, List.filter_append, List.filter_cons_of_neg (by simpa using hnot),
    List.filter_nil, List.append_nil]

/-! ## The invariant -/

/-- After some ticks: the closed candles and the open bars sum up their buckets,
the open bar of a key is the last one, and every tick is in one of them. -/
structure Grouped (interval : ℤ) (ticks : List RawTick) (closed : List OHLCVCandle)
    (bars : Dict String BarState) : Prop where
  closed_rolled : ∀ c ∈ closed, c.bar.RollsUp (bucket interval c.key c.timestampMs ticks)
  open_rolled : ∀ key bar, bars.get? key = some bar →
    bar.RollsUp (bucket interval key bar.intervalStartMs ticks)
  before : ∀ c ∈ closed, ∃ bar, bars.get? c.key = some bar ∧ c.timestampMs < bar.intervalStartMs
  upto : ∀ t ∈ ticks, ∃ bar, bars.get? t.key = some bar ∧
    barStartMs t.timestampMs interval ≤ bar.intervalStartMs
  covered : ∀ t ∈ ticks, ∀ bar, bars.get? t.key = some bar →
    barStartMs t.timestampMs interval = bar.intervalStartMs ∨
      ∃ c ∈ closed, c.key = t.key ∧ c.timestampMs = barStartMs t.timestampMs interval
  once : (closed.map fun c => (c.key, c.timestampMs)).Nodup

theorem Grouped.nil (interval : ℤ) : Grouped interval [] [] .empty where
  closed_rolled c hc := by cases hc
  open_rolled key bar h := by cases h
  before c hc := by cases hc
  upto t ht := by cases ht
  covered t ht := by cases ht
  once := List.nodup_nil

/-- What a tick closes: nothing while its bar is open or none is, and the candle of
the open bar when that is an earlier one. -/
inductive Closes (bars : Dict String BarState) (tick : RawTick) (start : ℤ) :
    List OHLCVCandle → Prop where
  | first : bars.get? tick.key = none → Closes bars tick start []
  | same {bar : BarState} : bars.get? tick.key = some bar → bar.intervalStartMs = start →
      Closes bars tick start []
  | next {bar : BarState} {c : OHLCVCandle} : bars.get? tick.key = some bar →
      bar.intervalStartMs < start → c.key = tick.key → c.bar = bar → Closes bars tick start [c]

section Step

variable {interval : ℤ} {ticks : List RawTick} {closed out : List OHLCVCandle}
  {bars : Dict String BarState} {tick : RawTick} {bar : BarState}

theorem Closes.le {start : ℤ} {old : BarState} (h : Closes bars tick start out)
    (hold : bars.get? tick.key = some old) : old.intervalStartMs ≤ start := by
  cases h with
  | first hnone =>
      rw [hnone] at hold
      cases hold
  | same hget hsame =>
      rw [hget] at hold
      rcases Option.some.inj hold with rfl
      exact hsame.le
  | next hget hlt _ _ =>
      rw [hget] at hold
      rcases Option.some.inj hold with rfl
      exact hlt.le

/-- A candle that a tick closes is that of the open bar, of an earlier start. -/
theorem Closes.candle {start : ℤ} {c : OHLCVCandle} (h : Closes bars tick start out)
    (hc : c ∈ out) : c.key = tick.key ∧ bars.get? tick.key = some c.bar ∧
      c.timestampMs < start := by
  cases h with
  | first _ => cases hc
  | same _ _ => cases hc
  | next hget hlt hkey hbar =>
      rcases List.mem_singleton.mp hc with rfl
      subst hbar
      exact ⟨hkey, hget, hlt⟩

/-- The step: a tick goes into a bar that sums up its bucket, and closes the bar
before it. -/
theorem Grouped.step (h : Grouped interval ticks closed bars)
    (hbar : bar.RollsUp (bucket interval tick.key bar.intervalStartMs (ticks ++ [tick])))
    (hstart : bar.intervalStartMs = barStartMs tick.timestampMs interval)
    (hcloses : Closes bars tick bar.intervalStartMs out) :
    Grouped interval (ticks ++ [tick]) (closed ++ out) (bars.set tick.key bar) := by
  -- a closed candle of the key is from an earlier bar
  have hearlier : ∀ c ∈ closed ++ out, c.key = tick.key → c.timestampMs < bar.intervalStartMs := by
    intro c hc hkey
    rcases List.mem_append.mp hc with hc | hc
    · rcases h.before c hc with ⟨old, hold, hlt⟩
      rw [hkey] at hold
      exact lt_of_lt_of_le hlt (hcloses.le hold)
    · exact (hcloses.candle hc).2.2
  refine { closed_rolled := ?_, open_rolled := ?_, before := ?_, upto := ?_, covered := ?_
           once := ?_ }
  · intro c hc
    rw [bucket_concat_of_ne fun hkey => ?_]
    · rcases List.mem_append.mp hc with hc | hc
      · exact h.closed_rolled c hc
      · rcases hcloses.candle hc with ⟨hkey, hget, -⟩
        rw [hkey]
        exact h.open_rolled tick.key c.bar hget
    · have hlt := hearlier c hc hkey.symm
      omega
  · intro key old hget
    by_cases hkey : key = tick.key
    · subst hkey
      rw [Dict.get?_set_self] at hget
      rcases Option.some.inj hget with rfl
      exact hbar
    · rw [Dict.get?_set_of_ne _ _ hkey] at hget
      rw [bucket_concat_of_ne fun heq => absurd heq.symm hkey]
      exact h.open_rolled key old hget
  · intro c hc
    by_cases hkey : c.key = tick.key
    · refine ⟨bar, ?_, hearlier c hc hkey⟩
      rw [hkey, Dict.get?_set_self]
    · rcases List.mem_append.mp hc with hc | hc
      · rcases h.before c hc with ⟨old, hold, hlt⟩
        exact ⟨old, (Dict.get?_set_of_ne _ _ hkey).trans hold, hlt⟩
      · exact absurd (hcloses.candle hc).1 hkey
  · intro t ht
    by_cases hkey : t.key = tick.key
    · refine ⟨bar, by rw [hkey, Dict.get?_set_self], ?_⟩
      rcases List.mem_append.mp ht with ht | ht
      · rcases h.upto t ht with ⟨old, hold, hle⟩
        rw [hkey] at hold
        exact hle.trans (hcloses.le hold)
      · rcases List.mem_singleton.mp ht with rfl
        exact hstart.ge
    · rcases List.mem_append.mp ht with ht | ht
      · rcases h.upto t ht with ⟨old, hold, hle⟩
        exact ⟨old, (Dict.get?_set_of_ne _ _ hkey).trans hold, hle⟩
      · rcases List.mem_singleton.mp ht with rfl
        exact absurd rfl hkey
  · intro t ht new hnew
    by_cases hkey : t.key = tick.key
    · rw [hkey, Dict.get?_set_self] at hnew
      rcases Option.some.inj hnew with rfl
      rcases List.mem_append.mp ht with ht | ht
      · rcases h.upto t ht with ⟨old, hold, -⟩
        rcases h.covered t ht old hold with hopen | ⟨c, hc, hckey, hcstart⟩
        · -- the tick was in the open bar, which stays or is closed now
          rw [hkey] at hold
          cases hcloses with
          | first hnone =>
              rw [hnone] at hold
              cases hold
          | same hget hsame =>
              rw [hget] at hold
              rcases Option.some.inj hold with rfl
              exact .inl (hopen.trans hsame)
          | @next old' c hget hlt hckey hcbar =>
              rw [hget] at hold
              rcases Option.some.inj hold with rfl
              refine .inr ⟨c, List.mem_append_right _ (List.mem_singleton_self c), ?_, ?_⟩
              · exact hckey.trans hkey.symm
              · rw [hopen, ← hcbar]
                rfl
        · exact .inr ⟨c, List.mem_append_left _ hc, hckey, hcstart⟩
      · rcases List.mem_singleton.mp ht with rfl
        exact .inl hstart.symm
    · rw [Dict.get?_set_of_ne _ _ hkey] at hnew
      rcases List.mem_append.mp ht with ht | ht
      · rcases h.covered t ht new hnew with hopen | ⟨c, hc, hlabel⟩
        · exact .inl hopen
        · exact .inr ⟨c, List.mem_append_left _ hc, hlabel⟩
      · rcases List.mem_singleton.mp ht with rfl
        exact absurd rfl hkey
  · rw [List.map_append, List.nodup_append]
    refine ⟨h.once, ?_, ?_⟩
    · cases hcloses with
      | first _ => exact List.nodup_nil
      | same _ _ => exact List.nodup_nil
      | next _ _ _ _ => exact List.nodup_singleton _
    · -- the bar that is closed now is later than all closed ones of the key
      intro x hx y hy hxy
      rcases List.mem_map.mp hx with ⟨c, hc, rfl⟩
      rcases List.mem_map.mp hy with ⟨d, hd, rfl⟩
      rcases Prod.mk.inj hxy with ⟨hkey, htime⟩
      rcases hcloses.candle hd with ⟨hdkey, hget, -⟩
      rcases h.before c hc with ⟨old, hold, hlt⟩
      rw [hkey, hdkey, hget] at hold
      rcases Option.some.inj hold with rfl
      have hstartd : d.bar.intervalStartMs = d.timestampMs := rfl
      omega

end Step

/-! ## The run -/

namespace CandleAggregator

/-- One tick of the aggregator: what it closes, and the bar it goes into. -/
theorem grouped_ingest {a : CandleAggregator} {ticks : List RawTick} {closed : List OHLCVCandle}
    {tick : RawTick} (h : Grouped a.interval ticks closed a.bars)
    (hlast : ∀ t ∈ ticks, t.key = tick.key → a.barStart t ≤ a.barStart tick) :
    Grouped a.interval (ticks ++ [tick]) (closed ++ (a.ingest tick).2.toList)
      (a.ingest tick).1.bars := by
  -- the open bar of the key is not later than that of the tick
  have hopen : ∀ old, a.bars.get? tick.key = some old →
      old.intervalStartMs ≤ a.barStart tick := by
    intro old hold
    rcases (h.open_rolled tick.key old hold).exists_mem with ⟨t, ht⟩
    rcases mem_bucket.mp ht with ⟨hmem, hkey, hstart⟩
    rw [← hstart]
    exact hlast t hmem hkey
  -- a new bar has the tick alone
  have hfresh : (∀ t ∈ ticks, t.key = tick.key → a.barStart t ≠ a.barStart tick) →
      (BarState.ofTick (a.barStart tick) tick).RollsUp
        (bucket a.interval tick.key (a.barStart tick) (ticks ++ [tick])) := by
    intro hnone
    have hempty : bucket a.interval tick.key (a.barStart tick) ticks = [] := by
      rw [List.eq_nil_iff_forall_not_mem]
      intro t ht
      rcases mem_bucket.mp ht with ⟨hmem, hkey, hstart⟩
      exact hnone t hmem hkey hstart
    rw [barStart] at hempty ⊢
    rw [bucket_concat_self, hempty]
    exact BarState.rollsUp_ofTick _ tick
  rw [ingest]
  cases hget : a.bars.get? tick.key with
  | none =>
      refine h.step (hfresh ?_) rfl (.first hget)
      intro t ht hkey
      rcases h.upto t ht with ⟨old, hold, -⟩
      rw [hkey, hget] at hold
      cases hold
  | some old =>
      by_cases hsame : a.barStart tick = old.intervalStartMs
      · simp only [if_pos hsame]
        refine h.step ?_ hsame.symm (.same hget rfl)
        have hrolled := (h.open_rolled tick.key old hget).add tick
        rw [← hsame, barStart, ← bucket_concat_self, ← barStart, hsame] at hrolled
        exact hrolled
      · simp only [if_neg hsame]
        have hlt : old.intervalStartMs < a.barStart tick :=
          lt_of_le_of_ne (hopen old hget) (Ne.symm hsame)
        refine h.step (hfresh ?_) rfl (.next hget hlt rfl rfl)
        intro t ht hkey
        rcases h.upto t ht with ⟨old', hold', hle⟩
        rw [hkey, hget] at hold'
        rcases Option.some.inj hold' with rfl
        exact (lt_of_le_of_lt hle hlt).ne

/-- The run lemma: while the bars ascend, the candles and the open bars are the
groups of the ticks so far. -/
theorem grouped_after (interval : ℤ) (positive : 0 < interval) {ticks : List RawTick}
    (h : BarsAscend interval ticks) :
    Grouped interval ticks ((CandleAggregator.mk interval positive .empty).emitted ticks)
      ((CandleAggregator.mk interval positive .empty).after ticks).bars := by
  induction ticks using List.reverseRecOn with
  | nil => exact .nil interval
  | append_singleton ticks tick ih =>
      rw [BarsAscend, List.pairwise_append] at h
      rcases h with ⟨hticks, -, hlast⟩
      rw [emitted_concat, after_concat]
      have hinterval := after_interval (CandleAggregator.mk interval positive .empty) ticks
      generalize (CandleAggregator.mk interval positive .empty).after ticks = a at ih hinterval ⊢
      rcases hinterval with rfl
      refine grouped_ingest (ih hticks) ?_
      intro t ht hkey
      exact hlast t ht tick (List.mem_singleton_self tick) hkey

/-! ## The flush -/

theorem mem_flush {a : CandleAggregator} {c : OHLCVCandle} :
    c ∈ a.flush.2.values ↔ ∃ key bar, a.bars.get? key = some bar ∧
      c = bar.candle (splitKey key).2 (splitKey key).1 a.interval := by
  rw [Dict.mem_values]
  simp only [flush, Dict.get?_mapEntries, Option.map_eq_some_iff]
  constructor
  · rintro ⟨key, bar, hbar, rfl⟩
    exact ⟨key, bar, hbar, rfl⟩
  · rintro ⟨key, bar, hbar, rfl⟩
    exact ⟨key, bar, hbar, rfl⟩

/-- The candle of an open bar has its key again. -/
theorem key_candle_split {key : String} (h : ':' ∈ key.toList) (bar : BarState) (interval : ℤ) :
    (bar.candle (splitKey key).2 (splitKey key).1 interval).key = key :=
  joinKey_splitKey h

theorem emitted_intervalSeconds {a : CandleAggregator} {ticks : List RawTick} {c : OHLCVCandle}
    (h : c ∈ a.emitted ticks) : c.intervalSeconds = a.interval := by
  induction ticks generalizing a with
  | nil => cases h
  | cons tick rest ih =>
      rcases List.mem_append.mp h with hfirst | hrest
      · exact ingest_intervalSeconds (Option.mem_toList.mp hfirst)
      · exact (ih hrest).trans (a.ingest_interval tick)

/-- With the open bars flushed, the candles are the groups of the ticks. -/
theorem groupBy_candles {a : CandleAggregator} {ticks : List RawTick}
    (h : Grouped a.interval ticks (a.emitted ticks) (a.after ticks).bars) :
    GroupBy a.interval ticks (a.candles ticks) := by
  have hinterval := a.after_interval ticks
  -- the keys of open bars are keys of ticks
  have hcolon : ∀ key bar, (a.after ticks).bars.get? key = some bar → ':' ∈ key.toList := by
    intro key bar hbar
    rcases (h.open_rolled key bar hbar).exists_mem with ⟨t, ht⟩
    rw [← (mem_bucket.mp ht).2.1]
    exact colon_mem_joinKey _ _
  refine { rolled := ?_, covered := ?_, once := ?_ }
  · intro c hc
    rcases List.mem_append.mp hc with hc | hc
    · exact ⟨emitted_intervalSeconds hc, h.closed_rolled c hc⟩
    · rcases mem_flush.mp hc with ⟨key, bar, hbar, rfl⟩
      rw [key_candle_split (hcolon key bar hbar)]
      exact ⟨hinterval, h.open_rolled key bar hbar⟩
  · intro t ht
    rcases h.upto t ht with ⟨bar, hbar, -⟩
    rcases h.covered t ht bar hbar with hopen | ⟨c, hc, hlabel⟩
    · refine ⟨_, List.mem_append_right _ (mem_flush.mpr ⟨t.key, bar, hbar, rfl⟩), ?_, hopen.symm⟩
      exact key_candle_split (hcolon _ bar hbar) bar _
    · exact ⟨c, List.mem_append_left _ hc, hlabel⟩
  · rw [candles, List.map_append, List.nodup_append]
    refine ⟨h.once, ?_, ?_⟩
    · -- the flushed candles have the keys of the dictionary
      have hkeys : ((a.after ticks).flush.2.values.map fun c => (c.key, c.timestampMs)).map Prod.fst
          = (a.after ticks).bars.entries.map Prod.fst := by
        simp only [Dict.values, flush, Dict.mapEntries, List.map_map]
        apply List.map_congr_left
        rintro ⟨key, bar⟩ hmem
        exact key_candle_split (hcolon key bar (Dict.get?_eq_some_iff.mpr hmem)) bar _
      apply List.Nodup.of_map Prod.fst
      rw [hkeys]
      exact (a.after ticks).bars.nodup
    · intro x hx y hy hxy
      rcases List.mem_map.mp hx with ⟨c, hc, rfl⟩
      rcases List.mem_map.mp hy with ⟨d, hd, rfl⟩
      rcases mem_flush.mp hd with ⟨key, bar, hbar, rfl⟩
      rcases Prod.mk.inj hxy with ⟨hkey, htime⟩
      rw [key_candle_split (hcolon key bar hbar)] at hkey
      rcases h.before c hc with ⟨bar', hbar', hlt⟩
      rw [hkey, hbar] at hbar'
      rcases Option.some.inj hbar' with rfl
      have hstart : c.timestampMs = bar.intervalStartMs := htime
      omega

/-! ## Totals -/

/-- What is added up tick by tick is in the emitted candles or the open bars,
whatever the order of the ticks. -/
theorem run_total {M : Type*} [AddCancelCommMonoid M] {ofBar : BarState → M}
    {ofTick : RawTick → M} (hfirst : ∀ start tick, ofBar (.ofTick start tick) = ofTick tick)
    (hadd : ∀ bar tick, ofBar (bar.add tick) = ofBar bar + ofTick tick) (a : CandleAggregator)
    (ticks : List RawTick) :
    ((a.emitted ticks).map fun c => ofBar c.bar).sum + ((a.after ticks).bars.values.map ofBar).sum
      = (a.bars.values.map ofBar).sum + (ticks.map ofTick).sum := by
  induction ticks generalizing a with
  | nil => simp [emitted, after]
  | cons tick rest ih =>
      have hone := ingest_total hfirst hadd a tick
      have hemit : ((a.ingest tick).2.toList.map fun c => ofBar c.bar).sum
          = (a.ingest tick).2.elim 0 fun c => ofBar c.bar := by
        cases (a.ingest tick).2 with
        | none => rfl
        | some c => simp
      rw [emitted, after, List.map_append, List.sum_append, hemit, add_assoc, ih, ← add_assoc,
        add_comm (Option.elim _ _ _), hone, List.map_cons, List.sum_cons, add_assoc]

/-- The candles count what the ticks count. -/
theorem candles_total {M : Type*} [AddCancelCommMonoid M] {ofBar : BarState → M}
    {ofTick : RawTick → M} (hfirst : ∀ start tick, ofBar (.ofTick start tick) = ofTick tick)
    (hadd : ∀ bar tick, ofBar (bar.add tick) = ofBar bar + ofTick tick) (interval : ℤ)
    (positive : 0 < interval) (ticks : List RawTick) :
    (((CandleAggregator.mk interval positive .empty).candles ticks).map fun c => ofBar c.bar).sum
      = (ticks.map ofTick).sum := by
  have hrun := run_total hfirst hadd (CandleAggregator.mk interval positive .empty) ticks
  have hflush : ∀ a : CandleAggregator, (a.flush.2.values.map fun c => ofBar c.bar)
      = a.bars.values.map ofBar := by
    intro a
    simp only [flush, Dict.values, Dict.mapEntries, List.map_map]
    rfl
  rw [candles, List.map_append, List.sum_append, hflush, hrun]
  simp [Dict.values, Dict.empty]

end CandleAggregator

/-! ## Names -/

/-- A candle has the key and the bar of a tick. -/
theorem GroupBy.exists_tick {interval : ℤ} {ticks : List RawTick} {candles : List OHLCVCandle}
    (h : GroupBy interval ticks candles) {c : OHLCVCandle} (hc : c ∈ candles) :
    ∃ t ∈ ticks, t.key = c.key ∧ barStartMs t.timestampMs interval = c.timestampMs := by
  rcases (h.rolled c hc).2.exists_mem with ⟨t, ht⟩
  exact ⟨t, mem_bucket.mp ht⟩

/-- No candle has a colon in its exchange if no tick has. -/
theorem CandleAggregator.colonFree_candles {a : CandleAggregator} {ticks : List RawTick}
    (h : ∀ t ∈ ticks, ':' ∉ t.exchange.toList) :
    ∀ c ∈ a.candles ticks, ':' ∉ c.exchange.toList := by
  intro c hc
  rcases List.mem_append.mp hc with hc | hc
  · rcases exists_tick_of_mem_emitted hc with ⟨t, ht, -, hexchange⟩
    rw [hexchange]
    exact h t ht
  · rcases mem_flush.mp hc with ⟨key, bar, -, rfl⟩
    exact colon_notMem_splitKey key

/-- While the bars of every key ascend, the candles are the groups of the ticks by
key and bar. Whatever the order, the candles count the volume and the number of
the ticks. As long as exchange names have no colon, a key stands for a symbol on an
exchange. -/
theorem candles_group_by (interval : ℤ) (positive : 0 < interval) (ticks : List RawTick) :
    (BarsAscend interval ticks →
      GroupBy interval ticks ((CandleAggregator.mk interval positive .empty).candles ticks)) ∧
    ((((CandleAggregator.mk interval positive .empty).candles ticks).map (·.volume)).sum
        = (ticks.map (·.volume)).sum ∧
      (((CandleAggregator.mk interval positive .empty).candles ticks).map (·.tickCount)).sum
        = ticks.length) ∧
    ((∀ t ∈ ticks, ':' ∉ t.exchange.toList) →
      ∀ c ∈ (CandleAggregator.mk interval positive .empty).candles ticks, ∀ t ∈ ticks,
        t.key = c.key ↔ t.exchange = c.exchange ∧ t.symbol = c.symbol) := by
  refine ⟨?_, ⟨?_, ?_⟩, ?_⟩
  · intro h
    have hgrouped := CandleAggregator.grouped_after interval positive h
    exact CandleAggregator.groupBy_candles (a := ⟨interval, positive, .empty⟩) hgrouped
  · have hfirst : ∀ start tick, (BarState.ofTick start tick).volume = tick.volume :=
      fun _ _ => rfl
    exact CandleAggregator.candles_total hfirst (fun _ _ => rfl) interval positive ticks
  · have hone : ∀ start tick, (BarState.ofTick start tick).tickCount = 1 := fun _ _ => rfl
    have hcount := CandleAggregator.candles_total hone (fun _ _ => rfl) interval positive ticks
    have hticks : (ticks.map fun _ => 1).sum = ticks.length := by simp
    exact hcount.trans hticks
  · intro hnames c hc t ht
    rw [RawTick.key, OHLCVCandle.key]
    exact joinKey_inj (hnames t ht) (CandleAggregator.colonFree_candles hnames c hc)

/-- A price with one decimal that does not end in zero. -/
def priceOf (digits : ℕ) (h : digits % 10 ≠ 0) : PyFloat :=
  .finite false { digits := digits, exp := -1, normal := .inl h }

/-- Ticks of two symbols, over two minutes of one of them. -/
def twoSymbols : List RawTick :=
  [{ symbol := "WIPRO", exchange := "NSE", ltp := priceOf 4123 (by decide), volume := 12
     timestampMs := 61500 },
   { symbol := "BPCL", exchange := "BSE", ltp := priceOf 2987 (by decide), volume := 7
     timestampMs := 83000 },
   { symbol := "WIPRO", exchange := "NSE", ltp := priceOf 4131 (by decide), volume := 5
     timestampMs := 119900 },
   { symbol := "WIPRO", exchange := "NSE", ltp := priceOf 4107 (by decide), volume := 3
     timestampMs := 120000 }]

theorem candles_group_by_twoSymbols :
    GroupBy 60 twoSymbols
      ((CandleAggregator.mk 60 (by decide) .empty).candles twoSymbols) := by
  apply (candles_group_by 60 (by decide) twoSymbols).1
  unfold BarsAscend
  decide +kernel

end Intraday.Ingestion
