import Intraday.Ingestion.FiveMinute
import Intraday.Ingestion.Replay
import Intraday.Ingestion.Watchdog
import Intraday.Lib.Python
import Intraday.Lib.Traverse

/-!
# Intraday.Ingestion.Fallback — `shared/ingestion/yfinance_fallback.py`

When the watchdog finds the feed stale it fetches the last one-minute bars of every symbol, once,
and gives each bar to `inject_tick` as a tick at the start of its minute, with the volume of the
whole minute. Anything that goes wrong in a fetch makes it an empty one.

Of these bars the validator lets pass those of later minutes than that of the last accepted tick
(`fetched_accepted`), and of that minute itself only if the tick was in its first half second. So a
bar of the fallback never reopens a bar that is closed; the ticks of the socket may
(`only_socket_reopens`).
-/

namespace Intraday.Ingestion

open Intraday.Core Intraday.Lib Intraday.Lib.Python

/-! ## The fetch -/

/-- A row of the frame: `row["Close"]`, `row["Volume"]` and the index in milliseconds. -/
structure YfBar where
  close : PyFloat
  volume : ℤ
  timestampMs : ℤ

/-- `YFinanceFallback`, with what `yf.download` does with a ticker and a period: it raises, or it
returns `None` or the rows, of which reading one may raise too. It is `none` if yfinance is not
installed. -/
structure YFinanceFallback where
  periodMinutes : ℤ := 5
  download : Option (String → String → Except Exc (Option (List (Except Exc YfBar))))

/-- `_yf_ticker`. -/
def yfTicker (symbol exchange : String) : String :=
  if exchange = "NSE" ∨ exchange = "BSE" then
    symbol ++ (if exchange = "NSE" then ".NS" else ".BO")
  else if exchange = "ASX" then symbol ++ ".AX"
  else symbol

/-- The tick of a bar. -/
def tickOf (symbol exchange : String) (bar : YfBar) : RawTick :=
  { symbol := symbol
    exchange := exchange
    ltp := bar.close
    volume := bar.volume
    timestampMs := bar.timestampMs }

/-- The loop over the rows. A close that is NaN is not `<= 0`. -/
def ticksOf (symbol exchange : String) : List (Except Exc YfBar) → Except Exc (List RawTick)
  | [] => .ok []
  | row :: rows => do
      let bar ← row
      let ticks ← ticksOf symbol exchange rows
      return if bar.close.le .zero then ticks else tickOf symbol exchange bar :: ticks

/-- `fetch_ticks`. -/
def YFinanceFallback.fetchTicks (f : YFinanceFallback) (symbol exchange : String) :
    List RawTick :=
  match f.download with
  | none => []
  | some download =>
      match download (yfTicker symbol exchange)
          (String.ofList (intText (f.periodMinutes + 1)) ++ "m") with
      | .error _ => []
      | .ok none => []
      | .ok (some rows) => (ticksOf symbol exchange rows).toOption.getD []

/-- What yfinance promises of the interval `1m`: the bars of a frame are labelled with the starts of
their minutes, and come in order. -/
def YFinanceFallback.OneMinute (f : YFinanceFallback) : Prop :=
  ∀ download ticker period, ∀ bars : List YfBar, f.download = some download →
    download ticker period = .ok (some (bars.map .ok)) →
      (∀ bar ∈ bars, candleInterval1m * 1000 ∣ bar.timestampMs) ∧
        bars.Pairwise fun bar bar' => bar.timestampMs < bar'.timestampMs

/-! ## What is fetched -/

section Fetched

variable {symbol exchange : String} {rows : List (Except Exc YfBar)} {ticks : List RawTick}
  {f : YFinanceFallback}

/-- The ticks are those of the rows with a price. -/
theorem ticksOf_eq_ok (h : ticksOf symbol exchange rows = .ok ticks) :
    ∃ bars : List YfBar, rows = bars.map .ok ∧
      ticks = (bars.filter fun bar => !bar.close.le .zero).map (tickOf symbol exchange) := by
  induction rows generalizing ticks with
  | nil => exact ⟨[], rfl, (Except.ok.inj h).symm⟩
  | cons row rows ih =>
      rw [ticksOf, bind_eq_ok_iff] at h
      rcases h with ⟨bar, rfl, h⟩
      rw [bind_eq_ok_iff] at h
      rcases h with ⟨rest, hrest, h⟩
      rcases ih hrest with ⟨bars, rfl, hticks⟩
      refine ⟨bar :: bars, rfl, ?_⟩
      rw [← Except.ok.inj h, hticks]
      cases hprice : bar.close.le .zero with
      | true => rw [if_pos rfl, List.filter_cons_of_neg (by simp [hprice])]
      | false => rw [if_neg Bool.false_ne_true, List.filter_cons_of_pos (by simp [hprice])]; rfl

/-- The ticks of a fetch have a price, are of one instrument and at the starts of minutes, and come
in order. -/
theorem fetchTicks_minutes (h : f.OneMinute) (symbol exchange : String) :
    (∀ t ∈ f.fetchTicks symbol exchange, t.ltp.le .zero = false ∧
      t.key = joinKey exchange symbol ∧ candleInterval1m * 1000 ∣ t.timestampMs) ∧
    (f.fetchTicks symbol exchange).Pairwise fun t u => t.timestampMs < u.timestampMs := by
  rw [YFinanceFallback.fetchTicks]
  split
  · simp
  · rename_i download hdownload
    split
    · simp
    · simp
    · rename_i rows hrows
      cases hticks : ticksOf symbol exchange rows with
      | error e => simp [Except.toOption]
      | ok ticks =>
          rcases ticksOf_eq_ok hticks with ⟨bars, rfl, rfl⟩
          rcases h download _ _ bars hdownload hrows with ⟨hminutes, hascending⟩
          refine ⟨?_, ?_⟩
          · intro t ht
            rcases List.mem_map.mp ht with ⟨bar, hbar, rfl⟩
            rw [List.mem_filter, Bool.not_eq_true'] at hbar
            exact ⟨hbar.2, rfl, hminutes bar hbar.1⟩
          · show ((bars.filter _).map (tickOf symbol exchange)).Pairwise _
            rw [List.pairwise_map]
            exact hascending.filter _

end Fetched

/-! ## Which ticks are accepted -/

section Accepted

variable {v : TickSequenceValidator} {nowMs : ℤ} {tick : RawTick}

/-- The validator lets a tick pass. -/
structure Passes (v : TickSequenceValidator) (nowMs : ℤ) (tick : RawTick) : Prop where
  price : tick.ltp.le .zero = false
  volume : 0 ≤ tick.volume
  future : tick.timestampMs ≤ nowMs + tickMaxFutureMs
  sequence : ∀ last, v.lastTsMs.get? tick.key = some last →
    last - tickMaxBackwardMs ≤ tick.timestampMs

/-- What becomes of the validator then. -/
def TickSequenceValidator.remember (v : TickSequenceValidator) (tick : RawTick) :
    TickSequenceValidator :=
  { lastTsMs := v.lastTsMs.set tick.key tick.timestampMs }

theorem validate_of_passes (h : Passes v nowMs tick) :
    v.validate nowMs tick = .ok (v.remember tick) := by
  rw [TickSequenceValidator.validate, if_neg (by rw [h.price]; exact Bool.false_ne_true),
    if_neg (not_lt.mpr h.volume), if_neg (not_lt.mpr h.future)]
  split
  · rename_i last hlast
    rw [if_neg (not_lt.mpr (h.sequence last hlast))]
    rfl
  · rfl

theorem validate_eq_ok_iff {v' : TickSequenceValidator} :
    v.validate nowMs tick = .ok v' ↔ Passes v nowMs tick ∧ v' = v.remember tick := by
  constructor
  · intro h
    rcases validate_ok h with ⟨hprice, hvolume, hfuture, hsequence, hv'⟩
    exact ⟨⟨hprice, hvolume, hfuture, hsequence⟩, hv'⟩
  · rintro ⟨h, rfl⟩
    exact validate_of_passes h

instance (v : TickSequenceValidator) (nowMs : ℤ) (tick : RawTick) :
    Decidable (Passes v nowMs tick) :=
  match h : v.validate nowMs tick with
  | .ok _ => .isTrue (validate_eq_ok_iff.mp h).1
  | .error _ => .isFalse fun hpasses => nomatch h.symm.trans (validate_of_passes hpasses)

theorem accepted_cons (v : TickSequenceValidator) (a : Arrival) (rest : List Arrival) :
    v.accepted (a :: rest) =
      if Passes v a.nowMs a.tick then a.tick :: (v.remember a.tick).accepted rest
      else v.accepted rest := by
  rw [TickSequenceValidator.accepted]
  by_cases h : Passes v a.nowMs a.tick
  · rw [if_pos h, validate_of_passes h]
  · rw [if_neg h]
    cases hvalid : v.validate a.nowMs a.tick with
    | ok v' => exact absurd (validate_eq_ok_iff.mp hvalid).1 h
    | error e => rfl

/-- A tick that passes does not stand in the way of a later one. -/
theorem passes_remember_iff {a b : Arrival} (ha : Passes v a.nowMs a.tick)
    (hle : a.tick.key = b.tick.key → a.tick.timestampMs ≤ b.tick.timestampMs) :
    Passes (v.remember a.tick) b.nowMs b.tick ↔ Passes v b.nowMs b.tick := by
  have hback : 0 ≤ tickMaxBackwardMs := by decide
  have hsequence : (∀ last, (v.remember a.tick).lastTsMs.get? b.tick.key = some last →
      last - tickMaxBackwardMs ≤ b.tick.timestampMs) ↔
      ∀ last, v.lastTsMs.get? b.tick.key = some last →
        last - tickMaxBackwardMs ≤ b.tick.timestampMs := by
    by_cases hkey : a.tick.key = b.tick.key
    · have hle := hle hkey
      rw [TickSequenceValidator.remember, hkey, Dict.get?_set_self, ← hkey]
      constructor
      · intro _ last hlast
        have hfirst := ha.sequence last hlast
        omega
      · intro _ last hlast
        rw [← Option.some.inj hlast]
        omega
    · rw [TickSequenceValidator.remember, Dict.get?_set_of_ne _ _ (Ne.symm hkey)]
  constructor
  · intro h
    exact ⟨h.price, h.volume, h.future, hsequence.mp h.sequence⟩
  · intro h
    exact ⟨h.price, h.volume, h.future, hsequence.mpr h.sequence⟩

/-- Of ticks in order each is accepted exactly if it would be as the first of them. -/
theorem accepted_of_ascending {arrivals : List Arrival}
    (h : arrivals.Pairwise fun a b =>
      a.tick.key = b.tick.key → a.tick.timestampMs ≤ b.tick.timestampMs) :
    v.accepted arrivals =
      (arrivals.filter fun a => decide (Passes v a.nowMs a.tick)).map (·.tick) := by
  induction arrivals generalizing v with
  | nil => rfl
  | cons a rest ih =>
      rw [List.pairwise_cons] at h
      rw [accepted_cons]
      by_cases hpasses : Passes v a.nowMs a.tick
      · have hrest : (rest.filter fun b => decide (Passes (v.remember a.tick) b.nowMs b.tick)) =
            rest.filter fun b => decide (Passes v b.nowMs b.tick) := by
          apply List.filter_congr
          intro b hb
          rw [decide_eq_decide]
          exact passes_remember_iff hpasses (h.1 b hb)
        rw [if_pos hpasses, ih h.2, hrest, List.filter_cons_of_pos (by simpa using hpasses)]
        rfl
      · rw [if_neg hpasses, ih h.2, List.filter_cons_of_neg (by simpa using hpasses)]

end Accepted

/-! ## The bars that are accepted -/

section Minutes

variable {f : YFinanceFallback} {symbol exchange : String} {v : TickSequenceValidator}

/-- The minute that starts at `start` is not over for the validator: it is later than the one of
the last tick, or it is that minute, and the tick was in its first half second. -/
def MinuteOpen (v : TickSequenceValidator) (key : String) (start : ℤ) : Bool :=
  (v.lastTsMs.get? key).all fun last =>
    decide (barStartMs last candleInterval1m < start ∨
      barStartMs last candleInterval1m = start ∧ last ≤ start + tickMaxBackwardMs)

/-- For the start of a minute, the test of the sequence is one of minutes. -/
theorem sequence_iff {last start : ℤ} (h : candleInterval1m * 1000 ∣ start) :
    last - tickMaxBackwardMs ≤ start ↔
      barStartMs last candleInterval1m < start ∨
        barStartMs last candleInterval1m = start ∧ last ≤ start + tickMaxBackwardMs := by
  rcases h with ⟨n, rfl⟩
  simp only [barStartMs, candleInterval1m, tickMaxBackwardMs, Int.reduceMul]
  rw [Int.fdiv_eq_ediv_of_nonneg last (by omega)]
  omega

/-- Of the ticks of a fetch those are accepted that have a volume, are not in the future and are of
an open minute. -/
theorem fetched_accepted (h : f.OneMinute) (v : TickSequenceValidator) {arrivals : List Arrival}
    (hfetched : arrivals.map (·.tick) = f.fetchTicks symbol exchange) :
    v.accepted arrivals =
      (arrivals.filter fun a => decide (0 ≤ a.tick.volume ∧
        a.tick.timestampMs ≤ a.nowMs + tickMaxFutureMs ∧
        MinuteOpen v (joinKey exchange symbol) a.tick.timestampMs)).map (·.tick) := by
  rcases fetchTicks_minutes h symbol exchange with ⟨hticks, hascending⟩
  rw [← hfetched, List.pairwise_map] at hascending
  have hmem : ∀ a ∈ arrivals, a.tick ∈ f.fetchTicks symbol exchange := by
    intro a ha
    rw [← hfetched]
    exact List.mem_map_of_mem ha
  rw [accepted_of_ascending (hascending.imp fun hlt _ => hlt.le)]
  congr 1
  apply List.filter_congr
  intro a ha
  rcases hticks a.tick (hmem a ha) with ⟨hprice, hkey, hminute⟩
  rw [decide_eq_decide, MinuteOpen, Option.all_eq_true]
  constructor
  · intro hpasses
    refine ⟨hpasses.volume, hpasses.future, ?_⟩
    intro last hlast
    rw [← hkey] at hlast
    exact decide_eq_true ((sequence_iff hminute).mp (hpasses.sequence last hlast))
  · rintro ⟨hvolume, hfuture, hopen⟩
    refine { price := hprice, volume := hvolume, future := hfuture, sequence := ?_ }
    intro last hlast
    rw [hkey] at hlast
    exact (sequence_iff hminute).mpr (of_decide_eq_true (hopen last hlast))

end Minutes

/-- The bars of the first two minutes. -/
def firstBars : List YfBar :=
  [{ close := (infyTick 0).tick.ltp, volume := 40, timestampMs := 0 },
    { close := (infyTick 0).tick.ltp, volume := 25, timestampMs := 60000 }]

/-- A fallback that always has them. -/
def twoMinutes : YFinanceFallback where
  download := some fun _ _ => .ok (some (firstBars.map .ok))

theorem oneMinute_twoMinutes : twoMinutes.OneMinute := by
  intro download ticker period bars hdownload hbars
  rcases Option.some.inj hdownload with rfl
  have hinjective : Function.Injective (Except.ok : YfBar → Except Exc YfBar) :=
    fun _ _ hok => Except.ok.inj hok
  have hlist : firstBars = bars :=
    List.map_injective_iff.mpr hinjective (Option.some.inj (Except.ok.inj hbars))
  rw [← hlist]
  exact ⟨by decide, by simp [firstBars]⟩

/-- Their ticks, given to the agent two seconds into the second minute. -/
def twoDeliveries : List Delivery :=
  (twoMinutes.fetchTicks "INFY" "NSE").map fun tick =>
    { nowMs := 62000, tick := tick, now := 62 }

theorem tick_twoDeliveries :
    twoDeliveries.map (·.tick) = twoMinutes.fetchTicks "INFY" "NSE" := by
  rw [twoDeliveries, List.map_map]
  exact List.map_id _

/-- After a tick late in the first minute only the bar of the second is accepted. -/
theorem second_minute_accepted :
    (({ lastTsMs := Dict.empty.set "NSE:INFY" 59000 } : TickSequenceValidator).accepted
      (twoDeliveries.map (·.toArrival))).map (·.timestampMs) = [60000] := by
  rw [@fetched_accepted twoMinutes "INFY" "NSE" oneMinute_twoMinutes _ _
    (by rw [List.map_map]; exact tick_twoDeliveries)]
  decide +kernel

/-! ## Runs -/

/-- The ticks that a step gives to `inject_tick`. -/
def injected (s : Feed) : FeedOp → List Delivery
  | .wsTick d => [d]
  | .connection _ => []
  | .watchdog w =>
      if s.agent.mode = .live ∧ wsFallbackTimeoutSeconds < w.now - s.agent.lastTickTs ∧
          0 < s.agent.lastTickTs then
        w.fallback
      else []

/-- The ticks that a step has accepted. -/
def acceptedIn (t : Trans Feed FeedOp Unit) : List RawTick :=
  t.pre.agent.validator.accepted ((injected t.pre t.op).map (·.toArrival))

/-- The ticks of `_run_fallback` are those of some fetches. -/
def Iteration.Fetched (w : Iteration) : Prop :=
  ∃ calls : List (YFinanceFallback × String × String), (∀ c ∈ calls, c.1.OneMinute) ∧
    w.fallback.map (·.tick) = calls.flatMap fun c => c.1.fetchTicks c.2.1 c.2.2

/-- A tick that does not fall into an earlier bar than the last one. -/
def KeepsBar (v : TickSequenceValidator) (t : RawTick) : Prop :=
  ∀ last, v.lastTsMs.get? t.key = some last →
    barStartMs last candleInterval1m ≤ barStartMs t.timestampMs candleInterval1m

/-- The agent has accepted these ticks, and no others. -/
structure HasAccepted (a : DataIngestionAgent) (ticks : List RawTick) : Prop where
  agg1m : a.agg1m = (CandleAggregator.mk candleInterval1m candleInterval1m_pos .empty).after ticks
  agg5m : a.agg5m = (CandleAggregator.mk candleInterval5m candleInterval5m_pos .empty).after ticks
  last : ∀ key, a.validator.lastTsMs.get? key =
    (ticks.filter fun t => decide (t.key = key)).getLast?.map (·.timestampMs)

section Runs

variable {a : DataIngestionAgent} {ticks : List RawTick} {s : Feed}

theorem HasAccepted.injectTick (h : HasAccepted a ticks) (d : Delivery) :
    HasAccepted (a.injectTick d).1 (ticks ++ a.validator.accepted [d.toArrival]) := by
  rw [accepted_cons]
  by_cases hpasses : Passes a.validator d.nowMs d.tick
  · have hvalid := validate_of_passes hpasses
    rw [if_pos hpasses, DataIngestionAgent.injectTick, hvalid]
    show HasAccepted _ (ticks ++ [d.tick])
    refine { agg1m := ?_, agg5m := ?_, last := ?_ }
    · rw [CandleAggregator.after_concat, ← h.agg1m]
    · rw [CandleAggregator.after_concat, ← h.agg5m]
    · intro key
      rw [List.filter_append]
      by_cases hkey : d.tick.key = key
      · subst hkey
        simp [TickSequenceValidator.remember]
      · simp [TickSequenceValidator.remember, hkey, Dict.get?_set_of_ne _ _ (Ne.symm hkey), h.last]
  · have herror : ∃ e, a.validator.validate d.nowMs d.tick = .error e := by
      cases hvalid : a.validator.validate d.nowMs d.tick with
      | ok v' => exact absurd (validate_eq_ok_iff.mp hvalid).1 hpasses
      | error e => exact ⟨e, rfl⟩
    rcases herror with ⟨e, he⟩
    rw [if_neg hpasses, DataIngestionAgent.injectTick_error he]
    show HasAccepted a (ticks ++ [])
    rw [List.append_nil]
    exact h

/-- A call of `inject_tick` leaves the validator that goes on with the others. -/
theorem accepted_cons_inject (a : DataIngestionAgent) (d : Delivery) (ds : List Delivery) :
    a.validator.accepted ((d :: ds).map (·.toArrival)) =
      a.validator.accepted [d.toArrival] ++
        (a.injectTick d).1.validator.accepted (ds.map (·.toArrival)) := by
  rw [List.map_cons, TickSequenceValidator.accepted, TickSequenceValidator.accepted,
    DataIngestionAgent.injectTick]
  cases a.validator.validate d.nowMs d.tick with
  | ok v => rfl
  | error e => rfl

theorem HasAccepted.injectAll (h : HasAccepted a ticks) (ds : List Delivery) :
    HasAccepted (a.injectAll ds).1 (ticks ++ a.validator.accepted (ds.map (·.toArrival))) := by
  induction ds generalizing a ticks with
  | nil =>
      show HasAccepted a (ticks ++ [])
      rw [List.append_nil]
      exact h
  | cons d ds ih =>
      rw [accepted_cons_inject, ← List.append_assoc]
      exact ih (h.injectTick d)

/-- Another tick keeps the bars in order exactly if it keeps its own. -/
theorem barsAscend_concat_iff (h : HasAccepted a ticks) (t : RawTick) :
    BarsAscend candleInterval1m (ticks ++ [t]) ↔
      BarsAscend candleInterval1m ticks ∧ KeepsBar a.validator t := by
  rw [BarsAscend, List.pairwise_append, KeepsBar, h.last]
  constructor
  · rintro ⟨hticks, -, hnew⟩
    refine ⟨hticks, ?_⟩
    intro last hlast
    rcases Option.map_eq_some_iff.mp hlast with ⟨u, hu, rfl⟩
    have hmem := List.mem_filter.mp (List.mem_of_getLast? hu)
    exact hnew u hmem.1 t (List.mem_singleton_self t) (of_decide_eq_true hmem.2)
  · rintro ⟨hticks, hlast⟩
    refine ⟨hticks, List.pairwise_singleton _ _, ?_⟩
    intro u hu t' ht' hkey
    rw [List.mem_singleton.mp ht'] at hkey ⊢
    have hmem : u ∈ ticks.filter fun t' => decide (t'.key = t.key) :=
      List.mem_filter.mpr ⟨hu, decide_eq_true hkey⟩
    -- the last tick of the key is in no earlier bar than any of them
    rcases List.eq_nil_or_concat (ticks.filter fun t' => decide (t'.key = t.key)) with
      hnil | ⟨front, w, hfront⟩
    · rw [hnil] at hmem
      cases hmem
    · have hw : barStartMs w.timestampMs candleInterval1m ≤
          barStartMs t.timestampMs candleInterval1m := by
        apply hlast
        rw [hfront]
        simp
      have hpairs := hticks.filter fun t' => decide (t'.key = t.key)
      rw [hfront, List.concat_eq_append, List.pairwise_append] at hpairs
      rw [hfront, List.concat_eq_append, List.mem_append, List.mem_singleton] at hmem
      have hwkey : w.key = t.key := by
        have hwmem : w ∈ ticks.filter fun t' => decide (t'.key = t.key) := by
          rw [hfront]
          simp
        exact of_decide_eq_true (List.mem_filter.mp hwmem).2
      rcases hmem with hmem | rfl
      · exact (hpairs.2.2 u hmem w (List.mem_singleton_self w) (hkey.trans hwkey.symm)).trans hw
      · exact hw

/-- A tick at the start of a minute keeps its bar if it is accepted. -/
theorem keepsBar_of_minute {v : TickSequenceValidator} {nowMs : ℤ} {t : RawTick}
    (h : Passes v nowMs t) (hminute : candleInterval1m * 1000 ∣ t.timestampMs) : KeepsBar v t := by
  intro last hlast
  have hstart : barStartMs t.timestampMs candleInterval1m = t.timestampMs := by
    rcases hminute with ⟨n, hn⟩
    rw [hn]
    simp only [barStartMs, candleInterval1m, Int.reduceMul]
    rw [Int.fdiv_eq_ediv_of_nonneg _ (by omega)]
    omega
  rw [hstart]
  rcases (sequence_iff hminute).mp (h.sequence last hlast) with hlt | ⟨heq, -⟩
  · exact hlt.le
  · exact heq.le

/-- Ticks at the starts of minutes do not change whether the bars are in order. -/
theorem barsAscend_minutes (h : HasAccepted a ticks) {ds : List Delivery}
    (hminutes : ∀ d ∈ ds, candleInterval1m * 1000 ∣ d.tick.timestampMs) :
    BarsAscend candleInterval1m (ticks ++ a.validator.accepted (ds.map (·.toArrival))) ↔
      BarsAscend candleInterval1m ticks := by
  induction ds generalizing a ticks with
  | nil =>
      show BarsAscend _ (ticks ++ []) ↔ _
      rw [List.append_nil]
  | cons d ds ih =>
      rw [List.forall_mem_cons] at hminutes
      rw [accepted_cons_inject, ← List.append_assoc, ih (h.injectTick d) hminutes.2, accepted_cons]
      by_cases hpasses : Passes a.validator d.nowMs d.tick
      · rw [if_pos hpasses]
        show BarsAscend _ (ticks ++ [d.tick]) ↔ _
        rw [barsAscend_concat_iff h]
        exact and_iff_left (keepsBar_of_minute hpasses hminutes.1)
      · rw [if_neg hpasses]
        show BarsAscend _ (ticks ++ []) ↔ _
        rw [List.append_nil]

/-- An accepted tick of the socket keeps its bar. -/
def SocketKeepsBar (t : Trans Feed FeedOp Unit) : Prop :=
  ∀ d, t.op = .wsTick d → Passes t.pre.agent.validator d.nowMs d.tick →
    KeepsBar t.pre.agent.validator d.tick

/-- The ticks of a fallback are at the starts of minutes. -/
theorem Iteration.Fetched.minutes {w : Iteration} (h : w.Fetched) :
    ∀ d ∈ w.fallback, candleInterval1m * 1000 ∣ d.tick.timestampMs := by
  rcases h with ⟨calls, hcalls, hticks⟩
  intro d hd
  have hmem : d.tick ∈ calls.flatMap fun c => c.1.fetchTicks c.2.1 c.2.2 := by
    rw [← hticks]
    exact List.mem_map_of_mem hd
  rcases List.mem_flatMap.mp hmem with ⟨c, hc, hfetched⟩
  exact ((fetchTicks_minutes (hcalls c hc) _ _).1 d.tick hfetched).2.2

/-- A step gives the agent the ticks that are injected, whatever else it does. -/
theorem hasAccepted_next (h : HasAccepted s.agent ticks) (op : FeedOp) :
    HasAccepted (feedMachine.next s op).agent (ticks ++ acceptedIn (feedMachine.fire s op)) := by
  cases op with
  | wsTick d => exact h.injectTick d
  | connection up => exact h.injectAll []
  | watchdog w =>
      show HasAccepted (s.agent.watchdog s.wsConnected w) (ticks ++ s.agent.validator.accepted
        ((injected s (.watchdog w)).map (·.toArrival)))
      rw [DataIngestionAgent.watchdog, injected]
      split
      · have hsame : HasAccepted (s.agent.enterDegraded w.setCall) ticks ∧
            (s.agent.enterDegraded w.setCall).validator = s.agent.validator := by
          rw [DataIngestionAgent.enterDegraded]
          split
          · exact ⟨h, rfl⟩
          · exact ⟨⟨h.agg1m, h.agg5m, h.last⟩, rfl⟩
        rw [DataIngestionAgent.runFallback, ← hsame.2]
        exact hsame.1.injectAll w.fallback
      · split
        · show HasAccepted _ (ticks ++ [])
          rw [List.append_nil]
          exact ⟨h.agg1m, h.agg5m, h.last⟩
        · exact h.injectAll []

/-- A step keeps the bars in order exactly if the socket does. -/
theorem barsAscend_next_iff (h : HasAccepted s.agent ticks) {op : FeedOp}
    (hfetched : ∀ w, op = .watchdog w → w.Fetched) :
    BarsAscend candleInterval1m (ticks ++ acceptedIn (feedMachine.fire s op)) ↔
      BarsAscend candleInterval1m ticks ∧ SocketKeepsBar (feedMachine.fire s op) := by
  cases op with
  | wsTick d =>
      show BarsAscend _ (ticks ++ s.agent.validator.accepted [d.toArrival]) ↔ _
      rw [accepted_cons]
      by_cases hpasses : Passes s.agent.validator d.nowMs d.tick
      · rw [if_pos hpasses]
        show BarsAscend _ (ticks ++ [d.tick]) ↔ _
        rw [barsAscend_concat_iff h]
        refine and_congr_right fun _ => ⟨?_, fun hsocket => hsocket d rfl hpasses⟩
        intro hkeeps d' hd' _
        rcases FeedOp.wsTick.inj hd' with rfl
        exact hkeeps
      · rw [if_neg hpasses]
        show BarsAscend _ (ticks ++ []) ↔ _
        rw [List.append_nil]
        refine (and_iff_left ?_).symm
        intro d' hd' hpasses'
        rcases FeedOp.wsTick.inj hd' with rfl
        exact absurd hpasses' hpasses
  | connection up =>
      show BarsAscend _ (ticks ++ []) ↔ _
      rw [List.append_nil]
      exact (and_iff_left fun d hd => nomatch hd).symm
  | watchdog w =>
      have hsocket : SocketKeepsBar (feedMachine.fire s (.watchdog w)) := fun d hd => nomatch hd
      rw [and_iff_left hsocket]
      refine barsAscend_minutes h ?_
      show ∀ d ∈ injected s (.watchdog w), _
      rw [injected]
      split
      · exact (hfetched w rfl).minutes
      · simp

theorem barsAscend_run_iff (h : HasAccepted s.agent ticks) {ops : List FeedOp}
    (hfetched : ∀ w, .watchdog w ∈ ops → w.Fetched) :
    HasAccepted (feedMachine.run s ops).agent
        (ticks ++ (feedMachine.trans s ops).flatMap acceptedIn) ∧
      (BarsAscend candleInterval1m (ticks ++ (feedMachine.trans s ops).flatMap acceptedIn) ↔
        BarsAscend candleInterval1m ticks ∧ ∀ t ∈ feedMachine.trans s ops, SocketKeepsBar t) := by
  induction ops generalizing s ticks with
  | nil =>
      show HasAccepted s.agent (ticks ++ []) ∧ (BarsAscend _ (ticks ++ []) ↔ _)
      rw [List.append_nil]
      exact ⟨h, (and_iff_left fun t ht => nomatch ht).symm⟩
  | cons op ops ih =>
      have hop : ∀ w, op = .watchdog w → w.Fetched := by
        rintro w rfl
        exact hfetched w List.mem_cons_self
      have hone := barsAscend_next_iff h hop
      rcases ih (hasAccepted_next h op) fun w hw => hfetched w (List.mem_cons_of_mem _ hw) with
        ⟨hagent, hrest⟩
      rw [Machine.trans_cons, List.flatMap_cons, ← List.append_assoc]
      refine ⟨hagent, ?_⟩
      rw [hrest, hone, List.forall_mem_cons, and_assoc]

end Runs

/-- One-minute bars in order are five-minute bars in order. -/
theorem BarsAscend.five {ticks : List RawTick} (h : BarsAscend candleInterval1m ticks) :
    BarsAscend candleInterval5m ticks := by
  refine h.imp ?_
  intro t u hle hkey
  have hone := hle hkey
  simp only [barStartMs, candleInterval1m, candleInterval5m, Int.reduceMul] at hone ⊢
  rw [Int.fdiv_eq_ediv_of_nonneg _ (by omega), Int.fdiv_eq_ediv_of_nonneg _ (by omega)] at hone ⊢
  omega

/-- Over any run of a feed whose fallback is that of yfinance: the agent has aggregated the ticks
that were accepted, of the socket and of the fallback. Their bars are in order exactly if every
accepted tick of the socket keeps its bar, and then the candles of both intervals are the groups of
the ticks, each bar once. -/
theorem only_socket_reopens (buffer : TickBuffer) (statusRedis : Option Bool) (wsConnected : Bool)
    (startedAt : ℚ) {ops : List FeedOp} (hfetched : ∀ w, .watchdog w ∈ ops → w.Fetched) :
    let start := Feed.start buffer statusRedis wsConnected startedAt
    let ticks := (feedMachine.trans start ops).flatMap acceptedIn
    HasAccepted (feedMachine.run start ops).agent ticks ∧
      (BarsAscend candleInterval1m ticks ↔
        ∀ t ∈ feedMachine.trans start ops, SocketKeepsBar t) ∧
      (BarsAscend candleInterval1m ticks →
        GroupBy candleInterval1m ticks (candles1m ticks) ∧
          GroupBy candleInterval5m ticks (candles5m ticks)) := by
  intro start ticks
  have hstart : HasAccepted start.agent [] := { agg1m := rfl, agg5m := rfl, last := fun _ => rfl }
  rcases barsAscend_run_iff hstart hfetched with ⟨hagent, hiff⟩
  refine ⟨hagent, ?_, ?_⟩
  · rw [List.nil_append] at hiff
    rw [hiff]
    exact and_iff_right List.Pairwise.nil
  · intro hascend
    exact ⟨CandleAggregator.groupBy_candles (a := ⟨candleInterval1m, candleInterval1m_pos, .empty⟩)
        (CandleAggregator.grouped_after _ _ hascend),
      CandleAggregator.groupBy_candles (a := ⟨candleInterval5m, candleInterval5m_pos, .empty⟩)
        (CandleAggregator.grouped_after _ _ hascend.five)⟩

/-- A tick of the socket, and an outage that is noticed three seconds later. -/
def shortOutage : List FeedOp :=
  [.wsTick { toArrival := { infyTick 59000 with nowMs := 59000 }, now := 59 },
    .watchdog { now := 62, fallback := twoDeliveries }]

/-- The bar of the second minute follows the tick of the first one. -/
theorem shortOutage_in_order :
    let ticks :=
      (feedMachine.trans (.start (.new false) none true 0) shortOutage).flatMap acceptedIn
    ticks.map (·.timestampMs) = [59000, 60000] ∧ BarsAscend candleInterval1m ticks ∧
      GroupBy candleInterval1m ticks (candles1m ticks) := by
  have hfetched : ∀ w, .watchdog w ∈ shortOutage → w.Fetched := by
    intro w hw
    have hsame : w = { now := 62, fallback := twoDeliveries } := by
      simpa [shortOutage] using hw
    rw [hsame]
    refine ⟨[(twoMinutes, "INFY", "NSE")], ?_, ?_⟩
    · simpa using oneMinute_twoMinutes
    · rw [List.flatMap_singleton]
      exact tick_twoDeliveries
  have hrun := only_socket_reopens (.new false) none true 0 hfetched
  have hascend := hrun.2.1.mpr (by
    -- before the tick of the socket there is none
    intro t ht d hd _ last hlast
    rw [shortOutage, Machine.trans_cons, List.mem_cons] at ht
    rcases ht with rfl | ht
    · cases hlast
    · simp only [Machine.trans_cons, Machine.trans_nil, List.mem_singleton] at ht
      rw [ht] at hd
      cases hd)
  exact ⟨by decide +kernel, hascend, (hrun.2.2 hascend).1⟩

end Intraday.Ingestion
