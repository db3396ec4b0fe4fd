import Intraday.Lib.PyValue
import Intraday.Storage.Aggregates
import Mathlib.Data.List.Sort

/-!
# Intraday.Storage.Backfill — `shared/storage/backfill.py`

A backfill writes the rows of a history into `ohlcv_1m`, each at its own granularity: bars of one
minute for up to seven days, and bars of five minutes beyond. The views group whatever is there.

* `run_backfills`: a backfill is one write of its candles, or nothing if it raises before;
* `fiveMinute_queries_agree_iff`: the five-minute candles of a symbol are the bars that are stored
  for it exactly if every one was stored at a five-minute mark.
-/

namespace Intraday.Storage.Repositories

open Intraday.Lib
open Intraday.Lib.Python (Exc)

/-! ## A history -/

/-- A row of `history()`. `iterrows` has all of its numbers as floats. -/
structure HistoryRow where
  time : ℤ
  openPrice : PyFloat
  high : PyFloat
  low : PyFloat
  close : PyFloat
  volume : PyFloat

/-- `_exchange_for_symbol`. -/
def exchangeForSymbol (symbol : String) : String :=
  if ".NS".toList.isSuffixOf symbol.toList ∨ ".BO".toList.isSuffixOf symbol.toList then "NSE"
  else if ".AX".toList.isSuffixOf symbol.toList then "ASX"
  else "UNKNOWN"

/-- The candle of a row. -/
def candleOf (symbol exchange : String) (row : HistoryRow) : Except Exc OHLCVCandle := do
  return {
    time := row.time
    symbol := symbol
    exchange := exchange
    openPrice := row.openPrice
    high := row.high
    low := row.low
    close := row.close
    volume := ← row.volume.toInt }

/-- `candles_from_history`. -/
def candlesFromHistory (symbol exchange : String) (rows : List HistoryRow) :
    Except Exc (List OHLCVCandle) := rows.mapM (candleOf symbol exchange)

/-! ## Backfills -/

/-- The arguments of `backfill`, and what `fetch_history` does with a symbol, a period and an
interval. -/
structure BackfillArgs where
  symbol : String
  days : ℤ
  exchange : Option String := none
  fetchHistory : String → String → String → Except Exc (List HistoryRow)

/-- `exchange or _exchange_for_symbol(symbol)`. -/
def BackfillArgs.resolvedExchange (a : BackfillArgs) : String :=
  match a.exchange with
  | none | some "" => exchangeForSymbol a.symbol
  | some exchange => exchange

/-- `ONE_MINUTE_MAX_BACKFILL_DAYS`. -/
def oneMinuteMaxBackfillDays : ℤ := 7

/-- The interval that is asked for. -/
def BackfillArgs.interval (a : BackfillArgs) : String :=
  if a.days ≤ oneMinuteMaxBackfillDays then "1m" else "5m"

/-- The candles of a backfill. -/
def BackfillArgs.candles (a : BackfillArgs) : Except Exc (List OHLCVCandle) := do
  let rows ← a.fetchHistory a.symbol (String.ofList (intText a.days) ++ "d") a.interval
  candlesFromHistory a.symbol a.resolvedExchange rows

/-- What a backfill raises. -/
inductive BackfillError where
  | history (e : Exc)
  | repository (e : RepositoryError)

/-- `backfill`. -/
def backfill (conn : Conn) (a : BackfillArgs) : Conn × Except BackfillError ℕ :=
  match a.candles with
  | .error e => (conn, .error (.history e))
  | .ok candles =>
      let (conn, written) := upsert1m conn candles
      (conn, written.mapError .repository)

/-- A call on the connection. -/
inductive StorageCall where
  | repository (op : Op)
  | backfill (a : BackfillArgs)

/-- What a call returns or raises. -/
inductive StorageReply where
  | repository (reply : Reply)
  | backfill (written : Except BackfillError ℕ)

/-- The repositories and backfills on one connection. -/
def storage (view : String → CandleTable → List OHLCVCandle) :
    Machine Conn StorageCall StorageReply where
  step conn call :=
    match call with
    | .repository op => Prod.map id .repository ((repositories view).step conn op)
    | .backfill a => Prod.map id .backfill (backfill conn a)

/-- The call of a repository that a call makes, if it gets that far. -/
def StorageCall.op? : StorageCall → Option Op
  | .repository op => some op
  | .backfill a =>
      match a.candles with
      | .error _ => none
      | .ok candles => some (.upsert1m candles)

/-- Repository calls and backfills do what the repository calls do that they make. -/
theorem run_backfills (view : String → CandleTable → List OHLCVCandle) (conn : Conn)
    (calls : List StorageCall) :
    (storage view).run conn calls =
      (repositories view).run conn (calls.filterMap StorageCall.op?) := by
  induction calls generalizing conn with
  | nil => rfl
  | cons call calls ih =>
      rw [Machine.run, ih, List.filterMap_cons]
      cases call with
      | repository op => rfl
      | backfill a =>
          have hstep : (storage view).next conn (.backfill a) = (backfill conn a).1 := rfl
          rw [hstep, StorageCall.op?, backfill]
          cases a.candles with
          | error e => rfl
          | ok candles => rfl

/-! ## Bars at five-minute marks -/

/-- A bar at a mark of a width. -/
def OnMark (width : ℤ) (c : OHLCVCandle) : Prop := timeBucket width c.time = c.time

instance (width : ℤ) (c : OHLCVCandle) : Decidable (OnMark width c) :=
  inferInstanceAs (Decidable (_ = _))

section Marks

variable {width : ℤ} {rows : List OHLCVCandle} {symbol exchange : String}

/-- The candles of a symbol. -/
def OfSymbol (symbol exchange : String) (c : OHLCVCandle) : Prop :=
  c.symbol = symbol ∧ c.exchange = exchange

theorem timeBucket_idem (hw : 0 < width) (t : ℤ) :
    timeBucket width (timeBucket width t) = timeBucket width t := by
  have h := timeBucket_timeBucket (k := 1) hw t
  rwa [Int.mul_one] at h

/-- The bars of a view are at marks. -/
theorem onMark_of_mem_view (hw : 0 < width) {c : OHLCVCandle} (h : c ∈ view width rows) :
    OnMark width c := by
  rcases (rollsUp_of_mem_view h).exists_mem with ⟨b, hb⟩
  rcases List.mem_map.mp hb with ⟨r, hr, -⟩
  have htime : timeBucket width r.time = c.time := congrArg CandleKey.time (mem_groupRows.mp hr).2
  rw [OnMark, ← htime, timeBucket_idem hw]

/-- If all bars of a symbol are at marks, each is alone in its bucket. -/
theorem groupRows_eq (hmarks : ∀ r ∈ rows, OfSymbol symbol exchange r → OnMark width r)
    {c : OHLCVCandle} (hc : OfSymbol symbol exchange c) :
    groupRows width rows (candleKey c) =
      rows.filter fun r => decide (candleKey r = candleKey c) := by
  refine List.filter_congr ?_
  intro r hr
  rw [decide_eq_decide]
  by_cases hsymbol : OfSymbol symbol exchange r
  · have hmark : timeBucket width r.time = r.time := hmarks r hr hsymbol
    rw [groupKey, hmark]
    exact Iff.rfl
  · have hne : ∀ time, ({ symbol := r.symbol, exchange := r.exchange, time := time } : CandleKey) ≠
        candleKey c := by
      intro time hkey
      exact hsymbol ⟨(congrArg CandleKey.symbol hkey).trans hc.1,
        (congrArg CandleKey.exchange hkey).trans hc.2⟩
    exact iff_of_false (hne _) (hne _)

/-- The row of a group of one bar is that bar, at the start of its bucket. -/
theorem rollUp_candleKey (c : OHLCVCandle) : rollUp (candleKey c) c [] = c := by
  simp only [rollUp, List.foldl_nil, List.map_nil, List.map_cons, List.sum_cons, List.sum_nil,
    Int.add_zero, candleKey]

/-- If all bars of a symbol are at marks, the view has those bars. -/
theorem mem_view_of_marks (hkeys : (rows.map candleKey).Nodup)
    (hmarks : ∀ r ∈ rows, OfSymbol symbol exchange r → OnMark width r) {c : OHLCVCandle}
    (hc : OfSymbol symbol exchange c) : c ∈ view width rows ↔ c ∈ rows := by
  have hrow : ∀ {r}, r ∈ rows → candleKey r = candleKey c →
      groupRow width rows (candleKey c) = some r := by
    intro r hr hkey
    rw [groupRow, groupRows_eq hmarks hc, ← hkey, filter_key_eq_singleton hkeys hr]
    exact congrArg some (rollUp_candleKey r)
  rw [mem_view]
  constructor
  · intro hview
    have hne : groupRows width rows (candleKey c) ≠ [] := by
      intro hnil
      rw [groupRow, hnil] at hview
      cases hview
    rcases List.exists_mem_of_ne_nil _ hne with ⟨r, hr⟩
    rw [groupRows_eq hmarks hc, List.mem_filter, decide_eq_true_eq] at hr
    have hsame := hrow hr.1 hr.2
    rw [hview, Option.some.injEq] at hsame
    exact hsame ▸ hr.1
  · intro hmem
    exact hrow hmem rfl

/-- The window of a symbol between two times. -/
def windowOf (symbol exchange : String) (start stop : ℤ) : Window :=
  { symbol := symbol, exchange := exchange, start := start, stop := stop }

theorem mem_select {w : Window} {c : OHLCVCandle} :
    c ∈ select w rows ↔ c ∈ rows ∧ w.Has c.symbol c.exchange c.time := by
  rw [select, List.mem_mergeSort, List.mem_filter, decide_eq_true_eq]

/-- The bars of a view are those of the table, in every window of a symbol, exactly if all bars of
the symbol are at marks. -/
theorem select_view_iff (hw : 0 < width) (hkeys : (rows.map candleKey).Nodup) :
    (∀ start stop, select (windowOf symbol exchange start stop) (view width rows) =
        select (windowOf symbol exchange start stop) rows) ↔
      ∀ r ∈ rows, OfSymbol symbol exchange r → OnMark width r := by
  constructor
  · intro hsame r hr hsymbol
    -- the window of this bar alone
    have hselect : r ∈ select (windowOf symbol exchange r.time (r.time + 1)) rows := by
      refine mem_select.mpr ⟨hr, hsymbol.1, hsymbol.2, le_refl r.time, ?_⟩
      exact Int.lt_succ r.time
    rw [← hsame, mem_select] at hselect
    exact onMark_of_mem_view hw hselect.1
  · intro hmarks start stop
    have : Std.Irrefl fun a b : OHLCVCandle => a.time < b.time := ⟨fun a => lt_irrefl a.time⟩
    have : Std.Antisymm fun a b : OHLCVCandle => a.time < b.time :=
      ⟨fun a b hab hba => absurd (lt_trans hab hba) (lt_irrefl a.time)⟩
    refine (pairwise_select _ (nodup_view width rows)).eq_of_mem_iff (pairwise_select _ hkeys) ?_
    intro c
    rw [mem_select, mem_select]
    refine and_congr_left ?_
    intro hhas
    exact mem_view_of_marks hkeys hmarks ⟨hhas.1, hhas.2.1⟩

end Marks

/-- What a query of a symbol returns, if the connection sees a database. -/
theorem queryCandles_of_sees {conn : Conn} {db : Database} (hsees : conn.sees = some db)
    {timeframe : String} {table : Database → List OHLCVCandle}
    (htable : ohlcvTable views timeframe = some table) {w : Window}
    (hquotable : Quotable [w.symbol, w.exchange]) :
    (queryCandles views conn timeframe w).2 = .ok (select w (table db)) := by
  rw [(queryCandles_eq views conn timeframe w).2.2, htable, hsees]
  simp only [if_pos hquotable]
  rfl

/-- Queries of all timeframes fail alike. -/
theorem queryCandles_fails {conn : Conn} {w : Window}
    (h : conn.sees = none ∨ ¬ Quotable [w.symbol, w.exchange]) :
    (queryCandles views conn "5m" w).2 = (queryCandles views conn "1m" w).2 := by
  rw [(queryCandles_eq views conn "5m" w).2.2, (queryCandles_eq views conn "1m" w).2.2]
  by_cases hquotable : Quotable [w.symbol, w.exchange]
  · rw [h.resolve_right (not_not.mpr hquotable)]
    rfl
  · simp only [ohlcvTable, if_neg hquotable]

/-- The candles of a symbol that are stored are at marks exactly if those that were written are. -/
theorem marks_after_iff (db : Database) (ticks : List Tick) (candles : List OHLCVCandle)
    (symbol exchange : String) (width : ℤ) :
    (∀ r ∈ (db.after ticks candles).candles.all, OfSymbol symbol exchange r → OnMark width r) ↔
      ∀ c ∈ db.candles.all ++ candles, OfSymbol symbol exchange c → OnMark width c := by
  -- both sides are about the keys of the candles only
  have hkeys : ∀ {xs ys : List OHLCVCandle},
      (∀ k, (∃ r ∈ xs, candleKey r = k) → ∃ r ∈ ys, candleKey r = k) →
      (∀ r ∈ ys, OfSymbol symbol exchange r → OnMark width r) →
        ∀ r ∈ xs, OfSymbol symbol exchange r → OnMark width r := by
    intro xs ys hsub hys r hr hsymbol
    rcases hsub (candleKey r) ⟨r, hr, rfl⟩ with ⟨r', hr', hkey⟩
    have htime : r'.time = r.time := congrArg CandleKey.time hkey
    have hmark := hys r' hr' ⟨(congrArg CandleKey.symbol hkey).trans hsymbol.1,
      (congrArg CandleKey.exchange hkey).trans hsymbol.2⟩
    rwa [OnMark, htime] at hmark
  have hiff := fun k => @Table.exists_mem_all_foldl_put CandleKey OHLCVCandle _ candleKey candles
    db.candles k
  exact ⟨hkeys fun k => (hiff k).mpr, hkeys fun k => (hiff k).mp⟩

/-- After any repository calls and backfills on a connection, the queries of five-minute candles of
a symbol return what those of one-minute candles return exactly if every candle that was written for
it, before the run or in it, is at a five-minute mark, or if the server has rejected a statement
or the symbol cannot be sent. -/
theorem fiveMinute_queries_agree_iff (db : Database) (calls : List StorageCall)
    (symbol exchange : String) :
    (∀ start stop,
        (queryCandles views ((storage views).run (.connect db) calls) "5m"
            (windowOf symbol exchange start stop)).2 =
          (queryCandles views ((storage views).run (.connect db) calls) "1m"
            (windowOf symbol exchange start stop)).2) ↔
      ((∀ op ∈ calls.filterMap StorageCall.op?, op.Taken) → Quotable [symbol, exchange] →
        ∀ c ∈ db.candles.all ++ sentCandles (calls.filterMap StorageCall.op?),
          OfSymbol symbol exchange c → OnMark fiveMinutes c) := by
  have hsees := (database_run views db (calls.filterMap StorageCall.op?)).1
  rw [run_backfills]
  by_cases htaken : ∀ op ∈ calls.filterMap StorageCall.op?, op.Taken
  · by_cases hquotable : Quotable [symbol, exchange]
    · rw [if_pos htaken] at hsees
      rw [forall_prop_of_true htaken, forall_prop_of_true hquotable,
        ← marks_after_iff db (sentTicks (calls.filterMap StorageCall.op?)),
        ← @select_view_iff fiveMinutes _ symbol exchange (by decide) (Table.nodup_keys _)]
      refine forall_congr' fun start => forall_congr' fun stop => ?_
      have hfive := @queryCandles_of_sees _ _ hsees "5m" _ rfl (windowOf symbol exchange start stop)
        hquotable
      have hone := @queryCandles_of_sees _ _ hsees "1m" _ rfl (windowOf symbol exchange start stop)
        hquotable
      rw [hfive, hone, Except.ok.injEq]
      rfl
    · refine iff_of_true (fun start stop => queryCandles_fails (.inr hquotable)) ?_
      intro _ h
      exact absurd h hquotable
  · rw [if_neg htaken] at hsees
    exact iff_of_true (fun start stop => queryCandles_fails (.inl hsees)) fun h => absurd h htaken

end Intraday.Storage.Repositories
