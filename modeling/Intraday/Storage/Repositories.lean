import Intraday.Lib.PyFloat
import Intraday.Lib.Transaction
import Intraday.Lib.Upsert

/-!
# Intraday.Storage.Repositories — `shared/storage/repositories.py`

Ticks and one-minute candles on one connection. Both repositories write in statements of a hundred
rows and commit after the last one. Nothing ever rolls back: what a call sent before it raised stays
in the transaction, and once the server has rejected a statement, no later call gets through.

* `database_run`: what the calls on a connection see after any run, and what survives it;
* `queryCandles_run`: a query returns the last candle for each time of its window, in order.
-/

namespace Intraday.Storage.Repositories

open Intraday.Lib

/-! ## Rows -/

/-- `Tick`. A time is the instant, in microseconds, that a `datetime` denotes. -/
structure Tick where
  time : ℤ
  symbol : String
  exchange : String
  price : PyFloat
  volume : ℤ
  bid : Option PyFloat := none
  ask : Option PyFloat := none
deriving DecidableEq

/-- `OHLCVCandle`. -/
structure OHLCVCandle where
  time : ℤ
  symbol : String
  exchange : String
  openPrice : PyFloat
  high : PyFloat
  low : PyFloat
  close : PyFloat
  volume : ℤ
deriving DecidableEq

/-- `PRIMARY KEY (symbol, exchange, time)`. -/
structure CandleKey where
  symbol : String
  exchange : String
  time : ℤ
deriving DecidableEq

/-- The key of a candle. -/
def candleKey (c : OHLCVCandle) : CandleKey :=
  { symbol := c.symbol, exchange := c.exchange, time := c.time }

/-- `ohlcv_1m`. -/
abbrev CandleTable := Table CandleKey OHLCVCandle candleKey

/-- The tables `ohlcv_1m` and `ticks`. -/
structure Database where
  candles : CandleTable
  ticks : List Tick

/-- Texts that can be quoted: they have no NUL. -/
def Quotable (texts : List String) : Prop := ∀ text ∈ texts, '\x00' ∉ text.toList

instance (texts : List String) : Decidable (Quotable texts) :=
  inferInstanceAs (Decidable (∀ _ ∈ _, _))

/-- A value of a column of type `BIGINT`. -/
def IsBigint (v : ℤ) : Prop := -2 ^ 63 ≤ v ∧ v < 2 ^ 63

instance (v : ℤ) : Decidable (IsBigint v) := inferInstanceAs (Decidable (_ ∧ _))

/-! ## Statements -/

/-- A page of ticks that can be sent. -/
def QuotableTicks (page : List Tick) : Prop := ∀ t ∈ page, Quotable [t.symbol, t.exchange]

instance (page : List Tick) : Decidable (QuotableTicks page) :=
  inferInstanceAs (Decidable (∀ _ ∈ _, _))

/-- A page of ticks that the server takes. -/
def InsertableTicks (page : List Tick) : Prop := ∀ t ∈ page, IsBigint t.volume

instance (page : List Tick) : Decidable (InsertableTicks page) :=
  inferInstanceAs (Decidable (∀ _ ∈ _, _))

/-- A page of candles that can be sent. -/
def QuotableCandles (page : List OHLCVCandle) : Prop := ∀ c ∈ page, Quotable [c.symbol, c.exchange]

instance (page : List OHLCVCandle) : Decidable (QuotableCandles page) :=
  inferInstanceAs (Decidable (∀ _ ∈ _, _))

/-- A page of candles that the server takes: `ON CONFLICT` may not hit a row twice. -/
def InsertableCandles (page : List OHLCVCandle) : Prop :=
  (∀ c ∈ page, IsBigint c.volume) ∧ (page.map candleKey).Nodup

instance (page : List OHLCVCandle) : Decidable (InsertableCandles page) :=
  inferInstanceAs (Decidable (_ ∧ _))

/-- `INSERT INTO ticks`. -/
def insertTicks (page : List Tick) : Statement Database where
  quotable := decide (QuotableTicks page)
  effect db :=
    if InsertableTicks page then some { db with ticks := db.ticks ++ page } else none

/-- `INSERT INTO ohlcv_1m … ON CONFLICT … DO UPDATE`. -/
def upsertCandles (page : List OHLCVCandle) : Statement Database where
  quotable := decide (QuotableCandles page)
  effect db :=
    if ∀ c ∈ page, IsBigint c.volume then
      (db.candles.insert page).map fun candles => { db with candles := candles }
    else none

/-- The default `page_size` of `execute_values`. -/
def pageSize : ℕ := 100

/-! ## The repositories -/

/-- What a call raises. -/
inductive RepositoryError where
  /-- `ValueError`: `unsupported timeframe` -/
  | unsupportedTimeframe (timeframe : String)
  | sql (e : SqlError)
deriving DecidableEq

/-- A connection to the database. -/
abbrev Conn := Connection Database

/-- Writes rows in pages, and says how many. -/
def writeRows {ρ : Type} (statement : List ρ → Statement Database) (conn : Conn) (rows : List ρ) :
    Conn × Except RepositoryError ℕ :=
  if rows.isEmpty then (conn, .ok 0)
  else
    match conn.write ((pages pageSize rows).map statement) with
    | (conn, .ok ()) => (conn, .ok rows.length)
    | (conn, .error e) => (conn, .error (.sql e))

/-- `TickRepository.insert_many`. -/
def insertMany (conn : Conn) (ticks : List Tick) : Conn × Except RepositoryError ℕ :=
  writeRows insertTicks conn ticks

/-- `OHLCVRepository.upsert_1m`. -/
def upsert1m (conn : Conn) (candles : List OHLCVCandle) : Conn × Except RepositoryError ℕ :=
  writeRows upsertCandles conn candles

/-- `WHERE symbol = … AND exchange = … AND time >= … AND time < …`. -/
structure Window where
  symbol : String
  exchange : String
  start : ℤ
  stop : ℤ
deriving DecidableEq

/-- The row of a symbol and a time is in the window. -/
def Window.Has (w : Window) (symbol exchange : String) (time : ℤ) : Prop :=
  symbol = w.symbol ∧ exchange = w.exchange ∧ w.start ≤ time ∧ time < w.stop

instance (w : Window) (symbol exchange : String) (time : ℤ) :
    Decidable (w.Has symbol exchange time) := inferInstanceAs (Decidable (_ ∧ _))

/-- `TickRepository.count`. -/
def count (conn : Conn) (w : Window) : Conn × Except RepositoryError ℕ :=
  let (conn, reply) := conn.query (decide (Quotable [w.symbol, w.exchange])) fun db =>
    db.ticks.countP fun t => decide (w.Has t.symbol t.exchange t.time)
  (conn, reply.mapError .sql)

/-- The rows of a window, `ORDER BY time`. -/
def select (w : Window) (rows : List OHLCVCandle) : List OHLCVCandle :=
  (rows.filter fun c => decide (w.Has c.symbol c.exchange c.time)).mergeSort
    fun a b => decide (a.time ≤ b.time)

/-- `_OHLCV_TABLE_BY_TIMEFRAME`, with the views that the server computes from the one-minute
candles. -/
def ohlcvTable (view : String → CandleTable → List OHLCVCandle) (timeframe : String) :
    Option (Database → List OHLCVCandle) :=
  match timeframe with
  | "1m" => some fun db => db.candles.all
  | "5m" => some fun db => view "ohlcv_5m" db.candles
  | "15m" => some fun db => view "ohlcv_15m" db.candles
  | "1h" => some fun db => view "ohlcv_1h" db.candles
  | _ => none

/-- `OHLCVRepository.query_candles`. -/
def queryCandles (view : String → CandleTable → List OHLCVCandle) (conn : Conn)
    (timeframe : String) (w : Window) : Conn × Except RepositoryError (List OHLCVCandle) :=
  match ohlcvTable view timeframe with
  | none => (conn, .error (.unsupportedTimeframe timeframe))
  | some table =>
      let (conn, reply) := conn.query (decide (Quotable [w.symbol, w.exchange])) fun db =>
        select w (table db)
      (conn, reply.mapError .sql)

/-! ## Runs -/

/-- A call of a repository on the connection. -/
inductive Op where
  | insertMany (ticks : List Tick)
  | upsert1m (candles : List OHLCVCandle)
  | count (w : Window)
  | queryCandles (timeframe : String) (w : Window)

/-- What a call returns or raises. -/
inductive Reply where
  | rows (result : Except RepositoryError ℕ)
  | candles (result : Except RepositoryError (List OHLCVCandle))

/-- The repositories on one connection. -/
def repositories (view : String → CandleTable → List OHLCVCandle) : Machine Conn Op Reply where
  step conn op :=
    match op with
    | .insertMany ticks => Prod.map id .rows (insertMany conn ticks)
    | .upsert1m candles => Prod.map id .rows (upsert1m conn candles)
    | .count w => Prod.map id .rows (count conn w)
    | .queryCandles timeframe w => Prod.map id .candles (queryCandles view conn timeframe w)

/-- The pages that are sent: those before the first that cannot be quoted. -/
def sentPages {ρ : Type} (quotable : List ρ → Prop) [DecidablePred quotable] (rows : List ρ) :
    List (List ρ) :=
  (pages pageSize rows).takeWhile fun page => decide (quotable page)

/-- The pages of ticks that a call sends. -/
def Op.tickPages : Op → List (List Tick)
  | .insertMany ticks => sentPages QuotableTicks ticks
  | _ => []

/-- The pages of candles that a call sends. -/
def Op.candlePages : Op → List (List OHLCVCandle)
  | .upsert1m candles => sentPages QuotableCandles candles
  | _ => []

/-- The server takes all that a call sends. -/
def Op.Taken (op : Op) : Prop :=
  (∀ page ∈ op.tickPages, InsertableTicks page) ∧ ∀ page ∈ op.candlePages, InsertableCandles page

instance (op : Op) : Decidable op.Taken := inferInstanceAs (Decidable (_ ∧ _))

/-- The ticks that some calls send. -/
def sentTicks (ops : List Op) : List Tick := ops.flatMap fun op => op.tickPages.flatten

/-- The candles that some calls send. -/
def sentCandles (ops : List Op) : List OHLCVCandle := ops.flatMap fun op => op.candlePages.flatten

/-- A call that writes. -/
def Op.Writes : Op → Prop
  | .insertMany _ | .upsert1m _ => True
  | .count _ | .queryCandles _ _ => False

/-- A call commits if it writes rows and returns. -/
def Commits (t : Trans Conn Op Reply) : Prop :=
  t.op.Writes ∧ ∃ n, t.reply = .rows (.ok n) ∧ 0 < n

/-! ## What a call sends -/

/-- The statements that a call sends. -/
def Op.sent (op : Op) : List (Statement Database) :=
  op.tickPages.map insertTicks ++ op.candlePages.map upsertCandles

theorem effects_insertTicks (ps : List (List Tick)) (db : Database) :
    Connection.effects (ps.map insertTicks) db =
      if ∀ page ∈ ps, InsertableTicks page then
        some { db with ticks := db.ticks ++ ps.flatten }
      else none := by
  induction ps generalizing db with
  | nil => simp [Connection.effects]
  | cons page ps ih =>
      have heffect : (insertTicks page).effect db =
          if InsertableTicks page then some { db with ticks := db.ticks ++ page } else none := rfl
      rw [List.map_cons, Connection.effects_cons, heffect]
      by_cases hpage : InsertableTicks page
      · rw [if_pos hpage, Option.bind_some, ih]
        simp only [List.forall_mem_cons, hpage, true_and, List.flatten_cons, List.append_assoc]
      · simp [hpage]

theorem upsertCandles_effect (page : List OHLCVCandle) (db : Database) :
    (upsertCandles page).effect db =
      if InsertableCandles page then some { db with candles := page.foldl Table.put db.candles }
      else none := by
  by_cases hvolumes : ∀ c ∈ page, IsBigint c.volume
  · by_cases hkeys : (page.map candleKey).Nodup
    · simp only [upsertCandles, if_pos hvolumes, Table.insert, if_pos hkeys, Option.map_some,
        if_pos (show InsertableCandles page from ⟨hvolumes, hkeys⟩)]
    · simp only [upsertCandles, if_pos hvolumes, Table.insert, if_neg hkeys, Option.map_none,
        if_neg (show ¬ InsertableCandles page from fun h => hkeys h.2)]
  · simp only [upsertCandles, if_neg hvolumes,
      if_neg (show ¬ InsertableCandles page from fun h => hvolumes h.1)]

theorem effects_upsertCandles (ps : List (List OHLCVCandle)) (db : Database) :
    Connection.effects (ps.map upsertCandles) db =
      if ∀ page ∈ ps, InsertableCandles page then
        some { db with candles := ps.flatten.foldl Table.put db.candles }
      else none := by
  induction ps generalizing db with
  | nil => simp [Connection.effects]
  | cons page ps ih =>
      rw [List.map_cons, Connection.effects_cons, upsertCandles_effect]
      by_cases hpage : InsertableCandles page
      · rw [if_pos hpage, Option.bind_some, ih]
        simp only [List.forall_mem_cons, hpage, true_and, List.flatten_cons, List.foldl_append]
      · simp [hpage]

/-- The database after some rows. -/
def Database.after (db : Database) (ticks : List Tick) (candles : List OHLCVCandle) : Database :=
  { candles := candles.foldl Table.put db.candles, ticks := db.ticks ++ ticks }

/-- What a call sends is taken as a whole, or the transaction is aborted. -/
theorem effects_sent (op : Op) (db : Database) :
    Connection.effects op.sent db =
      if op.Taken then some (db.after op.tickPages.flatten op.candlePages.flatten) else none := by
  rw [Op.sent, Connection.effects_append, effects_insertTicks]
  by_cases hticks : ∀ page ∈ op.tickPages, InsertableTicks page
  · rw [if_pos hticks, Option.bind_some, effects_upsertCandles]
    by_cases hcandles : ∀ page ∈ op.candlePages, InsertableCandles page
    · rw [if_pos hcandles, if_pos (show op.Taken from ⟨hticks, hcandles⟩)]
      rfl
    · rw [if_neg hcandles, if_neg fun h : op.Taken => hcandles h.2]
  · rw [if_neg hticks, if_neg fun h : op.Taken => hticks h.1]
    rfl

theorem effects_flatMap_sent (ops : List Op) (db : Database) :
    Connection.effects (ops.flatMap Op.sent) db =
      if ∀ op ∈ ops, op.Taken then some (db.after (sentTicks ops) (sentCandles ops)) else none := by
  induction ops generalizing db with
  | nil => simp [Connection.effects, Database.after, sentTicks, sentCandles]
  | cons op ops ih =>
      rw [List.flatMap_cons, Connection.effects_append, effects_sent]
      by_cases hop : op.Taken
      · have hafter : (db.after op.tickPages.flatten op.candlePages.flatten).after (sentTicks ops)
            (sentCandles ops) = db.after (sentTicks (op :: ops)) (sentCandles (op :: ops)) := by
          simp only [Database.after, sentTicks, sentCandles, List.flatMap_cons, List.foldl_append,
            List.append_assoc]
        rw [if_pos hop, Option.bind_some, ih, hafter]
        simp only [List.forall_mem_cons, hop, true_and]
      · simp [hop]

/-! ## What a call does -/

section Calls

variable {ρ : Type} {statement : List ρ → Statement Database} {quotable : List ρ → Prop}
  [DecidablePred quotable]

theorem sent_map (h : ∀ page, (statement page).quotable = decide (quotable page)) (rows : List ρ) :
    Connection.sent ((pages pageSize rows).map statement) =
      (sentPages quotable rows).map statement := by
  have hcomp : Statement.quotable ∘ statement = fun page => decide (quotable page) := funext h
  rw [Connection.sent, List.takeWhile_map, hcomp]
  rfl

/-- A call that writes rows adds what it sends. It commits if it returns, and only then. -/
theorem writeRows_spec (h : ∀ page, (statement page).quotable = decide (quotable page))
    (conn : Conn) (rows : List ρ) :
    (writeRows statement conn rows).1.sees =
        conn.sees.bind (Connection.effects ((sentPages quotable rows).map statement)) ∧
      (((∃ n, (writeRows statement conn rows).2 = .ok n ∧ 0 < n) ∧
          some (writeRows statement conn rows).1.committed =
            (writeRows statement conn rows).1.sees) ∨
        (¬ ∃ n, (writeRows statement conn rows).2 = .ok n ∧ 0 < n) ∧
          (writeRows statement conn rows).1.committed = conn.committed) := by
  rw [← sent_map h]
  by_cases hempty : rows = []
  · subst hempty
    have hpages : pages pageSize ([] : List ρ) = [] := by simp [pages, pageSize]
    rw [hpages]
    refine ⟨(Connection.bind_effects_nil conn.sees).symm, .inr ⟨?_, rfl⟩⟩
    rintro ⟨n, hn, hpos⟩
    rw [← Except.ok.inj hn] at hpos
    exact absurd hpos (Nat.lt_irrefl 0)
  · have hnil : ¬ rows.isEmpty = true := fun hnil => hempty (List.isEmpty_iff.mp hnil)
    have hpos : 0 < rows.length := List.length_pos_of_ne_nil hempty
    have hpages : pages pageSize rows ≠ [] := by
      intro hpages
      have hflat : (pages pageSize rows).flatten = rows := flatten_pages (by decide) rows
      rw [hpages] at hflat
      exact hempty hflat.symm
    have hne : (pages pageSize rows).map statement ≠ [] := by
      rwa [ne_eq, List.map_eq_nil_iff]
    have hcommitted := Connection.committed_write_of_ok (c := conn) hne
    rw [writeRows, if_neg hnil]
    have hkept := @Connection.committed_write_of_error _ conn
      ((pages pageSize rows).map statement)
    generalize conn.write ((pages pageSize rows).map statement) = r at hcommitted hkept
    rcases r with ⟨conn', reply⟩
    cases reply with
    | ok u =>
        rcases hcommitted rfl with ⟨hdurable, hsees⟩
        exact ⟨hsees, .inl ⟨⟨rows.length, rfl, hpos⟩, hdurable⟩⟩
    | error e =>
        rcases hkept (by simp) with ⟨hdurable, hsees⟩
        refine ⟨hsees, .inr ⟨?_, hdurable⟩⟩
        rintro ⟨n, hn, -⟩
        cases hn

end Calls

variable (view : String → CandleTable → List OHLCVCandle)

/-- A query of candles changes nothing, and sees what was sent before. -/
theorem queryCandles_eq (conn : Conn) (timeframe : String) (w : Window) :
    (queryCandles view conn timeframe w).1.sees = conn.sees ∧
      (queryCandles view conn timeframe w).1.committed = conn.committed ∧
      (queryCandles view conn timeframe w).2 =
        match ohlcvTable view timeframe with
        | none => .error (.unsupportedTimeframe timeframe)
        | some table =>
            if Quotable [w.symbol, w.exchange] then
              (conn.sees.map fun db => select w (table db)).elim
                (.error (.sql .inFailedSqlTransaction)) .ok
            else .error (.sql .valueError) := by
  rw [queryCandles]
  cases ohlcvTable view timeframe with
  | none => exact ⟨rfl, rfl, rfl⟩
  | some table =>
      have hquery := Connection.query_eq conn (decide (Quotable [w.symbol, w.exchange]))
        fun db => select w (table db)
      refine ⟨hquery.1, hquery.2.1, ?_⟩
      show (conn.query _ _).2.mapError _ = _
      rw [hquery.2.2]
      by_cases hquotable : Quotable [w.symbol, w.exchange]
      · simp only [hquotable, decide_true, if_true]
        cases conn.sees <;> rfl
      · simp only [hquotable, decide_false, Bool.false_eq_true, if_false]
        rfl

theorem commits_iff {conn : Conn} {op : Op} (hop : op.Writes) {result : Except RepositoryError ℕ}
    (h : (repositories view).reply conn op = .rows result) :
    Commits ((repositories view).fire conn op) ↔ ∃ n, result = .ok n ∧ 0 < n := by
  have hreply : ((repositories view).fire conn op).reply = .rows result := h
  rw [Commits, hreply]
  simp only [Reply.rows.injEq]
  exact and_iff_right hop

/-- A call adds what it sends to what later calls see. If it commits, this is durable; otherwise
what is durable stays. -/
theorem next_spec (conn : Conn) (op : Op) :
    ((repositories view).next conn op).sees = conn.sees.bind (Connection.effects op.sent) ∧
      ((Commits ((repositories view).fire conn op) ∧
          some ((repositories view).next conn op).committed =
            ((repositories view).next conn op).sees) ∨
        ¬ Commits ((repositories view).fire conn op) ∧
          ((repositories view).next conn op).committed = conn.committed) := by
  cases op with
  | insertMany ticks =>
      have hquote : ∀ page, (insertTicks page).quotable = decide (QuotableTicks page) :=
        fun _ => rfl
      have hspec := writeRows_spec hquote conn ticks
      have hsent : (Op.insertMany ticks).sent =
          (sentPages QuotableTicks ticks).map insertTicks := List.append_nil _
      rw [hsent]
      refine ⟨hspec.1, ?_⟩
      have hcommits := @commits_iff view conn (.insertMany ticks) trivial _ rfl
      rw [hcommits]
      exact hspec.2
  | upsert1m candles =>
      have hquote : ∀ page, (upsertCandles page).quotable = decide (QuotableCandles page) :=
        fun _ => rfl
      have hspec := writeRows_spec hquote conn candles
      refine ⟨hspec.1, ?_⟩
      have hcommits := @commits_iff view conn (.upsert1m candles) trivial _ rfl
      rw [hcommits]
      exact hspec.2
  | count w =>
      have hquery := Connection.query_eq conn (decide (Quotable [w.symbol, w.exchange]))
        fun db => db.ticks.countP fun t => decide (w.Has t.symbol t.exchange t.time)
      refine ⟨?_, .inr ⟨fun h => h.1, hquery.2.1⟩⟩
      exact hquery.1.trans (Connection.bind_effects_nil conn.sees).symm
  | queryCandles timeframe w =>
      have hquery := queryCandles_eq view conn timeframe w
      refine ⟨?_, .inr ⟨fun h => h.1, hquery.2.1⟩⟩
      exact hquery.1.trans (Connection.bind_effects_nil conn.sees).symm

/-! ## Whole runs -/

/-- After any calls on a connection, a later one sees all the rows that they have sent, those of
calls that raised among them, or is rejected if the server has rejected any. If the connection is
lost, what stays is what was sent up to the last call that returned from writing rows. -/
theorem database_run (db : Database) (ops : List Op) :
    ((repositories view).run (.connect db) ops).sees =
        (if ∀ op ∈ ops, op.Taken then some (db.after (sentTicks ops) (sentCandles ops)) else none) ∧
      ∃ before after, ops = before ++ after ∧
        (∀ t ∈ (repositories view).trans ((repositories view).run (.connect db) before) after,
          ¬ Commits t) ∧
        ((before = [] ∧ ((repositories view).run (.connect db) ops).committed = db) ∨
          (∃ t, ((repositories view).trans (.connect db) before).getLast? = some t ∧ Commits t) ∧
            ((repositories view).run (.connect db) ops).committed =
              db.after (sentTicks before) (sentCandles before)) := by
  have hsees : ∀ ops, ((repositories view).run (.connect db) ops).sees =
      if ∀ op ∈ ops, op.Taken then some (db.after (sentTicks ops) (sentCandles ops)) else none := by
    intro ops
    have hrun := Connection.sees_run (fun c op => (next_spec view c op).1) (.connect db) ops
    exact hrun.trans (effects_flatMap_sent ops db)
  refine ⟨hsees ops, ?_⟩
  rcases Connection.committed_run (fun c op => (next_spec view c op).2) (.connect db) ops with
    ⟨before, after, hsplit, hafter, hfirst | ⟨hlast, hdurable⟩⟩
  · exact ⟨before, after, hsplit, hafter, .inl hfirst⟩
  · refine ⟨before, after, hsplit, hafter, .inr ⟨hlast, ?_⟩⟩
    rw [hsees before] at hdurable
    split at hdurable
    · exact Option.some.inj hdurable
    · cases hdurable

/-- The candles of a window come in the order of their times, one for each. -/
theorem pairwise_select (w : Window) {rows : List OHLCVCandle} (h : (rows.map candleKey).Nodup) :
    (select w rows).Pairwise fun a b => a.time < b.time := by
  have hle : (select w rows).Pairwise fun a b => a.time ≤ b.time := by
    have hsorted : (select w rows).Pairwise fun a b => decide (a.time ≤ b.time) = true :=
      List.pairwise_mergeSort
        (fun a b c hab hbc => by simp only [decide_eq_true_eq] at hab hbc ⊢; omega)
        (fun a b => by simp only [Bool.or_eq_true, decide_eq_true_eq]; omega) _
    exact hsorted.imp fun h => of_decide_eq_true h
  have hnodup : (select w rows).Pairwise fun a b => candleKey a ≠ candleKey b := by
    have hkeys := List.pairwise_map.mp h
    have hfiltered := hkeys.filter fun c => decide (w.Has c.symbol c.exchange c.time)
    exact (List.Perm.pairwise_iff (fun h => h.symm) (List.mergeSort_perm _ _)).mpr hfiltered
  refine (hle.and hnodup).imp_of_mem ?_
  intro a b ha hb hab
  rw [select, List.mem_mergeSort, List.mem_filter, decide_eq_true_eq] at ha hb
  -- two candles of the window differ in their times only
  have hne : a.time ≠ b.time := by
    intro htime
    refine hab.2 ?_
    simp only [candleKey, CandleKey.mk.injEq]
    exact ⟨ha.2.1.trans hb.2.1.symm, ha.2.2.1.trans hb.2.2.1.symm, htime⟩
  exact lt_of_le_of_ne hab.1 hne

/-- After any calls, a query of one-minute candles returns the last one that was sent for each time
of its window, in the order of the times, unless the server has rejected a statement before. -/
theorem queryCandles_run (db : Database) (ops : List Op) (w : Window) :
    ∃ rows : List OHLCVCandle,
      (rows.Pairwise fun a b => a.time < b.time) ∧
      (∀ c, c ∈ rows ↔ w.Has c.symbol c.exchange c.time ∧
        (((sentCandles ops).filter fun r => decide (candleKey r = candleKey c)).getLast?).or
          (db.candles.find (candleKey c)) = some c) ∧
      (queryCandles view ((repositories view).run (.connect db) ops) "1m" w).2 =
        if Quotable [w.symbol, w.exchange] then
          if ∀ op ∈ ops, op.Taken then .ok rows else .error (.sql .inFailedSqlTransaction)
        else .error (.sql .valueError) := by
  refine ⟨select w ((sentCandles ops).foldl Table.put db.candles).all,
    pairwise_select w (Table.nodup_keys _), ?_, ?_⟩
  · intro c
    rw [select, List.mem_mergeSort, List.mem_filter, decide_eq_true_eq, Table.mem_all,
      Table.find_foldl_put, and_comm]
  · have hquery := (queryCandles_eq view ((repositories view).run (.connect db) ops) "1m" w).2.2
    rw [hquery, (database_run view db ops).1]
    simp only [ohlcvTable]
    by_cases htaken : ∀ op ∈ ops, op.Taken
    · rw [if_pos htaken, if_pos htaken]
      rfl
    · rw [if_neg htaken, if_neg htaken]
      rfl

end Intraday.Storage.Repositories
