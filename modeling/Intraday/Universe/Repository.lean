import Intraday.Execution.Engine
import Intraday.Lib.Json
import Intraday.Lib.Key
import Intraday.Lib.Machine
import Intraday.Lib.RedisStore
import Intraday.Regime.Publisher
import Intraday.Universe.Filter

/-!
# Intraday.Universe.Repository — `shared/universe/repository.py`

`store_watchlist` inserts the entries of a result into a table and caches them in Redis for eight
hours; `load_watchlist` reads the cache, or else the rows of the table with the latest time.
Nothing is stored of an empty result, so the watchlist before it stays the one that is loaded
(`chaos_keeps_the_old_watchlist`).

`load_returns_last_nonempty`: both places have the last result that is not empty, as long as the
exchange codes are in upper case and the results are stored in the order of their runs.
-/

namespace Intraday.Universe

open Intraday.Core Intraday.Lib Intraday.Lib.Python Intraday.Lib.RedisStore
open Intraday.Regime (marketRegime? marketRegime?_value)

/-! ## The table -/

/-- A row of `watchlist_history`. -/
structure WatchlistRow where
  symbol : String
  exchange : String
  rank : ℤ
  compositeScore : PyFloat
  trendScore : PyFloat
  volScore : PyFloat
  liqScore : PyFloat
  sentScore : PyFloat
  regime : String
  strategyId : String
  scoredAt : DateTime

/-- The row that is inserted for an entry. -/
def rowOf (e : WatchlistEntry) : WatchlistRow :=
  { symbol := e.symbol
    exchange := e.exchange
    rank := e.rank
    compositeScore := e.compositeScore
    trendScore := e.components.trendScore
    volScore := e.components.volScore
    liqScore := e.components.liqScore
    sentScore := e.components.sentScore
    regime := e.regime.value
    strategyId := e.strategyId
    scoredAt := e.scoredAt }

/-- `MarketRegime(value)`. -/
def regimeOf (value : String) : Except Exc Risk.MarketRegime :=
  match marketRegime? value with
  | some regime => .ok regime
  | none => .error (.other ("'" ++ value ++ "' is not a valid MarketRegime"))

/-- The entry that is made of a row. -/
def entryOfRow (row : WatchlistRow) : Except Exc WatchlistEntry := do
  let regime ← regimeOf row.regime
  return {
    symbol := row.symbol
    exchange := row.exchange
    rank := row.rank
    compositeScore := row.compositeScore
    components :=
      { trendScore := row.trendScore, volScore := row.volScore
        liqScore := row.liqScore, sentScore := row.sentScore }
    regime := regime
    strategyId := row.strategyId
    scoredAt := row.scoredAt }

/-- `_LOAD_LATEST_SQL`. -/
def loadLatest (table : List WatchlistRow) (exchange : String) (topN : ℕ) : List WatchlistRow :=
  let rows := table.filter fun row => decide (row.exchange = exchange)
  match (rows.map (·.scoredAt.stamp)).max? with
  | none => []
  | some latest =>
      ((rows.filter fun row => decide (row.scoredAt.stamp = latest)).mergeSort
        fun a b => decide (a.rank ≤ b.rank)).take topN

/-! ## The cache -/

/-- `_REDIS_KEY_PREFIX`. -/
def redisKeyPrefix : String := "universe:watchlist"

/-- `_redis_key`. -/
def redisKey (upper : String → String) (exchange : String) : String :=
  joinKey redisKeyPrefix (upper exchange)

/-- `_entry_to_redis_dict`. -/
def entryToRedisDict (e : WatchlistEntry) : Json :=
  .obj
    [("symbol", .str e.symbol),
      ("exchange", .str e.exchange),
      ("rank", .int e.rank),
      ("composite_score", .float e.compositeScore),
      ("trend_score", .float e.components.trendScore),
      ("vol_score", .float e.components.volScore),
      ("liq_score", .float e.components.liqScore),
      ("sent_score", .float e.components.sentScore),
      ("regime", .str e.regime.value),
      ("strategy_id", .str e.strategyId),
      ("scored_at", .str e.scoredAt.isoformat)]

/-- The time of a text; without an offset it is of UTC. -/
def timeOf (text : String) : Except Exc DateTime :=
  match (DateTime.fromisoformat text).or (DateTime.fromisoformat (text ++ "+00:00")) with
  | some t => .ok t
  | none => .error (.other ("Invalid isoformat string: '" ++ text ++ "'"))

/-- `_redis_dict_to_entry`. -/
def redisDictToEntry : Json → Except Exc WatchlistEntry
  | .obj data => do
      let scoredAtRaw ← Json.textItem data "scored_at"
      let scoredAt ← timeOf scoredAtRaw
      let symbol ← Json.textItem data "symbol"
      let exchange ← Json.textItem data "exchange"
      let rank ← Json.intItem data "rank"
      let compositeScore ← Json.floatItem data "composite_score"
      let trendScore ← Json.floatItem data "trend_score"
      let volScore ← Json.floatItem data "vol_score"
      let liqScore ← Json.floatItem data "liq_score"
      let sentScore ← Json.floatItem data "sent_score"
      let value ← Json.textItem data "regime"
      let regime ← regimeOf value
      let strategyId ← Json.textItem data "strategy_id"
      return {
        symbol := symbol
        exchange := exchange
        rank := rank
        compositeScore := compositeScore
        components :=
          { trendScore := trendScore, volScore := volScore
            liqScore := liqScore, sentScore := sentScore }
        regime := regime
        strategyId := strategyId
        scoredAt := scoredAt }
  | _ => .error (.typeError "the entry is no object")

/-- The payload of a watchlist. -/
def payload (entries : List WatchlistEntry) : ByteArray :=
  (Json.arr (entries.map entryToRedisDict)).dumps.toByteArray

/-- The first entries of a payload. -/
def decode (topN : ℕ) (raw : ByteArray) : Except Exc (List WatchlistEntry) :=
  match String.fromUTF8? raw with
  | none => .error (.other "'utf-8' codec can't decode")
  | some text =>
      match Json.loads text with
      | none => .error (.other "JSONDecodeError")
      | some (.arr items) => (items.take topN).mapM redisDictToEntry
      | some _ => .error (.typeError "the payload is no list")

/-! ## Storing and loading -/

/-- What is behind the connection and the Redis client, both of which answer. -/
structure Backends where
  watchlistHistory : List WatchlistRow
  redis : Store

/-- `store_watchlist`. -/
def storeWatchlist (upper : String → String) (b : Backends) : List WatchlistEntry → Backends
  | [] => b
  | e :: rest =>
      { watchlistHistory := b.watchlistHistory ++ (e :: rest).map rowOf
        redis :=
          b.redis.setEx (redisKey upper e.exchange) (payload (e :: rest))
            watchlistRedisTtlSeconds }

/-- The part of `load_watchlist` that reads the table. -/
def loadRows (upper : String → String) (b : Backends) (exchange : String) (topN : ℕ) :
    Except Exc (List WatchlistEntry) :=
  (loadLatest b.watchlistHistory (upper exchange) topN).mapM entryOfRow

/-- `load_watchlist`. A payload that does not decode is passed over, but for a `TypeError`. -/
def loadWatchlist (upper : String → String) (b : Backends) (exchange : String)
    (topN : ℕ := watchlistTopN) : Except Exc (List WatchlistEntry) :=
  match b.redis.get (redisKey upper exchange) with
  -- never cached, or expired
  | none => loadRows upper b exchange topN
  | some raw =>
      match decode topN raw with
      | .ok entries => .ok entries
      | .error (.typeError message) => .error (.typeError message)
      | .error _ => loadRows upper b exchange topN

/-! ## What is read back -/

theorem regimeOf_value (regime : Risk.MarketRegime) :
    regimeOf regime.value = .ok regime := by
  rw [regimeOf, marketRegime?_value]

/-- A row is read as the entry it was made of. -/
theorem entryOfRow_rowOf (e : WatchlistEntry) : entryOfRow (rowOf e) = .ok e := by
  have hregime : regimeOf (rowOf e).regime = .ok e.regime := regimeOf_value e.regime
  rw [entryOfRow, hregime]
  rfl

theorem timeOf_isoformat (t : DateTime) : timeOf t.isoformat = .ok t := by
  rw [timeOf, DateTime.fromisoformat_isoformat]
  rfl

/-- So is a member of a payload. -/
theorem redisDictToEntry_entryToRedisDict (e : WatchlistEntry) :
    redisDictToEntry (entryToRedisDict e) = .ok e := by
  simp [redisDictToEntry, entryToRedisDict, Json.textItem, Json.intItem, Json.floatItem,
    Json.getItem, List.lookup_cons, timeOf_isoformat, regimeOf_value, bind, Except.bind, pure,
    Except.pure]

/-- Elements that are read back one by one are read back as a list. -/
theorem mapM_map_ok {α β : Type} {encode : α → β} {read : β → Except Exc α}
    (h : ∀ x, read (encode x) = .ok x) (xs : List α) : (xs.map encode).mapM read = .ok xs := by
  have hpure : read ∘ encode = fun x => (pure (id x) : Except Exc α) := funext h
  rw [List.mapM_map, hpure, List.mapM_pure, List.map_id]
  rfl

/-- The first entries of a payload are those of the watchlist. -/
theorem decode_payload (topN : ℕ) (entries : List WatchlistEntry) :
    decode topN (payload entries) = .ok (entries.take topN) := by
  rw [decode, payload, fromUTF8?_toByteArray]
  dsimp only
  rw [Json.loads_dumps]
  dsimp only
  rw [← List.map_take]
  exact mapM_map_ok redisDictToEntry_entryToRedisDict _

/-! ## The latest rows -/

section LatestRows

variable {table rows : List WatchlistRow} {exchange : String} {time : ℕ}

/-- Rows of another exchange do not matter. -/
theorem loadLatest_append_of_ne (hrows : ∀ row ∈ rows, row.exchange ≠ exchange) (topN : ℕ) :
    loadLatest (table ++ rows) exchange topN = loadLatest table exchange topN := by
  have hnone : rows.filter (fun row => decide (row.exchange = exchange)) = [] := by
    rw [List.filter_eq_nil_iff]
    intro row hrow
    rw [decide_eq_true_eq]
    exact hrows row hrow
  rw [loadLatest, loadLatest, List.filter_append, hnone, List.append_nil]

/-- Rows that are inserted with a later time, in the order of their ranks, are the latest. -/
theorem loadLatest_append
    (hold : ∀ row ∈ table, row.exchange = exchange → row.scoredAt.stamp < time)
    (hne : rows ≠ []) (hexchange : ∀ row ∈ rows, row.exchange = exchange)
    (htime : ∀ row ∈ rows, row.scoredAt.stamp = time)
    (hranks : rows.Pairwise fun a b => a.rank ≤ b.rank) (topN : ℕ) :
    loadLatest (table ++ rows) exchange topN = rows.take topN := by
  have hnew : rows.filter (fun row => decide (row.exchange = exchange)) = rows := by
    rw [List.filter_eq_self]
    intro row hrow
    exact decide_eq_true (hexchange row hrow)
  have hmax : (((table.filter fun row => decide (row.exchange = exchange)) ++ rows).map
      (·.scoredAt.stamp)).max? = some time := by
    rw [List.max?_eq_some_iff]
    rcases List.exists_mem_of_ne_nil rows hne with ⟨row, hrow⟩
    refine ⟨List.mem_map.mpr ⟨row, List.mem_append_right _ hrow, htime row hrow⟩, ?_⟩
    intro stamp hstamp
    rcases List.mem_map.mp hstamp with ⟨row', hrow', rfl⟩
    rcases List.mem_append.mp hrow' with hmem | hmem
    · rw [List.mem_filter, decide_eq_true_eq] at hmem
      exact (hold row' hmem.1 hmem.2).le
    · exact (htime row' hmem).le
  -- of the older rows none has that time
  have hnone : (table.filter fun row => decide (row.exchange = exchange)).filter
      (fun row => decide (row.scoredAt.stamp = time)) = [] := by
    rw [List.filter_eq_nil_iff]
    intro row hrow
    rw [List.mem_filter, decide_eq_true_eq] at hrow
    rw [decide_eq_true_eq]
    exact (hold row hrow.1 hrow.2).ne
  have hall : rows.filter (fun row => decide (row.scoredAt.stamp = time)) = rows := by
    rw [List.filter_eq_self]
    intro row hrow
    exact decide_eq_true (htime row hrow)
  have hsorted : rows.mergeSort (fun a b => decide (a.rank ≤ b.rank)) = rows := by
    refine List.mergeSort_of_pairwise ?_
    refine hranks.imp ?_
    intro a b hle
    exact decide_eq_true hle
  rw [loadLatest, List.filter_append, hnew, hmax]
  dsimp only
  rw [List.filter_append, hnone, hall, List.nil_append, hsorted]

end LatestRows

/-! ## Histories of stores and loads -/

/-- A store of the result of a run of the filter, time passing on the Redis server, a key that
Redis loses, or a load. -/
inductive WatchlistOp where
  | store (run : FilterRun)
  | advance (ms : ℕ)
  | evict (key : String)
  | load (exchange : String) (topN : ℕ)

/-- The table and the cache, and the results that were stored with their exchanges in upper case,
the newest first. -/
structure Watchlists where
  backends : Backends
  results : List (String × List WatchlistEntry)

/-- The most recent result of an exchange. -/
def Watchlists.last (x : Watchlists) (exchange : String) : List WatchlistEntry :=
  ((x.results.find? fun r => decide (r.1 = exchange)).map (·.2)).getD []

/-- The most recent result of an exchange that is not empty; nothing if there is none. -/
def Watchlists.lastNonempty (x : Watchlists) (exchange : String) : List WatchlistEntry :=
  ((x.results.find? fun r => decide (r.1 = exchange ∧ r.2 ≠ [])).map (·.2)).getD []

/-- The watchlists as a machine; a load replies with what it returns or raises. -/
def watchlists (upper : String → String) (scoring : Scoring) :
    Machine Watchlists WatchlistOp (Option (Except Exc (List WatchlistEntry))) where
  step x
    | .store run =>
        let result := runUniverseFilter upper scoring run
        ({ backends := storeWatchlist upper x.backends result
           results := (upper run.exchange, result) :: x.results }, none)
    | .advance ms =>
        ({ x with backends := { x.backends with redis := x.backends.redis.advance ms } }, none)
    | .evict key =>
        ({ x with backends := { x.backends with redis := x.backends.redis.put key none } }, none)
    | .load exchange topN => (x, some (loadWatchlist upper x.backends exchange topN))

/-- Nothing is stored yet. -/
def Watchlists.opening (nowMs : ℕ) : Watchlists where
  backends :=
    { watchlistHistory := []
      redis := { nowMs := nowMs, strings := fun _ => none, streams := fun _ => [] } }
  results := []

/-- A run is for an exchange whose code is in upper case. -/
def UpperCase (upper : String → String) : WatchlistOp → Prop
  | .store run => upper run.exchange = run.exchange
  | _ => True

/-- A run is made after the one whose result was last stored for its exchange. -/
def Later (upper : String → String) (x : Watchlists) : WatchlistOp → Prop
  | .store run =>
      ∀ e ∈ x.lastNonempty (upper run.exchange), e.scoredAt.stamp < run.now.stamp
  | _ => True

instance (upper : String → String) (op : WatchlistOp) : Decidable (UpperCase upper op) :=
  match op with
  | .store _ => inferInstanceAs (Decidable (_ = _))
  | .advance _ | .evict _ | .load _ _ => .isTrue trivial

instance (upper : String → String) (x : Watchlists) (op : WatchlistOp) :
    Decidable (Later upper x op) :=
  match op with
  | .store _ => inferInstanceAs (Decidable (∀ _ ∈ _, _))
  | .advance _ | .evict _ | .load _ _ => .isTrue trivial

/-- A load returns the first entries of the most recent result. -/
def ReturnsLast (upper : String → String)
    (t : Trans Watchlists WatchlistOp (Option (Except Exc (List WatchlistEntry)))) : Prop :=
  ∀ exchange topN, t.op = .load exchange topN →
    t.reply = some (.ok ((t.pre.last (upper exchange)).take topN))

/-- A load returns the first entries of the most recent result that is not empty, also when the
cache has expired. -/
def ReturnsLastNonempty (upper : String → String)
    (t : Trans Watchlists WatchlistOp (Option (Except Exc (List WatchlistEntry)))) : Prop :=
  ∀ exchange topN, t.op = .load exchange topN →
    t.reply = some (.ok ((t.pre.lastNonempty (upper exchange)).take topN)) ∧
      loadRows upper t.pre.backends exchange topN =
        .ok ((t.pre.lastNonempty (upper exchange)).take topN)

/-! ## Both places have the last result -/

/-- What the cache and the table have of each exchange. -/
structure Watchlists.Inv (x : Watchlists) : Prop where
  cached : ∀ exchange raw, x.backends.redis.get (joinKey redisKeyPrefix exchange) = some raw →
    raw = payload (x.lastNonempty exchange)
  latest : ∀ exchange topN, loadLatest x.backends.watchlistHistory exchange topN =
    ((x.lastNonempty exchange).take topN).map rowOf
  bounded : ∀ row ∈ x.backends.watchlistHistory,
    ∃ e ∈ x.lastNonempty row.exchange, row.scoredAt.stamp ≤ e.scoredAt.stamp

theorem Watchlists.Inv.opening (nowMs : ℕ) : (Watchlists.opening nowMs).Inv where
  cached := by
    intro exchange raw hraw
    cases hraw
  latest := by
    intro exchange topN
    show [] = (([] : List WatchlistEntry).take topN).map rowOf
    rw [List.take_nil, List.map_nil]
  bounded := by
    intro row hrow
    cases hrow

section Step

variable {upper : String → String} {scoring : Scoring} {x : Watchlists} {run : FilterRun}

/-- The most recent results after one more. -/
theorem lastNonempty_next_store (exchange : String) :
    ((watchlists upper scoring).next x (.store run)).lastNonempty exchange =
      if upper run.exchange = exchange ∧ runUniverseFilter upper scoring run ≠ [] then
        runUniverseFilter upper scoring run
      else x.lastNonempty exchange := by
  show ((((upper run.exchange, runUniverseFilter upper scoring run) :: x.results).find?
    fun r => decide (r.1 = exchange ∧ r.2 ≠ [])).map (·.2)).getD [] = _
  rw [List.find?_cons]
  by_cases h : upper run.exchange = exchange ∧ runUniverseFilter upper scoring run ≠ []
  · rw [if_pos h, decide_eq_true h]
    rfl
  · rw [if_neg h, decide_eq_false h]
    rfl

/-- Storing an empty result changes nothing. -/
theorem Watchlists.Inv.store_empty (h : x.Inv)
    (hempty : runUniverseFilter upper scoring run = []) :
    ((watchlists upper scoring).next x (.store run)).Inv := by
  have hlast : ∀ exchange, ((watchlists upper scoring).next x (.store run)).lastNonempty exchange =
      x.lastNonempty exchange := by
    intro exchange
    rw [lastNonempty_next_store, if_neg fun hand => hand.2 hempty]
  have hbackends : ((watchlists upper scoring).next x (.store run)).backends = x.backends := by
    show storeWatchlist upper x.backends (runUniverseFilter upper scoring run) = x.backends
    rw [hempty]
    rfl
  exact
    { cached := by
        intro exchange
        rw [hbackends, hlast]
        exact h.cached exchange
      latest := by
        intro exchange
        rw [hbackends, hlast]
        exact h.latest exchange
      bounded := by
        intro row
        rw [hbackends, hlast]
        exact h.bounded row }

/-- What is stored of a result that is not empty. -/
theorem backends_next_store (hcase : upper run.exchange = run.exchange)
    (hne : runUniverseFilter upper scoring run ≠ []) :
    ((watchlists upper scoring).next x (.store run)).backends =
      { watchlistHistory :=
          x.backends.watchlistHistory ++ (runUniverseFilter upper scoring run).map rowOf
        redis :=
          x.backends.redis.setEx (joinKey redisKeyPrefix run.exchange)
            (payload (runUniverseFilter upper scoring run)) watchlistRedisTtlSeconds } := by
  show storeWatchlist upper x.backends (runUniverseFilter upper scoring run) = _
  cases hresult : runUniverseFilter upper scoring run with
  | nil => exact absurd hresult hne
  | cons e rest =>
      have hmem : e ∈ runUniverseFilter upper scoring run := by
        rw [hresult]
        exact List.mem_cons_self
      rw [storeWatchlist, redisKey, (ofRun_of_mem hmem).1, hcase]

/-- A result that is not empty replaces the one before it in both places. -/
theorem Watchlists.Inv.store_nonempty (h : x.Inv) (hcase : upper run.exchange = run.exchange)
    (hlater : ∀ e ∈ x.lastNonempty run.exchange, e.scoredAt.stamp < run.now.stamp)
    (hne : runUniverseFilter upper scoring run ≠ []) :
    ((watchlists upper scoring).next x (.store run)).Inv := by
  have hrows : ∀ row ∈ (runUniverseFilter upper scoring run).map rowOf,
      row.exchange = run.exchange ∧ row.scoredAt = run.now := by
    intro row hrow
    rcases List.mem_map.mp hrow with ⟨e, he, rfl⟩
    exact ofRun_of_mem he
  -- the rows that are there for the exchange are older
  have hold : ∀ row ∈ x.backends.watchlistHistory, row.exchange = run.exchange →
      row.scoredAt.stamp < run.now.stamp := by
    intro row hrow hexchange
    rcases h.bounded row hrow with ⟨e, he, hle⟩
    rw [hexchange] at he
    exact hle.trans_lt (hlater e he)
  refine { cached := ?_, latest := ?_, bounded := ?_ }
  -- the cache: the key of the exchange is written, the others are as before
  · intro exchange raw hraw
    rw [backends_next_store hcase hne] at hraw
    rw [lastNonempty_next_store, hcase]
    by_cases hexchange : run.exchange = exchange
    · subst hexchange
      rw [Store.get_setEx_self] at hraw
      rw [if_pos ⟨rfl, hne⟩]
      exact (Option.some.inj hraw).symm
    · have hkey : joinKey redisKeyPrefix exchange ≠ joinKey redisKeyPrefix run.exchange :=
        fun heq => hexchange (joinKey_right_inj.mp heq).symm
      rw [Store.get_setEx_of_ne _ _ _ hkey] at hraw
      rw [if_neg fun hand => hexchange hand.1]
      exact h.cached exchange raw hraw
  -- the table: the new rows are the latest of their exchange
  · intro exchange topN
    rw [backends_next_store hcase hne, lastNonempty_next_store, hcase]
    by_cases hexchange : run.exchange = exchange
    · subst hexchange
      rw [if_pos ⟨rfl, hne⟩, List.map_take]
      refine loadLatest_append hold ?_ ?_ ?_ ?_ topN
      · intro hnil
        exact hne (List.map_eq_nil_iff.mp hnil)
      · exact fun row hrow => (hrows row hrow).1
      · exact fun row hrow => congrArg DateTime.stamp (hrows row hrow).2
      · rw [List.pairwise_map]
        refine (ranks_sorted upper scoring run).imp ?_
        intro a b hlt
        exact le_of_lt hlt
    · rw [if_neg fun hand => hexchange hand.1, ← h.latest exchange topN]
      refine loadLatest_append_of_ne ?_ topN
      intro row hrow heq
      exact hexchange ((hrows row hrow).1.symm.trans heq)
  -- and no row of it is newer
  · intro row hrow
    rw [backends_next_store hcase hne] at hrow
    rw [lastNonempty_next_store, hcase]
    by_cases hexchange : run.exchange = row.exchange
    · rw [if_pos ⟨hexchange, hne⟩]
      rcases List.exists_mem_of_ne_nil _ hne with ⟨e, he⟩
      refine ⟨e, he, ?_⟩
      rw [(ofRun_of_mem he).2]
      rcases List.mem_append.mp hrow with hmem | hmem
      · exact (hold row hmem hexchange.symm).le
      · rw [(hrows row hmem).2]
    · rw [if_neg fun hand => hexchange hand.1]
      rcases List.mem_append.mp hrow with hmem | hmem
      · exact h.bounded row hmem
      · exact absurd (hrows row hmem).1.symm hexchange

theorem Watchlists.Inv.next (h : x.Inv) {op : WatchlistOp} (hcase : UpperCase upper op)
    (hlater : Later upper x op) : ((watchlists upper scoring).next x op).Inv := by
  cases op with
  | store run =>
      have hcase : upper run.exchange = run.exchange := hcase
      have hlater : ∀ e ∈ x.lastNonempty (upper run.exchange),
        e.scoredAt.stamp < run.now.stamp := hlater
      rw [hcase] at hlater
      by_cases hempty : runUniverseFilter upper scoring run = []
      · exact h.store_empty hempty
      · exact h.store_nonempty hcase hlater hempty
  | advance ms =>
      refine { cached := ?_, latest := h.latest, bounded := h.bounded }
      intro exchange raw hraw
      exact h.cached exchange raw (Store.get_of_advance hraw)
  | evict key =>
      refine { cached := ?_, latest := h.latest, bounded := h.bounded }
      intro exchange raw hraw
      have hraw : (x.backends.redis.put key none).get (joinKey redisKeyPrefix exchange) =
        some raw := hraw
      by_cases hkey : joinKey redisKeyPrefix exchange = key
      · rw [hkey, Store.get_put_self] at hraw
        cases hraw
      · rw [Store.get_put_of_ne _ _ hkey] at hraw
        exact h.cached exchange raw hraw
  | load exchange topN => exact h

/-- The table alone gives the last result. -/
theorem Watchlists.Inv.loadRows_eq (h : x.Inv) (exchange : String) (topN : ℕ) :
    loadRows upper x.backends exchange topN =
      .ok ((x.lastNonempty (upper exchange)).take topN) := by
  rw [loadRows, h.latest]
  exact mapM_map_ok entryOfRow_rowOf _

/-- So does the cache, while it has the watchlist. -/
theorem Watchlists.Inv.loadWatchlist_eq (h : x.Inv) (exchange : String) (topN : ℕ) :
    loadWatchlist upper x.backends exchange topN =
      .ok ((x.lastNonempty (upper exchange)).take topN) := by
  rw [loadWatchlist]
  cases hraw : x.backends.redis.get (redisKey upper exchange) with
  | none => exact h.loadRows_eq exchange topN
  | some raw =>
      rw [h.cached (upper exchange) raw hraw]
      dsimp only
      rw [decode_payload]

end Step

/-- If every exchange code is in upper case, and every run is made after the one before it for
its exchange, each load returns the first entries of the most recent result of its exchange that
is not empty: from the cache, and from the table once the cache has expired. -/
theorem load_returns_last_nonempty (upper : String → String) (scoring : Scoring) (nowMs : ℕ)
    {ops : List WatchlistOp} (hcase : ∀ op ∈ ops, UpperCase upper op)
    (hlater : ∀ t ∈ (watchlists upper scoring).trans (.opening nowMs) ops,
      Later upper t.pre t.op) :
    ∀ t ∈ (watchlists upper scoring).trans (.opening nowMs) ops, ReturnsLastNonempty upper t := by
  have hcases : ∀ t ∈ (watchlists upper scoring).trans (.opening nowMs) ops, UpperCase upper t.op :=
    (watchlists upper scoring).trans_forall_op hcase
  have hinv := @Machine.trans_invariant_of_allowed _ _ _ (watchlists upper scoring) Watchlists.Inv
    (fun x op => UpperCase upper op ∧ Later upper x op) (fun _ _ h hop => h.next hop.1 hop.2) _
    (Watchlists.Inv.opening nowMs) _ fun t ht => ⟨hcases t ht, hlater t ht⟩
  intro t ht exchange topN hop
  rcases hinv t ht with ⟨h, hfire⟩
  refine ⟨?_, h.loadRows_eq exchange topN⟩
  rw [hfire, hop]
  exact congrArg some (h.loadWatchlist_eq exchange topN)

/-! ## Runs over one stock -/

/-- The scores of a stock that does not move and is not traded. -/
def flatScoring : Scoring where
  scoreStock _ _ :=
    { trendScore := .zero, volScore := .zero, liqScore := .zero, sentScore := .zero }
  computeComposite _ _ := .zero

/-- A quarter past three, or an hour later, on 2026-07-02. -/
def quarterPast (later : Bool) : DateTime :=
  (DateTime.ofFields 2026 7 2 (cond later 4 3) 15 0 0).get (by
    cases later with
    | false => decide
    | true => decide)

/-- A run over such a stock. -/
def flatRun (symbol exchange : String) (regime : Risk.MarketRegime) (later : Bool) : FilterRun :=
  let one : PyFloat := .finite false { digits := 1, exp := 0, normal := by decide }
  let ones := List.replicate watchlistMinCandles one
  { exchange := exchange
    instruments := [{ symbol := symbol, exchange := exchange }]
    candlesBySymbol :=
      Dict.empty.set symbol
        { close := ones, high := ones, low := ones
          volume := List.replicate watchlistMinCandles .zero }
    regime := regime
    exclusionList :=
      { asmSymbols := [], esmSymbols := [], banSymbols := [], mwplExceededSymbols := [] }
    now := quarterPast later
    ofExchange := by simp }

/-- A watchlist that is loaded from the cache, and again after eight hours. -/
theorem load_before_and_after_expiry :
    let M := watchlists String.toUpper flatScoring
    let x := M.next (.opening 0) (.store (flatRun "TCS" "NSE" .bullTrend false))
    x.lastNonempty "NSE" ≠ [] ∧
      ReturnsLastNonempty String.toUpper (M.fire x (.load "nse" 20)) ∧
      ReturnsLastNonempty String.toUpper
        (M.fire (M.next x (.advance 28800001)) (.load "nse" 20)) := by
  have hrun := @load_returns_last_nonempty String.toUpper flatScoring 0
    [.store (flatRun "TCS" "NSE" .bullTrend false), .load "nse" 20, .advance 28800001,
      .load "nse" 20]
  simp only [Machine.trans_cons, List.forall_mem_cons] at hrun
  have hloads := hrun ⟨by decide +kernel, trivial, trivial, trivial, by simp⟩
    ⟨by decide +kernel, trivial, trivial, trivial, by simp⟩
  exact ⟨by decide +kernel, hloads.2.1, hloads.2.2.2.1⟩

/-- In chaos the result is empty, and the watchlist of the bull market is loaded, even after the
cache has expired. -/
theorem chaos_keeps_the_old_watchlist :
    ¬ ∀ (upper : String → String) (scoring : Scoring) (nowMs : ℕ) (ops : List WatchlistOp),
      (∀ op ∈ ops, UpperCase upper op) →
      (∀ t ∈ (watchlists upper scoring).trans (.opening nowMs) ops, Later upper t.pre t.op) →
      ∀ t ∈ (watchlists upper scoring).trans (.opening nowMs) ops, ReturnsLast upper t := by
  intro h
  have hrun := h String.toUpper flatScoring 0
    [.store (flatRun "TCS" "NSE" .bullTrend false),
      .store (flatRun "TCS" "NSE" .highVolChaos true), .advance 28800001, .load "NSE" 20]
  simp only [Machine.trans_cons, List.forall_mem_cons] at hrun
  have hlast := hrun ⟨by decide +kernel, by decide +kernel, trivial, trivial, by simp⟩
    ⟨by decide +kernel, by decide +kernel, trivial, trivial, by simp⟩
  exact absurd (hlast.2.2.2.1 "NSE" 20 rfl) (by decide +kernel)

/-- A watchlist of an exchange in lower case is not found in the table. -/
theorem lower_case_is_not_found :
    ¬ ∀ (upper : String → String) (scoring : Scoring) (nowMs : ℕ) (ops : List WatchlistOp),
      (∀ t ∈ (watchlists upper scoring).trans (.opening nowMs) ops, Later upper t.pre t.op) →
      ∀ t ∈ (watchlists upper scoring).trans (.opening nowMs) ops,
        ReturnsLastNonempty upper t := by
  intro h
  have hrun := h String.toUpper flatScoring 0
    [.store (flatRun "TCS" "nse" .bullTrend false), .load "nse" 20]
  simp only [Machine.trans_cons, List.forall_mem_cons] at hrun
  have hlast := hrun ⟨by decide +kernel, trivial, by simp⟩
  exact absurd (hlast.2.1 "nse" 20 rfl).2 (by decide +kernel)

/-- A result that is stored after that of a later run is not found in the table. -/
theorem older_run_is_not_found :
    ¬ ∀ (upper : String → String) (scoring : Scoring) (nowMs : ℕ) (ops : List WatchlistOp),
      (∀ op ∈ ops, UpperCase upper op) →
      ∀ t ∈ (watchlists upper scoring).trans (.opening nowMs) ops,
        ReturnsLastNonempty upper t := by
  intro h
  have hrun := h String.toUpper flatScoring 0
    [.store (flatRun "TCS" "NSE" .bullTrend true),
      .store (flatRun "INFY" "NSE" .bullTrend false), .load "NSE" 20]
  simp only [Machine.trans_cons, List.forall_mem_cons] at hrun
  have hlast := hrun ⟨by decide +kernel, by decide +kernel, trivial, by simp⟩
  exact absurd (hlast.2.2.1 "NSE" 20 rfl).2 (by decide +kernel)

end Intraday.Universe
