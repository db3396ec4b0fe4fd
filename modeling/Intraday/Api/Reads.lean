import Mathlib.Data.List.DropRight
import Intraday.Api.Live
import Intraday.Lib.PyValue
import Intraday.Lib.Traverse
import Intraday.Signals.Publisher
import Intraday.Universe.Repository

/-!
# Intraday.Api.Reads — `/signals` of `api/routers/signals.py`, `/watchlist` of `watchlist.py`

Two routes that read what other processes have written to Redis.

`/signals` reads the stream of the publisher, whose entries have one field, `data`, with the
serialised message. The route looks for the fields of the message itself and takes the default for
each, so a published signal is a row with an id and nothing else, and a payload that is no UTF-8
leaves no row of the reply at all (`getSignals_run`).

`/watchlist` reads the key that the universe filter writes. It shows the last result of an exchange
that is not empty for as long as Redis keeps it, and nothing after that (`getWatchlist_run`): unlike
`load_watchlist` it does not turn to the table.
-/

namespace Intraday.Api

open Intraday.Core Intraday.Lib Intraday.Lib.Python Intraday.Lib.RedisStore

/-! ## `/signals` -/

/-- `SignalOut`. -/
structure SignalOut where
  signalId : String
  symbol : String
  exchange : String
  direction : String
  confidence : PyFloat
  strategyTag : String
  timestampMs : ℤ
deriving DecidableEq

/-- `float(text)` and `int(text)`; `none` is a `ValueError`. An integer is read from its text. -/
structure Conversions where
  float : String → Option PyFloat
  int : String → Option ℤ
  float_zero : float "0" = some .zero
  int_intText : ∀ i : ℤ, int (String.ofList (intText i)) = some i

/-- There are such conversions: those of the integers that JSON has. -/
instance : Inhabited Conversions where
  default :=
    { float := fun text => if text = "0" then some .zero else none
      int := fun text =>
        match Json.loads text with
        | some (.int i) => some i
        | _ => none
      float_zero := rfl
      int_intText := by
        intro i
        have hdumps : String.ofList (intText i) = (Json.int i).dumps := by
          rw [Json.dumps, Json.text]
        rw [hdumps, Json.loads_dumps] }

/-- The `limit` that the route accepts. -/
structure SignalsQuery where
  limit : ℕ
  one_le : 1 ≤ limit
  le_max : limit ≤ apiSignalsStreamMaxRead

variable (conv : Conversions)

/-- One turn of the loop; `none` is its `continue`. -/
def signalOut (nowMs : ℤ) (entry : Signal) : Option SignalOut := do
  let fields := entry.2
  let confidence ← conv.float ((fields.get? "confidence").getD "0")
  let timestampMs ← conv.int ((fields.get? "timestamp_ms").getD (String.ofList (intText nowMs)))
  return {
    signalId := entry.1.text
    symbol := (fields.get? "symbol").getD ""
    exchange := (fields.get? "exchange").getD ""
    direction := (fields.get? "direction").getD ""
    confidence := confidence
    strategyTag := (fields.get? "strategy_tag").getD ""
    timestampMs := timestampMs }

/-- `get_signals`; the reply to `XREVRANGE` is decoded as a whole. -/
def getSignals (nowMs : ℤ) (reply : Except Exc (List Entry)) : List SignalOut :=
  match reply with
  | .error _ => []
  | .ok entries =>
      match entries.mapM decodeEntry with
      | none => []
      | some raw => raw.reverse.filterMap (signalOut conv nowMs)

/-- `get_signals` on a server that answers. -/
def readSignals (nowMs : ℤ) (query : SignalsQuery) (store : Store) : List SignalOut :=
  getSignals conv nowMs (.ok (store.xrevrange signalRedisStream query.limit))

/-! ## `/watchlist` -/

/-- `WatchlistOut`. -/
structure WatchlistOut where
  symbol : String
  exchange : String
  compositeScore : Option PyFloat
deriving DecidableEq

variable (py : Builtins)

/-- `float(score_raw)` of a number; anything else is no score. -/
def scoreOf : Json → Except Exc (Option PyFloat)
  | .int i => (floatOfInt py i).map some
  | .bool b => (floatOfInt py (if b then 1 else 0)).map some
  | .float x => .ok (some x)
  | _ => .ok none

/-- One turn of the loop; `none` is its `continue`. -/
def watchlistOut : Json → Except Exc (Option WatchlistOut)
  | .obj members =>
      let entry := Json.dictOf members
      match entry.get? "symbol", entry.get? "exchange" with
      | some (.str symbol), some (.str exchange) => do
          let compositeScore ← scoreOf py ((entry.get? "composite_score").getD .null)
          return some { symbol := symbol, exchange := exchange, compositeScore := compositeScore }
      | _, _ => .ok none
  | _ => .ok none

/-- What a `for` goes over: a dictionary gives its keys, a text its characters. -/
def iterate : Json → Except Exc (List Json)
  | .arr items => .ok items
  | .obj members => .ok ((Json.dictOf members).entries.map fun m => .str m.1)
  | .str text => .ok (text.toList.map fun c => .str (String.singleton c))
  | _ => .error (.typeError "object is not iterable")

/-- `get_watchlist`. The `try` ends before the loop. -/
def getWatchlist (upper : String → String) (exchange : String)
    (get : String → Except Exc (Option ByteArray)) : Except Exc (List WatchlistOut) :=
  match get (Universe.redisKey upper exchange) with
  | .error _ => .ok []
  | .ok none => .ok []
  | .ok (some raw) =>
      match String.fromUTF8? raw with
      | none => .ok []
      | some text =>
          match Json.loads text with
          | none => .ok []
          | some entries => do
              let items ← iterate entries
              let rows ← items.mapM (watchlistOut py)
              return rows.reduceOption

/-! ## What the publisher has appended -/

section Published

open Intraday.Signals (Accepts Attempt Op PublishReply SignalGenerated dataFields next_cases opening
  publish publish_of_accepts publish_of_not_accepts signalDedup signals)

variable {conv} {serialize : SignalGenerated → ByteArray} {s : Store} {a : Attempt}

/-- What a call of `publish` has added to the stream, by its reply: the id and the message. -/
def publication (serialize : SignalGenerated → ByteArray)
    (t : Trans Store Op (Option PublishReply)) : Option (EntryId × ByteArray) :=
  match t.op, t.reply with
  | .publish a, some (.published entryId) => some (entryId, a.payload serialize)
  | _, _ => none

/-- Its entry. -/
def publishedEntry (p : EntryId × ByteArray) : Entry := { id := p.1, fields := dataFields p.2 }

/-- A call that is not accepted is not told that it was. -/
theorem publication_of_not_accepts (h : ¬ Accepts s a) :
    publication serialize ((signals serialize).fire s (.publish a)) = none := by
  have hreply : ∀ entryId, (publish serialize s a).2 ≠ .published entryId := by
    intro entryId hid
    rw [publish, signalDedup] at hid
    apply h
    cases hgenerated : a.result.generated with
    | false => simp [hgenerated] at hid
    | true =>
    cases hhalted : Signals.halted s with
    | true => simp [hgenerated, hhalted] at hid
    | false =>
    cases hexists : s.exists? a.key with
    | true => simp [hgenerated, hhalted, hexists] at hid
    | false => exact ⟨hgenerated, hhalted, hexists⟩
  unfold publication
  split
  · rename_i entryId _ hpublished
    exact absurd (Option.some.inj hpublished) (hreply entryId)
  · rfl

/-- What the publisher is told is what happens to the stream. -/
theorem streams_next (s : Store) (op : Op) :
    ((signals serialize).next s op).streams signalRedisStream =
      s.streams signalRedisStream ++
        ((publication serialize ((signals serialize).fire s op)).map publishedEntry).toList := by
  cases op with
  | publish a =>
      show (publish serialize s a).1.streams signalRedisStream = _
      by_cases h : Accepts s a
      · have hreply : (signals serialize).reply s (.publish a) =
            some (.published (s.nextId signalRedisStream)) := by
          rcases h with ⟨hgenerated, hhalted, hexists⟩
          show some (publish serialize s a).2 = _
          simp only [publish, signalDedup, hgenerated, hhalted, hexists]
          rfl
        rw [publish_of_accepts h, Store.xadd_streams_self, publication, Machine.fire, hreply]
        rfl
      · rw [publish_of_not_accepts h, publication_of_not_accepts h]
        exact (List.append_nil _).symm
  | setHalted value => exact (List.append_nil _).symm
  | advance ms => exact (List.append_nil _).symm

/-- The same over a run. -/
theorem streams_run (s : Store) (ops : List Op) :
    ((signals serialize).run s ops).streams signalRedisStream =
      s.streams signalRedisStream ++
        (((signals serialize).trans s ops).filterMap (publication serialize)).map
          publishedEntry := by
  induction ops generalizing s with
  | nil => exact (List.append_nil _).symm
  | cons op ops ih =>
      have hone := @streams_next serialize s op
      rw [Machine.trans_cons]
      refine (ih _).trans ?_
      rw [hone, List.append_assoc]
      congr 1
      cases hpub : publication serialize ((signals serialize).fire s op) with
      | none => rw [List.filterMap_cons_none hpub]; rfl
      | some p => rw [List.filterMap_cons_some hpub]; rfl

/-- The ids of the stream grow. -/
theorem ordered_run (h : Store.Ordered (s.streams signalRedisStream)) (ops : List Op) :
    Store.Ordered (((signals serialize).run s ops).streams signalRedisStream) := by
  refine @Machine.run_invariant _ _ _ (signals serialize)
    (fun s => Store.Ordered (s.streams signalRedisStream)) ?_ _ h ops
  intro s op hs
  rcases next_cases serialize s op with ⟨a, -, -, heq⟩ | ⟨a, -, -, heq⟩ | ⟨v, heq⟩ | ⟨ms, heq⟩
  · rw [heq]
    exact Store.ordered_xadd hs _
  · rw [heq]
    exact hs
  · rw [heq]
    exact hs
  · rw [heq]
    exact hs

/-- The row of which only the id is known. -/
def blankRow (nowMs : ℤ) (id : EntryId) : SignalOut :=
  { signalId := id.text
    symbol := ""
    exchange := ""
    direction := ""
    confidence := .zero
    strategyTag := ""
    timestampMs := nowMs }

theorem decodeEntry_publishedEntry (p : EntryId × ByteArray) :
    decodeEntry (publishedEntry p) =
      (String.fromUTF8? p.2).map fun text => (p.1, Dict.empty.set "data" text) := by
  rw [decodeEntry, decodeFields]
  cases htext : String.fromUTF8? p.2 with
  | none => simp [publishedEntry, dataFields, Dict.set, Dict.assign, Dict.empty, htext]
  | some text =>
      have hall : (publishedEntry p).fields.entries.all
          (fun field => (String.fromUTF8? field.2).isSome) = true := by
        simp [publishedEntry, dataFields, Dict.set, Dict.assign, Dict.empty, htext]
      rw [if_pos hall]
      simp [publishedEntry, dataFields, Dict.set, Dict.assign, Dict.empty, Dict.mapEntries, htext]

/-- The one field of such an entry is none that the route looks for. -/
theorem signalOut_data (nowMs : ℤ) (id : EntryId) (text : String) :
    signalOut conv nowMs (id, Dict.empty.set "data" text) = some (blankRow nowMs id) := by
  have hget : ∀ name : String, name ≠ "data" →
      (Dict.empty.set "data" text : TextFields).get? name = none := by
    intro name hname
    rw [Dict.get?_set_of_ne _ _ hname]
    rfl
  have hnow : conv.int (((Dict.empty.set "data" text).get? "timestamp_ms").getD
      (String.ofList (intText nowMs))) = some nowMs := by
    rw [hget "timestamp_ms" (by decide)]
    exact conv.int_intText nowMs
  rw [signalOut, hnow]
  simp [blankRow, hget, conv.float_zero]

/-- The reply to a read of the newest entries. -/
theorem readSignals_eq (nowMs : ℤ) (query : SignalsQuery) {published : List (EntryId × ByteArray)}
    (h : s.streams signalRedisStream = published.map publishedEntry) :
    readSignals conv nowMs query s =
      if ∀ p ∈ published.rtake query.limit, (String.fromUTF8? p.2).isSome = true then
        (published.rtake query.limit).map fun p => blankRow nowMs p.1
      else [] := by
  have hnewest : s.xrevrange signalRedisStream query.limit =
      (published.rtake query.limit).reverse.map publishedEntry := by
    rw [Store.xrevrange, h, ← List.map_reverse, ← List.map_take,
      List.rtake_eq_reverse_take_reverse, List.reverse_reverse]
  rw [readSignals, getSignals, hnewest]
  generalize published.rtake query.limit = recent
  by_cases hall : ∀ p ∈ recent, (String.fromUTF8? p.2).isSome = true
  · have hread : (recent.reverse.map publishedEntry).mapM decodeEntry =
        some (recent.reverse.map fun p =>
          (p.1, Dict.empty.set "data" ((String.fromUTF8? p.2).getD ""))) := by
      rw [List.mapM_map]
      refine mapM_eq_some_map ?_
      intro p hp
      rcases Option.isSome_iff_exists.mp (hall p (List.mem_reverse.mp hp)) with ⟨text, htext⟩
      rw [Function.comp_apply, decodeEntry_publishedEntry, htext]
      rfl
    have hrow : (signalOut conv nowMs ∘ fun p : EntryId × ByteArray =>
        (p.1, Dict.empty.set "data" ((String.fromUTF8? p.2).getD ""))) =
          some ∘ fun p => blankRow nowMs p.1 :=
      funext fun p => signalOut_data nowMs p.1 _
    rw [if_pos hall, hread]
    dsimp only
    rw [← List.map_reverse, List.reverse_reverse, List.filterMap_map, hrow, List.filterMap_eq_map]
  · have hnone : (recent.reverse.map publishedEntry).mapM decodeEntry = none := by
      push Not at hall
      rcases hall with ⟨p, hp, hbad⟩
      refine mapM_eq_none (List.mem_map_of_mem (List.mem_reverse.mpr hp)) ?_
      rw [decodeEntry_publishedEntry, Option.not_isSome_iff_eq_none.mp hbad]
      rfl
    rw [if_neg hall, hnone]

/-- Entries of a stream have different ids. -/
theorem nodup_texts {published : List (EntryId × ByteArray)}
    (h : Store.Ordered (published.map publishedEntry)) :
    (published.map fun p => p.1.text).Nodup := by
  rw [List.Nodup, List.pairwise_map]
  rw [Store.Ordered, List.pairwise_map] at h
  refine h.imp ?_
  intro p q hbefore htext
  have hid : p.1 = q.1 := EntryId.text_injective htext
  have hself : p.1.Before q.1 := hbefore
  rw [hid, EntryId.Before] at hself
  omega

/-- After any run of the publisher, a read has a row for each of the newest published signals, the
oldest first: with its id, and without any of what the publisher published. If one of their
messages is no UTF-8, it has no row at all. -/
theorem getSignals_run (conv : Conversions) (serialize : SignalGenerated → ByteArray)
    (startMs : ℕ) (haltedFlag : Option ByteArray) (ops : List Op) (nowMs : ℤ)
    (query : SignalsQuery) :
    let start := opening startMs haltedFlag []
    let recent :=
      (((signals serialize).trans start ops).filterMap (publication serialize)).rtake query.limit
    let rows := readSignals conv nowMs query ((signals serialize).run start ops)
    (rows.map (·.signalId)).Nodup ∧
      rows = if ∀ p ∈ recent, (String.fromUTF8? p.2).isSome = true then
        recent.map fun p => blankRow nowMs p.1
      else [] := by
  intro start recent rows
  have hstream : ((signals serialize).run start ops).streams signalRedisStream =
      (((signals serialize).trans start ops).filterMap (publication serialize)).map
        publishedEntry := streams_run start ops
  have hrows : rows = _ := readSignals_eq nowMs query hstream
  refine ⟨?_, hrows⟩
  have hordered : Store.Ordered (recent.map publishedEntry) := by
    have hall := @ordered_run serialize start List.Pairwise.nil ops
    rw [hstream] at hall
    exact hall.sublist ((List.drop_sublist _ _).map _)
  rw [hrows]
  split
  · rw [List.map_map]
    exact nodup_texts hordered
  · exact List.nodup_nil

end Published

/-! ## What the universe filter has written -/

section Cached

open Intraday.Universe (FilterRun Scoring WatchlistEntry WatchlistOp Watchlists payload
  redisKeyPrefix runUniverseFilter storeWatchlist watchlists)

/-- The watchlists there are to see: of each exchange one at most, with its last millisecond. -/
structure Boards where
  nowMs : ℕ
  shown : String → Option (ℕ × List WatchlistEntry)

/-- The watchlist of an exchange, until it goes away. -/
def Boards.read (b : Boards) (exchange : String) : List WatchlistEntry :=
  match b.shown exchange with
  | none => []
  | some (last, entries) => if b.nowMs ≤ last then entries else []

/-- A result that is not empty is shown from then on for eight hours. -/
def boards (upper : String → String) (scoring : Scoring) : Machine Boards WatchlistOp Unit where
  step b
    | .store run =>
        (match runUniverseFilter upper scoring run with
          | [] => b
          | e :: rest =>
              { b with
                shown := Function.update b.shown (upper run.exchange)
                  (some (b.nowMs + 1000 * watchlistRedisTtlSeconds, e :: rest)) }, ())
    | .advance ms => ({ b with nowMs := b.nowMs + ms }, ())
    | .evict key =>
        ({ b with
            shown := fun exchange =>
              if joinKey redisKeyPrefix exchange = key then none else b.shown exchange }, ())
    | .load _ _ => (b, ())

/-- Nothing is shown yet. -/
def Boards.opening (nowMs : ℕ) : Boards := { nowMs := nowMs, shown := fun _ => none }

/-- The cell of a watchlist. -/
def cellOf (shown : ℕ × List WatchlistEntry) : Cell :=
  { value := payload shown.2, deadline := some shown.1 }

/-- The keys of the exchanges hold what is shown, and that is the last result. -/
structure Shows (x : Watchlists) (b : Boards) : Prop where
  now : x.backends.redis.nowMs = b.nowMs
  cells : ∀ exchange, x.backends.redis.strings (joinKey redisKeyPrefix exchange) =
    (b.shown exchange).map cellOf
  last : ∀ exchange shown, b.shown exchange = some shown → shown.2 = x.lastNonempty exchange

variable {upper : String → String} {scoring : Scoring} {x : Watchlists} {b : Boards}

theorem Shows.opening (nowMs : ℕ) : Shows (.opening nowMs) (.opening nowMs) where
  now := rfl
  cells := fun _ => rfl
  last := by
    intro exchange shown hshown
    cases hshown

/-- An empty result changes nothing of what there is to see. -/
theorem Shows.next_empty {run : FilterRun} (h : Shows x b)
    (hresult : runUniverseFilter upper scoring run = []) :
    Shows ((watchlists upper scoring).next x (.store run)) b := by
  have hbackends : ((watchlists upper scoring).next x (.store run)).backends = x.backends := by
    show storeWatchlist upper x.backends (runUniverseFilter upper scoring run) = x.backends
    rw [hresult]
    rfl
  refine { now := ?_, cells := ?_, last := ?_ }
  · rw [hbackends]
    exact h.now
  · rw [hbackends]
    exact h.cells
  · intro exchange shown hshown
    rw [Universe.lastNonempty_next_store, if_neg fun hand => hand.2 hresult]
    exact h.last exchange shown hshown

/-- A result that is not empty takes the place of the one before it. -/
theorem Shows.next_nonempty {run : FilterRun} {e : WatchlistEntry} {rest : List WatchlistEntry}
    (h : Shows x b) (hresult : runUniverseFilter upper scoring run = e :: rest) :
    Shows ((watchlists upper scoring).next x (.store run))
      { b with
        shown := Function.update b.shown (upper run.exchange)
          (some (b.nowMs + 1000 * watchlistRedisTtlSeconds, e :: rest)) } := by
  have hexchange : e.exchange = run.exchange := by
    have hmem : e ∈ runUniverseFilter upper scoring run := by
      rw [hresult]
      exact List.mem_cons_self
    exact (Universe.ofRun_of_mem hmem).1
  have hredis : ((watchlists upper scoring).next x (.store run)).backends.redis =
      x.backends.redis.setEx (joinKey redisKeyPrefix (upper run.exchange)) (payload (e :: rest))
        watchlistRedisTtlSeconds := by
    show (storeWatchlist upper x.backends (runUniverseFilter upper scoring run)).redis = _
    rw [hresult, storeWatchlist, hexchange]
    rfl
  refine { now := ?_, cells := ?_, last := ?_ }
  · rw [hredis]
    exact h.now
  · intro exchange
    rw [hredis, Store.setEx, h.now]
    dsimp only
    by_cases hsame : exchange = upper run.exchange
    · subst hsame
      rw [Function.update_self, Function.update_self]
      rfl
    · have hkey : joinKey redisKeyPrefix exchange ≠ joinKey redisKeyPrefix (upper run.exchange) :=
        fun heq => hsame (joinKey_right_inj.mp heq)
      rw [Function.update_of_ne hkey, Function.update_of_ne hsame]
      exact h.cells exchange
  · intro exchange shown hshown
    have hshown : Function.update b.shown (upper run.exchange) _ exchange = some shown := hshown
    rw [Universe.lastNonempty_next_store, hresult]
    by_cases hsame : exchange = upper run.exchange
    · subst hsame
      rw [Function.update_self] at hshown
      rw [if_pos ⟨rfl, List.cons_ne_nil e rest⟩, ← Option.some.inj hshown]
    · rw [Function.update_of_ne hsame] at hshown
      rw [if_neg fun hand => hsame hand.1.symm]
      exact h.last exchange shown hshown

theorem Shows.next (h : Shows x b) (op : WatchlistOp) :
    Shows ((watchlists upper scoring).next x op) ((boards upper scoring).next b op) := by
  cases op with
  | store run =>
      cases hresult : runUniverseFilter upper scoring run with
      | nil =>
          have hboards : (boards upper scoring).next b (.store run) = b := by
            simp [Machine.next, boards, hresult]
          rw [hboards]
          exact h.next_empty hresult
      | cons e rest =>
          have hboards : (boards upper scoring).next b (.store run) = { b with
              shown := Function.update b.shown (upper run.exchange)
                (some (b.nowMs + 1000 * watchlistRedisTtlSeconds, e :: rest)) } := by
            simp [Machine.next, boards, hresult]
          rw [hboards]
          exact h.next_nonempty hresult
  | advance ms => exact { now := congrArg (· + ms) h.now, cells := h.cells, last := h.last }
  | evict key =>
      refine { now := h.now, cells := ?_, last := ?_ }
      · intro exchange
        show Function.update x.backends.redis.strings key none (joinKey redisKeyPrefix exchange) =
          Option.map cellOf
            (if joinKey redisKeyPrefix exchange = key then none else b.shown exchange)
        by_cases hkey : joinKey redisKeyPrefix exchange = key
        · rw [hkey, Function.update_self, if_pos rfl]
          rfl
        · rw [Function.update_of_ne hkey, if_neg hkey]
          exact h.cells exchange
      · intro exchange shown hshown
        have hshown : (if joinKey redisKeyPrefix exchange = key then none
          else b.shown exchange) = some shown := hshown
        split at hshown
        · cases hshown
        · exact h.last exchange shown hshown
  | load exchange topN => exact h

/-- The key of an exchange is read as long as its watchlist is shown. -/
theorem Shows.get_eq (h : Shows x b) (exchange : String) :
    x.backends.redis.get (joinKey redisKeyPrefix exchange) =
      match b.shown exchange with
      | none => none
      | some shown => if b.nowMs ≤ shown.1 then some (payload shown.2) else none := by
  have hcell := h.cells exchange
  cases hshown : b.shown exchange with
  | none =>
      rw [hshown] at hcell
      simp [Store.get, Store.exists?, hcell]
  | some shown =>
      rw [hshown] at hcell
      simp [Store.get, Store.exists?, hcell, cellOf, h.now]

end Cached

section Rows

open Intraday.Universe (Scoring WatchlistEntry WatchlistOp Watchlists entryToRedisDict payload
  redisKey redisKeyPrefix watchlists)

/-- What is shown of an entry. -/
def boardRow (e : WatchlistEntry) : WatchlistOut :=
  { symbol := e.symbol, exchange := e.exchange, compositeScore := some e.compositeScore }

theorem watchlistOut_entryToRedisDict (py : Builtins) (e : WatchlistEntry) :
    watchlistOut py (entryToRedisDict e) = .ok (some (boardRow e)) := by
  have hentries : ∀ members : List (String × Json), (members.map Prod.fst).Nodup →
      (Json.dictOf members).entries = members := by
    intro members hnodup
    exact foldl_set_entries members Dict.empty hnodup
  rw [entryToRedisDict, watchlistOut]
  simp [Dict.get?, hentries, Dict.lookup, scoreOf, boardRow]

/-- A payload is shown as the entries it was made of. -/
theorem getWatchlist_payload (py : Builtins) (upper : String → String) (exchange : String)
    {get : String → Except Exc (Option ByteArray)} {entries : List WatchlistEntry}
    (h : get (redisKey upper exchange) = .ok (some (payload entries))) :
    getWatchlist py upper exchange get = .ok (entries.map boardRow) := by
  have hrows : (entries.map entryToRedisDict).mapM (watchlistOut py) =
      .ok (entries.map fun e => some (boardRow e)) := by
    rw [List.mapM_map]
    refine mapM_eq_map ?_
    intro e _
    exact watchlistOut_entryToRedisDict py e
  rw [getWatchlist, h]
  dsimp only
  rw [payload, fromUTF8?_toByteArray]
  dsimp only
  rw [Json.loads_dumps]
  dsimp only
  rw [iterate]
  show (do
    let rows ← (entries.map entryToRedisDict).mapM (watchlistOut py)
    return rows.reduceOption) = _
  rw [hrows]
  show Except.ok (List.filterMap id _) = _
  rw [List.filterMap_map]
  exact congrArg Except.ok (List.filterMap_eq_map ▸ rfl)

/-- After any run of stores, waits and losses of keys, the route shows what is on the board of the
exchange: the last result that is not empty, while Redis has it, or nothing. -/
theorem getWatchlist_run (py : Builtins) (upper : String → String) (scoring : Scoring)
    (startMs : ℕ) (ops : List WatchlistOp) (exchange : String) :
    let x := (watchlists upper scoring).run (.opening startMs) ops
    let shown := ((boards upper scoring).run (.opening startMs) ops).read (upper exchange)
    getWatchlist py upper exchange (fun key => .ok (x.backends.redis.get key)) =
        .ok (shown.map boardRow) ∧
      (shown = [] ∨ shown = x.lastNonempty (upper exchange)) := by
  intro x shown
  have h : Shows x ((boards upper scoring).run (.opening startMs) ops) :=
    (watchlists upper scoring).run_related (fun _ _ op hs => hs.next op) (.opening startMs) ops
  have hget := h.get_eq (upper exchange)
  have hread : shown = Boards.read _ (upper exchange) := rfl
  generalize (boards upper scoring).run (.opening startMs) ops = b at h hget hread
  rw [Boards.read] at hread
  cases hboard : b.shown (upper exchange) with
  | none =>
      rw [hboard] at hget hread
      refine ⟨?_, Or.inl hread⟩
      rw [getWatchlist, redisKey, hget, hread]
      rfl
  | some cell =>
      rw [hboard] at hget hread
      dsimp only at hget hread
      by_cases hlive : b.nowMs ≤ cell.1
      · rw [if_pos hlive] at hget hread
        rw [hread]
        exact ⟨getWatchlist_payload py upper exchange (congrArg Except.ok hget),
          Or.inr (h.last _ cell hboard)⟩
      · rw [if_neg hlive] at hget hread
        refine ⟨?_, Or.inl hread⟩
        rw [getWatchlist, redisKey, hget, hread]
        rfl

end Rows

end Intraday.Api
