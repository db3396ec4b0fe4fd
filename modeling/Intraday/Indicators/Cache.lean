import Intraday.Core.Constants
import Intraday.Lib.Key
import Intraday.Lib.OffsetTime
import Intraday.Lib.PyValue
import Intraday.Lib.RedisStore

/-!
# Intraday.Indicators.Cache — `shared/indicators/cache.py`

A snapshot is stored as JSON under a key made of its exchange, symbol and timeframe. What the
client returns is made a text by `str`: bytes become the text of a bytes literal, which is no
JSON. The parts of the key are joined by colons, so that a part with a colon makes it the key of
other triples, too (`snapshot_cache_iff`).
-/

namespace Intraday.Indicators

open Intraday.Core Intraday.Lib
open Intraday.Lib.RedisStore (Store)

/-! ## Snapshots -/

/-- `IndicatorOutputDict`: the named values of an indicator; `none` is not yet computable. -/
abbrev IndicatorOutputDict := Dict String (Option PyFloat)

/-- `IndicatorSnapshot`. -/
structure IndicatorSnapshot where
  symbol : String
  exchange : String
  timeframe : String
  candleTime : ZonedTime
  computedAt : ZonedTime
  values : Dict String IndicatorOutputDict

/-- A value in the payload. -/
def outputJson (v : Option PyFloat) : Json := v.elim .null .float

/-- A dictionary in the payload. -/
def dictJson {ν : Type} (json : ν → Json) (d : Dict String ν) : Json :=
  .obj (d.entries.map fun e => (e.1, json e.2))

/-- The values in the payload. -/
def valuesJson (values : Dict String IndicatorOutputDict) : Json :=
  dictJson (dictJson outputJson) values

/-- The payload of a snapshot. -/
def payload (s : IndicatorSnapshot) : Json :=
  .obj
    [("symbol", .str s.symbol), ("exchange", .str s.exchange), ("timeframe", .str s.timeframe),
      ("candle_time", .str s.candleTime.isoformat), ("computed_at", .str s.computedAt.isoformat),
      ("values", valuesJson s.values)]

/-! ## Storing and loading -/

/-- `cache_key`. -/
def cacheKey (symbol exchange timeframe : String) : String :=
  "indicators:" ++ exchange ++ ":" ++ symbol ++ ":" ++ timeframe

/-- `store_snapshot`. -/
def storeSnapshot (server : Store) (s : IndicatorSnapshot) : Store :=
  server.setEx (cacheKey s.symbol s.exchange s.timeframe) (payload s).dumps.toByteArray
    indicatorCacheTtlSeconds

/-- What loading raises. -/
inductive SnapshotExc where
  | unicodeDecodeError
  | jsonDecodeError
  | keyError (key : String)
  | typeError
  | valueError
deriving DecidableEq

/-- A byte in the text of a bytes literal. -/
def escapeByte (quote : Char) (byte : UInt8) : List Char :=
  let c := Char.ofNat byte.toNat
  if c = '\\' ∨ c = quote then ['\\', c]
  else if c = '\t' then ['\\', 't']
  else if c = '\n' then ['\\', 'n']
  else if c = '\r' then ['\\', 'r']
  else if ' ' ≤ c ∧ c ≤ '~' then [c]
  else ['\\', 'x', (byte.toNat / 16).digitChar, (byte.toNat % 16).digitChar]

/-- `str(raw)` of bytes. -/
def strBytes (raw : ByteArray) : String :=
  let bytes := raw.data.toList
  let hasByte := fun (c : Char) => bytes.any fun b => Char.ofNat b.toNat == c
  let quote := if hasByte '\x27' && !hasByte '"' then '"' else '\x27'
  String.ofList ('b' :: quote :: (bytes.flatMap (escapeByte quote) ++ [quote]))

/-- `str(client.get(…))`, of a client that decodes what the server returns or of one that
returns the bytes. -/
def rawText (decodes : Bool) (raw : ByteArray) : Except SnapshotExc String :=
  if decodes then (String.fromUTF8? raw).elim (.error .unicodeDecodeError) .ok
  else .ok (strBytes raw)

/-- The snapshot that is loaded: three of its fields are whatever the payload has there. -/
structure LoadedSnapshot where
  symbol : Json
  exchange : Json
  timeframe : Json
  candleTime : OffsetTime
  computedAt : OffsetTime
  values : Json

/-- `payload[key]`. -/
def item (payload : Json) (key : String) : Except SnapshotExc Json :=
  match payload with
  | .obj members => (Json.getItem members key).elim (.error (.keyError key)) .ok
  | _ => .error .typeError

/-- `datetime.fromisoformat(payload[key])`. -/
def timeItem (payload : Json) (key : String) : Except SnapshotExc OffsetTime := do
  match ← item payload key with
  | .str text => (OffsetTime.fromisoformat text).elim (.error .valueError) .ok
  | _ => .error .typeError

/-- The snapshot of a text. -/
def readSnapshot (text : String) : Except SnapshotExc LoadedSnapshot := do
  let payload ← (Json.loads text).elim (.error .jsonDecodeError) .ok
  let symbol ← item payload "symbol"
  let exchange ← item payload "exchange"
  let timeframe ← item payload "timeframe"
  let candleTime ← timeItem payload "candle_time"
  let computedAt ← timeItem payload "computed_at"
  let values ← item payload "values"
  pure
    { symbol := symbol, exchange := exchange, timeframe := timeframe, candleTime := candleTime
      computedAt := computedAt, values := values }

/-- `load_snapshot`. -/
def loadSnapshot (decodes : Bool) (server : Store) (symbol exchange timeframe : String) :
    Except SnapshotExc (Option LoadedSnapshot) :=
  match server.get (cacheKey symbol exchange timeframe) with
  | none => .ok none
  | some raw => (rawText decodes raw >>= readSnapshot).map some

/-! ## Equal snapshots -/

/-- `d == e`, of dictionaries whose values are compared by `eqv`. -/
def DictEq {ν : Type} (eqv : ν → ν → Prop) (d e : Dict String ν) : Prop :=
  d.entries.length = e.entries.length ∧
    ∀ k x, d.get? k = some x → ∃ y, e.get? k = some y ∧ eqv x y

/-- `a == b`, of two values of an indicator. -/
def OutputEq (a b : Option PyFloat) : Prop :=
  match a, b with
  | none, none => True
  | some x, some y => x.eq y = true
  | _, _ => False

/-- `x == s`. -/
structure Equals (x : LoadedSnapshot) (s : IndicatorSnapshot) : Prop where
  symbol : x.symbol = .str s.symbol
  exchange : x.exchange = .str s.exchange
  timeframe : x.timeframe = .str s.timeframe
  candleTime : x.candleTime.eqZoned s.candleTime = true
  computedAt : x.computedAt.eqZoned s.computedAt = true
  values : ∃ v, x.values = valuesJson v ∧ DictEq (DictEq OutputEq) v s.values

theorem dictEq_self {ν : Type} {eqv : ν → ν → Prop} {d : Dict String ν} :
    DictEq eqv d d ↔ ∀ e ∈ d.entries, eqv e.2 e.2 := by
  constructor
  · intro h e he
    have hget : d.get? e.1 = some e.2 := Dict.get?_eq_some_iff.mpr he
    rcases h.2 e.1 e.2 hget with ⟨y, hy, heqv⟩
    rw [hget, Option.some.injEq] at hy
    rwa [← hy] at heqv
  · intro h
    refine ⟨rfl, ?_⟩
    intro k x hx
    exact ⟨x, hx, h (k, x) (Dict.get?_eq_some_iff.mp hx)⟩

theorem outputEq_self (v : Option PyFloat) : OutputEq v v ↔ v ≠ some .nan := by
  cases v with
  | none => simp [OutputEq]
  | some x =>
      cases x with
      | nan => simp [OutputEq, PyFloat.eq, PyFloat.le]
      | inf negative => cases negative <;> simp [OutputEq, PyFloat.eq, PyFloat.le]
      | finite negative d => simp [OutputEq, PyFloat.eq, PyFloat.le]

/-- No value of a snapshot is a NaN. -/
def NoNan (s : IndicatorSnapshot) : Prop :=
  ∀ e ∈ s.values.entries, ∀ v ∈ e.2.entries, v.2 ≠ some .nan

theorem dictJson_injective {ν : Type} {json : ν → Json} (h : Function.Injective json) :
    Function.Injective (dictJson json) := by
  intro d e heq
  have hentry : Function.Injective fun entry : String × ν => (entry.1, json entry.2) := by
    intro a b hab
    rw [Prod.mk.injEq] at hab
    exact Prod.ext hab.1 (h hab.2)
  exact Dict.eq_of_entries (List.map_injective_iff.mpr hentry (Json.obj.inj heq))

theorem outputJson_injective : Function.Injective outputJson := by
  intro a b h
  cases a with
  | none =>
      cases b with
      | none => rfl
      | some y => cases h
  | some x =>
      cases b with
      | none => cases h
      | some y => rw [Json.float.inj h]

theorem valuesJson_injective : Function.Injective valuesJson :=
  dictJson_injective (dictJson_injective outputJson_injective)

/-! ## The round trip -/

/-- What is left of a snapshot in its payload. -/
def loaded (s : IndicatorSnapshot) : LoadedSnapshot where
  symbol := .str s.symbol
  exchange := .str s.exchange
  timeframe := .str s.timeframe
  candleTime := s.candleTime.toOffsetTime
  computedAt := s.computedAt.toOffsetTime
  values := valuesJson s.values

/-- A payload is read back field by field. -/
theorem readSnapshot_dumps (s : IndicatorSnapshot) :
    readSnapshot (payload s).dumps = .ok (loaded s) := by
  have htime : ∀ (key : String) (t : OffsetTime), Json.getItem
      [("symbol", .str s.symbol), ("exchange", .str s.exchange), ("timeframe", .str s.timeframe),
        ("candle_time", .str s.candleTime.isoformat),
        ("computed_at", .str s.computedAt.isoformat), ("values", valuesJson s.values)] key =
      some (.str t.isoformat) → timeItem (payload s) key = .ok t := by
    intro key t hitem
    simp only [timeItem, item, payload, hitem, Option.elim_some, bind, Except.bind,
      OffsetTime.fromisoformat_isoformat]
  rw [readSnapshot, Json.loads_dumps]
  simp only [Option.elim_some, bind, Except.bind, htime "candle_time" s.candleTime.toOffsetTime rfl,
    htime "computed_at" s.computedAt.toOffsetTime rfl]
  rfl

/-- The text of a bytes literal is no JSON. -/
theorem readSnapshot_strBytes (raw : ByteArray) :
    readSnapshot (strBytes raw) = .error .jsonDecodeError := by
  have hhead : ∃ rest, (strBytes raw).toList = 'b' :: rest := by
    rw [strBytes, String.toList_ofList]
    exact ⟨_, rfl⟩
  rcases hhead with ⟨rest, hrest⟩
  have hatom : Json.scanAtom ('b' :: rest) = none := by
    simp [Json.scanAtom, Json.scanNumber_eq_none]
  have hloads : Json.loads (strBytes raw) = none := by
    rw [Json.loads, hrest, Json.skipSpace_cons (by decide), List.length_cons,
      Json.scanValue.eq_def]
    simp [hatom]
  rw [readSnapshot, hloads]
  rfl

variable {s : IndicatorSnapshot}

/-- What is loaded within the lifetime of a stored snapshot. -/
theorem loadSnapshot_store (decodes : Bool) (server : Store) (s : IndicatorSnapshot) {ms : ℕ}
    (hms : ms ≤ 1000 * indicatorCacheTtlSeconds) :
    loadSnapshot decodes ((storeSnapshot server s).advance ms) s.symbol s.exchange s.timeframe =
      if decodes then .ok (some (loaded s)) else .error .jsonDecodeError := by
  rw [loadSnapshot, storeSnapshot, RedisStore.Store.get_advance_setEx_self server _ _ hms]
  cases decodes with
  | true =>
      simp only [rawText, if_true, Python.fromUTF8?_toByteArray, Option.elim_some, bind,
        Except.bind, readSnapshot_dumps]
      rfl
  | false =>
      simp only [rawText, Bool.false_eq_true, if_false, bind, Except.bind, readSnapshot_strBytes]
      rfl

/-- What is left of a snapshot equals it unless it has a NaN, or a time whose offset depends on
its fold. -/
theorem equals_loaded_iff (s : IndicatorSnapshot) :
    Equals (loaded s) s ↔ NoNan s ∧
      (s.candleTime.offset.isSome = true → s.candleTime.folds = false) ∧
        (s.computedAt.offset.isSome = true → s.computedAt.folds = false) := by
  have hvalues : DictEq (DictEq OutputEq) s.values s.values ↔ NoNan s := by
    rw [dictEq_self]
    refine forall₂_congr ?_
    intro e he
    rw [dictEq_self]
    refine forall₂_congr ?_
    intro v hv
    exact outputEq_self v.2
  constructor
  · intro h
    rcases h.values with ⟨v, hv, heq⟩
    rw [← valuesJson_injective hv] at heq
    exact ⟨hvalues.mp heq, (eqZoned_self _).mp h.candleTime, (eqZoned_self _).mp h.computedAt⟩
  · rintro ⟨hnan, hcandle, hcomputed⟩
    exact
      { symbol := rfl, exchange := rfl, timeframe := rfl
        candleTime := (eqZoned_self _).mpr hcandle
        computedAt := (eqZoned_self _).mpr hcomputed
        values := ⟨s.values, rfl, hvalues.mpr hnan⟩ }

/-! ## Keys -/

/-- A snapshot is for a triple. -/
def IsFor (s : IndicatorSnapshot) (symbol exchange timeframe : String) : Prop :=
  symbol = s.symbol ∧ exchange = s.exchange ∧ timeframe = s.timeframe

/-- No part of the key of a snapshot has a colon. -/
def NoColon (s : IndicatorSnapshot) : Prop :=
  ':' ∉ s.exchange.toList ∧ ':' ∉ s.symbol.toList ∧ ':' ∉ s.timeframe.toList

theorem cacheKey_eq (symbol exchange timeframe : String) :
    cacheKey symbol exchange timeframe =
      joinKey "indicators" (joinKey exchange (joinKey symbol timeframe)) := by
  have hprefix : "indicators:" = "indicators" ++ ":" := by decide
  simp only [cacheKey, joinKey, hprefix, String.append_assoc]

theorem joinKey_assoc (a b c : String) :
    joinKey (joinKey a b) c = joinKey a (joinKey b c) := by
  simp only [joinKey, String.append_assoc]

theorem joinKey_ne_left (a b : String) : joinKey a b ≠ a := by
  intro h
  have hlength := congrArg (fun t : String => t.toList.length) h
  simp only [toList_joinKey, List.length_append, List.length_cons] at hlength
  omega

theorem count_joinKey (a b : String) :
    (joinKey a b).toList.count ':' = a.toList.count ':' + b.toList.count ':' + 1 := by
  rw [toList_joinKey, List.count_append, List.count_cons_self, Nat.add_assoc]

/-- A key has as many colons as its parts and two more, so the parts of any triple under a key
with only these have none, and the key tells the triple. -/
theorem isFor_of_cacheKey (hcolon : NoColon s) {symbol exchange timeframe : String}
    (h : cacheKey symbol exchange timeframe = cacheKey s.symbol s.exchange s.timeframe) :
    IsFor s symbol exchange timeframe := by
  rw [cacheKey_eq, cacheKey_eq, joinKey_right_inj] at h
  rcases hcolon with ⟨hexchange, hsymbol, htimeframe⟩
  have hcount := congrArg (fun t : String => t.toList.count ':') h
  simp only [count_joinKey, List.count_eq_zero.mpr hexchange, List.count_eq_zero.mpr hsymbol,
    List.count_eq_zero.mpr htimeframe] at hcount
  have hexchange' : ':' ∉ exchange.toList := List.count_eq_zero.mp (by omega)
  have hsymbol' : ':' ∉ symbol.toList := List.count_eq_zero.mp (by omega)
  rcases (joinKey_inj hexchange' hexchange).mp h with ⟨heq, hrest⟩
  rcases (joinKey_inj hsymbol' hsymbol).mp hrest with ⟨heqSymbol, heqTimeframe⟩
  exact ⟨heqSymbol, heq, heqTimeframe⟩

/-- A colon in a part may be taken for one between two parts. -/
theorem exists_other_of_colon (h : ¬NoColon s) :
    ∃ symbol exchange timeframe, ¬IsFor s symbol exchange timeframe ∧
      cacheKey symbol exchange timeframe = cacheKey s.symbol s.exchange s.timeframe := by
  simp only [cacheKey_eq, joinKey_right_inj]
  -- what is before or after the colon goes to the part beside it
  by_cases hexchange : ':' ∈ s.exchange.toList
  · have hsplit := joinKey_splitKey hexchange
    generalize splitKey s.exchange = parts at hsplit
    refine ⟨joinKey parts.2 s.symbol, parts.1, s.timeframe, ?_, ?_⟩
    · rintro ⟨-, heq, -⟩
      rw [← hsplit] at heq
      exact joinKey_ne_left _ _ heq.symm
    · rw [← hsplit, joinKey_assoc, joinKey_assoc]
  · by_cases hsymbol : ':' ∈ s.symbol.toList
    · have hsplit := joinKey_splitKey hsymbol
      generalize splitKey s.symbol = parts at hsplit
      refine ⟨parts.1, s.exchange, joinKey parts.2 s.timeframe, ?_, ?_⟩
      · rintro ⟨heq, -, -⟩
        rw [← hsplit] at heq
        exact joinKey_ne_left _ _ heq.symm
      · rw [← hsplit, joinKey_assoc]
    · have htimeframe : ':' ∈ s.timeframe.toList := by
        by_contra hnone
        exact h ⟨hexchange, hsymbol, hnone⟩
      have hsplit := joinKey_splitKey htimeframe
      generalize splitKey s.timeframe = parts at hsplit
      refine ⟨parts.1, joinKey s.exchange s.symbol, parts.2, ?_, ?_⟩
      · rintro ⟨-, heq, -⟩
        exact joinKey_ne_left _ _ heq
      · rw [← hsplit, joinKey_assoc]

/-- A server on which nothing is stored. -/
def emptyServer : Store := { nowMs := 0, strings := fun _ => none, streams := fun _ => [] }

/-- Storing a snapshot changes what is loaded for another triple exactly if a part of its key has
a colon. -/
theorem frame_iff (decodes : Bool) (s : IndicatorSnapshot) :
    (∀ (server : Store) (symbol exchange timeframe : String),
      ¬IsFor s symbol exchange timeframe →
        loadSnapshot decodes (storeSnapshot server s) symbol exchange timeframe =
          loadSnapshot decodes server symbol exchange timeframe) ↔ NoColon s := by
  constructor
  · intro h
    by_contra hcolon
    rcases exists_other_of_colon hcolon with ⟨symbol, exchange, timeframe, hother, hkey⟩
    -- where nothing is stored, something is found afterwards
    have hload := h emptyServer symbol exchange timeframe hother
    have hstored : loadSnapshot decodes (storeSnapshot emptyServer s) s.symbol s.exchange
        s.timeframe = if decodes then .ok (some (loaded s)) else .error .jsonDecodeError :=
      loadSnapshot_store decodes emptyServer s (Nat.zero_le _)
    rw [loadSnapshot, ← hkey, ← loadSnapshot, hload] at hstored
    cases decodes with
    | true => cases hstored
    | false => cases hstored
  · intro hcolon server symbol exchange timeframe hother
    have hne : cacheKey symbol exchange timeframe ≠ cacheKey s.symbol s.exchange s.timeframe :=
      fun hkey => hother (isFor_of_cacheKey hcolon hkey)
    rw [loadSnapshot, loadSnapshot, storeSnapshot, RedisStore.Store.get_setEx_of_ne _ _ _ hne]

/-- What is promised of the cache for a snapshot: within its lifetime it is loaded as an equal one,
and what is loaded for other triples stays as it was. -/
def CachesSnapshot (decodes : Bool) (s : IndicatorSnapshot) : Prop :=
  (∀ (server : Store) (ms : ℕ), ms ≤ 1000 * indicatorCacheTtlSeconds →
    ∃ x, loadSnapshot decodes ((storeSnapshot server s).advance ms) s.symbol s.exchange
      s.timeframe = .ok (some x) ∧ Equals x s) ∧
  ∀ (server : Store) (symbol exchange timeframe : String), ¬IsFor s symbol exchange timeframe →
    loadSnapshot decodes (storeSnapshot server s) symbol exchange timeframe =
      loadSnapshot decodes server symbol exchange timeframe

/-- The cache keeps its promise exactly for a client that decodes, and a snapshot without a NaN,
without a time in a fold and without a colon in its key. -/
theorem snapshot_cache_iff (decodes : Bool) (s : IndicatorSnapshot) :
    CachesSnapshot decodes s ↔
      decodes = true ∧ NoNan s ∧
        (s.candleTime.offset.isSome = true → s.candleTime.folds = false) ∧
        (s.computedAt.offset.isSome = true → s.computedAt.folds = false) ∧ NoColon s := by
  rw [CachesSnapshot, frame_iff]
  constructor
  · rintro ⟨hround, hcolon⟩
    -- what was stored is loaded at once, and tells what is lost
    rcases hround emptyServer 0 (Nat.zero_le _) with ⟨x, hload, hequals⟩
    rw [loadSnapshot_store decodes emptyServer s (Nat.zero_le _)] at hload
    cases decodes with
    | false => cases hload
    | true =>
        rw [if_pos rfl, Except.ok.injEq, Option.some.injEq] at hload
        subst hload
        rcases (equals_loaded_iff s).mp hequals with ⟨hnan, hcandle, hcomputed⟩
        exact ⟨rfl, hnan, hcandle, hcomputed, hcolon⟩
  · rintro ⟨rfl, hnan, hcandle, hcomputed, hcolon⟩
    refine ⟨?_, hcolon⟩
    intro server ms hms
    refine ⟨loaded s, ?_, (equals_loaded_iff s).mpr ⟨hnan, hcandle, hcomputed⟩⟩
    rw [loadSnapshot_store true server s hms, if_pos rfl]

/-- A moment of UTC. -/
def utcMorning : ZonedTime where
  clock := (DateTime.ofFields 2026 6 1 3 45 0 0).get rfl
  offset := UtcOffset.ofFields false 0 0 0 0
  folds := false

/-- A snapshot without values. -/
def relianceSnapshot : IndicatorSnapshot where
  symbol := "RELIANCE.NS"
  exchange := "NSE"
  timeframe := "5m"
  candleTime := utcMorning
  computedAt := utcMorning
  values := Dict.empty

/-- A client that returns bytes cannot load any snapshot. -/
theorem bytes_are_not_loaded :
    ¬∀ (decodes : Bool) (s : IndicatorSnapshot), CachesSnapshot decodes s := by
  intro h
  rcases (h false relianceSnapshot).1 emptyServer 0 (Nat.zero_le _) with ⟨x, hload, -⟩
  rw [loadSnapshot_store false emptyServer relianceSnapshot (Nat.zero_le _)] at hload
  cases hload

end Intraday.Indicators
