import Intraday.Lib.PyValue
import Intraday.Lib.Traverse
import Intraday.Universe.Filter

/-!
# Intraday.Universe.Compliance — `shared/universe/compliance.py`

The four lists of the exchange are loaded one after the other, each from a cache file that is fresh,
or from its endpoint, or from a cache file that is stale; if nothing is there the list is empty.
What a request raises is caught. What the reading of a file raises is caught in part, and what a
row raises that is no object is not caught, so either takes down all four lists
(`failsOpen_iff`).

How bytes are decoded and parsed, the texts of values, `float` and `str.upper` are parameters.
-/

namespace Intraday.Universe

open Intraday.Core Intraday.Lib Intraday.Lib.Python

/-- The compliance categories. -/
inductive Category where
  | asm
  | esm
  | ban
  | mwpl
deriving DecidableEq, Repr

/-- A cache file: the time it was written, and its bytes, if they can be read. -/
structure CacheFile where
  modified : ℚ
  content : Option ByteArray

/-- What a fetch finds: the time, the cache files, and the payloads of the endpoints or the texts of
what the requests raise. -/
structure Sources where
  now : ℚ
  cache : Category → Option CacheFile
  response : Category → Except String Json

/-- What is not computed here. -/
structure Loaders where
  builtins : Builtins
  load : ByteArray → Except LoadExc Json
  upper : String → String

variable (py : Loaders) (src : Sources)

/-! ## The data of a category -/

/-- `_is_cache_fresh`. -/
def isCacheFresh (now : ℚ) : Option CacheFile → Bool
  | none => false
  | some file => decide (now - file.modified < complianceCacheMaxAgeHours * 3600)

/-- `_read_cache`: a file that is not there, or that cannot be read, is an `OSError`. -/
def readCache (py : Loaders) (file : Option CacheFile) : Except Exc (Option (List Json)) :=
  match file.bind CacheFile.content with
  | none => .ok none
  | some raw => match py.load raw with
    | .ok (.arr data) => .ok (some data)
    | .ok _ => .ok none
    | .error .jsonDecodeError => .ok none
    | .error (.other e) => .error e

/-- `_fetch_url`, given what the request returned: everything that it raises is caught. -/
def fetchUrl (response : Except String Json) : Option (List Json) :=
  match response with
  | .ok (.arr payload) => some payload
  | .ok (.obj members) => match Json.getItem members "data" with
    | some (.arr data) => some data
    | _ => none
  | _ => none

/-- `_get_category_data`. That a live list is written to the file matters to later runs only. -/
def getCategoryData (category : Category) : Except Exc (List Json) := do
  if isCacheFresh src.now (src.cache category) then
    if let some cached ← readCache py (src.cache category) then
      return cached
  if let some live := fetchUrl (src.response category) then
    return live
  -- a stale cache, before giving up
  if let some stale ← readCache py (src.cache category) then
    return stale
  return []

/-! ## The symbols of the rows -/

/-- `row.get(key)`. -/
def get (row : Dict String Json) (key : String) : Json := (row.get? key).getD .null

/-- `row.get(k₁) or row.get(k₂) or …`. -/
def getFirst (row : Dict String Json) : List String → Json
  | [] => .null
  | [key] => get row key
  | key :: keys => if (get row key).truthy then get row key else getFirst row keys

/-- `sym`, if it is a string, and not the empty one. -/
def symbolOf (row : Dict String Json) (keys : List String) : Option String :=
  match getFirst row keys with
  | .str sym => if sym = "" then none else some (py.upper sym)
  | _ => none

/-- The rows of a list one after the other; one that is no dictionary has no `get`. -/
def symbolsFrom (symbol : Dict String Json → Option String) (data : List Json) :
    Except Exc (List String) := do
  let rows ← data.mapM Json.asDict
  return rows.filterMap symbol

/-- `_symbols_from_asm`. -/
def symbolsFromAsm (data : List Json) : Except Exc (List String) :=
  symbolsFrom (symbolOf py · ["symbol", "Symbol", "scrip_cd"]) data

/-- `_symbols_from_esm`. -/
def symbolsFromEsm (data : List Json) : Except Exc (List String) :=
  symbolsFrom (symbolOf py · ["symbol", "Symbol", "scrip"]) data

/-- `_symbols_from_ban`. -/
def symbolsFromBan (data : List Json) : Except Exc (List String) :=
  symbolsFrom (symbolOf py · ["symbol", "Symbol"]) data

/-- `_MWPL_OI_THRESHOLD_PCT`: `90.0`. -/
def mwplOiThresholdPct : PyFloat :=
  .finite false { digits := 9, exp := 1, normal := by decide }

/-- The symbol of a row whose utilisation is a number and high enough. -/
def mwplSymbol (row : Dict String Json) : Option String :=
  let rawPct := getFirst row ["pct_mwpl", "mwplPct", "utilPct"]
  match symbolOf py row ["symbol", "Symbol"] with
  | none => none
  | some sym =>
      match py.builtins.float ((rawPct.pyStr py.builtins).replace "%" "") with
      | none => none
      | some pct => if PyFloat.le mwplOiThresholdPct pct then some sym else none

/-- `_symbols_from_mwpl`. -/
def symbolsFromMwpl (data : List Json) : Except Exc (List String) :=
  symbolsFrom (mwplSymbol py) data

/-- `NSEComplianceSource.fetch`, without the time of the fetch. -/
def fetch : Except Exc ComplianceExclusionList := do
  let asmData ← getCategoryData py src .asm
  let esmData ← getCategoryData py src .esm
  let banData ← getCategoryData py src .ban
  let mwplData ← getCategoryData py src .mwpl
  let asmSymbols ← symbolsFromAsm py asmData
  let esmSymbols ← symbolsFromEsm py esmData
  let banSymbols ← symbolsFromBan py banData
  let mwplExceededSymbols ← symbolsFromMwpl py mwplData
  return { asmSymbols, esmSymbols, banSymbols, mwplExceededSymbols }

/-! ## What the data is -/

/-- The symbols of a category. -/
def ComplianceExclusionList.ofCategory (l : ComplianceExclusionList) : Category → List String
  | .asm => l.asmSymbols
  | .esm => l.esmSymbols
  | .ban => l.banSymbols
  | .mwpl => l.mwplExceededSymbols

/-- The symbol of a row of a category. -/
def rowSymbol : Category → Dict String Json → Option String
  | .asm => (symbolOf py · ["symbol", "Symbol", "scrip_cd"])
  | .esm => (symbolOf py · ["symbol", "Symbol", "scrip"])
  | .ban => (symbolOf py · ["symbol", "Symbol"])
  | .mwpl => mwplSymbol py

/-- The list in a cache file, if one can be read. -/
def cachedList (file : Option CacheFile) : Option (List Json) :=
  match readCache py file with
  | .ok data => data
  | .error _ => none

/-- The rows of a category: those of a fresh cache, or else the live ones, or those of a stale
cache. -/
def rowsOf (category : Category) : List Json :=
  let cached := cachedList py (src.cache category)
  let fresh := isCacheFresh src.now (src.cache category)
  (((if fresh then cached else none).or (fetchUrl (src.response category))).or cached).getD []

/-- The cache file of a category raises nothing but what is caught, if it is read. -/
def Decodes (category : Category) : Prop :=
  isCacheFresh src.now (src.cache category) = true ∨ fetchUrl (src.response category) = none →
    ∃ data, readCache py (src.cache category) = .ok data

/-- The rows of a category are objects. -/
def HasObjects (category : Category) : Prop :=
  ∀ row ∈ rowsOf py src category, ∃ members, row = .obj members

theorem getCategoryData_of_decodes {category : Category} (h : Decodes py src category) :
    getCategoryData py src category = .ok (rowsOf py src category) := by
  unfold getCategoryData rowsOf cachedList
  dsimp only
  unfold Decodes at h
  cases hfresh : isCacheFresh src.now (src.cache category) with
  | true =>
      rcases h (Or.inl hfresh) with ⟨data, hdata⟩
      rw [hdata]
      cases data with
      | some cached => rfl
      | none => cases fetchUrl (src.response category) <;> rfl
  | false =>
      cases hlive : fetchUrl (src.response category) with
      | some live => rfl
      | none =>
          rcases h (Or.inr hlive) with ⟨data, hdata⟩
          rw [hdata]
          cases data <;> rfl

theorem decodes_of_getCategoryData {category : Category} {data : List Json}
    (h : getCategoryData py src category = .ok data) : Decodes py src category := by
  intro hread
  cases hcache : readCache py (src.cache category) with
  | ok cached => exact ⟨cached, rfl⟩
  | error e =>
      -- the error is not caught where the file is read
      unfold getCategoryData at h
      rw [hcache] at h
      cases hfresh : isCacheFresh src.now (src.cache category) with
      | true =>
          rw [hfresh] at h
          cases h
      | false =>
          rw [hfresh] at h hread
          have hlive := hread.resolve_left Bool.false_ne_true
          rw [hlive] at h
          cases h

theorem asDict_eq_ok_iff {row : Json} :
    (∃ d, row.asDict = .ok d) ↔ ∃ members, row = .obj members := by
  constructor
  · rintro ⟨d, h⟩
    cases row with
    | obj members => exact ⟨members, rfl⟩
    | null | bool | int | float | str | arr => cases h
  · rintro ⟨members, rfl⟩
    exact ⟨_, rfl⟩

/-- The rows that are read are the dictionaries of the objects. -/
theorem mapM_asDict {data : List Json} {rows : List (Dict String Json)}
    (h : data.mapM Json.asDict = .ok rows) :
    rows = data.filterMap fun row => row.asDict.toOption := by
  induction data generalizing rows with
  | nil =>
      cases h
      rfl
  | cons row data ih =>
      rcases exists_of_mapM_ok h row List.mem_cons_self with ⟨d, hd⟩
      rw [mapM_cons_ok hd] at h
      cases hrest : data.mapM Json.asDict with
      | error e =>
          rw [hrest] at h
          cases h
      | ok rest =>
          rw [hrest] at h
          rw [← Except.ok.inj h, List.filterMap_cons, hd, ← ih hrest]
          rfl

/-- The symbols of a list of objects; with another row in it there are none. -/
theorem symbolsFrom_ok_iff {symbol : Dict String Json → Option String} {data : List Json}
    {symbols : List String} :
    symbolsFrom symbol data = .ok symbols ↔
      (∀ row ∈ data, ∃ members, row = .obj members) ∧
        symbols = (data.filterMap fun row => row.asDict.toOption).filterMap symbol := by
  unfold symbolsFrom
  rw [bind_eq_ok_iff]
  constructor
  · rintro ⟨rows, hrows, hsymbols⟩
    rw [← mapM_asDict hrows, ← Except.ok.inj hsymbols]
    exact ⟨fun row hrow => asDict_eq_ok_iff.mp (exists_of_mapM_ok hrows row hrow), rfl⟩
  · rintro ⟨hobjects, rfl⟩
    rcases mapM_ok fun row hrow => asDict_eq_ok_iff.mpr (hobjects row hrow) with ⟨rows, hrows⟩
    refine ⟨rows, hrows, ?_⟩
    rw [mapM_asDict hrows]
    rfl

/-! ## The fetch -/

/-- The symbols of a category, by its rows. -/
def symbolsOf (category : Category) : List String :=
  ((rowsOf py src category).filterMap fun row => row.asDict.toOption).filterMap
    (rowSymbol py category)

/-- What a fetch returns, if it does. -/
def expectedList : ComplianceExclusionList where
  asmSymbols := symbolsOf py src .asm
  esmSymbols := symbolsOf py src .esm
  banSymbols := symbolsOf py src .ban
  mwplExceededSymbols := symbolsOf py src .mwpl

/-- The fetch returns exactly if the four categories can be read, and then what their rows say. -/
theorem fetch_ok_iff {l : ComplianceExclusionList} :
    fetch py src = .ok l ↔
      (∀ category, Decodes py src category ∧ HasObjects py src category) ∧
        l = expectedList py src := by
  have hdata : ∀ {category data}, getCategoryData py src category = .ok data ↔
      Decodes py src category ∧ data = rowsOf py src category := by
    intro category data
    constructor
    · intro h
      have hdecodes := decodes_of_getCategoryData py src h
      rw [getCategoryData_of_decodes py src hdecodes] at h
      exact ⟨hdecodes, (Except.ok.inj h).symm⟩
    · rintro ⟨hdecodes, rfl⟩
      exact getCategoryData_of_decodes py src hdecodes
  -- the four loads come before the rows of the first category are read
  unfold fetch symbolsFromAsm symbolsFromEsm symbolsFromBan symbolsFromMwpl
  simp only [bind_eq_ok_iff, hdata, symbolsFrom_ok_iff]
  constructor
  · rintro ⟨_, ⟨hasm, rfl⟩, _, ⟨hesm, rfl⟩, _, ⟨hban, rfl⟩, _, ⟨hmwpl, rfl⟩, _, ⟨hasm', rfl⟩, _,
      ⟨hesm', rfl⟩, _, ⟨hban', rfl⟩, _, ⟨hmwpl', rfl⟩, hl⟩
    refine ⟨?_, (Except.ok.inj hl).symm⟩
    intro category
    cases category with
    | asm => exact ⟨hasm, hasm'⟩
    | esm => exact ⟨hesm, hesm'⟩
    | ban => exact ⟨hban, hban'⟩
    | mwpl => exact ⟨hmwpl, hmwpl'⟩
  · rintro ⟨hall, rfl⟩
    exact ⟨_, ⟨(hall .asm).1, rfl⟩, _, ⟨(hall .esm).1, rfl⟩, _, ⟨(hall .ban).1, rfl⟩, _,
      ⟨(hall .mwpl).1, rfl⟩, _, ⟨(hall .asm).2, rfl⟩, _, ⟨(hall .esm).2, rfl⟩, _,
      ⟨(hall .ban).2, rfl⟩, _, ⟨(hall .mwpl).2, rfl⟩, rfl⟩

/-- There is no list for the category, or an element of the list is no object. -/
def Malformed (category : Category) : Prop :=
  (cachedList py (src.cache category) = none ∧ fetchUrl (src.response category) = none) ∨
    ¬ HasObjects py src category

/-- The fetch returns, a malformed category has no symbols, and those of a category depend on
nothing but its own file and payload. -/
def FailsOpen : Prop :=
  ∃ l, fetch py src = .ok l ∧
    (∀ category, Malformed py src category → l.ofCategory category = []) ∧
      ∀ src' l', fetch py src' = .ok l' → src'.now = src.now → ∀ category,
        src'.cache category = src.cache category → src'.response category = src.response category →
          l'.ofCategory category = l.ofCategory category

/-- Loading fails open exactly if no file that is read raises what is not caught, and no list that
is used has an element that is no object. -/
theorem failsOpen_iff :
    FailsOpen py src ↔ ∀ category, Decodes py src category ∧ HasObjects py src category := by
  have hof : ∀ src category,
      (expectedList py src).ofCategory category = symbolsOf py src category := by
    intro src category
    cases category <;> rfl
  constructor
  · rintro ⟨l, hfetch, -⟩
    exact ((fetch_ok_iff py src).mp hfetch).1
  · intro h
    refine ⟨_, (fetch_ok_iff py src).mpr ⟨h, rfl⟩, ?_, ?_⟩
    · rintro category (⟨hcached, hlive⟩ | hmalformed)
      · have hrows : rowsOf py src category = [] := by
          unfold rowsOf
          dsimp only
          rw [hcached, hlive, ite_self]
          rfl
        rw [hof, symbolsOf, hrows]
        rfl
      · exact absurd (h category).2 hmalformed
    · intro src' l' hfetch hnow category hcache hresponse
      have hrows : rowsOf py src' category = rowsOf py src category := by
        unfold rowsOf
        rw [hnow, hcache, hresponse]
      rw [((fetch_ok_iff py src').mp hfetch).2, hof, hof, symbolsOf, symbolsOf, hrows]

/-! ## A list of strings -/

/-- Loaders of UTF-8 files, and of no numbers. -/
def utf8Loaders : Loaders where
  builtins :=
    { float := fun _ => none
      loads := Json.loads
      divide := fun x _ => x
      multiply := fun x _ => x
      toFloat := fun _ => .zero
      repr := fun _ => "" }
  load raw :=
    match String.fromUTF8? raw with
    | none => .error (.other (.other "UnicodeDecodeError"))
    | some text => match Json.loads text with
      | none => .error .jsonDecodeError
      | some v => .ok v
  upper := String.toUpper

/-- Endpoints of which one lists strings, and no cache. -/
def stringsOfBan : Sources where
  now := 0
  cache _ := none
  response
    | .ban => .ok (.arr [.str "SAIL"])
    | _ => .ok (.arr [])

/-- One string in the list of the ban period takes down the four lists. -/
theorem strings_not_failsOpen : ¬ FailsOpen utf8Loaders stringsOfBan := by
  rintro ⟨l, hfetch, -⟩
  cases hfetch

end Intraday.Universe
