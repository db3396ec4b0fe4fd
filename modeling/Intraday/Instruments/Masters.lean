import Intraday.Compliance.StrategyRegistry
import Intraday.Lib.DictReader
import Intraday.Lib.UpsertStatement
import Mathlib.Data.List.Dedup
import Mathlib.Data.List.ReduceOption

/-!
# Intraday.Instruments.Masters — the instrument lists of `shared/instruments`

Each exchange publishes its instruments as a CSV document. A refresh downloads it, makes an
instrument of each row and upserts them; the command line refreshes both exchanges one after the
other, and goes on if a download fails. What else a refresh raises ends it.

* `nse_returns_iff`: which documents of the NSE are read, and as what;
* `masters_run`: the rows that are in the table after any number of refreshes.
-/

namespace Intraday.Instruments.Masters

open Intraday.Lib Intraday.Lib.Csv
open Intraday.Compliance (strip)

/-! ## Instruments -/

/-- `Instrument`. -/
structure Instrument where
  symbol : String
  exchange : String
  name : String
  isin : Option String
  lotSize : Option ℤ
  tickSize : Option ℚ
deriving DecidableEq

/-- `NSE_EQUITY_TICK_SIZE`. -/
def nseEquityTickSize : ℚ := 5 / 100

/-- `str.isdigit` of a character, and `int(text)`; `none` is a `ValueError`. There are digits that
`int` does not read. -/
structure Digits where
  isDigit : Char → Bool
  int : String → Option ℤ

/-- `text.isdigit()`. -/
def Digits.isdigit (py : Digits) (text : String) : Bool :=
  decide (text ≠ "") && text.toList.all py.isDigit

/-- What a fetch raises. -/
inductive FetchError where
  /-- `InstrumentFetchError` -/
  | instrumentFetch (message : String)
  /-- `csv.Error` -/
  | csv (e : Csv.Error)
  /-- `AttributeError`: `None` has no `strip` -/
  | attributeError
  /-- `ValueError`: not an `int` -/
  | valueError
deriving DecidableEq

/-- A row of a document. -/
abbrev Row := Dict String (Option String)

/-! ## `NSEInstrumentSource` -/

/-- `row.get(name, "").strip()`. -/
def stripped (row : Row) (name : String) : Except FetchError String :=
  match row.get? name with
  | none => .ok (strip "")
  | some none => .error .attributeError
  | some (some text) => .ok (strip text)

variable (py : Digits)

/-- `int(lot_size_raw) if lot_size_raw.isdigit() else None`. -/
def lotSizeOf (lotSizeRaw : String) : Except FetchError (Option ℤ) :=
  if py.isdigit lotSizeRaw then
    match py.int lotSizeRaw with
    | none => .error .valueError
    | some n => .ok (some n)
  else .ok none

/-- The instrument of a row; a row without a symbol has none. -/
def nseInstrument (row : Row) : Except FetchError (Option Instrument) := do
  let symbol ← stripped row "SYMBOL"
  if symbol = "" then pure none
  else
    let lotSizeRaw ← stripped row "MARKET LOT"
    let isin ← stripped row "ISIN NUMBER"
    let name ← stripped row "NAME OF COMPANY"
    let lotSize ← lotSizeOf py lotSizeRaw
    pure (some
      { symbol := symbol, exchange := "NSE", name := name
        isin := if isin = "" then none else some isin
        lotSize := lotSize, tickSize := some nseEquityTickSize })

/-- `NSEInstrumentSource.fetch`, of the text that was downloaded or what the download raised. -/
def nseFetch (response : Except String String) : Except FetchError (List Instrument) :=
  match response with
  | .error exc => .error (.instrumentFetch ("NSE instrument master fetch failed: " ++ exc))
  | .ok text =>
      let reader := dictReader fieldLimit text.toList
      let reader := { reader with fieldnames := reader.fieldnames.map strip }
      (reader.mapRows .csv (nseInstrument py)).map List.reduceOption

/-! ## `ASXInstrumentSource` -/

/-- `(row.get(name) or "").strip()`. -/
def strippedOrEmpty (row : Row) (name : String) : String :=
  strip ((row.get? name).join.getD "")

/-- The instrument of a row; a row without a code has none. -/
def asxInstrument (row : Row) : Option Instrument :=
  let code := strippedOrEmpty row "ASX code"
  if code = "" then none
  else some
    { symbol := code, exchange := "ASX", name := strippedOrEmpty row "Company name"
      isin := none, lotSize := none, tickSize := none }

/-- `text[text.find(word):]`, if the word is found. -/
def fromWord (word : String) (text : List Char) : Option (List Char) :=
  text.tails.find? fun rest => word.toList.isPrefixOf rest

/-- `ASXInstrumentSource.fetch`. -/
def asxFetch (response : Except String String) : Except FetchError (List Instrument) :=
  match response with
  | .error exc => .error (.instrumentFetch ("ASX instrument master fetch failed: " ++ exc))
  | .ok text =>
      match fromWord "Company name" text.toList with
      | none => .error (.instrumentFetch ("ASX instrument master response didn't contain the " ++
          "expected 'Company name' CSV header -- format may have changed"))
      | some text =>
          ((dictReader fieldLimit text).mapRows .csv fun row => .ok (asxInstrument row)).map
            List.reduceOption

/-! ## `InstrumentRepository` -/

/-- `PRIMARY KEY (symbol, exchange)`. -/
structure InstrumentKey where
  symbol : String
  exchange : String
deriving DecidableEq

/-- The key of an instrument. -/
def instrumentKey (i : Instrument) : InstrumentKey := { symbol := i.symbol, exchange := i.exchange }

/-- `instruments`. -/
abbrev InstrumentTable := Table InstrumentKey Instrument instrumentKey

/-- A connection to the database. -/
abbrev Conn := Connection InstrumentTable

/-- The texts of a row have no NUL. -/
def Quotable (i : Instrument) : Prop :=
  ∀ text ∈ [i.symbol, i.exchange, i.name] ++ i.isin.toList, '\x00' ∉ text.toList

instance (i : Instrument) : Decidable (Quotable i) := inferInstanceAs (Decidable (∀ _ ∈ _, _))

/-- The lot size is a value of a column of type `INTEGER`. -/
def FitsInteger (i : Instrument) : Prop := ∀ n ∈ i.lotSize.toList, -2 ^ 31 ≤ n ∧ n < 2 ^ 31

instance (i : Instrument) : Decidable (FitsInteger i) := inferInstanceAs (Decidable (∀ _ ∈ _, _))

/-- The default `page_size` of `execute_values`. -/
def pageSize : ℕ := 100

/-- `InstrumentRepository.upsert_many`. -/
def upsertMany (conn : Conn) (instruments : List Instrument) : Conn × Except SqlError ℕ :=
  if instruments.isEmpty then (conn, .ok 0)
  else
    match conn.write ((pages pageSize instruments).map
        (upsertStatement Quotable FitsInteger instrumentKey)) with
    | (conn, .ok ()) => (conn, .ok instruments.length)
    | (conn, .error e) => (conn, .error e)

/-! ## `refresh_instrument_master` -/

/-- What a refresh raises. -/
inductive RefreshError where
  /-- `KeyError` -/
  | unknownExchange (exchange : String)
  | fetch (e : FetchError)
  | sql (e : SqlError)
deriving DecidableEq

/-- `_INSTRUMENT_SOURCES`. -/
def instrumentSource (exchange : String) :
    Option (Except String String → Except FetchError (List Instrument)) :=
  match exchange with
  | "NSE" => some (nseFetch py)
  | "ASX" => some asxFetch
  | _ => none

/-- The downloads of the exchanges, each a text or what it raises. -/
abbrev Web := String → Except String String

/-- What the source of an exchange makes of its download. -/
def fetchInstruments (web : Web) (exchange : String) : Except RefreshError (List Instrument) :=
  match instrumentSource py exchange with
  | none => .error (.unknownExchange exchange)
  | some fetch => (fetch (web exchange)).mapError .fetch

/-- `refresh_instrument_master`. -/
def refreshInstrumentMaster (conn : Conn) (web : Web) (exchange : String) :
    Conn × Except RefreshError ℕ :=
  match fetchInstruments py web exchange with
  | .error e => (conn, .error e)
  | .ok instruments =>
      let (conn, written) := upsertMany conn instruments
      (conn, written.mapError .sql)

/-- The loop of `main` over the exchanges. -/
def refreshEach (conn : Conn) (web : Web) : List String → Conn × Except RefreshError Unit
  | [] => (conn, .ok ())
  | exchange :: exchanges =>
      match refreshInstrumentMaster py conn web exchange with
      | (conn, .ok _) => refreshEach conn web exchanges
      | (conn, .error (.fetch (.instrumentFetch _))) => refreshEach conn web exchanges
      | (conn, .error e) => (conn, .error e)

/-- `main`, each time on a connection of its own, which it closes. -/
def main : Machine InstrumentTable Web (Except RefreshError Unit) where
  step t web :=
    let (conn, reply) := refreshEach py (.connect t) web ["NSE", "ASX"]
    (conn.committed, reply)

/-- `InstrumentRepository.get`. -/
def get (t : InstrumentTable) (symbol exchange : String) : Option Instrument :=
  t.find { symbol := symbol, exchange := exchange }

/-- `InstrumentRepository.count`. -/
def count (t : InstrumentTable) (exchange : String) : ℕ :=
  t.all.countP fun i => decide (i.exchange = exchange)

/-! ## What the NSE's rows say -/

/-- The text in the column of a name, empty if there is none; `none` if the row ends before it. -/
def cell (names row : List String) (name : String) : Option String :=
  match column names name with
  | none => some ""
  | some i => row[i]?.map strip

/-- The text in the column of a name. -/
def textOf (names row : List String) (name : String) : String := (cell names row name).getD ""

/-- A row can be read: it reaches the columns that are asked for, and a lot size of digits is a
number. Without a symbol nothing else is asked for. -/
def NseReadable (names row : List String) : Prop :=
  (cell names row "SYMBOL").isSome = true ∧
    (textOf names row "SYMBOL" ≠ "" →
      (∀ name ∈ ["MARKET LOT", "ISIN NUMBER", "NAME OF COMPANY"],
        (cell names row name).isSome = true) ∧
      (py.isdigit (textOf names row "MARKET LOT") = true →
        (py.int (textOf names row "MARKET LOT")).isSome = true))

instance (names row : List String) : Decidable (NseReadable py names row) :=
  inferInstanceAs (Decidable (_ ∧ (_ → _ ∧ (_ → _))))

/-- The instrument of a row that can be read. -/
def nseRow (names row : List String) : Option Instrument :=
  if textOf names row "SYMBOL" = "" then none
  else some
    { symbol := textOf names row "SYMBOL", exchange := "NSE"
      name := textOf names row "NAME OF COMPANY"
      isin := if textOf names row "ISIN NUMBER" = "" then none
        else some (textOf names row "ISIN NUMBER")
      lotSize := if py.isdigit (textOf names row "MARKET LOT") then
        py.int (textOf names row "MARKET LOT") else none
      tickSize := some nseEquityTickSize }

theorem stripped_dictRow (names row : List String) (name : String) :
    stripped (dictRow names row) name =
      (cell names row name).elim (.error .attributeError) .ok := by
  rw [stripped, get?_dictRow, cell]
  cases column names name with
  | none => rfl
  | some i =>
      simp only [Option.map_some]
      cases row[i]? <;> rfl

/-- A row to which `stripped` gets through. -/
theorem stripped_eq_ok_iff {names row : List String} {name text : String} :
    stripped (dictRow names row) name = .ok text ↔
      (cell names row name).isSome = true ∧ text = textOf names row name := by
  rw [stripped_dictRow, textOf]
  cases cell names row name with
  | none => simp
  | some t => simp [eq_comm]

theorem lotSizeOf_eq_ok_iff {raw : String} {lotSize : Option ℤ} :
    lotSizeOf py raw = .ok lotSize ↔
      (py.isdigit raw = true → (py.int raw).isSome = true) ∧
        lotSize = if py.isdigit raw then py.int raw else none := by
  rw [lotSizeOf]
  cases py.isdigit raw with
  | false => simp [@eq_comm _ none]
  | true => cases py.int raw <;> simp [@eq_comm _ (some _)]

theorem nseInstrument_eq_ok_iff {names row : List String} {i : Option Instrument} :
    nseInstrument py (dictRow names row) = .ok i ↔
      NseReadable py names row ∧ i = nseRow py names row := by
  rw [nseInstrument, bind_eq_ok_iff]
  constructor
  · rintro ⟨symbol, hsymbol, hrest⟩
    rcases stripped_eq_ok_iff.mp hsymbol with ⟨hreaches, rfl⟩
    by_cases hempty : textOf names row "SYMBOL" = ""
    · rw [if_pos hempty] at hrest
      cases hrest
      exact ⟨⟨hreaches, fun hne => absurd hempty hne⟩, by rw [nseRow, if_pos hempty]⟩
    · rw [if_neg hempty] at hrest
      rcases bind_eq_ok_iff.mp hrest with ⟨raw, hraw, hrest⟩
      rcases bind_eq_ok_iff.mp hrest with ⟨isin, hisin, hrest⟩
      rcases bind_eq_ok_iff.mp hrest with ⟨name, hname, hrest⟩
      rcases bind_eq_ok_iff.mp hrest with ⟨lotSize, hlotSize, hpure⟩
      rcases stripped_eq_ok_iff.mp hraw with ⟨hlot, rfl⟩
      rcases stripped_eq_ok_iff.mp hisin with ⟨hnumber, rfl⟩
      rcases stripped_eq_ok_iff.mp hname with ⟨hcompany, rfl⟩
      rcases (lotSizeOf_eq_ok_iff py).mp hlotSize with ⟨hint, rfl⟩
      cases hpure
      refine ⟨⟨hreaches, fun _ => ⟨?_, hint⟩⟩, by rw [nseRow, if_neg hempty]⟩
      simp [hlot, hnumber, hcompany]
  · rintro ⟨⟨hreaches, hrest⟩, rfl⟩
    refine ⟨_, stripped_eq_ok_iff.mpr ⟨hreaches, rfl⟩, ?_⟩
    by_cases hempty : textOf names row "SYMBOL" = ""
    · rw [if_pos hempty, nseRow, if_pos hempty]
      rfl
    · rcases hrest hempty with ⟨hcells, hint⟩
      simp only [List.forall_mem_cons, List.not_mem_nil, false_imp_iff, implies_true,
        and_true] at hcells
      rw [if_neg hempty, nseRow, if_neg hempty]
      exact bind_eq_ok_iff.mpr ⟨_, stripped_eq_ok_iff.mpr ⟨hcells.1, rfl⟩,
        bind_eq_ok_iff.mpr ⟨_, stripped_eq_ok_iff.mpr ⟨hcells.2.1, rfl⟩,
          bind_eq_ok_iff.mpr ⟨_, stripped_eq_ok_iff.mpr ⟨hcells.2.2, rfl⟩,
            bind_eq_ok_iff.mpr ⟨_, (lotSizeOf_eq_ok_iff py).mpr ⟨hint, rfl⟩, rfl⟩⟩⟩⟩

/-- The rows below the names of the columns, without blank ones. -/
def body (rows : List (List String)) : List (List String) := rows.tail.filter (· ≠ [])

/-- The names of the NSE's columns. -/
def nseNames (rows : List (List String)) : List String := (rows.headD []).map strip

/-- The instruments of the rows of a text, with the names of the columns as `names` has them. -/
theorem fetch_eq_ok_iff {text : List Char} (names : List String → List String)
    {f : Row → Except FetchError (Option Instrument)} {P : List String → List String → Prop}
    {g : List String → List String → Option Instrument}
    (hf : ∀ columns row i, f (dictRow columns row) = .ok i ↔ P columns row ∧ i = g columns row)
    {instruments : List Instrument} :
    (DictReader.mapRows .csv f { dictReader fieldLimit text with
        fieldnames := names (dictReader fieldLimit text).fieldnames }).map List.reduceOption =
        .ok instruments ↔
      ∃ rows, read fieldLimit text = .ok rows ∧
        (∀ row ∈ body rows, P (names (rows.headD [])) row) ∧
        instruments = (body rows).filterMap (g (names (rows.headD []))) := by
  have hfilter : ∀ (h : List String → Option Instrument) (rows : List (List String)),
      (rows.map h).reduceOption = rows.filterMap h := by
    intro h rows
    rw [List.reduceOption, List.filterMap_map]
    rfl
  constructor
  · intro h
    rcases exists_of_map_ok h with ⟨is, his, rfl⟩
    rcases (DictReader.mapRows_eq_ok_iff names _).mp his with ⟨rows, hrows, hread⟩
    rcases (mapM_eq_ok_iff (hf _)).mp hread with ⟨hall, rfl⟩
    exact ⟨rows, hrows, hall, hfilter _ _⟩
  · rintro ⟨rows, hrows, hall, rfl⟩
    have hread := (DictReader.mapRows_eq_ok_iff names FetchError.csv).mpr ⟨rows, hrows,
      (mapM_eq_ok_iff (hf _)).mpr ⟨hall, rfl⟩⟩
    rw [hread]
    exact congrArg Except.ok (hfilter _ _)

/-- A document of the NSE is read exactly if it is a CSV text and each of its rows can be read, and
then each row that has a symbol is one instrument, by the names of the columns in any order. -/
theorem nse_returns_iff (py : Digits) (text : String) (instruments : List Instrument) :
    nseFetch py (.ok text) = .ok instruments ↔
      ∃ rows, read fieldLimit text.toList = .ok rows ∧
        (∀ row ∈ body rows, NseReadable py (nseNames rows) row) ∧
        instruments = (body rows).filterMap (nseRow py (nseNames rows)) :=
  fetch_eq_ok_iff (fun names => names.map strip) fun _ _ _ => nseInstrument_eq_ok_iff py

/-- A document of the ASX is read exactly if it has the name of the first column and is a CSV text
from there on. A row that ends early has empty texts. -/
theorem asx_returns_iff (text : String) (instruments : List Instrument) :
    asxFetch (.ok text) = .ok instruments ↔
      ∃ rest rows, fromWord "Company name" text.toList = some rest ∧
        read fieldLimit rest = .ok rows ∧
        instruments =
          (body rows).filterMap fun row => asxInstrument (dictRow (rows.headD []) row) := by
  have hrow : ∀ (columns row : List String) (i : Option Instrument),
      (Except.ok (asxInstrument (dictRow columns row)) : Except FetchError _) = .ok i ↔
        True ∧ i = asxInstrument (dictRow columns row) := by
    intro columns row i
    rw [true_and, Except.ok.injEq, eq_comm]
  rw [asxFetch]
  cases fromWord "Company name" text.toList with
  | none => simp
  | some rest =>
      have hfetch := @fetch_eq_ok_iff rest (fun names => names) (fun row => .ok (asxInstrument row))
        (fun _ _ => True) (fun columns row => asxInstrument (dictRow columns row)) hrow instruments
      simp only [hfetch, implies_true, true_and, Option.some.injEq, exists_and_left,
        exists_eq_left']

/-! ## What a refresh writes -/

/-- The instruments can be written. -/
abbrev Insertable (instruments : List Instrument) : Prop :=
  Upsertable Quotable FitsInteger instrumentKey pageSize instruments

/-- What the refresh of an exchange comes to. -/
inductive Outcome where
  | writes (instruments : List Instrument)
  /-- the download failed -/
  | skipped
  | raises
deriving DecidableEq

/-- What the refresh of an exchange comes to with these downloads. -/
def outcomeOf (web : Web) (exchange : String) : Outcome :=
  match fetchInstruments py web exchange with
  | .ok instruments => if Insertable instruments then .writes instruments else .raises
  | .error (.fetch (.instrumentFetch _)) => .skipped
  | .error _ => .raises

/-- What is written for the exchanges, one after the other, up to the first that raises. -/
def written (web : Web) : List String → List Instrument
  | [] => []
  | exchange :: exchanges =>
      match outcomeOf py web exchange with
      | .writes instruments => instruments ++ written web exchanges
      | .skipped => written web exchanges
      | .raises => []

/-- Instruments that can be written are put into the table, and otherwise nothing is. -/
theorem upsertMany_connect (t : InstrumentTable) (instruments : List Instrument) :
    if Insertable instruments then
      upsertMany (.connect t) instruments =
        (.connect (instruments.foldl Table.put t), .ok instruments.length)
    else
      (∃ e, (upsertMany (.connect t) instruments).2 = .error e) ∧
        (upsertMany (.connect t) instruments).1.committed = t := by
  by_cases hne : instruments = []
  · subst hne
    rw [if_pos (by decide)]
    rfl
  · have hnil : ¬ instruments.isEmpty = true := fun h => hne (List.isEmpty_iff.mp h)
    have hwrite := @Connection.write_upserts _ _ _ instrumentKey Quotable FitsInteger _ _
      pageSize (by decide) t _ hne
    rw [upsertMany, if_neg hnil]
    split
    · rename_i h
      rw [if_pos h] at hwrite
      rw [hwrite]
    · rename_i h
      rw [if_neg h] at hwrite
      rcases hwrite with ⟨⟨e, he⟩, hkept⟩
      generalize Connection.write _ _ = r at he hkept
      rcases r with ⟨conn, reply⟩
      obtain rfl : reply = .error e := he
      exact ⟨⟨e, rfl⟩, hkept⟩

/-- What the refresh of an exchange does on a new connection. -/
theorem refresh_connect (t : InstrumentTable) (web : Web) (exchange : String) :
    match outcomeOf py web exchange with
    | .writes instruments =>
        refreshInstrumentMaster py (.connect t) web exchange =
          (.connect (instruments.foldl Table.put t), .ok instruments.length)
    | .skipped =>
        ∃ message, refreshInstrumentMaster py (.connect t) web exchange =
          (.connect t, .error (.fetch (.instrumentFetch message)))
    | .raises =>
        (∃ e, (refreshInstrumentMaster py (.connect t) web exchange).2 = .error e ∧
          ∀ message, e ≠ .fetch (.instrumentFetch message)) ∧
        (refreshInstrumentMaster py (.connect t) web exchange).1.committed = t := by
  rw [outcomeOf, refreshInstrumentMaster]
  cases fetchInstruments py web exchange with
  | ok instruments =>
      have hupsert := upsertMany_connect t instruments
      by_cases h : Insertable instruments
      · rw [if_pos h] at hupsert
        simp only [if_pos h, hupsert]
        rfl
      · rw [if_neg h] at hupsert
        rcases hupsert with ⟨⟨e, he⟩, hkept⟩
        simp only [if_neg h, he]
        exact ⟨⟨_, rfl, fun _ heq => nomatch heq⟩, hkept⟩
  | error e =>
      rcases e with exchange | e | e
      · exact ⟨⟨_, rfl, fun _ heq => nomatch heq⟩, rfl⟩
      · cases e with
        | instrumentFetch message => exact ⟨message, rfl⟩
        | csv e => exact ⟨⟨_, rfl, fun _ heq => nomatch heq⟩, rfl⟩
        | attributeError => exact ⟨⟨_, rfl, fun _ heq => nomatch heq⟩, rfl⟩
        | valueError => exact ⟨⟨_, rfl, fun _ heq => nomatch heq⟩, rfl⟩
      · exact ⟨⟨_, rfl, fun _ heq => nomatch heq⟩, rfl⟩

/-- The loop puts what is written, and returns if no exchange raises. -/
theorem refreshEach_connect (t : InstrumentTable) (web : Web) (exchanges : List String) :
    (refreshEach py (.connect t) web exchanges).1.committed =
        (written py web exchanges).foldl Table.put t ∧
      ((refreshEach py (.connect t) web exchanges).2 = .ok () ↔
        ∀ exchange ∈ exchanges, outcomeOf py web exchange ≠ .raises) := by
  induction exchanges generalizing t with
  | nil => exact ⟨rfl, by simp [refreshEach]⟩
  | cons exchange exchanges ih =>
      have hrefresh := refresh_connect py t web exchange
      rw [refreshEach, written, List.forall_mem_cons]
      cases houtcome : outcomeOf py web exchange with
      | writes instruments =>
          rw [houtcome] at hrefresh
          simp only [hrefresh, List.foldl_append]
          simpa using ih (instruments.foldl Table.put t)
      | skipped =>
          rw [houtcome] at hrefresh
          rcases hrefresh with ⟨message, hmessage⟩
          simp only [hmessage]
          simpa using ih t
      | raises =>
          rw [houtcome] at hrefresh
          rcases hrefresh with ⟨⟨e, he, hother⟩, hkept⟩
          generalize refreshInstrumentMaster py (.connect t) web exchange = r at he hkept
          rcases r with ⟨conn, reply⟩
          obtain rfl : reply = .error e := he
          rcases e with exchange' | e | e
          · exact ⟨hkept, by simp⟩
          · cases e with
            | instrumentFetch message => exact absurd rfl (hother message)
            | csv e => exact ⟨hkept, by simp⟩
            | attributeError => exact ⟨hkept, by simp⟩
            | valueError => exact ⟨hkept, by simp⟩
          · exact ⟨hkept, by simp⟩

/-! ## Runs -/

/-- What one call of `main` writes. -/
def writes (web : Web) : List Instrument := written py web ["NSE", "ASX"]

/-- A run puts what its calls write, one after the other. -/
theorem run_main (t : InstrumentTable) (webs : List Web) :
    (main py).run t webs = (webs.flatMap (writes py)).foldl Table.put t := by
  induction webs generalizing t with
  | nil => rfl
  | cons web webs ih =>
      have hnext : (main py).next t web = (writes py web).foldl Table.put t :=
        (refreshEach_connect py t web ["NSE", "ASX"]).1
      rw [Machine.run, hnext, ih, List.flatMap_cons, List.foldl_append]

/-- The rows of an exchange are as many as the symbols that were put for it. -/
theorem count_puts (rows : List Instrument) (exchange : String) :
    count (rows.foldl Table.put (Table.empty instrumentKey)) exchange =
      (((rows.filter fun i => decide (i.exchange = exchange)).map (·.symbol)).dedup).length := by
  -- both sides count the keys of the table, each once
  generalize ht : rows.foldl Table.put (Table.empty instrumentKey) = t
  have hkeys : (t.all.filter fun i => decide (i.exchange = exchange)).Pairwise
      fun i j => i.symbol ≠ j.symbol := by
    have hne := (List.pairwise_map.mp t.nodup_keys).filter fun i => decide (i.exchange = exchange)
    refine hne.imp_of_mem ?_
    intro i j hi hj hkey hsymbol
    rw [List.mem_filter, decide_eq_true_eq] at hi hj
    exact hkey (by rw [instrumentKey, instrumentKey, hsymbol, hi.2, hj.2])
  have hsymbols : ∀ symbol,
      symbol ∈ (t.all.filter fun i => decide (i.exchange = exchange)).map (·.symbol) ↔
        symbol ∈ ((rows.filter fun i => decide (i.exchange = exchange)).map (·.symbol)).dedup := by
    intro symbol
    have hkey : ∀ i : Instrument, instrumentKey i = { symbol := symbol, exchange := exchange } ↔
        i.exchange = exchange ∧ i.symbol = symbol := by
      intro i
      rw [instrumentKey, InstrumentKey.mk.injEq, and_comm]
    have hput := @Table.exists_mem_all_puts _ _ _ instrumentKey rows
      { symbol := symbol, exchange := exchange }
    simp only [hkey, ht] at hput
    simp only [List.mem_dedup, List.mem_map, List.mem_filter, decide_eq_true_eq, and_assoc]
    exact hput
  rw [count, List.countP_eq_length_filter, ← List.length_map (·.symbol)]
  exact ((List.perm_ext_iff_of_nodup (List.pairwise_map.mpr hkeys) (List.nodup_dedup _)).mpr
    hsymbols).length_eq

/-- After any calls of `main` from an empty table, an instrument is the last one that was written
with its symbol and its exchange, and an exchange has as many as symbols were written for it. A call
returns exactly if neither exchange raises. -/
theorem masters_run (py : Digits) (webs : List Web) :
    (∀ symbol exchange, get ((main py).run (Table.empty instrumentKey) webs) symbol exchange =
      ((webs.flatMap (writes py)).filter fun i =>
        decide (i.symbol = symbol ∧ i.exchange = exchange)).getLast?) ∧
    (∀ exchange, count ((main py).run (Table.empty instrumentKey) webs) exchange =
      ((((webs.flatMap (writes py)).filter fun i => decide (i.exchange = exchange)).map
        (·.symbol)).dedup).length) ∧
    ∀ t ∈ (main py).trans (Table.empty instrumentKey) webs,
      t.reply = .ok () ↔ ∀ exchange ∈ ["NSE", "ASX"], outcomeOf py t.op exchange ≠ .raises := by
  refine ⟨?_, ?_, ?_⟩
  · intro symbol exchange
    have hkey : ∀ i : Instrument, instrumentKey i = { symbol := symbol, exchange := exchange } ↔
        i.symbol = symbol ∧ i.exchange = exchange := by
      intro i
      rw [instrumentKey, InstrumentKey.mk.injEq]
    rw [get, run_main, Table.find_foldl_put]
    simp only [hkey]
    exact Option.or_none
  · intro exchange
    rw [run_main]
    exact count_puts _ exchange
  · intro t ht
    rw [(main py).trans_fire ht]
    exact (refreshEach_connect py t.pre t.op ["NSE", "ASX"]).2

end Intraday.Instruments.Masters
