import Intraday.Lib.Csv
import Intraday.Lib.PyFloat
import Intraday.Lib.Python

/-!
# Intraday.Reporting.CsvExport — `shared/reporting/csv_export.py`

The trades of a report as UTF-8 bytes of a CSV file. A cell is a text, an integer or a float, and
an absent value is an empty cell. A reader gets the cells back (`readCsv_tradesToCsv`), and the
bytes determine the trades (`tradesToCsv_injective`): the text of a number is never empty and
denotes that number only.
-/

namespace Intraday.Reporting.CsvExport

open Intraday.Lib

/-- `TradeRecord`, with what the tables print. -/
structure TradeRecord where
  tradeId : String
  symbol : String
  exchange : String
  direction : String
  entryTimeMs : ℤ
  exitTimeMs : Option ℤ
  entryPrice : PyFloat
  exitPrice : Option PyFloat
  quantity : ℤ
  pnl : PyFloat
  pnlPct : PyFloat
  strategyTag : String
  slippagePct : Option PyFloat
  markout1mPct : Option PyFloat
  markout5mPct : Option PyFloat
deriving DecidableEq

/-- `_TRADE_HEADERS`. -/
def tradeHeaders : List String :=
  ["trade_id", "symbol", "exchange", "direction", "entry_time_ms", "exit_time_ms", "entry_price",
    "exit_price", "quantity", "pnl", "pnl_pct", "strategy_tag", "slippage_pct", "markout_1m_pct",
    "markout_5m_pct"]

/-! ## Cells -/

/-- A cell that `_trade_row` makes. -/
inductive Cell where
  | str (s : String)
  | int (i : ℤ)
  | float (x : PyFloat)
deriving DecidableEq

namespace Cell

/-- `str(cell)`, which the writer writes. -/
def text : Cell → String
  | .str s => s
  | .int i => String.ofList (intText i)
  | .float x => x.repr

/-- `v if v is not None else ""`. -/
def orEmpty {α : Type} (cell : α → Cell) : Option α → Cell
  | none => .str ""
  | some v => cell v

end Cell

/-- `_trade_row`. -/
def tradeRow (t : TradeRecord) : List Cell :=
  [.str t.tradeId, .str t.symbol, .str t.exchange, .str t.direction, .int t.entryTimeMs,
    .orEmpty .int t.exitTimeMs, .float t.entryPrice, .orEmpty .float t.exitPrice, .int t.quantity,
    .float t.pnl, .float t.pnlPct, .str t.strategyTag, .orEmpty .float t.slippagePct,
    .orEmpty .float t.markout1mPct, .orEmpty .float t.markout5mPct]

/-- The texts of a row. -/
def rowTexts (t : TradeRecord) : List String := (tradeRow t).map Cell.text

/-- `trades_to_csv`. -/
def tradesToCsv (trades : List TradeRecord) : ByteArray :=
  (String.ofList (Csv.write (tradeHeaders :: trades.map rowTexts))).toUTF8

/-- `list(csv.reader(io.StringIO(data.decode("utf-8"))))`, of bytes that are UTF-8. -/
def readCsv (data : ByteArray) : Option (Except Csv.Error (List (List String))) :=
  (String.fromUTF8? data).map fun text => Csv.read Csv.fieldLimit text.toList

/-! ## The text of a number -/

theorem intText_injective : Function.Injective intText := by
  intro i j h
  have htext : ∀ k, scanNumber (intText k) = some (.int k, []) := by
    intro k
    have hscan : scanNumber (intText k ++ []) = some (.int k, []) :=
      scanNumber_int k (fun c hc => nomatch hc)
    rwa [List.append_nil] at hscan
  have hi := htext i
  have hj := htext j
  rw [h, hj] at hi
  injection hi with hpair
  injection hpair with hnumber
  injection hnumber with heq
  exact heq.symm

theorem intText_ne_nil (i : ℤ) : intText i ≠ [] := by
  rw [intText]
  intro h
  exact Nat.toDigits_ne_nil (List.append_eq_nil_iff.mp h).2

/-- The text of a finite float is a number, and it denotes that float. -/
theorem scanNumber_finite (n : Bool) (d : Shortest) :
    scanNumber (PyFloat.finite n d).repr.toList = some (.float (.finite n d), []) := by
  have hscan : scanNumber (PyFloat.reprFinite n d ++ []) = some (.float (.finite n d), []) :=
    scanNumber_repr n d (fun c hc => nomatch hc)
  rw [List.append_nil] at hscan
  rw [PyFloat.repr, String.toList_ofList]
  exact hscan

theorem scanNumber_nan : scanNumber PyFloat.nan.repr.toList = none := by
  decide

theorem scanNumber_inf (n : Bool) : scanNumber (PyFloat.inf n).repr.toList = none := by
  cases n <;> decide

theorem repr_ne_empty (x : PyFloat) : x.repr ≠ "" := by
  cases x with
  | nan => decide
  | inf n => cases n <;> decide
  | finite n d =>
      intro h
      have hscan := scanNumber_finite n d
      rw [h] at hscan
      cases hscan

/-- Different floats have different texts. -/
theorem repr_injective : Function.Injective PyFloat.repr := by
  intro x y h
  have hscan := congrArg (fun s => scanNumber s.toList) h
  cases x with
  | nan =>
      cases y with
      | nan => rfl
      | inf m => cases m <;> exact absurd h (by decide)
      | finite m e => simp only [scanNumber_nan, scanNumber_finite, reduceCtorEq] at hscan
  | inf n =>
      cases y with
      | nan => cases n <;> exact absurd h (by decide)
      | inf m => cases n <;> cases m <;> first | rfl | exact absurd h (by decide)
      | finite m e => simp only [scanNumber_inf, scanNumber_finite, reduceCtorEq] at hscan
  | finite n d =>
      cases y with
      | nan => simp only [scanNumber_nan, scanNumber_finite, reduceCtorEq] at hscan
      | inf m => simp only [scanNumber_inf, scanNumber_finite, reduceCtorEq] at hscan
      | finite m e =>
          simp only [scanNumber_finite, Option.some.injEq, Prod.mk.injEq, Number.float.injEq,
            and_true] at hscan
          exact hscan

/-! ## The text of a row -/

theorem text_int_injective : Function.Injective fun i => (Cell.int i).text := by
  intro i j h
  exact intText_injective (String.ofList_injective h)

theorem text_int_ne_empty (i : ℤ) : (Cell.int i).text ≠ "" := by
  intro h
  have hlist := congrArg String.toList h
  rw [Cell.text, String.toList_ofList] at hlist
  exact intText_ne_nil i hlist

/-- An absent value and each present one have texts of their own. -/
theorem text_orEmpty_injective {α : Type} {cell : α → Cell}
    (hcell : Function.Injective fun v => (cell v).text) (hne : ∀ v, (cell v).text ≠ "") :
    Function.Injective fun o => (Cell.orEmpty cell o).text := by
  intro o o' h
  cases o with
  | none =>
      cases o' with
      | none => rfl
      | some v' => exact absurd h.symm (hne v')
  | some v =>
      cases o' with
      | none => exact absurd h (hne v)
      | some v' => exact congrArg some (hcell h)

/-- A row determines its trade. -/
theorem rowTexts_injective : Function.Injective rowTexts := by
  have hint := text_orEmpty_injective text_int_injective text_int_ne_empty
  have hfloat : Function.Injective fun o => (Cell.orEmpty .float o).text :=
    text_orEmpty_injective repr_injective repr_ne_empty
  intro t t' h
  simp only [rowTexts, tradeRow, List.map_cons, List.map_nil, List.cons.injEq] at h
  obtain ⟨hid, hsymbol, hexchange, hdirection, hentry, hexit, hentryPrice, hexitPrice, hquantity,
    hpnl, hpnlPct, htag, hslippage, hmarkout1m, hmarkout5m, -⟩ := h
  rcases t with ⟨⟩
  rcases t' with ⟨⟩
  rw [TradeRecord.mk.injEq]
  exact ⟨hid, hsymbol, hexchange, hdirection, text_int_injective hentry, hint hexit,
    repr_injective hentryPrice, hfloat hexitPrice, text_int_injective hquantity,
    repr_injective hpnl, repr_injective hpnlPct, htag, hfloat hslippage, hfloat hmarkout1m,
    hfloat hmarkout5m⟩

/-! ## The file -/

/-- The bytes are the text in UTF-8. -/
theorem fromUTF8?_tradesToCsv (trades : List TradeRecord) :
    String.fromUTF8? (tradesToCsv trades) =
      some (String.ofList (Csv.write (tradeHeaders :: trades.map rowTexts))) := by
  rw [tradesToCsv, String.toUTF8_eq_toByteArray, Python.fromUTF8?_toByteArray]

theorem tradeHeaders_length : ∀ s ∈ tradeHeaders, s.length ≤ 14 := by
  decide

/-- The exported bytes are UTF-8, and a reader gets the header and the rows back, unless a cell is
longer than a field may be: then it raises. -/
theorem readCsv_tradesToCsv (trades : List TradeRecord) :
    readCsv (tradesToCsv trades) =
      some (if ∀ t ∈ trades, ∀ s ∈ rowTexts t, s.length ≤ Csv.fieldLimit then
          .ok (tradeHeaders :: trades.map rowTexts)
        else .error .fieldTooLarge) := by
  rw [readCsv, fromUTF8?_tradesToCsv, Option.map_some, String.toList_ofList, Csv.read_write]
  have hheader : ∀ s ∈ tradeHeaders, s.length ≤ Csv.fieldLimit := by
    intro s hs
    have hlen := tradeHeaders_length s hs
    rw [Csv.fieldLimit]
    omega
  by_cases hrows : ∀ t ∈ trades, ∀ s ∈ rowTexts t, s.length ≤ Csv.fieldLimit
  · rw [if_pos hrows, if_pos]
    exact List.forall_mem_cons.mpr ⟨hheader, List.forall_mem_map.mpr hrows⟩
  · rw [if_neg hrows, if_neg]
    exact fun h => hrows (List.forall_mem_map.mp (List.forall_mem_cons.mp h).2)

/-- The bytes determine the trades. -/
theorem tradesToCsv_injective : Function.Injective tradesToCsv := by
  intro trades trades' h
  have hutf := congrArg String.fromUTF8? h
  rw [fromUTF8?_tradesToCsv, fromUTF8?_tradesToCsv] at hutf
  have hwrite := Csv.write_injective (String.ofList_injective (Option.some.inj hutf))
  exact List.map_injective_iff.mpr rowTexts_injective (List.cons.inj hwrite).2

end Intraday.Reporting.CsvExport
