import Intraday.Lib.Date
import Intraday.Lib.Html
import Intraday.Lib.Python
import Intraday.Reporting.CsvExport

/-!
# Intraday.Reporting.HtmlReport — `shared/reporting/html_report.py`

The daily and the monthly report as HTML documents that are put together as texts. Names, labels
and the summary are escaped; numbers are formatted and put in as they are.

Whatever the trades are called, a document is balanced and its tables are those of the report
(`readTables_buildDailyHtml`, `readTables_buildMonthlyHtml`): each row that was put in, with each
cell as it was before it was escaped, and nothing else.
-/

namespace Intraday.Reporting.HtmlReport

open Intraday.Lib Intraday.Lib.Html
open Intraday.Lib.Python (Exc)
open Intraday.Reporting.CsvExport (TradeRecord)

/-! ## Formats -/

/-- `+` for a sign, `,` for groups, and the number of decimals. -/
structure FormatSpec where
  sign : Bool := false
  groups : Bool := false
  decimals : ℕ := 2

/-- A text that HTML takes as it is. -/
def Plain (s : String) : Prop := '<' ∉ s.toList ∧ '&' ∉ s.toList

instance (s : String) : Decidable (Plain s) := inferInstanceAs (Decidable (_ ∧ _))

/-- `date.strftime("%Y-%m-%d")`, and `format(x, spec)`: digits, a sign, commas and a point, or the
name of what is no number. -/
structure Formats where
  strftime : Date → String
  format : FormatSpec → PyFloat → String
  format_plain : ∀ spec x, Plain (format spec x)

instance : Inhabited Formats where
  default :=
    { strftime := fun _ => "2024-01-01", format := fun _ _ => "nan"
      format_plain := fun _ _ => by simp [Plain] }

variable (fmt : Formats)

/-- `_fmt`, without a suffix. -/
def fmtOpt (x : Option PyFloat) (decimals : ℕ := 2) : String :=
  match x with
  | none => "N/A"
  | some x => fmt.format { decimals := decimals } x

/-- `_e`, of a text. -/
def esc (v : String) : String := String.ofList (escape v.toList)

/-- `_pnl_class`. NaN is not `>= 0`. -/
def pnlClass (pnl : PyFloat) : String := if PyFloat.zero.le pnl then "pos" else "neg"

/-- `str(i)`. -/
def intStr (i : ℤ) : String := String.ofList (intText i)

/-! ## The reports -/

/-- `MarkoutPoint`. -/
structure MarkoutPoint where
  offsetLabel : String
  avgPct : PyFloat
  sampleCount : ℤ

/-- `DailyReport`. -/
structure DailyReport where
  date : Date
  trades : List TradeRecord
  totalPnl : PyFloat
  totalPnlPct : PyFloat
  startingCapital : PyFloat
  sharpe : Option PyFloat
  sortino : Option PyFloat
  maxDrawdownPct : PyFloat
  winRatePct : PyFloat
  totalTrades : ℤ
  winningTrades : ℤ
  losingTrades : ℤ
  avgSlippagePct : Option PyFloat
  markoutCurve : List MarkoutPoint

/-- `MonthlyReport`. -/
structure MonthlyReport where
  year : ℤ
  month : ℤ
  dailyReports : List DailyReport
  totalPnl : PyFloat
  totalPnlPct : PyFloat
  startingCapital : PyFloat
  sharpe : Option PyFloat
  sortino : Option PyFloat
  maxDrawdownPct : PyFloat
  winRatePct : PyFloat
  totalTrades : ℤ

/-! ## The documents -/

/-- `_CSS`. -/
def css : String :=
  "\nbody\x7bfont-family:Arial,sans-serif;font-size:13px;color:#222;margin:20px\x7d\n" ++
  "h1\x7bcolor:#1a5276\x7dh2\x7bcolor:#2471a3;margin-top:24px;margin-bottom:4px\x7d\n" ++
  "table\x7bborder-collapse:collapse;width:100%;margin-bottom:16px\x7d\n" ++
  "th\x7bbackground:#2980b9;color:#fff;padding:6px 8px;text-align:left\x7d\n" ++
  "td\x7bpadding:5px 8px;border-bottom:1px solid #d6eaf8\x7d\n" ++
  "tr:nth-child(even)\x7bbackground:#eaf4fb\x7d\n" ++
  ".pos\x7bcolor:#1e8449\x7d.neg\x7bcolor:#c0392b\x7d.metric-val\x7bfont-weight:bold\x7d\n"

/-- `_summary_table`. -/
def summaryTable (rows : List (String × String)) : String :=
  let trs := String.join (rows.map fun row =>
    "<tr><td>" ++ esc row.1 ++ "</td><td class='metric-val'>" ++ esc row.2 ++ "</td></tr>")
  "<table><tr><th>Metric</th><th>Value</th></tr>" ++ trs ++ "</table>"

/-- The rows of the summary of a day. -/
def dailySummary (r : DailyReport) : List (String × String) :=
  [("Starting Capital", "$" ++ fmt.format { groups := true } r.startingCapital),
    ("Total P&L", "$" ++ fmt.format { sign := true, groups := true } r.totalPnl),
    ("P&L %", fmt.format { sign := true } r.totalPnlPct ++ "%"),
    ("Total Trades", intStr r.totalTrades),
    ("Win Rate", fmt.format { decimals := 1 } r.winRatePct ++ "%"),
    ("Winning / Losing", intStr r.winningTrades ++ " / " ++ intStr r.losingTrades),
    ("Sharpe (intraday)", fmtOpt fmt r.sharpe),
    ("Sortino (intraday)", fmtOpt fmt r.sortino),
    ("Max Drawdown", fmt.format {} r.maxDrawdownPct ++ "%"),
    ("Avg Slippage", fmtOpt fmt r.avgSlippagePct ++ "%")]

/-- A row of the markout curve. -/
def markoutRow (pt : MarkoutPoint) : String :=
  "<tr><td>" ++ esc pt.offsetLabel ++ "</td>" ++
  "<td class='" ++ pnlClass pt.avgPct ++ "'>" ++
    fmt.format { sign := true, decimals := 3 } pt.avgPct ++ "%</td>" ++
  "<td>" ++ intStr pt.sampleCount ++ "</td></tr>"

/-- The markout curve, if there is one. -/
def markoutHtml (curve : List MarkoutPoint) : String :=
  if curve.isEmpty then ""
  else
    "<h2>Markout Curve (Adverse Selection Monitor)</h2>" ++
    "<table><tr><th>Offset</th><th>Avg P&L %</th><th>Samples</th></tr>" ++
    String.join (curve.map (markoutRow fmt)) ++ "</table>"

/-- `'%.2f' % t.exit_price if t.exit_price is not None else '—'`. -/
def exitText (exitPrice : Option PyFloat) : String :=
  match exitPrice with
  | none => "—"
  | some price => fmt.format {} price

/-- A row of the trades. -/
def tradeRow (t : TradeRecord) : String :=
  "<tr>" ++
  "<td>" ++ esc t.symbol ++ "</td>" ++
  "<td>" ++ esc t.direction ++ "</td>" ++
  "<td>" ++ intStr t.quantity ++ "</td>" ++
  "<td>" ++ fmt.format {} t.entryPrice ++ "</td>" ++
  "<td>" ++ exitText fmt t.exitPrice ++ "</td>" ++
  "<td class='" ++ pnlClass t.pnl ++ "'>" ++ fmt.format { sign := true } t.pnl ++ "</td>" ++
  "<td class='" ++ pnlClass t.pnlPct ++ "'>" ++ fmt.format { sign := true } t.pnlPct ++ "%</td>" ++
  "<td>" ++ fmtOpt fmt t.slippagePct 3 ++ "%</td>" ++
  "<td>" ++ esc t.strategyTag ++ "</td>" ++
  "</tr>"

/-- The table of the trades. -/
def tradesHtml (trades : List TradeRecord) : String :=
  "<h2>Trade Detail</h2>" ++
  "<table>" ++
  "<tr><th>Symbol</th><th>Dir</th><th>Qty</th>" ++
  "<th>Entry</th><th>Exit</th><th>P&L</th><th>P&L %</th>" ++
  "<th>Slip %</th><th>Strategy</th></tr>" ++
  String.join (trades.map (tradeRow fmt)) ++
  "</table>"

/-- `build_daily_html`. -/
def buildDailyHtml (r : DailyReport) : String :=
  let dateStr := fmt.strftime r.date
  "<!DOCTYPE html><html><head>" ++
  "<title>Daily Report " ++ esc dateStr ++ "</title>" ++
  "<style>" ++ css ++ "</style></head><body>" ++
  "<h1>Daily Trading Report &mdash; " ++ esc dateStr ++ "</h1>" ++
  "<p class='" ++ pnlClass r.totalPnl ++ "'>P&amp;L: <strong>" ++
    fmt.format { sign := true, groups := true } r.totalPnl ++ "</strong>" ++
  " (" ++ fmt.format { sign := true } r.totalPnlPct ++ "%)</p>" ++
  "<h2>Performance Summary</h2>" ++
  summaryTable (dailySummary fmt r) ++
  markoutHtml fmt r.markoutCurve ++
  tradesHtml fmt r.trades ++
  "</body></html>"

/-- `calendar.month_name[month]`: index 0 is empty, and negative ones count from the end. -/
def monthName (month : ℤ) : Except Exc String :=
  let names := ["", "January", "February", "March", "April", "May", "June", "July", "August",
    "September", "October", "November", "December"]
  match names[(if month < 0 then month + 13 else month).toNat]? with
  | some name => if month < -13 then .error (.other "IndexError") else .ok name
  | none => .error (.other "IndexError")

/-- The rows of the summary of a month. -/
def monthlySummary (r : MonthlyReport) : List (String × String) :=
  [("Starting Capital", "$" ++ fmt.format { groups := true } r.startingCapital),
    ("Total P&L", "$" ++ fmt.format { sign := true, groups := true } r.totalPnl),
    ("Monthly Return", fmt.format { sign := true } r.totalPnlPct ++ "%"),
    ("Total Trades", intStr r.totalTrades),
    ("Win Rate (days)", fmt.format { decimals := 1 } r.winRatePct ++ "%"),
    ("Sharpe (monthly)", fmtOpt fmt r.sharpe),
    ("Sortino (monthly)", fmtOpt fmt r.sortino),
    ("Max Drawdown", fmt.format {} r.maxDrawdownPct ++ "%"),
    ("Trading Days", intStr r.dailyReports.length)]

/-- A row of the days. -/
def dayRow (day : DailyReport) : String :=
  "<tr>" ++
  "<td>" ++ esc (fmt.strftime day.date) ++ "</td>" ++
  "<td>" ++ intStr day.totalTrades ++ "</td>" ++
  "<td class='" ++ pnlClass day.totalPnl ++ "'>" ++
    fmt.format { sign := true, groups := true } day.totalPnl ++ "</td>" ++
  "<td class='" ++ pnlClass day.totalPnlPct ++ "'>" ++
    fmt.format { sign := true } day.totalPnlPct ++ "%</td>" ++
  "<td>" ++ fmt.format { decimals := 0 } day.winRatePct ++ "%</td>" ++
  "<td>" ++ fmtOpt fmt day.sharpe ++ "</td>" ++
  "<td>" ++ fmt.format {} day.maxDrawdownPct ++ "%</td>" ++
  "</tr>"

/-- `build_monthly_html`. -/
def buildMonthlyHtml (r : MonthlyReport) : Except Exc String := do
  let month ← monthName r.month
  let title := month ++ " " ++ intStr r.year
  let dailyTable :=
    "<h2>Daily Breakdown</h2>" ++
    "<table>" ++
    "<tr><th>Date</th><th>Trades</th><th>P&L</th><th>P&L %</th>" ++
    "<th>Win Rate</th><th>Sharpe</th><th>Drawdown</th></tr>" ++
    String.join (r.dailyReports.map (dayRow fmt)) ++ "</table>"
  return "<!DOCTYPE html><html><head>" ++
    "<title>Monthly Report " ++ esc title ++ "</title>" ++
    "<style>" ++ css ++ "</style></head><body>" ++
    "<h1>Monthly Trading Report &mdash; " ++ esc title ++ "</h1>" ++
    "<h2>Monthly Performance Summary</h2>" ++
    summaryTable (monthlySummary fmt r) ++
    dailyTable ++
    "</body></html>"

/-! ## Texts that stand as they are -/

theorem plain_append {a b : String} (ha : Plain a) (hb : Plain b) : Plain (a ++ b) := by
  refine ⟨?_, ?_⟩
  · rw [String.toList_append, List.mem_append, not_or]
    exact ⟨ha.1, hb.1⟩
  · rw [String.toList_append, List.mem_append, not_or]
    exact ⟨ha.2, hb.2⟩

theorem Plain.percent {a : String} (h : Plain a) : Plain (a ++ "%") :=
  plain_append h (by simp [Plain])

theorem plain_intStr (i : ℤ) : Plain (intStr i) := by
  have hmem : ∀ c ∈ intText i, c = '-' ∨ c.isDigit = true := by
    intro c hc
    rcases List.mem_append.mp hc with hsign | hdigit
    · refine Or.inl ?_
      unfold signText at hsign
      split_ifs at hsign
      · exact List.mem_singleton.mp hsign
      · exact absurd hsign List.not_mem_nil
    · exact Or.inr (Shortest.isDigit_of_mem_toDigits hdigit)
  refine ⟨?_, ?_⟩
  all_goals
    rw [intStr, String.toList_ofList]
    intro hc
    rcases hmem _ hc with h | h
    · exact absurd h (by decide)
    · exact absurd h (by decide)

theorem plain_fmtOpt (x : Option PyFloat) (decimals : ℕ) : Plain (fmtOpt fmt x decimals) := by
  cases x with
  | none => simp [Plain, fmtOpt]
  | some x => exact fmt.format_plain _ x

theorem plain_exitText (exitPrice : Option PyFloat) : Plain (exitText fmt exitPrice) := by
  cases exitPrice with
  | none =>
      show Plain "—"
      decide
  | some price => exact fmt.format_plain _ price

/-! ## Tags, cells and rows -/

/-- The tag of these characters, which is one. -/
def literalTag (name rest : String) (h : (tagOf name.toList rest.toList).isSome) : Tag :=
  (tagOf name.toList rest.toList).get h

@[simp] theorem literalTag_name {name rest : String}
    (h : (tagOf name.toList rest.toList).isSome) :
    (literalTag name rest h).name = name.toList := by
  unfold literalTag tagOf
  split_ifs with htag
  · rfl
  · rw [tagOf, dif_neg htag] at h
    cases h

@[simp] theorem literalTag_rest {name rest : String}
    (h : (tagOf name.toList rest.toList).isSome) :
    (literalTag name rest h).rest = rest.toList := by
  unfold literalTag tagOf
  split_ifs with htag
  · rfl
  · rw [tagOf, dif_neg htag] at h
    cases h

def td : Tag := literalTag "td" "" (by decide)
def tdMetric : Tag := literalTag "td" " class='metric-val'" (by decide)
def tdPos : Tag := literalTag "td" " class='pos'" (by decide)
def tdNeg : Tag := literalTag "td" " class='neg'" (by decide)
def th : Tag := literalTag "th" "" (by decide)
def tr : Tag := literalTag "tr" "" (by decide)
def table : Tag := literalTag "table" "" (by decide)

/-- The tag of a cell with a profit or a loss. -/
def tdPnl (pnl : PyFloat) : Tag := if PyFloat.zero.le pnl then tdPos else tdNeg

theorem tdPnl_name (pnl : PyFloat) : (tdPnl pnl).name = ['t', 'd'] := by
  unfold tdPnl
  split_ifs
  · simp [tdPos]
  · simp [tdNeg]

theorem tdPnl_rest (pnl : PyFloat) :
    (tdPnl pnl).rest = " class='".toList ++ ((pnlClass pnl).toList ++ ['\'']) := by
  unfold tdPnl pnlClass
  split_ifs
  · simp [tdPos]
  · simp [tdNeg]

/-- A cell of a table: its text as it stands, and as it is shown. -/
structure Cell where
  tag : Tag
  text : Text
  shown : String
  reads : unescape text.chars = shown.toList

/-- A cell of any text, escaped. -/
def Cell.escaped (tag : Tag) (s : String) : Cell where
  tag := tag
  text := .escaped s.toList
  shown := s
  reads := unescape_escape s.toList

/-- A cell of a text that HTML takes as it is. -/
def Cell.plain (tag : Tag) (s : String) (h : Plain s) : Cell where
  tag := tag
  text := { chars := s.toList, noTag := h.1 }
  shown := s
  reads := by
    have htext := unescape_plain h.2 []
    rw [List.append_nil] at htext
    exact htext.trans (List.append_nil s.toList)

/-- A heading: an ampersand in it is of no reference. -/
def Cell.heading (s : String) (h : '<' ∉ s.toList ∧ unescape s.toList = s.toList) : Cell where
  tag := th
  text := { chars := s.toList, noTag := h.1 }
  shown := s
  reads := h.2

/-- The element of a cell. -/
def Cell.element (c : Cell) : Element := .mk c.tag (.last c.text)

/-- The element of a row. -/
def rowElement (cells : List Cell) : Element := .mk tr (.ofElements (cells.map Cell.element))

/-- The element of a table. -/
def tableElement (rows : List (List Cell)) : Element :=
  .mk table (.ofElements (rows.map rowElement))

/-- What the cells of a row show. -/
def shownRow (cells : List Cell) : List String := cells.map Cell.shown

theorem cells_rowElement (cells : List Cell) : (rowElement cells).cells = shownRow cells := by
  rw [rowElement, Element.cells, Content.elements_ofElements, List.map_map]
  refine List.map_congr_left ?_
  intro c _
  show String.ofList (unescape c.text.chars) = c.shown
  rw [c.reads, String.ofList_toList]

theorem tables_tableElement (rows : List (List Cell)) :
    (tableElement rows).tables = [rows.map shownRow] := by
  rw [tableElement, Element.tables, if_pos (by decide), Content.elements_ofElements,
    List.map_map]
  refine congrArg (fun table => [table]) (List.map_congr_left ?_)
  intro cells _
  exact cells_rowElement cells

/-! ## The rows of the reports -/

/-- The cells of a row of the summary. -/
def summaryCells (row : String × String) : List Cell :=
  [.escaped td row.1, .escaped tdMetric row.2]

/-- The cells of a row of the markout curve. -/
def markoutCells (pt : MarkoutPoint) : List Cell :=
  [.escaped td pt.offsetLabel,
    .plain (tdPnl pt.avgPct) (fmt.format { sign := true, decimals := 3 } pt.avgPct ++ "%")
      (fmt.format_plain _ _).percent,
    .plain td (intStr pt.sampleCount) (plain_intStr _)]

/-- The cells of a row of the trades. -/
def tradeCells (t : TradeRecord) : List Cell :=
  [.escaped td t.symbol,
    .escaped td t.direction,
    .plain td (intStr t.quantity) (plain_intStr _),
    .plain td (fmt.format {} t.entryPrice) (fmt.format_plain _ _),
    .plain td (exitText fmt t.exitPrice) (plain_exitText fmt _),
    .plain (tdPnl t.pnl) (fmt.format { sign := true } t.pnl) (fmt.format_plain _ _),
    .plain (tdPnl t.pnlPct) (fmt.format { sign := true } t.pnlPct ++ "%")
      (fmt.format_plain _ _).percent,
    .plain td (fmtOpt fmt t.slippagePct 3 ++ "%") (plain_fmtOpt fmt _ _).percent,
    .escaped td t.strategyTag]

/-- The cells of a row of the days. -/
def dayCells (day : DailyReport) : List Cell :=
  [.escaped td (fmt.strftime day.date),
    .plain td (intStr day.totalTrades) (plain_intStr _),
    .plain (tdPnl day.totalPnl) (fmt.format { sign := true, groups := true } day.totalPnl)
      (fmt.format_plain _ _),
    .plain (tdPnl day.totalPnlPct) (fmt.format { sign := true } day.totalPnlPct ++ "%")
      (fmt.format_plain _ _).percent,
    .plain td (fmt.format { decimals := 0 } day.winRatePct ++ "%") (fmt.format_plain _ _).percent,
    .plain td (fmtOpt fmt day.sharpe) (plain_fmtOpt fmt _ _),
    .plain td (fmt.format {} day.maxDrawdownPct ++ "%") (fmt.format_plain _ _).percent]

theorem print_cell (c : Cell) :
    c.element.print =
      '<' :: (c.tag.name ++ (c.tag.rest ++ '>' ::
        (c.text.chars ++ '<' :: '/' :: (c.tag.name ++ ['>'])))) := rfl

theorem print_escaped (s : String) :
    (Cell.escaped td s).element.print = ("<td>" ++ (esc s ++ "</td>")).toList := by
  simp [print_cell, Cell.escaped, td, Text.escaped, esc]

theorem print_metric (s : String) :
    (Cell.escaped tdMetric s).element.print =
      ("<td class='metric-val'>" ++ (esc s ++ "</td>")).toList := by
  simp [print_cell, Cell.escaped, tdMetric, Text.escaped, esc]

theorem print_plain (s : String) (h : Plain s) :
    (Cell.plain td s h).element.print = ("<td>" ++ (s ++ "</td>")).toList := by
  simp [print_cell, Cell.plain, td]

theorem print_pnl (pnl : PyFloat) (s : String) (h : Plain s) :
    (Cell.plain (tdPnl pnl) s h).element.print =
      ("<td class='" ++ (pnlClass pnl ++ ("'>" ++ (s ++ "</td>")))).toList := by
  simp [print_cell, Cell.plain, tdPnl_name, tdPnl_rest]

theorem print_heading (s : String) (h : '<' ∉ s.toList ∧ unescape s.toList = s.toList) :
    (Cell.heading s h).element.print = ("<th>" ++ (s ++ "</th>")).toList := by
  simp [print_cell, Cell.heading, th]

/-- The characters of a row. -/
theorem print_rowElement (cells : List Cell) :
    (rowElement cells).print =
      "<tr>".toList ++ ((cells.flatMap fun c => c.element.print) ++ "</tr>".toList) := by
  simp [rowElement, Element.print, tr, List.flatMap_map]

theorem percent_td : "%</td>" = "%" ++ "</td>" := rfl

theorem summaryRow_toList (row : String × String) :
    ("<tr><td>" ++ esc row.1 ++ "</td><td class='metric-val'>" ++ esc row.2 ++
      "</td></tr>").toList = (rowElement (summaryCells row)).print := by
  have hopen : "<tr><td>" = "<tr>" ++ "<td>" := rfl
  have hmid : "</td><td class='metric-val'>" = "</td>" ++ "<td class='metric-val'>" := rfl
  have hclose : "</td></tr>" = "</td>" ++ "</tr>" := rfl
  rw [hopen, hmid, hclose]
  simp only [print_rowElement, summaryCells, print_escaped, print_metric, List.flatMap_cons,
    List.flatMap_nil, List.append_nil, String.toList_append, List.append_assoc]

theorem markoutRow_toList (pt : MarkoutPoint) :
    (markoutRow fmt pt).toList = (rowElement (markoutCells fmt pt)).print := by
  have hopen : "<tr><td>" = "<tr>" ++ "<td>" := rfl
  have hclose : "</td></tr>" = "</td>" ++ "</tr>" := rfl
  unfold markoutRow
  rw [hopen, hclose]
  simp only [print_rowElement, markoutCells, print_escaped, print_plain, print_pnl, percent_td,
    List.flatMap_cons, List.flatMap_nil, List.append_nil, String.toList_append, List.append_assoc]

theorem tradeRow_toList (t : TradeRecord) :
    (tradeRow fmt t).toList = (rowElement (tradeCells fmt t)).print := by
  unfold tradeRow
  simp only [print_rowElement, tradeCells, print_escaped, print_plain, print_pnl,
    percent_td, List.flatMap_cons, List.flatMap_nil, List.append_nil, String.toList_append,
    List.append_assoc]

theorem dayRow_toList (day : DailyReport) :
    (dayRow fmt day).toList = (rowElement (dayCells fmt day)).print := by
  unfold dayRow
  simp only [print_rowElement, dayCells, print_escaped, print_plain, print_pnl,
    percent_td, List.flatMap_cons, List.flatMap_nil, List.append_nil, String.toList_append,
    List.append_assoc]

/-! ## The tables of the reports -/

/-- The table of the summary. -/
def summaryRows (rows : List (String × String)) : List (List Cell) :=
  [.heading "Metric" (by decide), .heading "Value" (by decide)] :: rows.map summaryCells

/-- The table of the markout curve. -/
def markoutRows (curve : List MarkoutPoint) : List (List Cell) :=
  [.heading "Offset" (by decide), .heading "Avg P&L %" (by decide),
    .heading "Samples" (by decide)] :: curve.map (markoutCells fmt)

/-- The table of the trades. -/
def tradeRows (trades : List TradeRecord) : List (List Cell) :=
  [.heading "Symbol" (by decide), .heading "Dir" (by decide), .heading "Qty" (by decide),
    .heading "Entry" (by decide), .heading "Exit" (by decide), .heading "P&L" (by decide),
    .heading "P&L %" (by decide), .heading "Slip %" (by decide),
    .heading "Strategy" (by decide)] :: trades.map (tradeCells fmt)

/-- The table of the days. -/
def dayRows (days : List DailyReport) : List (List Cell) :=
  [.heading "Date" (by decide), .heading "Trades" (by decide), .heading "P&L" (by decide),
    .heading "P&L %" (by decide), .heading "Win Rate" (by decide), .heading "Sharpe" (by decide),
    .heading "Drawdown" (by decide)] :: days.map (dayCells fmt)

/-- The characters of a table. -/
theorem print_tableElement (rows : List (List Cell)) :
    (tableElement rows).print =
      "<table>".toList ++ ((rows.flatMap fun row => (rowElement row).print) ++
        "</table>".toList) := by
  simp [tableElement, Element.print, table, List.flatMap_map]

/-- The rows of a table, one after another. -/
theorem join_rows {α : Type} {rowText : α → String} {cells : α → List Cell}
    (h : ∀ x, (rowText x).toList = (rowElement (cells x)).print) (xs : List α) :
    (String.join (xs.map rowText)).toList =
      (xs.map cells).flatMap fun row => (rowElement row).print := by
  rw [String.toList_join, List.flatMap_map, List.flatMap_map]
  exact List.flatMap_congr fun x _ => h x

theorem summaryTable_toList (rows : List (String × String)) :
    (summaryTable rows).toList = (tableElement (summaryRows rows)).print := by
  have hopen : "<table><tr><th>Metric</th><th>Value</th></tr>" =
      "<table>" ++ ("<tr>" ++ ("<th>" ++ ("Metric" ++ ("</th>" ++
        ("<th>" ++ ("Value" ++ ("</th>" ++ "</tr>"))))))) := rfl
  unfold summaryTable
  rw [hopen]
  simp only [print_tableElement, summaryRows, print_rowElement, print_heading,
    String.toList_append, join_rows summaryRow_toList, List.flatMap_cons, List.flatMap_nil,
    List.append_nil, List.append_assoc]

/-! ## The documents as elements -/

def h1 : Tag := literalTag "h1" "" (by decide)
def h2 : Tag := literalTag "h2" "" (by decide)
def strong : Tag := literalTag "strong" "" (by decide)
def title : Tag := literalTag "title" "" (by decide)
def style : Tag := literalTag "style" "" (by decide)
def head : Tag := literalTag "head" "" (by decide)
def body : Tag := literalTag "body" "" (by decide)
def html : Tag := literalTag "html" "" (by decide)
def pPos : Tag := literalTag "p" " class='pos'" (by decide)
def pNeg : Tag := literalTag "p" " class='neg'" (by decide)

/-- The tag of a paragraph about a profit or a loss. -/
def pPnl (pnl : PyFloat) : Tag := if PyFloat.zero.le pnl then pPos else pNeg

/-- Characters without a tag. -/
def literalText (s : String) (h : '<' ∉ s.toList) : Text := { chars := s.toList, noTag := h }

/-- An element with a text only. -/
def textElement (tag : Tag) (text : Text) : Element := .mk tag (.last text)

/-- A heading and a table under it. -/
def titled (heading : Text) (rows : List (List Cell)) : List Element :=
  [textElement h2 heading, tableElement rows]

/-- The markout curve, if there is one. -/
def markoutElements (curve : List MarkoutPoint) : List Element :=
  if curve.isEmpty then []
  else titled (literalText "Markout Curve (Adverse Selection Monitor)" (by simp))
    (markoutRows fmt curve)

theorem pPnl_name (pnl : PyFloat) : (pPnl pnl).name = ['p'] := by
  unfold pPnl
  split_ifs
  · simp [pPos]
  · simp [pNeg]

theorem pPnl_rest (pnl : PyFloat) :
    (pPnl pnl).rest = " class='".toList ++ ((pnlClass pnl).toList ++ ['\'']) := by
  unfold pPnl pnlClass
  split_ifs
  · simp [pPos]
  · simp [pNeg]

/-- The characters of a heading and a table. -/
theorem print_titled (heading : Text) (rows : List (List Cell)) :
    (titled heading rows).flatMap Element.print =
      "<h2>".toList ++ (heading.chars ++ ("</h2>".toList ++ (tableElement rows).print)) := by
  simp [titled, textElement, Element.print, h2]

theorem markoutHtml_toList (curve : List MarkoutPoint) :
    (markoutHtml fmt curve).toList = (markoutElements fmt curve).flatMap Element.print := by
  have htitle : "<h2>Markout Curve (Adverse Selection Monitor)</h2>".toList =
      "<h2>".toList ++ ("Markout Curve (Adverse Selection Monitor)".toList ++
        "</h2>".toList) := by simp
  have hheadings :
      "<table><tr><th>Offset</th><th>Avg P&L %</th><th>Samples</th></tr>".toList =
        "<table>".toList ++ (rowElement [.heading "Offset" (by decide),
          .heading "Avg P&L %" (by decide), .heading "Samples" (by decide)]).print := by
    simp [print_rowElement, print_heading]
  unfold markoutHtml markoutElements
  split_ifs with hempty
  · rfl
  · rw [String.toList_append, String.toList_append, String.toList_append, htitle, hheadings,
      join_rows (markoutRow_toList fmt), print_titled, print_tableElement, markoutRows,
      List.flatMap_cons]
    simp only [List.append_assoc, literalText]

theorem tradesHtml_toList (trades : List TradeRecord) :
    (tradesHtml fmt trades).toList =
      (titled (literalText "Trade Detail" (by simp)) (tradeRows fmt trades)).flatMap
        Element.print := by
  have htitle : "<h2>Trade Detail</h2>".toList =
      "<h2>".toList ++ ("Trade Detail".toList ++ "</h2>".toList) := by simp
  have hheadings :
      "<tr><th>Symbol</th><th>Dir</th><th>Qty</th>".toList ++
        ("<th>Entry</th><th>Exit</th><th>P&L</th><th>P&L %</th>".toList ++
          "<th>Slip %</th><th>Strategy</th></tr>".toList) =
        (rowElement [.heading "Symbol" (by decide), .heading "Dir" (by decide),
          .heading "Qty" (by decide), .heading "Entry" (by decide), .heading "Exit" (by decide),
          .heading "P&L" (by decide), .heading "P&L %" (by decide), .heading "Slip %" (by decide),
          .heading "Strategy" (by decide)]).print := by
    simp [print_rowElement, print_heading]
  unfold tradesHtml
  rw [print_titled, print_tableElement, tradeRows, List.flatMap_cons, ← hheadings,
    ← join_rows (tradeRow_toList fmt)]
  simp only [String.toList_append, htitle, List.append_assoc, literalText]

/-- A document with a title, a style sheet and a body. -/
def documentOf (titleText styleText : Text) (es : List Element) : Content :=
  .ofElements
    [.mk html (.ofElements
      [.mk head (.ofElements [textElement title titleText, textElement style styleText]),
      .mk body (.ofElements es)])]

theorem print_documentOf (titleText styleText : Text) (es : List Element) :
    (documentOf titleText styleText es).print =
      "<html><head><title>".toList ++ (titleText.chars ++ ("</title><style>".toList ++
        (styleText.chars ++ ("</style></head><body>".toList ++
          (es.flatMap Element.print ++ "</body></html>".toList))))) := by
  simp [documentOf, textElement, Element.print, html, head, body, title, style]

theorem tables_documentOf (titleText styleText : Text) (es : List Element) :
    (documentOf titleText styleText es).tables = es.flatMap Element.tables := by
  simp [documentOf, textElement, Element.tables, Content.tables, html, head, body, title, style]

theorem tables_titled (heading : Text) (rows : List (List Cell)) :
    (titled heading rows).flatMap Element.tables = [rows.map shownRow] := by
  have hheading : (textElement h2 heading).tables = [] := by
    simp [textElement, Element.tables, Content.tables, h2]
  rw [titled, List.flatMap_cons, List.flatMap_singleton, hheading, tables_tableElement]
  rfl

/-- The title of a page: fixed characters, and a text that is escaped. -/
def titleText (fixed : String) (h : '<' ∉ fixed.toList) (s : String) : Text :=
  (literalText fixed h).append (.escaped s.toList)

/-- The line under the title of a day. -/
def pnlLine (r : DailyReport) : Element :=
  .mk (pPnl r.totalPnl)
    (.cons (literalText "P&amp;L: " (by simp))
      (textElement strong
        (literalText (fmt.format { sign := true, groups := true } r.totalPnl)
          (fmt.format_plain _ _).1))
      (.last
        { chars := " (".toList ++
            ((fmt.format { sign := true } r.totalPnlPct).toList ++ "%)".toList)
          noTag := by
            simpa using (fmt.format_plain { sign := true } r.totalPnlPct).1 }))

/-- The body of the daily report. -/
def dailyBody (r : DailyReport) : List Element :=
  textElement h1 (titleText "Daily Trading Report &mdash; " (by simp) (fmt.strftime r.date)) ::
    pnlLine fmt r ::
    (titled (literalText "Performance Summary" (by simp)) (summaryRows (dailySummary fmt r)) ++
      (markoutElements fmt r.markoutCurve ++
        titled (literalText "Trade Detail" (by simp)) (tradeRows fmt r.trades)))

theorem lt_notMem_literal {cs : List Char} (h : cs.all (· != '<') = true) :
    '<' ∉ (String.ofList cs).toList := by
  rw [String.toList_ofList]
  intro hmem
  simpa using List.all_eq_true.mp h '<' hmem

/-- The style sheet has no tag. -/
theorem lt_notMem_css : '<' ∉ css.toList := by
  unfold css
  simp only [String.toList_append, List.mem_append, not_or]
  refine ⟨⟨⟨⟨⟨⟨?_, ?_⟩, ?_⟩, ?_⟩, ?_⟩, ?_⟩, ?_⟩
  all_goals exact lt_notMem_literal rfl

/-- The daily report. -/
def dailyDocument (r : DailyReport) : Content :=
  documentOf (titleText "Daily Report " (by simp) (fmt.strftime r.date))
    (literalText css lt_notMem_css) (dailyBody fmt r)

theorem pnlLine_print (r : DailyReport) :
    (pnlLine fmt r).print =
      "<p class='".toList ++ ((pnlClass r.totalPnl).toList ++ ("'>P&amp;L: <strong>".toList ++
        ((fmt.format { sign := true, groups := true } r.totalPnl).toList ++
          ("</strong>".toList ++ (" (".toList ++
            ((fmt.format { sign := true } r.totalPnlPct).toList ++ "%)</p>".toList)))))) := by
  simp [pnlLine, textElement, Element.print, pPnl_name, pPnl_rest, strong, literalText]

theorem dailyBody_print (r : DailyReport) :
    (dailyBody fmt r).flatMap Element.print =
      "<h1>Daily Trading Report &mdash; ".toList ++ ((esc (fmt.strftime r.date)).toList ++
        ("</h1>".toList ++ ((pnlLine fmt r).print ++
          ("<h2>Performance Summary</h2>".toList ++
            ((summaryTable (dailySummary fmt r)).toList ++
              ((markoutHtml fmt r.markoutCurve).toList ++
                (tradesHtml fmt r.trades).toList)))))) := by
  have hh1 : (textElement h1 (titleText "Daily Trading Report &mdash; " (by simp)
      (fmt.strftime r.date))).print =
      "<h1>Daily Trading Report &mdash; ".toList ++ ((esc (fmt.strftime r.date)).toList ++
        "</h1>".toList) := by
    simp [textElement, titleText, Text.append, Text.escaped, literalText, Element.print, h1, esc]
  have hh2 : "<h2>Performance Summary</h2>".toList =
      "<h2>".toList ++ ("Performance Summary".toList ++ "</h2>".toList) := by simp
  rw [dailyBody, List.flatMap_cons, List.flatMap_cons, List.flatMap_append, List.flatMap_append,
    hh1, print_titled, ← markoutHtml_toList, ← tradesHtml_toList, ← summaryTable_toList, hh2]
  simp only [List.append_assoc, literalText]

theorem buildDailyHtml_toList (r : DailyReport) :
    (buildDailyHtml fmt r).toList = "<!DOCTYPE html>".toList ++ (dailyDocument fmt r).print := by
  have hopen : "<!DOCTYPE html><html><head>" = "<!DOCTYPE html>" ++ "<html><head>" := rfl
  have htitle : "<title>Daily Report " = "<title>" ++ "Daily Report " := rfl
  have hhead : "<html><head><title>" = "<html><head>" ++ "<title>" := rfl
  have hstyle : "</title><style>" = "</title>" ++ "<style>" := rfl
  unfold buildDailyHtml dailyDocument
  rw [print_documentOf, dailyBody_print, pnlLine_print, hopen, htitle, hhead, hstyle]
  simp only [String.toList_append, List.append_assoc, titleText, Text.append, Text.escaped,
    literalText, esc, String.toList_ofList]

/-- The body of the monthly report. -/
def monthlyBody (r : MonthlyReport) (name : String) : List Element :=
  textElement h1 (titleText "Monthly Trading Report &mdash; " (by simp) name) ::
    (titled (literalText "Monthly Performance Summary" (by simp))
        (summaryRows (monthlySummary fmt r)) ++
      titled (literalText "Daily Breakdown" (by simp)) (dayRows fmt r.dailyReports))

/-- The monthly report. -/
def monthlyDocument (r : MonthlyReport) (name : String) : Content :=
  documentOf (titleText "Monthly Report " (by simp) name) (literalText css lt_notMem_css)
    (monthlyBody fmt r name)

/-- The characters of the daily breakdown. -/
theorem daysTable_print (days : List DailyReport) :
    (titled (literalText "Daily Breakdown" (by simp)) (dayRows fmt days)).flatMap Element.print =
      "<h2>Daily Breakdown</h2>".toList ++ ("<table>".toList ++
        ("<tr><th>Date</th><th>Trades</th><th>P&L</th><th>P&L %</th>".toList ++
          ("<th>Win Rate</th><th>Sharpe</th><th>Drawdown</th></tr>".toList ++
            ((String.join (days.map (dayRow fmt))).toList ++ "</table>".toList)))) := by
  have htitle : "<h2>Daily Breakdown</h2>".toList =
      "<h2>".toList ++ ("Daily Breakdown".toList ++ "</h2>".toList) := by simp
  have hheadings :
      "<tr><th>Date</th><th>Trades</th><th>P&L</th><th>P&L %</th>".toList ++
        "<th>Win Rate</th><th>Sharpe</th><th>Drawdown</th></tr>".toList =
        (rowElement [.heading "Date" (by decide), .heading "Trades" (by decide),
          .heading "P&L" (by decide), .heading "P&L %" (by decide),
          .heading "Win Rate" (by decide), .heading "Sharpe" (by decide),
          .heading "Drawdown" (by decide)]).print := by
    simp [print_rowElement, print_heading]
  rw [print_titled, print_tableElement, dayRows, List.flatMap_cons, ← hheadings,
    ← join_rows (dayRow_toList fmt), htitle]
  simp only [List.append_assoc, literalText]

theorem monthlyBody_print (r : MonthlyReport) (name : String) :
    (monthlyBody fmt r name).flatMap Element.print =
      "<h1>Monthly Trading Report &mdash; ".toList ++ ((esc name).toList ++
        ("</h1>".toList ++ ("<h2>Monthly Performance Summary</h2>".toList ++
          ((summaryTable (monthlySummary fmt r)).toList ++
            (titled (literalText "Daily Breakdown" (by simp))
              (dayRows fmt r.dailyReports)).flatMap Element.print)))) := by
  have hh1 : (textElement h1 (titleText "Monthly Trading Report &mdash; " (by simp) name)).print =
      "<h1>Monthly Trading Report &mdash; ".toList ++ ((esc name).toList ++ "</h1>".toList) := by
    simp [textElement, titleText, Text.append, Text.escaped, literalText, Element.print, h1, esc]
  have hh2 : "<h2>Monthly Performance Summary</h2>".toList =
      "<h2>".toList ++ ("Monthly Performance Summary".toList ++ "</h2>".toList) := by simp
  rw [monthlyBody, List.flatMap_cons, List.flatMap_append, hh1, print_titled,
    ← summaryTable_toList, hh2]
  simp only [List.append_assoc, literalText]

theorem buildMonthlyHtml_toList (r : MonthlyReport) {month : String}
    (hmonth : monthName r.month = .ok month) :
    (buildMonthlyHtml fmt r).map String.toList =
      .ok ("<!DOCTYPE html>".toList ++
        (monthlyDocument fmt r (month ++ " " ++ intStr r.year)).print) := by
  have hopen : "<!DOCTYPE html><html><head>" = "<!DOCTYPE html>" ++ "<html><head>" := rfl
  have htitle : "<title>Monthly Report " = "<title>" ++ "Monthly Report " := rfl
  have hhead : "<html><head><title>" = "<html><head>" ++ "<title>" := rfl
  have hstyle : "</title><style>" = "</title>" ++ "<style>" := rfl
  unfold buildMonthlyHtml monthlyDocument
  rw [hmonth, print_documentOf, monthlyBody_print, daysTable_print, hopen, htitle, hhead, hstyle]
  refine congrArg Except.ok ?_
  simp only [String.toList_append, List.append_assoc, titleText, Text.append, Text.escaped,
    literalText, esc, String.toList_ofList]

/-! ## Reading a report -/

/-- The tables of a document, as their rows of texts. -/
def readTables (html : String) : Option (List (List (List String))) := do
  let rest ← html.toList.dropPrefix? "<!DOCTYPE html>".toList
  return (← parse rest).tables

theorem readTables_print {html : String} {c : Content}
    (h : html.toList = "<!DOCTYPE html>".toList ++ c.print) : readTables html = some c.tables := by
  rw [readTables, h, List.dropPrefix?_append_of_beq _ (beq_self_eq_true _)]
  show (parse c.print).bind _ = _
  rw [parse_print]
  rfl

/-- The table of a summary, as it is read. -/
def summaryTexts (rows : List (String × String)) : List (List String) :=
  ["Metric", "Value"] :: rows.map fun row => [row.1, row.2]

/-- The table of the markout curve, as it is read. -/
def markoutTexts (curve : List MarkoutPoint) : List (List String) :=
  ["Offset", "Avg P&L %", "Samples"] :: curve.map fun pt =>
    [pt.offsetLabel, fmt.format { sign := true, decimals := 3 } pt.avgPct ++ "%",
      intStr pt.sampleCount]

/-- The table of the trades, as it is read. -/
def tradeTexts (trades : List TradeRecord) : List (List String) :=
  ["Symbol", "Dir", "Qty", "Entry", "Exit", "P&L", "P&L %", "Slip %", "Strategy"] ::
    trades.map fun t =>
      [t.symbol, t.direction, intStr t.quantity, fmt.format {} t.entryPrice,
        exitText fmt t.exitPrice, fmt.format { sign := true } t.pnl,
        fmt.format { sign := true } t.pnlPct ++ "%", fmtOpt fmt t.slippagePct 3 ++ "%",
        t.strategyTag]

/-- The table of the days, as it is read. -/
def dayTexts (days : List DailyReport) : List (List String) :=
  ["Date", "Trades", "P&L", "P&L %", "Win Rate", "Sharpe", "Drawdown"] ::
    days.map fun day =>
      [fmt.strftime day.date, intStr day.totalTrades,
        fmt.format { sign := true, groups := true } day.totalPnl,
        fmt.format { sign := true } day.totalPnlPct ++ "%",
        fmt.format { decimals := 0 } day.winRatePct ++ "%", fmtOpt fmt day.sharpe,
        fmt.format {} day.maxDrawdownPct ++ "%"]

theorem shown_summaryRows (rows : List (String × String)) :
    (summaryRows rows).map shownRow = summaryTexts rows := by
  rw [summaryRows, List.map_cons, List.map_map]
  rfl

theorem shown_markoutRows (curve : List MarkoutPoint) :
    (markoutRows fmt curve).map shownRow = markoutTexts fmt curve := by
  rw [markoutRows, List.map_cons, List.map_map]
  rfl

theorem shown_tradeRows (trades : List TradeRecord) :
    (tradeRows fmt trades).map shownRow = tradeTexts fmt trades := by
  rw [tradeRows, List.map_cons, List.map_map]
  rfl

theorem shown_dayRows (days : List DailyReport) :
    (dayRows fmt days).map shownRow = dayTexts fmt days := by
  rw [dayRows, List.map_cons, List.map_map]
  rfl

theorem tables_markoutElements (curve : List MarkoutPoint) :
    (markoutElements fmt curve).flatMap Element.tables =
      if curve.isEmpty then [] else [markoutTexts fmt curve] := by
  unfold markoutElements
  split_ifs with hempty
  · rfl
  · rw [tables_titled, shown_markoutRows]

theorem tables_h1 (text : Text) : (textElement h1 text).tables = [] := by
  simp [textElement, Element.tables, Content.tables, h1]

theorem tables_pnlLine (r : DailyReport) : (pnlLine fmt r).tables = [] := by
  simp [pnlLine, textElement, Element.tables, Content.tables, pPnl_name, strong]

/-- The tables of a daily report are read back: the summary, the markout curve if there is one, and
the trades, whatever the names and labels in them. -/
theorem readTables_buildDailyHtml (r : DailyReport) :
    readTables (buildDailyHtml fmt r) =
      some (summaryTexts (dailySummary fmt r) ::
        ((if r.markoutCurve.isEmpty then [] else [markoutTexts fmt r.markoutCurve]) ++
          [tradeTexts fmt r.trades])) := by
  rw [readTables_print (buildDailyHtml_toList fmt r), dailyDocument, tables_documentOf, dailyBody,
    List.flatMap_cons, List.flatMap_cons, List.flatMap_append, List.flatMap_append, tables_h1,
    tables_pnlLine, tables_titled, tables_markoutElements, tables_titled, shown_summaryRows,
    shown_tradeRows]
  rfl

/-- A monthly report is made of every month that has a name, and its tables are read back: the
summary, and the days. -/
theorem readTables_buildMonthlyHtml (r : MonthlyReport) :
    (buildMonthlyHtml fmt r).map readTables =
      (monthName r.month).map fun _ =>
        some [summaryTexts (monthlySummary fmt r), dayTexts fmt r.dailyReports] := by
  cases hmonth : monthName r.month with
  | error e =>
      rw [buildMonthlyHtml, hmonth]
      rfl
  | ok month =>
      have hchars := buildMonthlyHtml_toList fmt r hmonth
      cases hbuilt : buildMonthlyHtml fmt r with
      | error e =>
          rw [hbuilt] at hchars
          cases hchars
      | ok html =>
          rw [hbuilt] at hchars
          refine congrArg Except.ok ?_
          rw [readTables_print (Except.ok.inj hchars), monthlyDocument, tables_documentOf,
            monthlyBody, List.flatMap_cons, List.flatMap_append, tables_h1, tables_titled,
            tables_titled, shown_summaryRows, shown_dayRows]
          rfl

end Intraday.Reporting.HtmlReport
