import Intraday.Lib.Csv
import Intraday.Lib.Dict

/-!
# Intraday.Lib.DictReader — `csv.DictReader`

The rows of a CSV text as dictionaries, with the fields of its first row as the names of the
columns. Blank rows are skipped. A name has the field in its last column, and `None` if the row
ends before it (`get?_dictRow`).

A row is read only when the program asks for it, so what the program raises on a row comes before
the `csv.Error` of a later one. It gets through all rows exactly if the text can be read to its end
and it gets through each row (`mapRows_eq_ok_iff`).
-/

namespace Intraday.Lib.Csv

open Reader

variable (limit : ℕ)

/-! ## Rows until an error -/

/-- The records up to one that cannot be read, and its error. -/
def recordsUntil (r : Reader) : List (List Char) → List (List String) × Option Error
  | [] =>
      (if r.field ≠ [] ∨ r.state = .inQuotedField then [(r.saveField .startRecord).fields] else [],
        none)
  | line :: lines =>
      match r.feed limit line with
      | .error e => ([], some e)
      | .ok r =>
          if r.state = .startRecord then
            (r.fields :: (recordsUntil fresh lines).1, (recordsUntil fresh lines).2)
          else recordsUntil r lines

/-- The rows of a text as a reader yields them. -/
def readUntil (text : List Char) : List (List String) × Option Error :=
  recordsUntil limit fresh (splitLines text)

variable {limit}

theorem records_eq_recordsUntil (r : Reader) (lines : List (List Char)) :
    records limit r lines =
      (recordsUntil limit r lines).2.elim (.ok (recordsUntil limit r lines).1) .error := by
  induction lines generalizing r with
  | nil => rfl
  | cons line lines ih =>
      rw [records, recordsUntil]
      cases hfeed : r.feed limit line with
      | error e => rfl
      | ok r' =>
          simp only [bind, Except.bind]
          split
          · rw [ih]
            cases (recordsUntil limit fresh lines).2 <;> rfl
          · exact ih r'

theorem read_eq_ok_iff {text : List Char} {rows : List (List String)} :
    read limit text = .ok rows ↔ readUntil limit text = (rows, none) := by
  rw [read, records_eq_recordsUntil, readUntil]
  rcases recordsUntil limit fresh (splitLines text) with ⟨rows', error⟩
  cases error <;> simp

/-! ## A row as a dictionary -/

/-- `dict(zip(names, row))`, with `None` for the names that the row is too short for. -/
def dictRow (names row : List String) : Dict String (Option String) :=
  let d := (names.zip row).foldl (fun d e => d.set e.1 (some e.2)) .empty
  (names.drop row.length).foldl (fun d name => d.set name none) d

/-- The last column with a name. -/
def column (names : List String) (name : String) : Option ℕ :=
  ((names.zipIdx.filter fun p => decide (p.1 = name)).getLast?).map Prod.snd

/-- The columns in their order, each with its field. -/
theorem columns_eq (names row : List String) :
    ((names.zip row).map fun e => (e.1, some e.2)) ++
        ((names.drop row.length).map fun name => (name, none)) =
      names.zipIdx.map fun p => (p.1, row[p.2]?) := by
  induction names generalizing row with
  | nil => simp
  | cons name names ih =>
      cases row with
      | nil =>
          have hnone : (names.zipIdx 1).map (fun p => (p.1, (none : Option String))) =
              names.map fun name => (name, none) := by
            conv_rhs => rw [← List.zipIdx_map_fst 1 names, List.map_map]
            rfl
          simp [List.zipIdx_cons, hnone]
      | cons field row =>
          have hshift := ih row
          rw [List.zipIdx_cons, List.map_cons, List.zip_cons_cons, List.map_cons, List.cons_append,
            List.length_cons, List.drop_succ_cons, hshift, Nat.zero_add,
            List.zipIdx_succ (l := names) (i := 0), List.map_map]
          rfl

theorem get?_dictRow (names row : List String) (name : String) :
    (dictRow names row).get? name = (column names name).map fun i => row[i]? := by
  have hfold : dictRow names row = (names.zipIdx.map fun p => (p.1, row[p.2]?)).foldl
      (fun d e => d.set e.1 e.2) .empty := by
    rw [← columns_eq, List.foldl_append, List.foldl_map, List.foldl_map]
    rfl
  rw [hfold, Dict.get?_foldl_set, List.filter_map, List.getLast?_map, column, Option.map_map,
    Option.map_map]
  exact Option.or_none

/-! ## The reader -/

/-- `csv.DictReader(io.StringIO(text))`: the names of the columns, the rows that it yields, and the
error that ends them. -/
structure DictReader where
  fieldnames : List String
  rows : List (List String)
  error : Option Error

/-- The reader of a text. -/
def dictReader (limit : ℕ) (text : List Char) : DictReader :=
  let (rows, error) := readUntil limit text
  { fieldnames := rows.headD [], rows := rows.tail.filter (· ≠ []), error := error }

namespace DictReader

variable {ε α : Type}

/-- `[f(row) for row in reader]`. -/
def mapRows (csvError : Error → ε) (f : Dict String (Option String) → Except ε α)
    (reader : DictReader) : Except ε (List α) := do
  let as ← reader.rows.mapM fun row => f (dictRow reader.fieldnames row)
  match reader.error with
  | none => pure as
  | some e => throw (csvError e)

/-- A program gets through the rows of a text if the text can be read and it gets through each. -/
theorem mapRows_eq_ok_iff {limit : ℕ} {text : List Char} (names : List String → List String)
    (csvError : Error → ε) {f : Dict String (Option String) → Except ε α} {as : List α} :
    mapRows csvError f { dictReader limit text with
        fieldnames := names (dictReader limit text).fieldnames } = .ok as ↔
      ∃ rows, read limit text = .ok rows ∧
        (rows.tail.filter (· ≠ [])).mapM (fun row => f (dictRow (names (rows.headD [])) row)) =
          .ok as := by
  simp only [read_eq_ok_iff, dictReader, mapRows]
  rcases readUntil limit text with ⟨rows, error⟩
  rw [bind_eq_ok_iff]
  constructor
  · rintro ⟨as', hrows, hend⟩
    cases error with
    | none =>
        cases hend
        exact ⟨rows, rfl, hrows⟩
    | some e => cases hend
  · rintro ⟨rows', heq, hrows⟩
    cases heq
    exact ⟨as, hrows, rfl⟩

end DictReader

end Intraday.Lib.Csv
