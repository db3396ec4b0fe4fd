import Intraday.Lib.Traverse
import Mathlib.Algebra.Order.BigOperators.Group.List
import Mathlib.Algebra.Order.Ring.Nat

/-!
# Intraday.Lib.Csv — `csv.writer` and `csv.reader`

Rows of texts in the dialect `excel`. The writer puts a field in quotes if it has a comma, a
quote or the end of a line, and doubles the quotes in it. The reader is a machine over the
characters of a line, with `none` for the end of the line; a record goes on over lines that end
inside quotes. A field may not be longer than the reader's limit, which a program may set.

`read_write` is the round trip: what was written is read back, unless a field is too long. So
different rows are written differently (`write_injective`).
-/

namespace Intraday.Lib.Csv

/-! ## Writing -/

/-- The character ends a line. -/
def isNewline (c : Char) : Bool := c == '\r' || c == '\n'

/-- The character has a field written in quotes. -/
def isSpecial (c : Char) : Bool := c == ',' || c == '"' || isNewline c

/-- A character between quotes. -/
def quoteChar (c : Char) : List Char := if c = '"' then ['"', '"'] else [c]

/-- A field in quotes. -/
def quoted (s : List Char) : List Char := '"' :: (s.flatMap quoteChar ++ ['"'])

/-- A field of a row. -/
def fieldText (s : List Char) : List Char := if s.any isSpecial then quoted s else s

/-- The fields of a row, with commas between them. -/
def fieldsText : List (List Char) → List Char
  | [] => []
  | [s] => fieldText s
  | s :: s' :: rest => fieldText s ++ ',' :: fieldsText (s' :: rest)

/-- `writer.writerow(row)`. A lone empty field is written in quotes. -/
def rowText (row : List String) : List Char :=
  (if row = [""] then quoted [] else fieldsText (row.map String.toList)) ++ ['\r', '\n']

/-- What a writer has written after these rows. -/
def write (rows : List (List String)) : List Char := rows.flatMap rowText

/-! ## Reading -/

/-- Where the reader is in a record. -/
inductive State where
  | startRecord
  | startField
  | inField
  | inQuotedField
  | quoteInQuotedField
  | eatCrnl
deriving DecidableEq

/-- `csv.Error`. -/
inductive Error where
  | fieldTooLarge
  | newlineInUnquotedField
deriving DecidableEq

/-- `csv.field_size_limit()`, if no program sets another one. -/
@[irreducible] def fieldLimit : ℕ := 131072

/-- The reader: its state, the field it is in and the fields before it. -/
structure Reader where
  state : State
  field : List Char
  fields : List String
deriving DecidableEq

namespace Reader

/-- At the beginning of a record. -/
def fresh : Reader := { state := .startRecord, field := [], fields := [] }

/-- The field has ended. -/
def saveField (r : Reader) (state : State) : Reader :=
  { state := state, field := [], fields := r.fields ++ [String.ofList r.field] }

variable (limit : ℕ)

/-- One more character of the field. -/
def addChar (r : Reader) (state : State) (c : Char) : Except Error Reader :=
  if r.field.length < limit then .ok { r with state := state, field := r.field ++ [c] }
  else .error .fieldTooLarge

/-- A character at the beginning of a field. -/
def atStart (r : Reader) (c : Char) : Except Error Reader :=
  if isNewline c then .ok (r.saveField .eatCrnl)
  else if c = '"' then .ok { r with state := .inQuotedField }
  else if c = ',' then .ok (r.saveField .startField)
  else r.addChar limit .inField c

/-- One character, or the end of the line. -/
def step (r : Reader) : Option Char → Except Error Reader
  | none =>
      match r.state with
      | .startRecord | .inQuotedField => .ok r
      | .eatCrnl => .ok { r with state := .startRecord }
      | .startField | .inField | .quoteInQuotedField => .ok (r.saveField .startRecord)
  | some c =>
      match r.state with
      | .startRecord => if isNewline c then .ok { r with state := .eatCrnl } else r.atStart limit c
      | .startField => r.atStart limit c
      | .inField =>
          if isNewline c then .ok (r.saveField .eatCrnl)
          else if c = ',' then .ok (r.saveField .startField)
          else r.addChar limit .inField c
      | .inQuotedField =>
          if c = '"' then .ok { r with state := .quoteInQuotedField }
          else r.addChar limit .inQuotedField c
      | .quoteInQuotedField =>
          if c = '"' then r.addChar limit .inQuotedField c
          else if c = ',' then .ok (r.saveField .startField)
          else if isNewline c then .ok (r.saveField .eatCrnl)
          else r.addChar limit .inField c
      | .eatCrnl => if isNewline c then .ok r else .error .newlineInUnquotedField

/-- A line with its end. -/
def feed (r : Reader) (line : List Char) : Except Error Reader := do
  let r ← line.foldlM (fun r c => r.step limit (some c)) r
  r.step limit none

end Reader

open Reader

variable (limit : ℕ)

/-- The records on the lines that are left. At the end a record that was begun counts if it has a
field that was. -/
def records (r : Reader) : List (List Char) → Except Error (List (List String))
  | [] =>
      .ok (if r.field ≠ [] ∨ r.state = .inQuotedField then [(r.saveField .startRecord).fields]
        else [])
  | line :: lines => do
      let r ← r.feed limit line
      if r.state = .startRecord then
        let rows ← records fresh lines
        pure (r.fields :: rows)
      else records r lines

/-- The lines of an `io.StringIO`, each with its line feed. -/
def splitLines : List Char → List (List Char)
  | [] => []
  | c :: cs =>
      if c = '\n' then [c] :: splitLines cs
      else
        match splitLines cs with
        | [] => [[c]]
        | line :: lines => (c :: line) :: lines

/-- `list(csv.reader(io.StringIO(text)))`. -/
def read (text : List Char) : Except Error (List (List String)) :=
  records limit fresh (splitLines text)

/-! ## A reader within a line -/

/-- The records when a line has ended. -/
def finish (r : Reader) (lines : List (List Char)) : Except Error (List (List String)) :=
  if r.state = .startRecord then (do
    let rows ← records limit fresh lines
    pure (r.fields :: rows))
  else records limit r lines

/-- The records from within a line: the first of the lines is the rest of it. -/
def resume (r : Reader) : List (List Char) → Except Error (List (List String))
  | [] => do
      let r ← r.step limit none
      finish limit r []
  | line :: lines => do
      let r ← r.feed limit line
      finish limit r lines

variable {limit}

theorem splitLines_ne_nil {text : List Char} (h : text ≠ []) : splitLines text ≠ [] := by
  cases text with
  | nil => exact absurd rfl h
  | cons c cs =>
      rw [splitLines]
      split
      · exact List.cons_ne_nil _ _
      · split <;> exact List.cons_ne_nil _ _

/-- A line begins as if the reader were within it. -/
theorem records_eq_resume (r : Reader) {text : List Char} (h : text ≠ []) :
    records limit r (splitLines text) = resume limit r (splitLines text) := by
  cases hlines : splitLines text with
  | nil => exact absurd hlines (splitLines_ne_nil h)
  | cons line lines => rfl

theorem resume_cons (r : Reader) {c : Char} (hc : c ≠ '\n') (text : List Char) :
    resume limit r (splitLines (c :: text)) =
      r.step limit (some c) >>= fun r => resume limit r (splitLines text) := by
  rw [splitLines, if_neg hc]
  cases splitLines text with
  | nil =>
      show (([c].foldlM (fun r c => r.step limit (some c)) r >>=
        fun r => r.step limit none) >>= _) = _
      rw [List.foldlM_cons, bind_assoc, bind_assoc]
      rfl
  | cons line lines =>
      show (((c :: line).foldlM (fun r c => r.step limit (some c)) r >>=
        fun r => r.step limit none) >>= _) = _
      rw [List.foldlM_cons, bind_assoc, bind_assoc]
      refine bind_congr fun r' => ?_
      rw [← bind_assoc]
      rfl

theorem resume_newline (r : Reader) (text : List Char) :
    resume limit r (splitLines ('\n' :: text)) =
      r.step limit (some '\n') >>= fun r =>
        r.step limit none >>= fun r => finish limit r (splitLines text) := by
  rw [splitLines, if_pos rfl]
  show ((['\n'].foldlM (fun r c => r.step limit (some c)) r >>=
    fun r => r.step limit none) >>= _) = _
  rw [List.foldlM_cons, bind_assoc, bind_assoc]
  rfl

/-! ## A field -/

/-- The reader after it was given the text `s` of its field. -/
def extend (r : Reader) (state : State) (s : List Char) : Reader :=
  { r with state := state, field := r.field ++ s }

/-- A character of a quoted field. The end of a line is one of them, and the record goes on. -/
theorem resume_quotedChar {r : Reader} (hr : r.state = .inQuotedField) {c : Char} (hc : c ≠ '"')
    {text : List Char} (htext : text ≠ []) :
    resume limit r (splitLines (c :: text)) =
      r.addChar limit .inQuotedField c >>= fun r => resume limit r (splitLines text) := by
  have hstep : r.step limit (some c) = r.addChar limit .inQuotedField c := by
    simp only [step, hr, if_neg hc]
  by_cases hline : c = '\n'
  · subst hline
    rw [resume_newline, hstep, addChar]
    split
    · show finish limit (extend r .inQuotedField ['\n']) _ =
        resume limit (extend r .inQuotedField ['\n']) _
      rw [finish, if_neg (fun h => nomatch h), records_eq_resume _ htext]
    · rfl
  · rw [resume_cons r hline, hstep]

/-- Two quotes in a quoted field are one. -/
theorem resume_quotedQuote {r : Reader} (hr : r.state = .inQuotedField) (text : List Char) :
    resume limit r (splitLines ('"' :: '"' :: text)) =
      r.addChar limit .inQuotedField '"' >>= fun r => resume limit r (splitLines text) := by
  rw [resume_cons r (by decide)]
  simp only [step, hr, if_true]
  show resume limit _ _ = _
  rw [resume_cons _ (by decide)]
  rfl

/-- Within quotes the field is extended by the text that was quoted. -/
theorem resume_quoted (s : List Char) {r : Reader} (hr : r.state = .inQuotedField)
    (hfield : r.field.length ≤ limit) (rest : List Char) :
    resume limit r (splitLines (s.flatMap quoteChar ++ '"' :: rest)) =
      if (r.field ++ s).length ≤ limit then
        resume limit (extend r .quoteInQuotedField s) (splitLines rest)
      else .error .fieldTooLarge := by
  induction s generalizing r with
  | nil =>
      rw [List.flatMap_nil, List.nil_append, resume_cons r (by decide), List.append_nil,
        if_pos hfield]
      simp only [step, hr, if_true, extend, List.append_nil]
      rfl
  | cons c s ih =>
      have hrest : s.flatMap quoteChar ++ '"' :: rest ≠ [] := by simp
      have hchar : resume limit r (splitLines ((c :: s).flatMap quoteChar ++ '"' :: rest)) =
          r.addChar limit .inQuotedField c >>=
            fun r => resume limit r (splitLines (s.flatMap quoteChar ++ '"' :: rest)) := by
        rw [List.flatMap_cons, List.append_assoc, quoteChar]
        split
        · rename_i hquote
          rw [hquote]
          exact resume_quotedQuote hr _
        · rename_i hquote
          exact resume_quotedChar hr hquote hrest
      rw [hchar, addChar]
      by_cases hlt : r.field.length < limit
      · have hlen : (r.field ++ [c]).length ≤ limit := by
          rw [List.length_append, List.length_singleton]
          omega
        rw [if_pos hlt]
        have hrest := ih (r := { r with state := .inQuotedField, field := r.field ++ [c] }) rfl hlen
        refine hrest.trans ?_
        simp only [extend, List.append_assoc, List.singleton_append]
      · rw [if_neg hlt, if_neg (by rw [List.length_append, List.length_cons]; omega)]
        rfl

/-- Outside of quotes the field is extended by a text without special characters. -/
theorem resume_plain (s : List Char) (hs : ∀ c ∈ s, isSpecial c = false) {r : Reader}
    (hr : r.state = .inField) (hfield : r.field.length ≤ limit) (rest : List Char) :
    resume limit r (splitLines (s ++ rest)) =
      if (r.field ++ s).length ≤ limit then resume limit (extend r .inField s) (splitLines rest)
      else .error .fieldTooLarge := by
  induction s generalizing r with
  | nil =>
      rw [List.nil_append, List.append_nil, if_pos hfield, extend, List.append_nil, ← hr]
  | cons c s ih =>
      rw [List.forall_mem_cons] at hs
      have hspecial := hs.1
      simp only [isSpecial, isNewline, Bool.or_eq_false_iff, beq_eq_false_iff_ne] at hspecial
      rw [List.cons_append, resume_cons r hspecial.2.2]
      have hstep : r.step limit (some c) = r.addChar limit .inField c := by
        simp [step, hr, isNewline, hspecial]
      rw [hstep, addChar]
      by_cases hlt : r.field.length < limit
      · have hlen : (r.field ++ [c]).length ≤ limit := by
          rw [List.length_append, List.length_singleton]
          omega
        rw [if_pos hlt]
        have hrest := ih hs.2 (r := { r with state := .inField, field := r.field ++ [c] }) rfl hlen
        refine hrest.trans ?_
        simp only [extend, List.append_assoc, List.singleton_append]
      · rw [if_neg hlt, if_neg (by rw [List.length_append, List.length_cons]; omega)]
        rfl

/-- A reader that expects a field. -/
def Expects (r : Reader) : Prop :=
  (r.state = .startRecord ∨ r.state = .startField) ∧ r.field = []

/-- The state in which the text of a field leaves the reader. -/
def stateAfter (r : Reader) (s : List Char) : State :=
  if s.any isSpecial then .quoteInQuotedField else if s = [] then r.state else .inField

/-- A field is read as it was written, quoted or not. -/
theorem resume_fieldText {r : Reader} (hr : Expects r) (s rest : List Char) :
    resume limit r (splitLines (fieldText s ++ rest)) =
      if s.length ≤ limit then
        resume limit { r with state := stateAfter r s, field := s } (splitLines rest)
      else .error .fieldTooLarge := by
  rcases r with ⟨state, field, fields⟩
  rcases hr with ⟨hstate, hnil⟩
  obtain rfl : field = [] := hnil
  rw [fieldText, stateAfter]
  split
  · -- an opening quote, and then the quoted text
    rw [quoted, List.cons_append, List.append_assoc, resume_cons _ (by decide)]
    have hquote : step limit { state := state, field := [], fields := fields } (some '"') =
        .ok { state := .inQuotedField, field := [], fields := fields } := by
      rcases hstate with rfl | rfl <;> rfl
    rw [hquote]
    exact resume_quoted s rfl (Nat.zero_le _) rest
  · rename_i hspecial
    have hplain : ∀ c ∈ s, isSpecial c = false := by
      simpa using hspecial
    cases s with
    | nil => simp
    | cons c s =>
        rw [List.forall_mem_cons] at hplain
        have hc := hplain.1
        simp only [isSpecial, isNewline, Bool.or_eq_false_iff, beq_eq_false_iff_ne] at hc
        have hstep : step limit { state := state, field := [], fields := fields } (some c) =
            addChar limit { state := state, field := [], fields := fields } .inField c := by
          rcases hstate with rfl | rfl <;> simp [step, atStart, isNewline, hc]
        rw [List.cons_append, resume_cons _ hc.2.2, hstep, addChar]
        by_cases hpos : 0 < limit
        · rw [List.length_nil, if_pos hpos]
          exact resume_plain s hplain.2 (r := { state := .inField, field := [c], fields := fields })
            rfl hpos rest
        · rw [List.length_nil, if_neg hpos, if_neg (by rw [List.length_cons]; omega)]
          rfl

/-! ## A row -/

/-- A comma after a field. -/
theorem step_comma {r : Reader} (hr : Expects r) (s : List Char) :
    step limit { r with state := stateAfter r s, field := s } (some ',') =
      .ok { state := .startField, field := [], fields := r.fields ++ [String.ofList s] } := by
  rcases r with ⟨state, field, fields⟩
  rw [stateAfter]
  split
  · rfl
  · split
    · rename_i hnil
      subst hnil
      rcases hr.1 with rfl | rfl <;> rfl
    · rfl

/-- The end of a line after a field, unless the line is empty. -/
theorem step_return {r : Reader} (hr : Expects r) {s : List Char}
    (hline : r.state = .startRecord → s ≠ []) :
    step limit { r with state := stateAfter r s, field := s } (some '\r') =
      .ok { state := .eatCrnl, field := [], fields := r.fields ++ [String.ofList s] } := by
  rcases r with ⟨state, field, fields⟩
  rw [stateAfter]
  split
  · rfl
  · split
    · rename_i hnil
      subst hnil
      rcases hr.1 with rfl | rfl
      · exact absurd rfl (hline rfl)
      · rfl
    · rfl

/-- The rest of the line end, and the records after it. -/
theorem resume_feed (fields : List String) (rest : List Char) :
    resume limit { state := .eatCrnl, field := [], fields := fields } (splitLines ('\n' :: rest)) =
      (read limit rest).map (fields :: ·) := by
  rw [resume_newline]
  show finish limit { state := .startRecord, field := [], fields := fields } (splitLines rest) = _
  rw [finish, if_pos rfl, read]
  cases records limit fresh (splitLines rest) <;> rfl

/-- The fields of a row are read back, up to the first one that is too long. -/
theorem resume_fieldsText {fields : List (List Char)} (hne : fields ≠ []) {r : Reader}
    (hr : Expects r) (hlone : r.state = .startRecord → fields ≠ [[]]) (rest : List Char) :
    resume limit r (splitLines (fieldsText fields ++ '\r' :: '\n' :: rest)) =
      if ∀ s ∈ fields, s.length ≤ limit then
        (read limit rest).map ((r.fields ++ fields.map String.ofList) :: ·)
      else .error .fieldTooLarge := by
  induction fields generalizing r with
  | nil => exact absurd rfl hne
  | cons s fields ih =>
      cases fields with
      | nil =>
          rw [fieldsText, resume_fieldText hr]
          by_cases hlen : s.length ≤ limit
          · have hline : r.state = .startRecord → s ≠ [] := by
              intro hstate hnil
              exact hlone hstate (by rw [hnil])
            rw [if_pos hlen, if_pos (by simpa using hlen), resume_cons _ (by decide),
              step_return hr hline]
            exact resume_feed _ rest
          · rw [if_neg hlen, if_neg (by simpa using hlen)]
      | cons s' fields =>
          rw [fieldsText, List.append_assoc, List.cons_append, resume_fieldText hr]
          by_cases hlen : s.length ≤ limit
          · rw [if_pos hlen, resume_cons _ (by decide), step_comma hr]
            refine (ih (List.cons_ne_nil _ _)
              (r := { state := .startField, field := [], fields := r.fields ++ [String.ofList s] })
              ⟨.inr rfl, rfl⟩ (fun h => nomatch h)).trans ?_
            simp [hlen]
          · rw [if_neg hlen, if_neg (by simp [hlen])]

theorem expects_fresh : Expects fresh := ⟨.inl rfl, rfl⟩

/-- A row is read back, if none of its fields is too long. -/
theorem read_rowText (row : List String) (rest : List Char) :
    read limit (rowText row ++ rest) =
      if ∀ s ∈ row, s.length ≤ limit then (read limit rest).map (row :: ·)
      else .error .fieldTooLarge := by
  have hread : ∀ text, text ≠ [] → read limit text = resume limit fresh (splitLines text) :=
    fun text h => records_eq_resume fresh h
  rw [hread _ (by simp [rowText]), rowText, List.append_assoc]
  show resume limit fresh (splitLines (_ ++ '\r' :: '\n' :: rest)) = _
  split
  · -- a lone empty field is an empty quoted one
    rename_i hempty
    subst hempty
    have hopen : fresh.step limit (some '"') =
        .ok { state := .inQuotedField, field := [], fields := [] } := rfl
    rw [quoted, List.flatMap_nil, List.nil_append, List.cons_append, List.cons_append,
      List.nil_append, resume_cons _ (by decide), hopen]
    refine (resume_quoted [] (r := { state := .inQuotedField, field := [], fields := [] })
      rfl (Nat.zero_le limit) ('\r' :: '\n' :: rest)).trans ?_
    rw [if_pos (by simp), if_pos (by simp), resume_cons _ (by decide)]
    exact resume_feed [""] rest
  · rename_i hempty
    by_cases hnil : row = []
    · subst hnil
      rw [List.map_nil, fieldsText, List.nil_append, resume_cons _ (by decide), if_pos (by simp)]
      exact resume_feed [] rest
    · have hlone : fresh.state = .startRecord → row.map String.toList ≠ [[]] := by
        intro _ hone
        rcases List.map_eq_singleton_iff.mp hone with ⟨s, rfl, hs⟩
        exact hempty (by rw [String.toList_eq_nil_iff.mp hs])
      rw [resume_fieldsText (by simpa using hnil) expects_fresh hlone, List.map_map]
      simp only [List.forall_mem_map, String.length_toList, fresh, List.nil_append,
        Function.comp_def, String.ofList_toList, List.map_id']

/-! ## The round trip -/

/-- What a writer wrote is read back, if no field is too long; otherwise the reader raises. -/
theorem read_write (rows : List (List String)) :
    read limit (write rows) =
      if ∀ row ∈ rows, ∀ s ∈ row, s.length ≤ limit then .ok rows
      else .error .fieldTooLarge := by
  induction rows with
  | nil => rfl
  | cons row rows ih =>
      have hwrite : write (row :: rows) = rowText row ++ write rows := rfl
      rw [hwrite, read_rowText, ih]
      by_cases hrow : ∀ s ∈ row, s.length ≤ limit
      · by_cases hrows : ∀ row ∈ rows, ∀ s ∈ row, s.length ≤ limit
        · rw [if_pos hrow, if_pos hrows, if_pos (List.forall_mem_cons.mpr ⟨hrow, hrows⟩)]
          rfl
        · rw [if_pos hrow, if_neg hrows,
            if_neg fun h => hrows (List.forall_mem_cons.mp h).2]
          rfl
      · rw [if_neg hrow, if_neg fun h => hrow (List.forall_mem_cons.mp h).1]

/-- A limit that no field of some rows exceeds. -/
theorem exists_limit (rows : List (List String)) :
    ∃ limit, ∀ row ∈ rows, ∀ s ∈ row, s.length ≤ limit := by
  refine ⟨(rows.flatten.map String.length).sum, ?_⟩
  intro row hrow s hs
  have hmem : s.length ∈ rows.flatten.map String.length :=
    List.mem_map_of_mem (List.mem_flatten.mpr ⟨row, hrow, hs⟩)
  exact List.single_le_sum (fun _ _ => Nat.zero_le _) _ hmem

/-- Different rows are written differently. -/
theorem write_injective : Function.Injective write := by
  intro rows rows' h
  rcases exists_limit (rows ++ rows') with ⟨limit, hlimit⟩
  rw [List.forall_mem_append] at hlimit
  have hread := congrArg (read limit) h
  rw [read_write, read_write, if_pos hlimit.1, if_pos hlimit.2] at hread
  exact Except.ok.inj hread

end Intraday.Lib.Csv
