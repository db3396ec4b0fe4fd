import Intraday.Lib.Json

/-!
# Intraday.Lib.JsonIndent — `json.dumps` with an indent

With an indent every item and every member stands on a line of its own, indented by
its depth, and the closing bracket on another. The reader skips this whitespace, so
what was written is read back here too (`loads_dumpsIndent`).
-/

namespace Intraday.Lib.Json

/-- A new line at a depth. -/
def newline (indent depth : ℕ) : List Char := '\n' :: List.replicate (indent * depth) ' '

mutual

/-- The text of a value whose line is indented to `depth`. -/
def textIndent (indent depth : ℕ) : Json → List Char
  | .arr (v :: items) =>
      '[' :: (newline indent (depth + 1) ++ (itemsIndent indent (depth + 1) (v :: items) ++
        (newline indent depth ++ [']'])))
  | .obj (m :: members) =>
      '{' :: (newline indent (depth + 1) ++ (membersIndent indent (depth + 1) (m :: members) ++
        (newline indent depth ++ ['}'])))
  | v => v.text

/-- The items of an array, each on a line of its own. -/
def itemsIndent (indent depth : ℕ) : List Json → List Char
  | [] => []
  | [v] => textIndent indent depth v
  | v :: v' :: rest =>
      textIndent indent depth v ++
        ',' :: (newline indent depth ++ itemsIndent indent depth (v' :: rest))

/-- The members of an object, each on a line of its own. -/
def membersIndent (indent depth : ℕ) : List (String × Json) → List Char
  | [] => []
  | [(key, v)] => stringText key ++ ':' :: ' ' :: textIndent indent depth v
  | (key, v) :: m :: rest =>
      stringText key ++ ':' :: ' ' :: (textIndent indent depth v ++
        ',' :: (newline indent depth ++ membersIndent indent depth (m :: rest)))

end

/-- `json.dumps(value, indent=indent)`. -/
def dumpsIndent (indent : ℕ) (v : Json) : String := String.ofList (textIndent indent 0 v)

/-! ## The round trip -/

theorem skipSpace_newline (indent depth : ℕ) (cs : List Char) :
    skipSpace (newline indent depth ++ cs) = skipSpace cs := by
  have hblanks : ∀ n, skipSpace (List.replicate n ' ' ++ cs) = skipSpace cs := by
    intro n
    induction n with
    | zero => rfl
    | succ n ih => exact ih
  exact hblanks _

theorem stops_newline (indent depth : ℕ) (cs : List Char) : Stops (newline indent depth ++ cs) :=
  stops_cons (by simp) _

/-- An indented text begins as the text in one line does. -/
theorem exists_textIndent_eq_cons (indent depth : ℕ) (v : Json) :
    ∃ c cs, textIndent indent depth v = c :: cs ∧ isSpace c = false ∧ c ≠ ']' := by
  match v with
  | .arr (v :: items) => exact ⟨_, _, by rw [textIndent], rfl, by decide⟩
  | .obj (m :: members) => exact ⟨_, _, by rw [textIndent], rfl, by decide⟩
  | .arr [] | .obj [] => exact ⟨_, _, by rw [textIndent.eq_def]; rfl, rfl, by decide⟩
  | .null | .bool _ | .int _ | .float _ | .str _ =>
      rw [textIndent.eq_def]
      exact exists_text_eq_cons _

theorem textIndent_length_pos (indent depth : ℕ) (v : Json) :
    0 < (textIndent indent depth v).length := by
  rcases exists_textIndent_eq_cons indent depth v with ⟨c, cs, h, -⟩
  simp [h]

theorem skipSpace_textIndent (indent depth : ℕ) (v : Json) (rest : List Char) :
    skipSpace (textIndent indent depth v ++ rest) = textIndent indent depth v ++ rest := by
  rcases exists_textIndent_eq_cons indent depth v with ⟨c, cs, h, hspace, -⟩
  rw [h, List.cons_append, skipSpace_cons hspace]

/-- The items begin with the first of them, which is no closing bracket. -/
theorem skipSpace_itemsIndent (indent depth : ℕ) (v : Json) (items : List Json)
    (rest : List Char) :
    skipSpace (itemsIndent indent depth (v :: items) ++ rest) =
        itemsIndent indent depth (v :: items) ++ rest ∧
      (itemsIndent indent depth (v :: items) ++ rest).head? ≠ some ']' := by
  have htail : ∃ tail, itemsIndent indent depth (v :: items) =
      textIndent indent depth v ++ tail := by
    cases items with
    | nil => exact ⟨[], by simp [itemsIndent]⟩
    | cons v' items => exact ⟨_, by rw [itemsIndent]⟩
  rcases htail with ⟨tail, htail⟩
  rcases exists_textIndent_eq_cons indent depth v with ⟨c, cs, htext, hspace, hbracket⟩
  rw [htail, htext]
  refine ⟨skipSpace_cons hspace _, ?_⟩
  simpa using hbracket

/-- The members begin with the quote of the first key. -/
theorem skipSpace_membersIndent (indent depth : ℕ) (m : String × Json)
    (members : List (String × Json)) (rest : List Char) :
    skipSpace (membersIndent indent depth (m :: members) ++ rest) =
        membersIndent indent depth (m :: members) ++ rest ∧
      (membersIndent indent depth (m :: members) ++ rest).head? ≠ some '}' := by
  have htail : ∃ tail, membersIndent indent depth (m :: members) = '"' :: tail := by
    rcases m with ⟨key, v⟩
    cases members with
    | nil => exact ⟨_, by rw [membersIndent, stringText, List.cons_append]⟩
    | cons m' members => exact ⟨_, by rw [membersIndent, stringText, List.cons_append]⟩
  rcases htail with ⟨tail, htail⟩
  rw [htail]
  exact ⟨skipSpace_cons rfl _, by simp⟩

/-- The closing bracket is on a line of its own. -/
theorem skipSpace_close {c : Char} (h : isSpace c = false) (indent depth : ℕ)
    (rest : List Char) : skipSpace (newline indent depth ++ c :: rest) = c :: rest := by
  rw [skipSpace_newline, skipSpace_cons h]

mutual

/-- A value is read back from its indented text. -/
theorem scanValue_textIndent (indent depth : ℕ) (v : Json) (fuel : ℕ) (rest : List Char)
    (hfuel : (textIndent indent depth v).length ≤ fuel) (hrest : Stops rest) :
    scanValue fuel (textIndent indent depth v ++ rest) = some (v, rest) := by
  have hpos := textIndent_length_pos indent depth v
  cases fuel with
  | zero => omega
  | succ fuel =>
      match v with
      | .null | .bool _ | .int _ | .float _ | .str _ | .arr [] | .obj [] =>
          rw [textIndent.eq_def] at hfuel ⊢
          exact scanValue_text _ (fuel + 1) rest hfuel hrest
      | .arr (v :: items) =>
          rw [textIndent] at hfuel ⊢
          simp only [List.length_cons, List.length_append, List.length_nil] at hfuel
          rcases skipSpace_itemsIndent indent (depth + 1) v items
            (newline indent depth ++ ']' :: rest) with ⟨hspace, hhead⟩
          have hitems := scanItems_textIndent indent (depth + 1) (v :: items) (by simp) fuel
            depth rest (by omega)
          simp only [List.cons_append, List.append_assoc, List.nil_append]
          rw [scanValue_bracket (by rw [skipSpace_newline, hspace]) hhead, hitems]
          rfl
      | .obj (m :: members) =>
          rw [textIndent] at hfuel ⊢
          simp only [List.length_cons, List.length_append, List.length_nil] at hfuel
          rcases skipSpace_membersIndent indent (depth + 1) m members
            (newline indent depth ++ '}' :: rest) with ⟨hspace, hhead⟩
          have hmembers := scanMembers_textIndent indent (depth + 1) (m :: members) (by simp) fuel
            depth rest (by omega)
          simp only [List.cons_append, List.append_assoc, List.nil_append]
          rw [scanValue_brace (by rw [skipSpace_newline, hspace]) hhead, hmembers]
          rfl

/-- The items of an array are read back, up to the bracket on the next line. -/
theorem scanItems_textIndent (indent depth : ℕ) (items : List Json) (hne : items ≠ [])
    (fuel outer : ℕ) (rest : List Char)
    (hfuel : (itemsIndent indent depth items).length < fuel) :
    scanItems fuel (itemsIndent indent depth items ++ (newline indent outer ++ ']' :: rest)) =
      some (items, rest) := by
  cases fuel with
  | zero => omega
  | succ fuel =>
      match items with
      | [] => exact absurd rfl hne
      | [v] =>
          rw [itemsIndent] at hfuel ⊢
          have hv := scanValue_textIndent indent depth v fuel
            (newline indent outer ++ ']' :: rest) (by omega) (stops_newline _ _ _)
          exact scanItems_last hv (skipSpace_close rfl _ _ _)
      | v :: v' :: items =>
          rw [itemsIndent] at hfuel ⊢
          simp only [List.length_append, List.length_cons] at hfuel
          have hv := scanValue_textIndent indent depth v fuel
            (',' :: (newline indent depth ++ (itemsIndent indent depth (v' :: items) ++
              (newline indent outer ++ ']' :: rest)))) (by omega) (stops_cons (by simp) _)
          have hitems := scanItems_textIndent indent depth (v' :: items) (by simp) fuel outer
            rest (by omega)
          have hspace := (skipSpace_itemsIndent indent depth v' items
            (newline indent outer ++ ']' :: rest)).1
          rw [← skipSpace_newline indent depth] at hspace
          simp only [List.append_assoc, List.cons_append]
          rw [scanItems_comma hv hspace, hitems]
          rfl

/-- The members of an object are read back, up to the brace on the next line. -/
theorem scanMembers_textIndent (indent depth : ℕ) (members : List (String × Json))
    (hne : members ≠ []) (fuel outer : ℕ) (rest : List Char)
    (hfuel : (membersIndent indent depth members).length < fuel) :
    scanMembers fuel
        (membersIndent indent depth members ++ (newline indent outer ++ '}' :: rest)) =
      some (members, rest) := by
  cases fuel with
  | zero => omega
  | succ fuel =>
      match members with
      | [] => exact absurd rfl hne
      | [(key, v)] =>
          rw [membersIndent] at hfuel ⊢
          simp only [List.length_append, List.length_cons] at hfuel
          have hv := scanValue_textIndent indent depth v fuel
            (newline indent outer ++ '}' :: rest) (by omega) (stops_newline _ _ _)
          simp only [List.append_assoc, List.cons_append]
          exact scanMembers_last (by omega) (skipSpace_textIndent _ _ _ _) hv
            (skipSpace_close rfl _ _ _)
      | (key, v) :: m :: members =>
          rw [membersIndent] at hfuel ⊢
          simp only [List.length_append, List.length_cons] at hfuel
          have hv := scanValue_textIndent indent depth v fuel
            (',' :: (newline indent depth ++ (membersIndent indent depth (m :: members) ++
              (newline indent outer ++ '}' :: rest)))) (by omega) (stops_cons (by simp) _)
          have hmembers := scanMembers_textIndent indent depth (m :: members) (by simp) fuel
            outer rest (by omega)
          have hspace := (skipSpace_membersIndent indent depth m members
            (newline indent outer ++ '}' :: rest)).1
          rw [← skipSpace_newline indent depth] at hspace
          simp only [List.append_assoc, List.cons_append]
          rw [scanMembers_comma (by omega) (skipSpace_textIndent _ _ _ _) hv hspace, hmembers]
          rfl

end

/-- What was written with an indent is read back. -/
theorem loads_dumpsIndent (indent : ℕ) (v : Json) : loads (dumpsIndent indent v) = some v := by
  have hskip := skipSpace_textIndent indent 0 v []
  have hscan := scanValue_textIndent indent 0 v (textIndent indent 0 v).length []
    (Nat.le_refl _) stops_nil
  rw [List.append_nil] at hskip hscan
  rw [loads, dumpsIndent, String.toList_ofList, hskip, hscan]
  rfl

end Intraday.Lib.Json
