import Mathlib.Data.List.TakeWhile
import Mathlib.Data.List.Basic

/-!
# Intraday.Lib.Html — texts in HTML documents

`escape` is `html.escape`. A document is a content: texts and elements in turn, each element
with a tag and a content of its own, so that no two texts are neighbours. A text has no `<` and a
tag no `>`, which is what keeps them apart, and is part of their types.

`parse_print` is the round trip: a content is read back from its characters, so what is printed is
balanced, and an escaped text adds no tag, whatever it says. `unescape_escape` gives the text back.
-/

namespace Intraday.Lib.Html

/-! ## Escaping -/

/-- `html.escape`, of one character. -/
def escapeChar (c : Char) : List Char :=
  if c = '&' then ['&', 'a', 'm', 'p', ';']
  else if c = '<' then ['&', 'l', 't', ';']
  else if c = '>' then ['&', 'g', 't', ';']
  else if c = '"' then ['&', 'q', 'u', 'o', 't', ';']
  else if c = '\'' then ['&', '#', 'x', '2', '7', ';']
  else [c]

/-- `html.escape`. -/
def escape (s : List Char) : List Char := s.flatMap escapeChar

/-- The character references that are read, without their ampersand. -/
def references : List (List Char × Char) :=
  [(['a', 'm', 'p', ';'], '&'), (['l', 't', ';'], '<'), (['g', 't', ';'], '>'),
    (['q', 'u', 'o', 't', ';'], '"'), (['#', 'x', '2', '7', ';'], '\''),
    (['m', 'd', 'a', 's', 'h', ';'], '—')]

/-- The reference that starts after an ampersand: its character, and its length. -/
def reference? (cs : List Char) : Option (Char × ℕ) :=
  references.findSome? fun r => if r.1.isPrefixOf cs then some (r.2, r.1.length) else none

/-- The text that is shown, after so many characters; an ampersand of no reference stands for
itself. -/
def unescapeAfter : ℕ → List Char → List Char
  | _, [] => []
  | n + 1, _ :: cs => unescapeAfter n cs
  | 0, c :: cs =>
      if c = '&' then
        match reference? cs with
        | some (shown, n) => shown :: unescapeAfter n cs
        | none => c :: unescapeAfter 0 cs
      else c :: unescapeAfter 0 cs

/-- The text that is shown. -/
def unescape (s : List Char) : List Char := unescapeAfter 0 s

theorem unescape_cons_of_ne {c : Char} (h : c ≠ '&') (rest : List Char) :
    unescape (c :: rest) = c :: unescape rest := by
  rw [unescape, unescapeAfter, if_neg h]
  rfl

theorem unescape_escapeChar (c : Char) (rest : List Char) :
    unescape (escapeChar c ++ rest) = c :: unescape rest := by
  rw [escapeChar]
  split_ifs with hamp hlt hgt hquot hapos
  · rw [hamp]
    rfl
  · rw [hlt]
    rfl
  · rw [hgt]
    rfl
  · rw [hquot]
    rfl
  · rw [hapos]
    rfl
  · exact unescape_cons_of_ne hamp rest

/-- An escaped text is shown as it was, whatever follows. -/
theorem unescape_escape_append (s rest : List Char) :
    unescape (escape s ++ rest) = s ++ unescape rest := by
  induction s with
  | nil => rfl
  | cons c s ih =>
      rw [escape, List.flatMap_cons, List.append_assoc, unescape_escapeChar]
      exact congrArg (c :: ·) ih

@[simp] theorem unescape_escape (s : List Char) : unescape (escape s) = s := by
  have h := unescape_escape_append s []
  rw [List.append_nil] at h
  exact h.trans (List.append_nil s)

/-- A text without an ampersand is shown as it is. -/
theorem unescape_plain {s : List Char} (h : '&' ∉ s) (rest : List Char) :
    unescape (s ++ rest) = s ++ unescape rest := by
  induction s with
  | nil => rfl
  | cons c s ih =>
      rw [List.mem_cons, not_or] at h
      rw [List.cons_append, unescape_cons_of_ne (Ne.symm h.1), ih h.2]
      rfl

theorem lt_notMem_escape (s : List Char) : '<' ∉ escape s := by
  intro hmem
  rcases List.mem_flatMap.mp hmem with ⟨c, -, hc⟩
  rw [escapeChar] at hc
  split_ifs at hc with hamp hlt
  all_goals simp at hc
  exact hlt hc.symm

/-! ## Documents -/

/-- A text between tags: it has no `<`. -/
structure Text where
  chars : List Char
  noTag : '<' ∉ chars
deriving DecidableEq

/-- No text. -/
def Text.none : Text := { chars := [], noTag := List.not_mem_nil }

/-- Any characters, escaped. -/
def Text.escaped (s : List Char) : Text := { chars := escape s, noTag := lt_notMem_escape s }

/-- One text after another. -/
def Text.append (a b : Text) : Text where
  chars := a.chars ++ b.chars
  noTag := by
    rw [List.mem_append, not_or]
    exact ⟨a.noTag, b.noTag⟩

/-- A tag: its name, and what follows the name. -/
structure Tag where
  name : List Char
  rest : List Char
  named : name.head?.any Char.isAlpha = true
  space : ' ' ∉ name
  attributes : rest.head?.all (· == ' ') = true
  noEnd : '>' ∉ name ++ rest
deriving DecidableEq

mutual

/-- An element. -/
inductive Element where
  | mk (tag : Tag) (content : Content)

/-- A content: a text, and then elements with a text after each. -/
inductive Content where
  | last (text : Text)
  | cons (text : Text) (element : Element) (rest : Content)

end

/-- A tag, as it stands in the document. -/
inductive Mark where
  | opens (tag : Tag)
  | closes (name : List Char)

/-- The characters between `<` and `>`. -/
def Mark.inside : Mark → List Char
  | .opens tag => tag.name ++ tag.rest
  | .closes name => '/' :: name

mutual

/-- The marks of an element after a text, each with the text before it. -/
def Element.marks (before : Text) : Element → List (Text × Mark)
  | .mk tag content =>
      (before, .opens tag) ::
        (content.marks.1 ++ [(content.marks.2, .closes tag.name)])

/-- The marks of a content, and the text after the last. -/
def Content.marks : Content → List (Text × Mark) × Text
  | .last text => ([], text)
  | .cons text element rest => (element.marks text ++ rest.marks.1, rest.marks.2)

end

/-- The characters of a mark and the text before it. -/
def printMark (m : Text × Mark) : List Char := m.1.chars ++ '<' :: (m.2.inside ++ ['>'])

/-- The characters of a content. -/
def Content.print (c : Content) : List Char := c.marks.1.flatMap printMark ++ c.marks.2.chars

/-- A content of elements only. -/
def Content.ofElements : List Element → Content
  | [] => .last .none
  | e :: es => .cons .none e (ofElements es)

/-- The characters of an element. -/
def Element.print : Element → List Char
  | .mk tag content =>
      '<' :: (tag.name ++ (tag.rest ++ '>' ::
        (content.print ++ '<' :: '/' :: (tag.name ++ ['>']))))

@[simp] theorem Content.print_last (text : Text) : (Content.last text).print = text.chars := rfl

theorem Element.flatMap_marks (before : Text) (e : Element) :
    (e.marks before).flatMap printMark = before.chars ++ e.print := by
  cases e with
  | mk tag content => simp [Element.marks, Element.print, printMark, Mark.inside, Content.print]

@[simp] theorem Content.print_cons (text : Text) (e : Element) (rest : Content) :
    (Content.cons text e rest).print = text.chars ++ (e.print ++ rest.print) := by
  simp [Content.print, Content.marks, Element.flatMap_marks]

@[simp] theorem Content.print_ofElements (es : List Element) :
    (Content.ofElements es).print = es.flatMap Element.print := by
  induction es with
  | nil => rfl
  | cons e es ih =>
      rw [Content.ofElements, Content.print_cons, ih]
      rfl

/-! ## Reading -/

/-- The text of these characters. -/
def readText (chars : List Char) : Option Text :=
  if h : '<' ∉ chars then some { chars := chars, noTag := h } else none

/-- The tag of this name and rest. -/
def tagOf (name rest : List Char) : Option Tag :=
  if h : name.head?.any Char.isAlpha = true ∧ ' ' ∉ name ∧
      rest.head?.all (· == ' ') = true ∧ '>' ∉ name ++ rest then
    some
      { name := name, rest := rest, named := h.1, space := h.2.1, attributes := h.2.2.1
        noEnd := h.2.2.2 }
  else none

/-- The mark of what stands between `<` and `>`: a name goes up to the first blank. -/
def readMark : List Char → Option Mark
  | '/' :: name => some (.closes name)
  | inside =>
      (tagOf (inside.takeWhile (· ≠ ' ')) (inside.dropWhile (· ≠ ' '))).map .opens

/-- The marks of a document, each with the text before it, and the last text. The second argument
is the text before the mark that is being read, if one is; the third has the characters of what is
being read, the last first. -/
def scan : List Char → Option Text → List Char → Option (List (Text × Mark) × Text)
  | [], none, acc => (readText acc.reverse).map fun text => ([], text)
  | [], some _, _ => none
  | c :: cs, none, acc =>
      if c = '<' then (readText acc.reverse).bind fun text => scan cs (some text) []
      else scan cs none (c :: acc)
  | c :: cs, some before, acc =>
      if c = '>' then
        (readMark acc.reverse).bind fun mark =>
          (scan cs none []).map fun r => ((before, mark) :: r.1, r.2)
      else scan cs (some before) (c :: acc)

/-- An element that is open: the text before it, its tag, and its content so far, the last first. -/
structure Frame where
  before : Text
  tag : Tag
  parts : List (Text × Element)

/-- The content of some parts, the last first, before a rest. -/
def contentOf : List (Text × Element) → Content → Content
  | [], rest => rest
  | part :: parts, rest => contentOf parts (.cons part.1 part.2 rest)

/-- The content so far, and the elements that are open, the innermost first. -/
structure Builder where
  parts : List (Text × Element)
  stack : List Frame

/-- One mark more: a closing tag closes the innermost element, which is of its name. -/
def Builder.add (b : Builder) (m : Text × Mark) : Option Builder :=
  match m.2 with
  | .opens tag =>
      some { parts := [], stack := { before := m.1, tag := tag, parts := b.parts } :: b.stack }
  | .closes name =>
      match b.stack with
      | [] => none
      | frame :: stack =>
          if frame.tag.name = name then
            some
              { parts := (frame.before, .mk frame.tag (contentOf b.parts (.last m.1))) ::
                  frame.parts
                stack := stack }
          else none

/-- The content of a document: every element is closed, and in the right order. -/
def parse (chars : List Char) : Option Content := do
  let (marks, text) ← scan chars none []
  let built ← marks.foldlM Builder.add { parts := [], stack := [] }
  if built.stack.isEmpty then some (contentOf built.parts (.last text)) else none

/-! ## What is printed is read back -/

/-- A tag is read from its name and what follows it. -/
theorem readMark_opens (tag : Tag) : readMark (tag.name ++ tag.rest) = some (.opens tag) := by
  have hname : (tag.name ++ tag.rest).takeWhile (· ≠ ' ') = tag.name ∧
      (tag.name ++ tag.rest).dropWhile (· ≠ ' ') = tag.rest := by
    have hall : ∀ c ∈ tag.name, decide (c ≠ ' ') = true := by
      intro c hc
      exact decide_eq_true fun heq => tag.space (heq ▸ hc)
    rw [List.takeWhile_append_of_pos hall, List.dropWhile_append_of_pos hall]
    have hrest := tag.attributes
    cases hcases : tag.rest with
    | nil => simp
    | cons c rest =>
        rw [hcases] at hrest
        have hspace : c = ' ' := by simpa using hrest
        simp [hspace]
  have hslash : ∀ name, tag.name ++ tag.rest ≠ '/' :: name := by
    intro name h
    have hhead := tag.named
    cases hcases : tag.name with
    | nil =>
        rw [hcases] at hhead
        cases hhead
    | cons c cs =>
        rw [hcases] at hhead h
        rw [(List.cons.inj h).1] at hhead
        have hslash : Char.isAlpha '/' = true := hhead
        exact absurd hslash (by decide)
  unfold readMark
  split
  · rename_i name heq
    exact absurd heq (hslash name)
  · rw [hname.1, hname.2, tagOf, dif_pos ⟨tag.named, tag.space, tag.attributes, tag.noEnd⟩]
    rfl

theorem scan_text {s : List Char} (h : '<' ∉ s) (rest acc : List Char) :
    scan (s ++ rest) none acc = scan rest none (s.reverse ++ acc) := by
  induction s generalizing acc with
  | nil => rfl
  | cons c s ih =>
      rw [List.mem_cons, not_or] at h
      rw [List.cons_append, scan, if_neg (Ne.symm h.1), ih h.2, List.reverse_cons,
        List.append_assoc]
      rfl

theorem scan_inside {s : List Char} (h : '>' ∉ s) (before : Text) (rest acc : List Char) :
    scan (s ++ '>' :: rest) (some before) acc =
      (readMark (acc.reverse ++ s)).bind fun mark =>
        (scan rest none []).map fun r => ((before, mark) :: r.1, r.2) := by
  induction s generalizing acc with
  | nil => rw [List.nil_append, scan, if_pos rfl, List.append_nil]
  | cons c s ih =>
      rw [List.mem_cons, not_or] at h
      rw [List.cons_append, scan, if_neg (Ne.symm h.1), ih h.2, List.reverse_cons,
        List.append_assoc]
      rfl

theorem readText_chars (text : Text) : readText text.chars = some text := by
  rw [readText, dif_pos text.noTag]

/-- A mark that is read as itself is the first one of what is scanned. -/
theorem scan_mark {m : Text × Mark} (hend : '>' ∉ m.2.inside)
    (hread : readMark m.2.inside = some m.2) (rest : List Char) :
    scan (printMark m ++ rest) none [] =
      (scan rest none []).map fun r => (m :: r.1, r.2) := by
  rw [printMark, List.append_assoc, scan_text m.1.noTag, List.append_nil, List.cons_append,
    List.append_assoc, scan, if_pos rfl, List.reverse_reverse, readText_chars]
  show scan (m.2.inside ++ '>' :: rest) (some m.1) [] = _
  rw [scan_inside hend, List.reverse_nil, List.nil_append, hread]
  rfl

theorem scan_opens (before : Text) (tag : Tag) (rest : List Char) :
    scan (printMark (before, .opens tag) ++ rest) none [] =
      (scan rest none []).map fun r => ((before, .opens tag) :: r.1, r.2) :=
  @scan_mark (before, .opens tag) tag.noEnd (readMark_opens tag) rest

theorem scan_closes (before : Text) (tag : Tag) (rest : List Char) :
    scan (printMark (before, .closes tag.name) ++ rest) none [] =
      (scan rest none []).map fun r => ((before, .closes tag.name) :: r.1, r.2) := by
  refine @scan_mark (before, .closes tag.name) ?_ rfl rest
  show '>' ∉ '/' :: tag.name
  rw [List.mem_cons, not_or]
  refine ⟨by decide, ?_⟩
  intro hmem
  exact tag.noEnd (List.mem_append_left _ hmem)

mutual

theorem scan_element (before : Text) (e : Element) (rest : List Char) :
    scan ((e.marks before).flatMap printMark ++ rest) none [] =
      (scan rest none []).map fun r => (e.marks before ++ r.1, r.2) := by
  cases e with
  | mk tag content =>
      rw [Element.marks, List.flatMap_cons, List.flatMap_append, List.flatMap_singleton,
        List.append_assoc, List.append_assoc, scan_opens, scan_content content, scan_closes,
        Option.map_map, Option.map_map]
      congr 1
      funext r
      simp

theorem scan_content (c : Content) (rest : List Char) :
    scan (c.marks.1.flatMap printMark ++ rest) none [] =
      (scan rest none []).map fun r => (c.marks.1 ++ r.1, r.2) := by
  cases c with
  | last text => simp [Content.marks]
  | cons text e more =>
      rw [Content.marks, List.flatMap_append, List.append_assoc, scan_element text e,
        scan_content more, Option.map_map]
      congr 1
      funext r
      simp

end

mutual

/-- The marks of an element add that element. -/
theorem foldlM_element (before : Text) (e : Element) (b : Builder) :
    (e.marks before).foldlM Builder.add b = some { b with parts := (before, e) :: b.parts } := by
  cases e with
  | mk tag content =>
      rcases foldlM_content content
        { parts := [], stack := { before := before, tag := tag, parts := b.parts } :: b.stack } with
        ⟨parts, hfold, hparts⟩
      rw [Element.marks, List.foldlM_cons]
      show (content.marks.1 ++ _).foldlM Builder.add _ = _
      rw [List.foldlM_append, hfold]
      simp [Builder.add, hparts, contentOf]

/-- The marks of a content add its elements. -/
theorem foldlM_content (c : Content) (b : Builder) :
    ∃ parts, c.marks.1.foldlM Builder.add b = some { b with parts := parts } ∧
      contentOf parts (.last c.marks.2) = contentOf b.parts c := by
  cases c with
  | last text => exact ⟨b.parts, rfl, rfl⟩
  | cons text e more =>
      rcases foldlM_content more { b with parts := (text, e) :: b.parts } with
        ⟨parts, hfold, hparts⟩
      refine ⟨parts, ?_, hparts⟩
      rw [Content.marks, List.foldlM_append, foldlM_element text e]
      exact hfold

end

/-- A content is read back from its characters. -/
theorem parse_print (c : Content) : parse c.print = some c := by
  have hlast : scan c.marks.2.chars none [] = some ([], c.marks.2) := by
    have htext := scan_text c.marks.2.noTag [] []
    rw [List.append_nil] at htext
    rw [htext, scan, List.append_nil, List.reverse_reverse, readText_chars]
    rfl
  rcases foldlM_content c { parts := [], stack := [] } with ⟨parts, hfold, hparts⟩
  rw [parse, Content.print, scan_content, hlast]
  show (((c.marks.1 ++ []).foldlM Builder.add _) >>= _) = _
  rw [List.append_nil, hfold]
  exact congrArg some hparts

/-! ## What a reader sees -/

mutual

/-- The text of an element. -/
def Element.shown : Element → List Char
  | .mk _ content => content.shown

/-- The text of a content, without its tags. -/
def Content.shown : Content → List Char
  | .last text => unescape text.chars
  | .cons text element rest => unescape text.chars ++ (element.shown ++ rest.shown)

end

/-- The elements of a content. -/
def Content.elements : Content → List Element
  | .last _ => []
  | .cons _ element rest => element :: rest.elements

/-- The texts of the cells of a row. -/
def Element.cells : Element → List String
  | .mk _ content => content.elements.map fun cell => String.ofList cell.shown

mutual

/-- The tables of an element. -/
def Element.tables : Element → List (List (List String))
  | .mk tag content =>
      if tag.name = ['t', 'a', 'b', 'l', 'e'] then [content.elements.map Element.cells]
      else content.tables

/-- The tables of a content, in their order. -/
def Content.tables : Content → List (List (List String))
  | .last _ => []
  | .cons _ element rest => element.tables ++ rest.tables

end

@[simp] theorem Content.elements_ofElements (es : List Element) :
    (Content.ofElements es).elements = es := by
  induction es with
  | nil => rfl
  | cons e es ih => exact congrArg (e :: ·) ih

@[simp] theorem Content.tables_ofElements (es : List Element) :
    (Content.ofElements es).tables = es.flatMap Element.tables := by
  induction es with
  | nil => rfl
  | cons e es ih => exact congrArg (e.tables ++ ·) ih

end Intraday.Lib.Html
