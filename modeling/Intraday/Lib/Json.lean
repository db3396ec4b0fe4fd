import Intraday.Lib.PyFloat
import Intraday.Lib.Python

/-!
# Intraday.Lib.Json — `json.dumps` and `json.loads`

JSON values and their texts as Python's `json` module writes and reads them with its default
arguments. An object is the list of its members in the order of the text; `Json.getItem` looks a
key up as in the dictionary made of them, where the last member of a key counts. Strings are
written in ASCII, with `\uXXXX` for everything else and two of them for a character beyond the
basic plane.

`loads_dumps` is the round trip: what was written is read back, whatever the value.

A string is a list of characters, so the reader refuses a lone surrogate. The depth of a
text is not limited.
-/

namespace Intraday.Lib

/-- A JSON value. -/
inductive Json where
  | null
  | bool (b : Bool)
  | int (i : ℤ)
  | float (x : PyFloat)
  | str (s : String)
  | arr (items : List Json)
  | obj (members : List (String × Json))

namespace Json

/-! ## Strings -/

/-- Four hexadecimal digits, in lower case. -/
def hex4 (n : ℕ) : List Char :=
  [(n / 4096 % 16).digitChar, (n / 256 % 16).digitChar, (n / 16 % 16).digitChar,
    (n % 16).digitChar]

/-- `\uXXXX`. -/
def unicodeEscape (n : ℕ) : List Char := '\\' :: 'u' :: hex4 n

/-- A character as `ensure_ascii` writes it. -/
def escapeChar (c : Char) : List Char :=
  if c = '"' then ['\\', '"']
  else if c = '\\' then ['\\', '\\']
  else if c = '\n' then ['\\', 'n']
  else if c = '\r' then ['\\', 'r']
  else if c = '\t' then ['\\', 't']
  else if c = '\x0c' then ['\\', 'f']
  else if c = '\x08' then ['\\', 'b']
  else if ' ' ≤ c ∧ c ≤ '~' then [c]
  else if c.toNat < 0x10000 then unicodeEscape c.toNat
  else
    -- a surrogate pair
    unicodeEscape (0xd800 + (c.toNat - 0x10000) / 0x400) ++
      unicodeEscape (0xdc00 + (c.toNat - 0x10000) % 0x400)

/-- A string with its quotes. -/
def stringText (s : String) : List Char := '"' :: (s.toList.flatMap escapeChar ++ ['"'])

/-- The value of a hexadecimal digit. -/
def hexValue (c : Char) : Option ℕ :=
  if '0' ≤ c ∧ c ≤ '9' then some (c.toNat - '0'.toNat)
  else if 'a' ≤ c ∧ c ≤ 'f' then some (c.toNat - 'a'.toNat + 10)
  else if 'A' ≤ c ∧ c ≤ 'F' then some (c.toNat - 'A'.toNat + 10)
  else none

/-- Reads four hexadecimal digits. -/
def scanHex4 : List Char → Option (ℕ × List Char)
  | a :: b :: c :: d :: rest =>
      match hexValue a, hexValue b, hexValue c, hexValue d with
      | some a, some b, some c, some d => some (((a * 16 + b) * 16 + c) * 16 + d, rest)
      | _, _, _, _ => none
  | _ => none

/-- Reads the second half of a surrogate pair. -/
def scanLow (high : ℕ) : List Char → Option (Char × List Char)
  | '\\' :: 'u' :: rest =>
      match scanHex4 rest with
      | none => none
      | some (low, rest') =>
          if 0xdc00 ≤ low ∧ low ≤ 0xdfff then
            some (Char.ofNat (0x10000 + (high - 0xd800) * 0x400 + (low - 0xdc00)), rest')
          else none
  | _ => none

/-- Reads what follows `\u`: a character, or the first half of a surrogate pair and then the
second. -/
def scanUnicode (cs : List Char) : Option (Char × List Char) :=
  match scanHex4 cs with
  | none => none
  | some (n, rest) =>
      if 0xd800 ≤ n ∧ n ≤ 0xdbff then scanLow n rest
      else if 0xdc00 ≤ n ∧ n ≤ 0xdfff then none
      else some (Char.ofNat n, rest)

/-- Reads what follows a backslash. -/
def scanEscape : List Char → Option (Char × List Char)
  | '"' :: rest => some ('"', rest)
  | '\\' :: rest => some ('\\', rest)
  | '/' :: rest => some ('/', rest)
  | 'b' :: rest => some ('\x08', rest)
  | 'f' :: rest => some ('\x0c', rest)
  | 'n' :: rest => some ('\n', rest)
  | 'r' :: rest => some ('\r', rest)
  | 't' :: rest => some ('\t', rest)
  | 'u' :: rest => scanUnicode rest
  | _ => none

/-- Reads a string after its opening quote. A control character is an error. -/
def scanString : ℕ → List Char → Option (List Char × List Char)
  | 0, _ => none
  | _ + 1, [] => none
  | fuel + 1, c :: rest =>
      if c = '"' then some ([], rest)
      else if c = '\\' then
        match scanEscape rest with
        | none => none
        | some (x, rest') => (scanString fuel rest').map fun r => (x :: r.1, r.2)
      else if c.toNat < 0x20 then none
      else (scanString fuel rest).map fun r => (c :: r.1, r.2)

theorem hexValue_digitChar : ∀ n < 16, hexValue n.digitChar = some n := by decide

theorem scanHex4_hex4 {n : ℕ} (h : n < 0x10000) (rest : List Char) :
    scanHex4 (hex4 n ++ rest) = some (n, rest) := by
  have hvalue : ((n / 4096 % 16 * 16 + n / 256 % 16) * 16 + n / 16 % 16) * 16 + n % 16 = n := by
    omega
  simp only [hex4, List.cons_append, List.nil_append, scanHex4,
    hexValue_digitChar _ (Nat.mod_lt _ (show 0 < 16 by omega)), hvalue]

/-- A character is no surrogate. -/
theorem toNat_valid (c : Char) :
    c.toNat < 0xd800 ∨ 0xdfff < c.toNat ∧ c.toNat < 0x110000 := by
  have hvalid := c.valid
  rw [UInt32.isValidChar, Nat.isValidChar] at hvalid
  exact hvalid

theorem scanUnicode_hex4 {c : Char} (h : c.toNat < 0x10000) (rest : List Char) :
    scanUnicode (hex4 c.toNat ++ rest) = some (c, rest) := by
  have hvalid := toNat_valid c
  have hhigh : ¬ (0xd800 ≤ c.toNat ∧ c.toNat ≤ 0xdbff) := by omega
  have hlow : ¬ (0xdc00 ≤ c.toNat ∧ c.toNat ≤ 0xdfff) := by omega
  rw [scanUnicode, scanHex4_hex4 h]
  dsimp only
  rw [if_neg hhigh, if_neg hlow, Char.ofNat_toNat]

/-- A surrogate pair is put together again. -/
theorem scanUnicode_pair {high low : ℕ} (hhigh : 0xd800 ≤ high ∧ high ≤ 0xdbff)
    (hlow : 0xdc00 ≤ low ∧ low ≤ 0xdfff) (rest : List Char) :
    scanUnicode (hex4 high ++ (unicodeEscape low ++ rest)) =
      some (Char.ofNat (0x10000 + (high - 0xd800) * 0x400 + (low - 0xdc00)), rest) := by
  have hfirst : scanHex4 (hex4 high ++ (unicodeEscape low ++ rest)) =
      some (high, unicodeEscape low ++ rest) := scanHex4_hex4 (by omega) _
  have hsecond : scanHex4 (hex4 low ++ rest) = some (low, rest) := scanHex4_hex4 (by omega) rest
  rw [scanUnicode, hfirst]
  dsimp only
  rw [if_pos hhigh, unicodeEscape, List.cons_append, List.cons_append, scanLow, hsecond]
  dsimp only
  rw [if_pos hlow]

/-- The four ways of writing a character: a short escape, itself, one `\u` escape or two. -/
theorem escapeChar_cases (c : Char) :
    (∃ e, escapeChar c = ['\\', e] ∧ ∀ rest, scanEscape (e :: rest) = some (c, rest)) ∨
    (escapeChar c = [c] ∧ c ≠ '"' ∧ c ≠ '\\' ∧ ' ' ≤ c) ∨
    (escapeChar c = unicodeEscape c.toNat ∧ c.toNat < 0x10000) ∨
    (escapeChar c = unicodeEscape (0xd800 + (c.toNat - 0x10000) / 0x400) ++
      unicodeEscape (0xdc00 + (c.toNat - 0x10000) % 0x400) ∧ ¬ c.toNat < 0x10000) := by
  by_cases hquote : c = '"'
  · subst hquote
    exact .inl ⟨'"', rfl, fun _ => rfl⟩
  by_cases hback : c = '\\'
  · subst hback
    exact .inl ⟨'\\', rfl, fun _ => rfl⟩
  by_cases hn : c = '\n'
  · subst hn
    exact .inl ⟨'n', rfl, fun _ => rfl⟩
  by_cases hr : c = '\r'
  · subst hr
    exact .inl ⟨'r', rfl, fun _ => rfl⟩
  by_cases ht : c = '\t'
  · subst ht
    exact .inl ⟨'t', rfl, fun _ => rfl⟩
  by_cases hf : c = '\x0c'
  · subst hf
    exact .inl ⟨'f', rfl, fun _ => rfl⟩
  by_cases hb : c = '\x08'
  · subst hb
    exact .inl ⟨'b', rfl, fun _ => rfl⟩
  rw [escapeChar, if_neg hquote, if_neg hback, if_neg hn, if_neg hr, if_neg ht, if_neg hf,
    if_neg hb]
  by_cases hplain : ' ' ≤ c ∧ c ≤ '~'
  · rw [if_pos hplain]
    exact .inr (.inl ⟨rfl, hquote, hback, hplain.1⟩)
  by_cases hbasic : c.toNat < 0x10000
  · rw [if_neg hplain, if_pos hbasic]
    exact .inr (.inr (.inl ⟨rfl, hbasic⟩))
  · rw [if_neg hplain, if_neg hbasic]
    exact .inr (.inr (.inr ⟨rfl, hbasic⟩))

/-- An escape is read as the character it stands for. -/
theorem scanString_of_scanEscape {c : Char} {cs rest : List Char}
    (hscan : scanEscape cs = some (c, rest)) (fuel : ℕ) :
    scanString (fuel + 1) ('\\' :: cs) =
      (scanString fuel rest).map fun r => (c :: r.1, r.2) := by
  rw [scanString, if_neg (by decide), if_pos rfl, hscan]

/-- An escaped character is read back. -/
theorem scanString_escapeChar (c : Char) (fuel : ℕ) (rest : List Char) :
    scanString (fuel + 1) (escapeChar c ++ rest) =
      (scanString fuel rest).map fun r => (c :: r.1, r.2) := by
  rcases escapeChar_cases c with
    ⟨e, hescape, hscan⟩ | ⟨hescape, hquote, hback, hspace⟩ | ⟨hescape, hbasic⟩ | ⟨hescape, hbasic⟩
  · rw [hescape]
    exact scanString_of_scanEscape (hscan rest) fuel
  · -- a printable character stands for itself
    have hcontrol : ¬ c.toNat < 0x20 := by
      have hspace : ' '.toNat ≤ c.toNat := hspace
      exact Nat.not_lt.mpr hspace
    rw [hescape]
    simp only [List.singleton_append, scanString, if_neg hquote, if_neg hback, if_neg hcontrol]
  · have hscan : scanEscape ('u' :: (hex4 c.toNat ++ rest)) = some (c, rest) :=
      scanUnicode_hex4 hbasic rest
    rw [hescape]
    exact scanString_of_scanEscape hscan fuel
  · have hvalid := toNat_valid c
    have hvalue : 0x10000 + (0xd800 + (c.toNat - 0x10000) / 0x400 - 0xd800) * 0x400 +
        (0xdc00 + (c.toNat - 0x10000) % 0x400 - 0xdc00) = c.toNat := by omega
    have hscan : scanEscape ('u' :: (hex4 (0xd800 + (c.toNat - 0x10000) / 0x400) ++
        (unicodeEscape (0xdc00 + (c.toNat - 0x10000) % 0x400) ++ rest))) = some (c, rest) := by
      rw [scanEscape, scanUnicode_pair (by omega) (by omega), hvalue, Char.ofNat_toNat]
    rw [hescape, List.append_assoc]
    exact scanString_of_scanEscape hscan fuel

theorem scanString_flatMap {s : List Char} {fuel : ℕ} (hfuel : s.length < fuel)
    (rest : List Char) :
    scanString fuel (s.flatMap escapeChar ++ '"' :: rest) = some (s, rest) := by
  induction s generalizing fuel with
  | nil =>
      cases fuel with
      | zero => omega
      | succ fuel => rfl
  | cons c s ih =>
      cases fuel with
      | zero => omega
      | succ fuel =>
          rw [List.length_cons] at hfuel
          rw [List.flatMap_cons, List.append_assoc, scanString_escapeChar, ih (by omega)]
          rfl

theorem length_escapeChar (c : Char) : 1 ≤ (escapeChar c).length := by
  rcases escapeChar_cases c with ⟨e, hescape, _⟩ | ⟨hescape, _⟩ | ⟨hescape, _⟩ | ⟨hescape, _⟩
  all_goals simp [hescape, unicodeEscape]

theorem length_le_flatMap (s : List Char) : s.length ≤ (s.flatMap escapeChar).length := by
  induction s with
  | nil => simp
  | cons c s ih =>
      have := length_escapeChar c
      simp only [List.length_cons, List.flatMap_cons, List.length_append]
      omega

/-! ## Values -/

/-- A float: its `repr`, or a name that is no JSON. -/
def floatText : PyFloat → List Char
  | .nan => ['N', 'a', 'N']
  | .inf false => ['I', 'n', 'f', 'i', 'n', 'i', 't', 'y']
  | .inf true => ['-', 'I', 'n', 'f', 'i', 'n', 'i', 't', 'y']
  | .finite negative d => PyFloat.reprFinite negative d

mutual

/-- The text of a value. -/
def text : Json → List Char
  | .null => ['n', 'u', 'l', 'l']
  | .bool true => ['t', 'r', 'u', 'e']
  | .bool false => ['f', 'a', 'l', 's', 'e']
  | .int i => intText i
  | .float x => floatText x
  | .str s => stringText s
  | .arr items => '[' :: (itemsText items ++ [']'])
  | .obj members => '{' :: (membersText members ++ ['}'])

/-- The items of an array, with `", "` between them. -/
def itemsText : List Json → List Char
  | [] => []
  | [v] => v.text
  | v :: v' :: rest => v.text ++ ',' :: ' ' :: itemsText (v' :: rest)

/-- The members of an object, with `": "` after a key and `", "` between two members. -/
def membersText : List (String × Json) → List Char
  | [] => []
  | [(key, v)] => stringText key ++ ':' :: ' ' :: v.text
  | (key, v) :: m :: rest =>
      stringText key ++ ':' :: ' ' :: (v.text ++ ',' :: ' ' :: membersText (m :: rest))

end

/-- `json.dumps(value)`. -/
def dumps (v : Json) : String := String.ofList v.text

/-- Whitespace between tokens. -/
def isSpace (c : Char) : Bool := c = ' ' || c = '\t' || c = '\n' || c = '\r'

/-- Skips whitespace. -/
def skipSpace (cs : List Char) : List Char := cs.dropWhile isSpace

/-- A number as a value. -/
def ofNumber : Number → Json
  | .int i => .int i
  | .float x => .float x

/-- A value that is a number or one word. -/
def scanAtom (cs : List Char) : Option (Json × List Char) :=
  match cs with
  | 'n' :: 'u' :: 'l' :: 'l' :: rest => some (.null, rest)
  | 't' :: 'r' :: 'u' :: 'e' :: rest => some (.bool true, rest)
  | 'f' :: 'a' :: 'l' :: 's' :: 'e' :: rest => some (.bool false, rest)
  | _ =>
      match scanNumber cs with
      | some (n, rest) => some (ofNumber n, rest)
      | none =>
          match cs with
          | 'N' :: 'a' :: 'N' :: rest => some (.float .nan, rest)
          | 'I' :: 'n' :: 'f' :: 'i' :: 'n' :: 'i' :: 't' :: 'y' :: rest =>
              some (.float (.inf false), rest)
          | '-' :: 'I' :: 'n' :: 'f' :: 'i' :: 'n' :: 'i' :: 't' :: 'y' :: rest =>
              some (.float (.inf true), rest)
          | _ => none

mutual

/-- Reads a value. -/
def scanValue : ℕ → List Char → Option (Json × List Char)
  | 0, _ => none
  | fuel + 1, cs =>
      match cs with
      | '"' :: rest => (scanString (fuel + 1) rest).map fun r => (.str (String.ofList r.1), r.2)
      | '{' :: rest =>
          match skipSpace rest with
          | '}' :: rest' => some (.obj [], rest')
          | rest' => (scanMembers fuel rest').map fun r => (.obj r.1, r.2)
      | '[' :: rest =>
          match skipSpace rest with
          | ']' :: rest' => some (.arr [], rest')
          | rest' => (scanItems fuel rest').map fun r => (.arr r.1, r.2)
      | _ => scanAtom cs

/-- Reads items up to the closing bracket. -/
def scanItems : ℕ → List Char → Option (List Json × List Char)
  | 0, _ => none
  | fuel + 1, cs =>
      match scanValue fuel cs with
      | none => none
      | some (v, rest) =>
          match skipSpace rest with
          | ']' :: rest' => some ([v], rest')
          | ',' :: rest' => (scanItems fuel (skipSpace rest')).map fun r => (v :: r.1, r.2)
          | _ => none

/-- Reads members up to the closing brace. -/
def scanMembers : ℕ → List Char → Option (List (String × Json) × List Char)
  | 0, _ => none
  | fuel + 1, cs =>
      match cs with
      | '"' :: rest =>
          match scanString (fuel + 1) rest with
          | none => none
          | some (key, rest') =>
              match skipSpace rest' with
              | ':' :: rest'' =>
                  match scanValue fuel (skipSpace rest'') with
                  | none => none
                  | some (v, after) =>
                      match skipSpace after with
                      | '}' :: after' => some ([(String.ofList key, v)], after')
                      | ',' :: after' =>
                          (scanMembers fuel (skipSpace after')).map fun r =>
                            ((String.ofList key, v) :: r.1, r.2)
                      | _ => none
              | _ => none
      | _ => none

end

/-- `json.loads(text)`; `none` is a `JSONDecodeError`. -/
def loads (s : String) : Option Json :=
  match scanValue s.toList.length (skipSpace s.toList) with
  | some (v, rest) => if skipSpace rest = [] then some v else none
  | none => none

/-- The value of a key: that of its last member. -/
def getItem (members : List (String × Json)) (key : String) : Option Json :=
  (members.reverse.lookup key)

/-- `d[key]`, by a reader that needs a text there. -/
def textItem (members : List (String × Json)) (key : String) : Except Python.Exc String :=
  match getItem members key with
  | some (.str s) => .ok s
  | some _ => .error (.typeError key)
  | none => .error (.other ("'" ++ key ++ "'"))

/-- `d[key]`, by a reader that needs an integer there. -/
def intItem (members : List (String × Json)) (key : String) : Except Python.Exc ℤ :=
  match getItem members key with
  | some (.int i) => .ok i
  | some _ => .error (.typeError key)
  | none => .error (.other ("'" ++ key ++ "'"))

/-- `d[key]`, by a reader that needs a float there. -/
def floatItem (members : List (String × Json)) (key : String) : Except Python.Exc PyFloat :=
  match getItem members key with
  | some (.float x) => .ok x
  | some _ => .error (.typeError key)
  | none => .error (.other ("'" ++ key ++ "'"))

/-! ## The round trip -/

theorem scanNumber_eq_none {c : Char} {cs : List Char} (hdigit : c.isDigit = false)
    (hminus : c ≠ '-') : scanNumber (c :: cs) = none := by
  have hzero : c ≠ '0' := by
    rintro rfl
    cases hdigit
  have hwhole : scanWhole (c :: cs) = none := by
    rw [scanWhole]
    · simp [hdigit]
    · intro rest heq
      exact hzero (List.cons.inj heq).1
  simp [scanNumber, hminus, hwhole]

theorem scanAtom_of_number {cs rest : List Char} {n : Number}
    (h : scanNumber cs = some (n, rest)) : scanAtom cs = some (ofNumber n, rest) := by
  rw [scanAtom.eq_def]
  split
  · rw [scanNumber_eq_none rfl (by decide)] at h
    cases h
  · rw [scanNumber_eq_none rfl (by decide)] at h
    cases h
  · rw [scanNumber_eq_none rfl (by decide)] at h
    cases h
  · rw [h]

/-- No atom begins with these characters. -/
theorem scanAtom_eq_none {c : Char} (hc : c ∈ ['"', '{', '[', ' ', '\t', '\n', '\r', ']'])
    (cs : List Char) : scanAtom (c :: cs) = none := by
  simp only [List.mem_cons, List.not_mem_nil, or_false] at hc
  rcases hc with rfl | rfl | rfl | rfl | rfl | rfl | rfl | rfl <;>
    simp [scanAtom, scanNumber_eq_none]

theorem scanAtom_float (x : PyFloat) {rest : List Char} (hrest : Stops rest) :
    scanAtom (floatText x ++ rest) = some (.float x, rest) := by
  cases x with
  | nan => rfl
  | inf negative => cases negative <;> rfl
  | finite negative d => exact scanAtom_of_number (scanNumber_repr negative d hrest)

theorem scanAtom_int (i : ℤ) {rest : List Char} (hrest : Stops rest) :
    scanAtom (intText i ++ rest) = some (.int i, rest) :=
  scanAtom_of_number (scanNumber_int i hrest)

/-- What is read as an atom is read as a value. -/
theorem scanValue_of_atom {cs : List Char} {r : Json × List Char} (h : scanAtom cs = some r)
    (fuel : ℕ) : scanValue (fuel + 1) cs = some r := by
  rw [scanValue.eq_def]
  dsimp only
  split
  · rw [scanAtom_eq_none (by simp)] at h
    cases h
  · rw [scanAtom_eq_none (by simp)] at h
    cases h
  · rw [scanAtom_eq_none (by simp)] at h
    cases h
  · exact h

theorem stops_nil : Stops [] := by
  intro c hc
  cases hc

theorem stops_cons {c : Char} (h : c ∈ [',', ']', '}', '\n']) (cs : List Char) :
    Stops (c :: cs) := by
  intro c' hc'
  obtain rfl : c = c' := Option.some.inj hc'
  simp only [List.mem_cons, List.not_mem_nil, or_false] at h
  rcases h with rfl | rfl | rfl | rfl
  · decide
  · decide
  · decide
  · decide

theorem skipSpace_cons {c : Char} (h : isSpace c = false) (cs : List Char) :
    skipSpace (c :: cs) = c :: cs := by
  simp [skipSpace, h]

/-- The text of a value begins with neither whitespace nor a closing bracket. -/
theorem exists_text_eq_cons (v : Json) :
    ∃ c cs, v.text = c :: cs ∧ isSpace c = false ∧ c ≠ ']' := by
  -- an atom is read back, and no atom begins so
  have hatom : ∀ cs r, scanAtom cs = some r →
      ∃ c rest, cs = c :: rest ∧ isSpace c = false ∧ c ≠ ']' := by
    intro cs r h
    cases cs with
    | nil => cases h
    | cons c rest =>
        have hnot : c ∉ ['"', '{', '[', ' ', '\t', '\n', '\r', ']'] := by
          intro hc
          rw [scanAtom_eq_none hc] at h
          cases h
        simp only [List.mem_cons, List.not_mem_nil, or_false, not_or] at hnot
        refine ⟨c, rest, rfl, ?_, hnot.2.2.2.2.2.2.2⟩
        simp [isSpace, hnot]
  cases v with
  | null => exact ⟨_, _, rfl, rfl, by decide⟩
  | bool b => cases b <;> exact ⟨_, _, rfl, rfl, by decide⟩
  | int i =>
      have h := scanAtom_int i stops_nil
      rw [List.append_nil] at h
      exact hatom _ _ h
  | float x =>
      have h := scanAtom_float x stops_nil
      rw [List.append_nil] at h
      exact hatom _ _ h
  | str s => exact ⟨_, _, rfl, rfl, by decide⟩
  | arr items => exact ⟨_, _, rfl, rfl, by decide⟩
  | obj members => exact ⟨_, _, rfl, rfl, by decide⟩

theorem text_length_pos (v : Json) : 0 < v.text.length := by
  rcases exists_text_eq_cons v with ⟨c, cs, h, -⟩
  simp [h]

theorem skipSpace_text (v : Json) (rest : List Char) :
    skipSpace (v.text ++ rest) = v.text ++ rest := by
  rcases exists_text_eq_cons v with ⟨c, cs, h, hspace, -⟩
  rw [h, List.cons_append, skipSpace_cons hspace]

/-- A string is read back. -/
theorem scanString_text {s : String} {fuel : ℕ} (hfuel : (stringText s).length ≤ fuel + 1)
    (rest : List Char) :
    scanString fuel (s.toList.flatMap escapeChar ++ '"' :: rest) = some (s.toList, rest) := by
  refine scanString_flatMap ?_ rest
  have := length_le_flatMap s.toList
  simp only [stringText, List.length_cons, List.length_append, List.length_nil] at hfuel
  omega

theorem scanValue_bracket {cs first : List Char} (hspace : skipSpace cs = first)
    (hhead : first.head? ≠ some ']') (fuel : ℕ) :
    scanValue (fuel + 1) ('[' :: cs) = (scanItems fuel first).map fun r => (.arr r.1, r.2) := by
  rw [scanValue, hspace]
  split
  · exact absurd rfl hhead
  · rfl

theorem scanValue_brace {cs first : List Char} (hspace : skipSpace cs = first)
    (hhead : first.head? ≠ some '}') (fuel : ℕ) :
    scanValue (fuel + 1) ('{' :: cs) = (scanMembers fuel first).map fun r => (.obj r.1, r.2) := by
  rw [scanValue, hspace]
  split
  · exact absurd rfl hhead
  · rfl

theorem scanItems_last {cs after rest : List Char} {v : Json} {fuel : ℕ}
    (h : scanValue fuel cs = some (v, after)) (hclose : skipSpace after = ']' :: rest) :
    scanItems (fuel + 1) cs = some ([v], rest) := by
  simp [scanItems, h, hclose]

theorem scanItems_comma {cs after rest : List Char} {v : Json} {fuel : ℕ}
    (h : scanValue fuel cs = some (v, ',' :: after)) (hspace : skipSpace after = rest) :
    scanItems (fuel + 1) cs = (scanItems fuel rest).map fun r => (v :: r.1, r.2) := by
  have hskip : skipSpace (',' :: after) = ',' :: after := skipSpace_cons rfl _
  simp [scanItems, h, hskip, hspace]

/-- A key and its colon are read back; what follows is the value. -/
theorem scanMembers_key {key : String} {fuel : ℕ} {cs : List Char}
    (hfuel : (stringText key).length ≤ fuel + 1) (hspace : skipSpace cs = cs) :
    scanMembers (fuel + 1) (stringText key ++ ':' :: ' ' :: cs) =
      match scanValue fuel cs with
      | none => none
      | some (v, after) =>
          match skipSpace after with
          | '}' :: after' => some ([(key, v)], after')
          | ',' :: after' =>
              (scanMembers fuel (skipSpace after')).map fun r => ((key, v) :: r.1, r.2)
          | _ => none := by
  have hscan := scanString_text (Nat.le_succ_of_le hfuel) (':' :: ' ' :: cs)
  have hcolon : skipSpace (':' :: ' ' :: cs) = ':' :: ' ' :: cs := skipSpace_cons rfl _
  have hspace' : skipSpace (' ' :: cs) = cs := hspace
  simp only [stringText, List.cons_append, List.append_assoc, List.nil_append, scanMembers, hscan,
    hcolon, hspace', String.ofList_toList]

theorem scanMembers_last {key : String} {v : Json} {fuel : ℕ} {cs after rest : List Char}
    (hfuel : (stringText key).length ≤ fuel + 1) (hspace : skipSpace cs = cs)
    (h : scanValue fuel cs = some (v, after)) (hclose : skipSpace after = '}' :: rest) :
    scanMembers (fuel + 1) (stringText key ++ ':' :: ' ' :: cs) = some ([(key, v)], rest) := by
  simp [scanMembers_key hfuel hspace, h, hclose]

theorem scanMembers_comma {key : String} {v : Json} {fuel : ℕ} {cs after rest : List Char}
    (hfuel : (stringText key).length ≤ fuel + 1) (hspace : skipSpace cs = cs)
    (h : scanValue fuel cs = some (v, ',' :: after)) (hrest : skipSpace after = rest) :
    scanMembers (fuel + 1) (stringText key ++ ':' :: ' ' :: cs) =
      (scanMembers fuel rest).map fun r => ((key, v) :: r.1, r.2) := by
  have hskip : skipSpace (',' :: after) = ',' :: after := skipSpace_cons rfl _
  simp [scanMembers_key hfuel hspace, h, hskip, hrest]

/-- The text of items begins as that of the first. -/
theorem itemsText_cons (v : Json) (items : List Json) :
    ∃ tail, itemsText (v :: items) = v.text ++ tail := by
  cases items with
  | nil => exact ⟨[], by simp [itemsText]⟩
  | cons v' items => exact ⟨_, by rw [itemsText]⟩

theorem membersText_cons (m : String × Json) (members : List (String × Json)) :
    ∃ tail, membersText (m :: members) = '"' :: tail := by
  rcases m with ⟨key, v⟩
  cases members with
  | nil => exact ⟨_, by rw [membersText, stringText, List.cons_append]⟩
  | cons m' members => exact ⟨_, by rw [membersText, stringText, List.cons_append]⟩

theorem skipSpace_itemsText (v : Json) (items : List Json) (rest : List Char) :
    skipSpace (itemsText (v :: items) ++ rest) = itemsText (v :: items) ++ rest ∧
      (itemsText (v :: items) ++ rest).head? ≠ some ']' := by
  rcases itemsText_cons v items with ⟨tail, htail⟩
  rcases exists_text_eq_cons v with ⟨c, cs, htext, hspace, hbracket⟩
  rw [htail, htext]
  refine ⟨skipSpace_cons hspace _, ?_⟩
  simpa using hbracket

theorem skipSpace_membersText (m : String × Json) (members : List (String × Json))
    (rest : List Char) :
    skipSpace (membersText (m :: members) ++ rest) = membersText (m :: members) ++ rest ∧
      (membersText (m :: members) ++ rest).head? ≠ some '}' := by
  rcases membersText_cons m members with ⟨tail, htail⟩
  rw [htail]
  exact ⟨skipSpace_cons rfl _, by simp⟩

mutual

/-- A value is read back from its text. -/
theorem scanValue_text (v : Json) (fuel : ℕ) (rest : List Char) (hfuel : v.text.length ≤ fuel)
    (hrest : Stops rest) : scanValue fuel (v.text ++ rest) = some (v, rest) := by
  have hpos := text_length_pos v
  cases fuel with
  | zero => omega
  | succ fuel =>
      match v with
      | .null => exact scanValue_of_atom rfl fuel
      | .bool true => exact scanValue_of_atom rfl fuel
      | .bool false => exact scanValue_of_atom rfl fuel
      | .int i => exact scanValue_of_atom (scanAtom_int i hrest) fuel
      | .float x => exact scanValue_of_atom (scanAtom_float x hrest) fuel
      | .str s =>
          have hscan := scanString_text (Nat.le_succ_of_le hfuel) rest
          simp [text, stringText, scanValue, hscan]
      | .arr [] => rfl
      | .arr (v :: items) =>
          simp only [text, List.length_cons, List.length_append, List.length_nil] at hfuel
          rcases skipSpace_itemsText v items (']' :: rest) with ⟨hspace, hhead⟩
          have hitems := scanItems_text (v :: items) (by simp) fuel rest (by omega)
          rw [text, List.cons_append, List.append_assoc, List.singleton_append,
            scanValue_bracket hspace hhead, hitems]
          rfl
      | .obj [] => rfl
      | .obj (m :: members) =>
          simp only [text, List.length_cons, List.length_append, List.length_nil] at hfuel
          rcases skipSpace_membersText m members ('}' :: rest) with ⟨hspace, hhead⟩
          have hmembers := scanMembers_text (m :: members) (by simp) fuel rest (by omega)
          rw [text, List.cons_append, List.append_assoc, List.singleton_append,
            scanValue_brace hspace hhead, hmembers]
          rfl

/-- The items of an array are read back. -/
theorem scanItems_text (items : List Json) (hne : items ≠ []) (fuel : ℕ) (rest : List Char)
    (hfuel : (itemsText items).length < fuel) :
    scanItems fuel (itemsText items ++ ']' :: rest) = some (items, rest) := by
  cases fuel with
  | zero => omega
  | succ fuel =>
      match items with
      | [] => exact absurd rfl hne
      | [v] =>
          rw [itemsText] at hfuel ⊢
          have hv := scanValue_text v fuel (']' :: rest) (by omega) (stops_cons (by simp) rest)
          exact scanItems_last hv (skipSpace_cons rfl rest)
      | v :: v' :: items =>
          rw [itemsText] at hfuel ⊢
          simp only [List.length_append, List.length_cons] at hfuel
          have hv := scanValue_text v fuel (',' :: ' ' :: (itemsText (v' :: items) ++ ']' :: rest))
            (by omega) (stops_cons (by simp) _)
          have hitems := scanItems_text (v' :: items) (by simp) fuel rest (by omega)
          simp only [List.append_assoc, List.cons_append]
          rw [scanItems_comma hv (skipSpace_itemsText v' items _).1, hitems]
          rfl

/-- The members of an object are read back. -/
theorem scanMembers_text (members : List (String × Json)) (hne : members ≠ []) (fuel : ℕ)
    (rest : List Char) (hfuel : (membersText members).length < fuel) :
    scanMembers fuel (membersText members ++ '}' :: rest) = some (members, rest) := by
  cases fuel with
  | zero => omega
  | succ fuel =>
      match members with
      | [] => exact absurd rfl hne
      | [(key, v)] =>
          rw [membersText] at hfuel ⊢
          simp only [List.length_append, List.length_cons] at hfuel
          have hv := scanValue_text v fuel ('}' :: rest) (by omega) (stops_cons (by simp) rest)
          simp only [List.append_assoc, List.cons_append]
          exact scanMembers_last (by omega) (skipSpace_text v _) hv (skipSpace_cons rfl rest)
      | (key, v) :: m :: members =>
          rw [membersText] at hfuel ⊢
          simp only [List.length_append, List.length_cons] at hfuel
          have hv := scanValue_text v fuel
            (',' :: ' ' :: (membersText (m :: members) ++ '}' :: rest)) (by omega)
            (stops_cons (by simp) _)
          have hmembers := scanMembers_text (m :: members) (by simp) fuel rest (by omega)
          simp only [List.append_assoc, List.cons_append]
          rw [scanMembers_comma (by omega) (skipSpace_text v _) hv
            (skipSpace_membersText m members _).1, hmembers]
          rfl

end

/-- What was written is read back. -/
theorem loads_dumps (v : Json) : loads v.dumps = some v := by
  have hskip := skipSpace_text v []
  have hscan := scanValue_text v v.text.length [] (Nat.le_refl _) stops_nil
  rw [List.append_nil] at hskip hscan
  rw [loads, dumps, String.toList_ofList, hskip, hscan]
  rfl

end Json

end Intraday.Lib
