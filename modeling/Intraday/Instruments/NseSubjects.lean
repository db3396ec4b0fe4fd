import Intraday.Instruments.Adjustment
import Intraday.Lib.Regex
import Intraday.Lib.Traverse
import Intraday.Session.Holidays

/-!
# Intraday.Instruments.NseSubjects — `_parse_nse_entry` of `shared/instruments/sources.py`

The subject of an entry is free text. Three regular expressions look for a split, a bonus and
a dividend in it, in this order, and the first that is found decides: one entry gives one
action at most. The numbers are read by `float` from what the groups captured, and the class
`[\d.]` of the split also captures texts that are no numbers.
-/

namespace Intraday.Instruments

open Intraday.Lib Intraday.Lib.Raise Intraday.Lib.Regex

/-- What the parser takes from the standard library: how it sees the characters of Unicode, and
the reading of dates. -/
structure NseLib where
  /-- `str.isspace`, and `\s` -/
  isSpace : Char → Bool
  /-- the value of a decimal digit, and `\d` -/
  digit : Char → Option ℕ
  digit_dot : digit '.' = none
  /-- a letter of a pattern and a character that it matches under `re.IGNORECASE` -/
  sameLetter : Char → Char → Bool
  /-- `str.lower` -/
  lower : String → String
  /-- `datetime.strptime(text, format).date()`; `none` is a `ValueError` -/
  strptime : String → String → Option Date

/-- The fields of an entry that are read. -/
structure NseEntry where
  symbol : Option String
  subject : Option String
  exDate : Option String

namespace NseLib

variable (lib : NseLib)

/-! ## The patterns -/

/-- `[\d.]`. -/
def digitOrDot (c : Char) : Bool := (lib.digit c).isSome || c == '.'

/-- A word of a pattern, and what follows it. -/
def word (text : String) (rest : Pattern) : Pattern :=
  Pattern.literal lib.sameLetter text.toList rest

/-- `\s+`, and what follows it. -/
def spaces (rest : Pattern) : Pattern := .seq (Pattern.plus lib.isSpace) rest

/-- `\s*`, and what follows it. -/
def anySpaces (rest : Pattern) : Pattern := .seq (.many lib.isSpace) rest

/-- One optional character, and what follows it. -/
def optional (p : Char → Bool) (rest : Pattern) : Pattern := .seq (.opt (.char p)) rest

/-- `([\d.]+)`. -/
def amount (n : ℕ) : Pattern := .group n (Pattern.plus lib.digitOrDot)

/-- `(\d+(?:\.\d+)?)`. -/
def shares (n : ℕ) : Pattern :=
  .group n (.seq (Pattern.plus fun c => (lib.digit c).isSome)
    (.opt (.seq (.char (· == '.')) (Pattern.plus fun c => (lib.digit c).isSome))))

/-- `Re?s?\.?\s*([\d.]+)\s*/?-?\s*Per\s+Share`, and what follows it. -/
def faceValue (n : ℕ) (rest : Pattern) : Pattern :=
  lib.word "R" (optional (lib.sameLetter 'e') (optional (lib.sameLetter 's')
    (optional (· == '.') (lib.anySpaces (.seq (lib.amount n) (lib.anySpaces
      (optional (· == '/') (optional (· == '-') (lib.anySpaces
        (lib.word "Per" (lib.spaces (lib.word "Share" rest))))))))))))

/-- The empty pattern. -/
def nothing : Pattern := .many fun _ => false

/-- `_SPLIT_PATTERN`. -/
def splitPattern : Pattern :=
  lib.word "From" (lib.spaces (lib.faceValue 1
    (lib.spaces (lib.word "To" (lib.spaces (lib.faceValue 2 nothing))))))

/-- `_BONUS_PATTERN`. -/
def bonusPattern : Pattern :=
  lib.word "Bonus" (lib.spaces (.seq (lib.shares 1) (lib.anySpaces
    (.seq (.char (· == ':')) (lib.anySpaces (lib.shares 2))))))

/-- `_DIVIDEND_AMOUNT_PATTERN`. -/
def dividendAmountPattern : Pattern :=
  lib.word "Rs" (optional (· == '.') (lib.anySpaces (lib.amount 1)))

/-! ## The parser -/

/-- `float(text)`, for a text of digits and dots; `none` is a `ValueError`. -/
def float (text : List Char) : Option ℚ :=
  let whole := text.takeWhile (· != '.')
  let fraction := (text.dropWhile (· != '.')).drop 1
  if whole ++ fraction = [] then none
  else ((whole ++ fraction).mapM lib.digit).map fun digits =>
    ((digits.foldl (fun n d => 10 * n + d) 0 : ℕ) : ℚ) / 10 ^ fraction.length

/-- `float(match.group(n))`. -/
def floatGroup (groups : Captures) (n : ℕ) : Option ℚ := (groups.lookup n).bind lib.float

/-- `str.strip`. -/
def strip (text : String) : String :=
  String.ofList
    ((text.toList.dropWhile lib.isSpace).reverse.dropWhile lib.isSpace).reverse

/-- The symbol, the subject and the ex-date of an entry that is not skipped for them. -/
def parseHead (e : NseEntry) : Option (String × String × Date) :=
  let symbol := lib.strip (e.symbol.getD "")
  let subject := e.subject.getD ""
  let exDateRaw := e.exDate.getD ""
  if symbol = "" ∨ subject = "" ∨ exDateRaw = "" ∨ exDateRaw = "-" then none
  else (lib.strptime exDateRaw "%d-%b-%Y").map fun exDate => (symbol, subject, exDate)

end NseLib

/-- `try: return CorporateAction(…)`, `except ValueError: return None`. -/
def actionOrSkip (args : ActionArgs String ℚ) : Except Exc (Option (CorporateAction String ℚ)) :=
  match CorporateAction.make args with
  | .ok a => .ok (some a)
  | .error (.valueError _) => .ok none
  | .error e => .error e

/-- What `float` raises on a text that is no number. -/
def floatError : Exc := .valueError "could not convert string to float"

/-- The action of a subject. -/
def parseSubject (lib : NseLib) (symbol subject : String) (exDate : Date) (exchange : String) :
    Except Exc (Option (CorporateAction String ℚ)) :=
  match lib.splitPattern.search subject.toList with
  | some groups =>
      match lib.floatGroup groups 1, lib.floatGroup groups 2 with
      | some fromFace, some toFace =>
          actionOrSkip
            { symbol := symbol
              exchange := exchange
              exDate := exDate
              actionType := .split
              source := exchange ++ "_LIVE"
              ratioNumerator := some fromFace
              ratioDenominator := some toFace }
      | _, _ => .error floatError
  | none =>
      match lib.bonusPattern.search subject.toList with
      | some groups =>
          match lib.floatGroup groups 1, lib.floatGroup groups 2 with
          | some newShares, some heldShares =>
              actionOrSkip
                { symbol := symbol
                  exchange := exchange
                  exDate := exDate
                  actionType := .bonus
                  source := exchange ++ "_LIVE"
                  ratioNumerator := some (newShares + heldShares)
                  ratioDenominator := some heldShares }
          | _, _ => .error floatError
      | none =>
          if "dividend".toList <:+: (lib.lower subject).toList then
            match lib.dividendAmountPattern.search subject.toList with
            | none => .ok none
            | some groups =>
                -- here `float` is inside the `try`
                match lib.floatGroup groups 1 with
                | some amount =>
                    actionOrSkip
                      { symbol := symbol
                        exchange := exchange
                        exDate := exDate
                        actionType := .dividend
                        source := exchange ++ "_LIVE"
                        dividendAmount := some amount }
                | none => .ok none
          else .ok none

/-- `_parse_nse_entry`. -/
def parseNseEntry (lib : NseLib) (e : NseEntry) (exchange : String) :
    Except Exc (Option (CorporateAction String ℚ)) :=
  match lib.parseHead e with
  | some (symbol, subject, exDate) => parseSubject lib symbol subject exDate exchange
  | none => .ok none

/-! ## Texts that are numbers -/

/-- A text of digits and dots that `float` reads: one dot at most, and a digit. -/
def IsNumber (text : List Char) : Prop := text.count '.' ≤ 1 ∧ ∃ c ∈ text, c ≠ '.'

instance (text : List Char) : Decidable (IsNumber text) := inferInstanceAs (Decidable (_ ∧ _))

/-- A text is cut at its first dot, if it has one. -/
theorem cut_at_dot (text : List Char) :
    ('.' ∉ text ∧ text.takeWhile (· != '.') = text ∧ text.dropWhile (· != '.') = []) ∨
      ∃ whole fraction, text = whole ++ '.' :: fraction ∧ '.' ∉ whole ∧
        text.takeWhile (· != '.') = whole ∧ text.dropWhile (· != '.') = '.' :: fraction := by
  induction text with
  | nil => exact Or.inl ⟨List.not_mem_nil, rfl, rfl⟩
  | cons c text ih =>
      by_cases hc : c = '.'
      · subst hc
        exact Or.inr ⟨[], text, rfl, List.not_mem_nil, rfl, rfl⟩
      · have htest : (c != '.') = true := bne_iff_ne.mpr hc
        rw [List.takeWhile_cons_of_pos (p := (· != '.')) htest,
          List.dropWhile_cons_of_pos (p := (· != '.')) htest]
        rcases ih with ⟨hnone, htake, hdrop⟩ | ⟨whole, fraction, htext, hwhole, htake, hdrop⟩
        · refine Or.inl ⟨?_, by rw [htake], hdrop⟩
          exact List.not_mem_cons_of_ne_of_not_mem (Ne.symm hc) hnone
        · refine Or.inr ⟨c :: whole, fraction, ?_, ?_, by rw [htake], hdrop⟩
          · rw [htext, List.cons_append]
          · exact List.not_mem_cons_of_ne_of_not_mem (Ne.symm hc) hwhole

namespace NseLib

variable (lib : NseLib)

theorem isSome_digit {c : Char} (h : lib.digitOrDot c = true) :
    (lib.digit c).isSome = true ↔ c ≠ '.' := by
  constructor
  · intro hdigit hdot
    rw [hdot, lib.digit_dot] at hdigit
    cases hdigit
  · intro hdot
    unfold digitOrDot at h
    rw [Bool.or_eq_true, beq_iff_eq] at h
    exact h.resolve_right hdot

/-- Digits and dots are all digits if none is a dot. -/
theorem isSome_digits_iff {part : List Char} (h : ∀ c ∈ part, lib.digitOrDot c = true) :
    (part.mapM lib.digit).isSome = true ↔ '.' ∉ part := by
  rw [isSome_mapM]
  constructor
  · intro hall hdot
    exact (lib.isSome_digit (h _ hdot)).mp (hall _ hdot) rfl
  · intro hnone c hc
    refine (lib.isSome_digit (h c hc)).mpr ?_
    intro hdot
    exact hnone (hdot ▸ hc)

/-- On digits and dots `float` reads the texts that are numbers. -/
theorem isSome_float_iff {text : List Char} (h : ∀ c ∈ text, lib.digitOrDot c = true) :
    (lib.float text).isSome = true ↔ IsNumber text := by
  simp only [float, IsNumber]
  rcases cut_at_dot text with ⟨hnone, htake, hdrop⟩ | ⟨whole, fraction, htext, hwhole, htake, hdrop⟩
  · rw [htake, hdrop, List.drop_nil, List.append_nil, List.count_eq_zero.mpr hnone]
    split_ifs with hempty
    · simp [hempty]
    · rw [Option.isSome_map, lib.isSome_digits_iff h]
      rcases List.exists_mem_of_ne_nil _ hempty with ⟨c, hc⟩
      refine iff_of_true hnone ⟨Nat.zero_le _, c, hc, ?_⟩
      intro hdot
      exact hnone (hdot ▸ hc)
  · -- the dots after the first one are those of the fraction
    have hcount : text.count '.' = fraction.count '.' + 1 := by
      rw [htext, List.count_append, List.count_cons_self, List.count_eq_zero.mpr hwhole, zero_add]
    have hmem : ∀ c ∈ whole ++ fraction, c ∈ text := by
      intro c hc
      rw [htext]
      rcases List.mem_append.mp hc with hfront | hback
      · exact List.mem_append_left _ hfront
      · exact List.mem_append_right _ (List.mem_cons_of_mem _ hback)
    rw [htake, hdrop, List.drop_one, List.tail_cons, hcount]
    split_ifs with hempty
    · rcases List.append_eq_nil_iff.mp hempty with ⟨rfl, rfl⟩
      simp [htext]
    · rw [Option.isSome_map, lib.isSome_digits_iff (fun c hc => h c (hmem c hc)),
        List.mem_append, not_or]
      constructor
      · intro hparts
        rw [List.count_eq_zero.mpr hparts.2]
        rcases List.exists_mem_of_ne_nil _ hempty with ⟨c, hc⟩
        refine ⟨le_rfl, c, hmem c hc, ?_⟩
        intro hdot
        rcases List.mem_append.mp (hdot ▸ hc) with hfront | hback
        · exact hparts.1 hfront
        · exact hparts.2 hback
      · intro hnumber
        refine ⟨hwhole, List.count_eq_zero.mp ?_⟩
        have hle := hnumber.1
        omega

/-! ## What the patterns capture -/

theorem mem_plus {p : Char → Bool} {text : List Char} (h : (Pattern.plus p).Matches text) :
    text ≠ [] ∧ ∀ c ∈ text, p c = true := by
  rcases h with ⟨front, back, rfl, ⟨c, rfl, hc⟩, hback⟩
  refine ⟨List.cons_ne_nil _ _, ?_⟩
  intro d hd
  rcases List.mem_cons.mp hd with rfl | hlater
  · exact hc
  · exact hback d hlater

theorem splitPattern_groups :
    lib.splitPattern.groups =
      [(1, Pattern.plus lib.digitOrDot), (2, Pattern.plus lib.digitOrDot)] := by
  simp [splitPattern, faceValue, word, spaces, anySpaces, optional, amount, nothing,
    Pattern.groups, Pattern.groups_literal, Pattern.plus]

theorem splitPattern_sure : lib.splitPattern.sure = [1, 2] := by
  simp [splitPattern, faceValue, word, spaces, anySpaces, optional, amount, nothing,
    Pattern.sure, Pattern.sure_literal, Pattern.plus]

theorem bonusPattern_sure : lib.bonusPattern.sure = [1, 2] := by
  simp [bonusPattern, word, spaces, anySpaces, shares, Pattern.sure, Pattern.sure_literal,
    Pattern.plus]

theorem bonusPattern_groups {n : ℕ} {a : Pattern} (h : (n, a) ∈ lib.bonusPattern.groups) :
    a = .seq (Pattern.plus fun c => (lib.digit c).isSome)
      (.opt (.seq (.char (· == '.')) (Pattern.plus fun c => (lib.digit c).isSome))) := by
  simp only [bonusPattern, word, spaces, anySpaces, shares, Pattern.groups,
    Pattern.groups_literal, Pattern.plus, List.nil_append, List.mem_append, List.mem_singleton,
    Prod.mk.injEq] at h
  rcases h with h | h
  · exact h.2
  · exact h.2

/-- The text of a face value consists of digits and dots. -/
theorem exists_faceValue {subject : List Char} {groups : Captures}
    (h : lib.splitPattern.search subject = some groups) {n : ℕ} (hn : n ∈ [1, 2]) :
    ∃ text, groups.lookup n = some text ∧ ∀ c ∈ text, lib.digitOrDot c = true := by
  rcases Pattern.capture_of_search h (n := n) (by rwa [splitPattern_sure]) with
    ⟨text, htext, a, ha, hmatch⟩
  refine ⟨text, htext, ?_⟩
  rw [splitPattern_groups] at ha
  have hplus : a = Pattern.plus lib.digitOrDot := by
    rcases List.mem_cons.mp ha with hfirst | hsecond
    · exact (Prod.mk.inj hfirst).2
    · exact (Prod.mk.inj (List.mem_singleton.mp hsecond)).2
  rw [hplus] at hmatch
  exact (mem_plus hmatch).2

/-- The text of a number of shares is a number. -/
theorem exists_shares {subject : List Char} {groups : Captures}
    (h : lib.bonusPattern.search subject = some groups) {n : ℕ} (hn : n ∈ [1, 2]) :
    ∃ x, lib.floatGroup groups n = some x := by
  rcases Pattern.capture_of_search h (n := n) (by rwa [bonusPattern_sure]) with
    ⟨text, htext, a, ha, hmatch⟩
  rw [bonusPattern_groups lib ha] at hmatch
  rcases hmatch with ⟨whole, back, rfl, hwhole, hback⟩
  rcases mem_plus hwhole with ⟨hne, hdigits⟩
  have hdot : ∀ {part : List Char}, (∀ c ∈ part, (lib.digit c).isSome = true) →
      '.' ∉ part := by
    intro part hpart hmem
    have hsome := hpart _ hmem
    rw [lib.digit_dot] at hsome
    cases hsome
  -- the rest is empty, or one dot before more digits
  have hrest : back.count '.' ≤ 1 ∧ ∀ c ∈ back, lib.digitOrDot c = true := by
    rcases hback with rfl | ⟨dot, fraction, rfl, ⟨c, rfl, hc⟩, hfraction⟩
    · exact ⟨Nat.zero_le _, fun c hc => absurd hc List.not_mem_nil⟩
    · rcases mem_plus hfraction with ⟨-, hmore⟩
      have hcdot : c = '.' := beq_iff_eq.mp hc
      subst hcdot
      refine ⟨?_, ?_⟩
      · rw [List.singleton_append, List.count_cons_self, List.count_eq_zero.mpr (hdot hmore)]
      · intro d hd
        unfold digitOrDot
        rcases List.mem_cons.mp hd with rfl | hlater
        · rw [beq_self_eq_true, Bool.or_true]
        · rw [hmore d hlater, Bool.true_or]
  have hnumber : IsNumber (whole ++ back) := by
    rcases List.exists_mem_of_ne_nil _ hne with ⟨c, hc⟩
    refine ⟨?_, c, List.mem_append_left _ hc, ?_⟩
    · rw [List.count_append, List.count_eq_zero.mpr (hdot hdigits), zero_add]
      exact hrest.1
    · intro hcdot
      exact hdot hdigits (hcdot ▸ hc)
  have hclass : ∀ c ∈ whole ++ back, lib.digitOrDot c = true := by
    intro c hc
    rcases List.mem_append.mp hc with hfront | hlater
    · rw [digitOrDot, hdigits c hfront, Bool.true_or]
    · exact hrest.2 c hlater
  rw [floatGroup, htext]
  exact Option.isSome_iff_exists.mp ((lib.isSome_float_iff hclass).mpr hnumber)

end NseLib

/-! ## Actions from numbers -/

/-- On texts and floats the checks raise nothing but `ValueError`. -/
theorem postInit_error {args : ActionArgs String ℚ} {e : Exc} (h : args.postInit = .error e) :
    ∃ message, e = .valueError message := by
  have hpositive : ∀ {x : ℚ} {message : String} {e : Exc},
      ActionArgs.requirePositive x message = .error e → ∃ text, e = .valueError text := by
    intro x message e hx
    simp only [ActionArgs.requirePositive, PyArg.nonPositive] at hx
    split at hx
    · rename_i hnever
      cases hnever
    · rcases Except.error.inj hx with rfl
      exact ⟨_, rfl⟩
    · cases hx
  have hratio : ∀ {e : Exc}, args.checkRatio = .error e → ∃ text, e = .valueError text := by
    intro e hcheck
    unfold ActionArgs.checkRatio at hcheck
    split at hcheck
    · rename_i numerator denominator _ _
      cases hnumerator : ActionArgs.requirePositive numerator "ratio must be positive" with
      | error e' =>
          rw [hnumerator, error_bind] at hcheck
          rcases Except.error.inj hcheck with rfl
          exact hpositive hnumerator
      | ok _ =>
          rw [hnumerator, ok_bind] at hcheck
          exact hpositive hcheck
    · rcases Except.error.inj hcheck with rfl
      exact ⟨_, rfl⟩
  unfold ActionArgs.postInit at h
  split at h
  · exact hratio h
  · exact hratio h
  · split at h
    · exact hpositive h
    · rcases Except.error.inj h with rfl
      exact ⟨_, rfl⟩
  · split_ifs at h
    rcases Except.error.inj h with rfl
    exact ⟨_, rfl⟩

/-- So what they refuse is skipped. -/
theorem actionOrSkip_cases (args : ActionArgs String ℚ) :
    (∃ a : CorporateAction String ℚ, a.args = args ∧ actionOrSkip args = .ok (some a)) ∨
      args.postInit ≠ .ok () ∧ actionOrSkip args = .ok none := by
  unfold actionOrSkip
  cases hmake : CorporateAction.make args with
  | ok a => exact Or.inl ⟨a, CorporateAction.make_eq_ok.mp hmake, rfl⟩
  | error e =>
      have hinit := CorporateAction.make_eq_error.mp hmake
      rcases postInit_error hinit with ⟨message, rfl⟩
      refine Or.inr ⟨?_, rfl⟩
      rw [hinit]
      intro hok
      cases hok

/-- The factor of a ratio that the checks accept. -/
def ratioFactor (numerator denominator : ℚ) : Option ℚ :=
  if 0 < numerator ∧ 0 < denominator then some (denominator / numerator) else none

/-- The adjustment of a day by what the parser returned. -/
def resultFactor (result : Option (CorporateAction String ℚ)) (day : ℤ) : ℚ :=
  factor (ratios result.toList) day

/-- A split or a bonus is made exactly of positive numbers, and adjusts by their ratio. -/
theorem actionOrSkip_ratio (args : ActionArgs String ℚ) {numerator denominator : ℚ}
    (htype : args.actionType = .split ∨ args.actionType = .bonus)
    (hnumerator : args.ratioNumerator = some numerator)
    (hdenominator : args.ratioDenominator = some denominator) :
    ∃ result, actionOrSkip args = .ok result ∧
      ∀ day : ℤ, day < args.exDate.toOrdinal →
        resultFactor result day = (ratioFactor numerator denominator).getD 1 := by
  rcases actionOrSkip_cases args with ⟨a, rfl, hmade⟩ | ⟨hrefused, hskipped⟩
  · refine ⟨some a, hmade, ?_⟩
    intro day hday
    have hadjusting : a.priceAdjusting = true := by
      simpa [CorporateAction.priceAdjusting] using htype
    rcases CorporateAction.ratio?_eq_some hadjusting with ⟨r, hr, hdate, hnum, hden⟩
    rcases Option.some.inj (hnumerator.symm.trans hnum) with rfl
    rcases Option.some.inj (hdenominator.symm.trans hden) with rfl
    rw [ratioFactor, if_pos ⟨r.numerator_pos, r.denominator_pos⟩, resultFactor, ratios,
      Option.toList_some, List.filterMap_cons_some hr, List.filterMap_nil, factor_cons, hdate,
      if_pos hday]
    exact mul_one _
  · refine ⟨none, hskipped, ?_⟩
    intro day _
    have hnot : ¬ (0 < numerator ∧ 0 < denominator) := by
      intro hpos
      apply hrefused
      have hcheck : args.checkRatio = .ok () := by
        simp only [ActionArgs.checkRatio, hnumerator, hdenominator, filter_truthy hpos.1,
          filter_truthy hpos.2, requirePositive_eq_ok_iff.mpr hpos.1,
          requirePositive_eq_ok_iff.mpr hpos.2, ok_bind]
      rw [ActionArgs.postInit]
      rcases htype with h | h
      · rw [h]
        exact hcheck
      · rw [h]
        exact hcheck
    rw [ratioFactor, if_neg hnot]
    rfl

/-! ## Entries -/

/-- The factor of the split that a subject announces. -/
def splitFactor (lib : NseLib) (subject : String) : Option ℚ :=
  match lib.splitPattern.search subject.toList with
  | some groups =>
      match lib.floatGroup groups 1, lib.floatGroup groups 2 with
      | some fromFace, some toFace => ratioFactor fromFace toFace
      | _, _ => none
  | none => none

/-- The factor of the bonus that a subject announces. -/
def bonusFactor (lib : NseLib) (subject : String) : Option ℚ :=
  match lib.bonusPattern.search subject.toList with
  | some groups =>
      match lib.floatGroup groups 1, lib.floatGroup groups 2 with
      | some newShares, some heldShares => ratioFactor (newShares + heldShares) heldShares
      | _, _ => none
  | none => none

/-- Both face values of a split are numbers. -/
def FacesAreNumbers (lib : NseLib) (subject : String) : Prop :=
  ∀ groups, lib.splitPattern.search subject.toList = some groups →
    ∀ n ∈ [1, 2], ∀ text, groups.lookup n = some text → IsNumber text

theorem facesAreNumbers_iff {lib : NseLib} {subject : String} {groups : Captures}
    {fromText toText : List Char}
    (hsplit : lib.splitPattern.search subject.toList = some groups)
    (hfrom : groups.lookup 1 = some fromText) (hto : groups.lookup 2 = some toText) :
    FacesAreNumbers lib subject ↔ IsNumber fromText ∧ IsNumber toText := by
  constructor
  · intro h
    exact ⟨h groups hsplit 1 (by simp) _ hfrom, h groups hsplit 2 (by simp) _ hto⟩
  · intro h groups' hgroups n hn text htext
    rcases Option.some.inj (hsplit.symm.trans hgroups) with rfl
    rcases List.mem_cons.mp hn with rfl | hsecond
    · rcases Option.some.inj (hfrom.symm.trans htext) with rfl
      exact h.1
    · rcases List.mem_singleton.mp hsecond with rfl
      rcases Option.some.inj (hto.symm.trans htext) with rfl
      exact h.2

theorem exists_actionOrSkip (args : ActionArgs String ℚ) :
    ∃ result, actionOrSkip args = .ok result := by
  rcases actionOrSkip_cases args with ⟨a, -, hmade⟩ | ⟨-, hskipped⟩
  · exact ⟨_, hmade⟩
  · exact ⟨_, hskipped⟩

/-- Without a split nothing raises. -/
theorem exists_parseSubject {lib : NseLib} {subject : String}
    (hsplit : lib.splitPattern.search subject.toList = none) (symbol : String) (exDate : Date)
    (exchange : String) :
    ∃ result, parseSubject lib symbol subject exDate exchange = .ok result := by
  unfold parseSubject
  rw [hsplit]
  cases hbonus : lib.bonusPattern.search subject.toList with
  | some groups =>
      rcases lib.exists_shares hbonus (n := 1) (by simp) with ⟨newShares, hnew⟩
      rcases lib.exists_shares hbonus (n := 2) (by simp) with ⟨heldShares, hheld⟩
      simp only [hnew, hheld]
      exact exists_actionOrSkip _
  | none =>
      simp only
      split_ifs
      · split
        · exact ⟨_, rfl⟩
        · split
          · exact exists_actionOrSkip _
          · exact ⟨_, rfl⟩
      · exact ⟨_, rfl⟩

/-- A subject is parsed without an exception exactly if the face values of its split are numbers;
before the ex-date the result then adjusts by the split, if there is one. -/
theorem parseSubject_cases (lib : NseLib) (symbol subject : String) (exDate : Date)
    (exchange : String) :
    (FacesAreNumbers lib subject ∧
      ∃ result, parseSubject lib symbol subject exDate exchange = .ok result ∧
        ∀ s, splitFactor lib subject = some s → ∀ day : ℤ, day < exDate.toOrdinal →
          resultFactor result day = s) ∨
      ¬ FacesAreNumbers lib subject ∧
        parseSubject lib symbol subject exDate exchange = .error floatError := by
  cases hsplit : lib.splitPattern.search subject.toList with
  | none =>
      rcases exists_parseSubject hsplit symbol exDate exchange with ⟨result, hresult⟩
      refine Or.inl ⟨?_, result, hresult, ?_⟩
      · intro groups hgroups
        rw [hsplit] at hgroups
        cases hgroups
      · intro s hs
        rw [splitFactor, hsplit] at hs
        cases hs
  | some groups =>
      rcases lib.exists_faceValue hsplit (n := 1) (by simp) with ⟨fromText, hfrom, hfromClass⟩
      rcases lib.exists_faceValue hsplit (n := 2) (by simp) with ⟨toText, hto, htoClass⟩
      rw [facesAreNumbers_iff hsplit hfrom hto, ← lib.isSome_float_iff hfromClass,
        ← lib.isSome_float_iff htoClass]
      simp only [parseSubject, splitFactor, hsplit, NseLib.floatGroup, hfrom, hto,
        Option.bind_some]
      cases hfromFace : lib.float fromText with
      | none => exact Or.inr ⟨fun h => absurd h.1 Bool.false_ne_true, rfl⟩
      | some fromFace =>
          cases htoFace : lib.float toText with
          | none => exact Or.inr ⟨fun h => absurd h.2 Bool.false_ne_true, rfl⟩
          | some toFace =>
              refine Or.inl ⟨⟨rfl, rfl⟩, ?_⟩
              rcases actionOrSkip_ratio
                { symbol := symbol
                  exchange := exchange
                  exDate := exDate
                  actionType := .split
                  source := exchange ++ "_LIVE"
                  ratioNumerator := some fromFace
                  ratioDenominator := some toFace } (Or.inl rfl) rfl rfl with
                ⟨result, hresult, hfactor⟩
              refine ⟨result, hresult, ?_⟩
              intro s hs day hday
              have hratio : ratioFactor fromFace toFace = some s := hs
              rw [hfactor day hday, hratio, Option.getD_some]

/-- An entry is parsed as announced (without an exception, and with the product of both factors
where a split and a bonus are announced) exactly if the face values of its split are numbers and
no bonus of new shares stands beside a split. -/
theorem parseNseEntry_iff (lib : NseLib) (e : NseEntry) (exchange : String) :
    (∃ result, parseNseEntry lib e exchange = .ok result ∧
      ∀ symbol subject exDate, lib.parseHead e = some (symbol, subject, exDate) →
        ∀ s b, splitFactor lib subject = some s → bonusFactor lib subject = some b →
          ∀ day : ℤ, day < exDate.toOrdinal → resultFactor result day = s * b) ↔
      ∀ symbol subject exDate, lib.parseHead e = some (symbol, subject, exDate) →
        FacesAreNumbers lib subject ∧
          ∀ s b, splitFactor lib subject = some s → bonusFactor lib subject = some b → b = 1 := by
  unfold parseNseEntry
  cases hhead : lib.parseHead e with
  | none =>
      refine iff_of_true ⟨none, rfl, ?_⟩ ?_
      · intro symbol subject exDate hnone
        cases hnone
      · intro symbol subject exDate hnone
        cases hnone
  | some head =>
      rcases head with ⟨symbol, subject, exDate⟩
      constructor
      · intro h symbol' subject' exDate' hsame
        rcases h with ⟨result, hresult, hproduct⟩
        cases hsame
        rcases parseSubject_cases lib symbol subject exDate exchange with
          ⟨hfaces, result', hresult', hfactor⟩ | ⟨-, hraises⟩
        · refine ⟨hfaces, ?_⟩
          intro s b hs hb
          have hday : (exDate.toOrdinal : ℤ) - 1 < exDate.toOrdinal := by omega
          rcases Except.ok.inj (hresult.symm.trans hresult') with rfl
          have hsplit := hfactor s hs _ hday
          have hboth := hproduct symbol subject exDate rfl s b hs hb _ hday
          have hpos : 0 < s := by
            rw [← hsplit]
            exact factor_pos _ _
          rw [hsplit] at hboth
          exact (mul_eq_left₀ hpos.ne').mp hboth.symm
        · simp only [hraises] at hresult
          cases hresult
      · intro h
        rcases h symbol subject exDate rfl with ⟨hfaces, hone⟩
        rcases parseSubject_cases lib symbol subject exDate exchange with
          ⟨-, result, hresult, hfactor⟩ | ⟨hnot, -⟩
        · refine ⟨result, hresult, ?_⟩
          intro symbol' subject' exDate' hsame s b hs hb day hday
          cases hsame
          rw [hfactor s hs day hday, hone s b hs hb, mul_one]
        · exact absurd hfaces hnot

/-- The parser on ASCII texts. -/
def asciiLib : NseLib where
  isSpace c := c == ' '
  digit c := if c.isDigit then some (c.toNat - '0'.toNat) else none
  digit_dot := rfl
  sameLetter c d := c.toLower == d.toLower
  lower := String.toLower
  strptime text format := if format = "%d-%b-%Y" then Session.dayMonthYear text else none

/-- An entry of 5 January 2024. -/
def nseEntry (subject : String) : NseEntry where
  symbol := some "EXAMPLE"
  subject := some subject
  exDate := some "05-Jan-2024"

/-- A subject with a bonus of one share for one and a split of a share into two. -/
def bonusAndSplit : String := "Bonus 1:1 And Split From Rs 10/- Per Share To Rs 5/- Per Share"

/-- A face value that is only a dot raises; and of a bonus of one share for one and a split of a
share into two only the split is kept. -/
theorem dot_raises_and_split_hides_bonus :
    (¬ ∀ (lib : NseLib) (e : NseEntry) (exchange : String),
      ∃ result, parseNseEntry lib e exchange = .ok result) ∧
    ¬ ∀ (lib : NseLib) (e : NseEntry) (exchange symbol subject : String) (exDate : Date)
      (result : Option (CorporateAction String ℚ)),
      parseNseEntry lib e exchange = .ok result →
      lib.parseHead e = some (symbol, subject, exDate) →
      ∀ s b, splitFactor lib subject = some s → bonusFactor lib subject = some b →
        ∀ day : ℤ, day < exDate.toOrdinal → resultFactor result day = s * b := by
  refine ⟨?_, ?_⟩
  · intro h
    rcases h asciiLib (nseEntry "Split From Rs . Per Share To Re 1 Per Share") "NSE" with
      ⟨result, hresult⟩
    have hraises : parseNseEntry asciiLib (nseEntry "Split From Rs . Per Share To Re 1 Per Share")
        "NSE" = .error floatError := by rfl
    rw [hraises] at hresult
    cases hresult
  · intro h
    rcases (⟨_, rfl⟩ : ∃ exDate, Date.ofFields 2024 1 5 = some exDate) with ⟨exDate, hdate⟩
    have hhead : asciiLib.parseHead (nseEntry bonusAndSplit) =
        some ("EXAMPLE", bonusAndSplit, exDate) := by
      rw [← Option.some.inj hdate]
      decide +kernel
    have hsplit : splitFactor asciiLib bonusAndSplit = some (1 / 2) := by decide +kernel
    have hbonus : bonusFactor asciiLib bonusAndSplit = some (1 / 2) := by decide +kernel
    rcases parseSubject_cases asciiLib "EXAMPLE" bonusAndSplit exDate "NSE" with
      ⟨-, result, hresult, hfactor⟩ | ⟨-, hraises⟩
    · have hentry : parseNseEntry asciiLib (nseEntry bonusAndSplit) "NSE" = .ok result := by
        rw [parseNseEntry, hhead]
        exact hresult
      have hday : (exDate.toOrdinal : ℤ) - 1 < exDate.toOrdinal := by omega
      have hproduct := h asciiLib _ "NSE" _ _ _ result hentry hhead _ _ hsplit hbonus _ hday
      rw [hfactor _ hsplit _ hday] at hproduct
      exact absurd hproduct (by norm_num)
    · have hok : (parseSubject asciiLib "EXAMPLE" bonusAndSplit exDate "NSE").toBool = true := by
        rw [← Option.some.inj hdate]
        decide +kernel
      rw [hraises] at hok
      cases hok

end Intraday.Instruments
