import Intraday.Sentiment.Scorer

/-!
# Intraday.Sentiment.Parsing — what an answer of the LLM is turned into

`_parse_llm_response` gives one score for each headline: that of the element of the same number, or
the fallback (`getElem?_parseResponse`). A number is clamped to its range, and so is one that is not
finite: NaN and the infinities become a score at the end of the range instead of the fallback
(`parsesSafely_iff`).
-/

namespace Intraday.Sentiment

open Intraday.Compliance (strip)
open Intraday.Lib
open Intraday.Lib.Json (dictOf pyStr)
open Intraday.Lib.Python (Exc)

/-! ## The parser -/

/-- Python with a `json.loads` that tells what it raises. -/
structure Parser where
  python : Python
  loads : String → Except LoadExc Json

/-- Python, to which every text that cannot be parsed is the same. -/
def Parser.py (p : Parser) : Python :=
  { p.python with
    builtins := { p.python.builtins with loads := fun text => (p.loads text).toOption } }

/-- The text that is parsed. -/
def cleaned (content : String) : String :=
  strip (String.ofList (stripFences content.toList.length content.toList))

/-- A `SentimentScore` of a headline by its number. -/
def sentimentScoreOf (modelVersion : String) (fromCache : Bool) (i : ℕ) (raw : Option RawScore) :
    SentimentScore :=
  { headline := "headline_" ++ toString i
    score := (raw.getD fallback).score
    label := (raw.getD fallback).label
    confidence := (raw.getD fallback).confidence
    tokensUsed := 0
    fromCache := fromCache
    modelVersion := modelVersion
    score_range := (raw.getD fallback).score_range
    confidence_range := (raw.getD fallback).confidence_range }

variable (p : Parser)

/-- `_parse_llm_response`; only a `JSONDecodeError` is caught. -/
def parseResponse (content : String) (n : ℕ) (modelVersion : String) (fromCache : Bool) :
    Except Exc (List SentimentScore) :=
  match p.loads (cleaned content) with
  | .error (.other e) => .error e
  | _ => .ok ((parseLlmResponse p.py content n).mapIdx (sentimentScoreOf modelVersion fromCache))

/-- The elements of an answer; of one that is no list, none. -/
def elements (content : String) : List Json :=
  match p.loads (cleaned content) with
  | .ok (.obj members) => match ((dictOf members).get? "results").getD (.arr []) with
    | .arr items => items
    | _ => []
  | .ok (.arr items) => items
  | _ => []

/-! ## One element -/

/-- `float(str(item.get("score", 0.0)))`. -/
def readScore (members : List (String × Json)) : Option PyFloat :=
  p.py.builtins.float (pyStr p.py.builtins (((dictOf members).get? "score").getD (.float .zero)))

/-- `float(str(item.get("confidence", 0.5)))`. -/
def readConfidence (members : List (String × Json)) : Option PyFloat :=
  p.py.builtins.float
    (pyStr p.py.builtins (((dictOf members).get? "confidence").getD (.float half)))

/-- The label of an object. -/
def readLabel (members : List (String × Json)) : SentimentLabel :=
  labelOf (strip (p.py.upper
    (pyStr p.py.builtins (((dictOf members).get? "label").getD (.str "NEUTRAL")))))

/-- The score and the confidence of the element are finite numbers. -/
def IsFiniteElement (item : Json) : Prop :=
  ∃ members x y, item = .obj members ∧ readScore p members = some x ∧
    readConfidence p members = some y ∧ x.isFinite = true ∧ y.isFinite = true

/-- An answer is parsed safely: there are `n` scores in their ranges, a score is a matter of the
element of its number, and the fallback stands for an element without finite numbers. -/
def ParsesSafely (content : String) (n : ℕ) (modelVersion : String) (fromCache : Bool) : Prop :=
  ∃ scores, parseResponse p content n modelVersion fromCache = .ok scores ∧ scores.length = n ∧
    (∀ s ∈ scores, (-1 ≤ s.score ∧ s.score ≤ 1) ∧ (0 ≤ s.confidence ∧ s.confidence ≤ 1) ∧
      s.label.value ∈ ["BULLISH", "BEARISH", "NEUTRAL"]) ∧
    (∀ content' n' scores', parseResponse p content' n' modelVersion fromCache = .ok scores' →
      ∀ i : ℕ, i < n → i < n' → (elements p content')[i]? = (elements p content)[i]? →
        scores'[i]? = scores[i]?) ∧
    ∀ (i : ℕ) item, i < n → (elements p content)[i]? = some item → ¬ IsFiniteElement p item →
      scores[i]? = some (sentimentScoreOf modelVersion fromCache i none)

/-- The element is no object, or its score or confidence cannot be read, or both are finite, or they
are clamped to what the fallback has. -/
def IsHarmless (item : Json) : Prop :=
  ∀ members x y, item = .obj members → readScore p members = some x →
    readConfidence p members = some y →
      (x.isFinite = true ∧ y.isFinite = true) ∨
        (x.eq .zero = true ∧ y = .inf true ∧ readLabel p members = .neutral)

variable {p}

/-- An object is read if its score and its confidence are. -/
theorem parseItem_obj (members : List (String × Json)) :
    parseItem p.py (.obj members) =
      (readScore p members).bind fun x => (readConfidence p members).map fun y =>
        { score := clamp x (-1) 1
          label := readLabel p members
          confidence := clamp y 0 1
          score_range := clamp_range x (by decide)
          confidence_range := clamp_range y (by decide) } := by
  unfold parseItem readScore readConfidence
  dsimp only
  split
  · rename_i hscore hconfidence
    rw [hscore, hconfidence]
    rfl
  · rename_i hnone
    cases hscore : p.py.builtins.float
        (pyStr p.py.builtins (((dictOf members).get? "score").getD (.float .zero))) with
    | none => rfl
    | some x =>
        cases hconfidence : p.py.builtins.float
            (pyStr p.py.builtins (((dictOf members).get? "confidence").getD (.float half))) with
        | none => rfl
        | some y => exact absurd hconfidence (hnone x y hscore)

/-! ## What a parse gives -/

/-- The result of a number is that of the element of the number. -/
theorem getElem?_parseLlmResponse (content : String) {n i : ℕ} (hi : i < n) :
    (parseLlmResponse p.py content n)[i]? =
      some ((elements p content)[i]?.bind (parseItem p.py)) := by
  -- the results of a list, which is cut or padded
  have hpad : ∀ items : List Json, ((items.take n).map (parseItem p.py) ++
      List.replicate (n - ((items.take n).map (parseItem p.py)).length) none)[i]? =
        some (items[i]?.bind (parseItem p.py)) := by
    intro items
    rw [List.length_map, List.length_take, List.getElem?_append, List.length_map, List.length_take]
    by_cases hlt : i < items.length
    · rw [if_pos (by omega), List.getElem?_map, List.getElem?_take_of_lt hi,
        List.getElem?_eq_getElem hlt]
      rfl
    · rw [if_neg (by omega), List.getElem?_replicate, if_pos (by omega),
        List.getElem?_eq_none (by omega)]
      rfl
  have hnone : (List.replicate n (none : Option RawScore))[i]? = some none := by
    rw [List.getElem?_replicate, if_pos hi]
  have hloads : p.py.builtins.loads (cleaned content) =
      (p.loads (cleaned content)).toOption := rfl
  unfold parseLlmResponse elements
  unfold cleaned at hloads ⊢
  dsimp only
  rw [hloads]
  cases p.loads (strip (String.ofList (stripFences content.toList.length content.toList))) with
  | error e => exact hnone
  | ok v =>
      cases v with
      | arr items => exact hpad items
      | obj members =>
          simp only [Except.toOption]
          cases ((dictOf members).get? "results").getD (.arr []) with
          | arr items => exact hpad items
          | null | bool | int | float | str | obj => exact hnone
      | null | bool | int | float | str => exact hnone

/-- A parse raises only what `json.loads` raises and nothing catches. -/
theorem exists_parseResponse_iff {content : String} {n : ℕ} {modelVersion : String}
    {fromCache : Bool} :
    (∃ scores, parseResponse p content n modelVersion fromCache = .ok scores) ↔
      ∀ e, p.loads (cleaned content) ≠ .error (.other e) := by
  unfold parseResponse
  split
  · rename_i e he
    constructor
    · rintro ⟨scores, h⟩
      cases h
    · exact fun h => absurd he (h e)
  · rename_i hother
    exact ⟨fun _ => hother, fun _ => ⟨_, rfl⟩⟩

variable {content : String} {n : ℕ} {modelVersion : String} {fromCache : Bool}
  {scores : List SentimentScore}

theorem parseResponse_eq (h : parseResponse p content n modelVersion fromCache = .ok scores) :
    scores =
      (parseLlmResponse p.py content n).mapIdx (sentimentScoreOf modelVersion fromCache) := by
  unfold parseResponse at h
  split at h
  · cases h
  · exact (Except.ok.inj h).symm

theorem length_parseResponse
    (h : parseResponse p content n modelVersion fromCache = .ok scores) : scores.length = n := by
  rw [parseResponse_eq h, List.length_mapIdx, length_parseLlmResponse]

theorem getElem?_parseResponse
    (h : parseResponse p content n modelVersion fromCache = .ok scores) {i : ℕ} (hi : i < n) :
    scores[i]? = some (sentimentScoreOf modelVersion fromCache i
      ((elements p content)[i]?.bind (parseItem p.py))) := by
  rw [parseResponse_eq h, List.getElem?_mapIdx, getElem?_parseLlmResponse content hi,
    Option.map_some]

/-! ## Numbers that are not finite -/

/-- A result looks like the fallback if it has its score, its label and its confidence. -/
theorem sentimentScoreOf_eq_none_iff {i : ℕ} {raw : RawScore} :
    sentimentScoreOf modelVersion fromCache i (some raw) =
        sentimentScoreOf modelVersion fromCache i none ↔
      raw.score = 0 ∧ raw.label = .neutral ∧ raw.confidence = 0 := by
  simp [sentimentScoreOf, fallback]

/-- A score is clamped to zero exactly if it is zero. -/
theorem clamp_score_eq_zero_iff {x : PyFloat} : clamp x (-1) 1 = 0 ↔ x.eq .zero = true := by
  cases x with
  | nan => simp [clamp, PyFloat.eq, PyFloat.le]
  | inf negative => cases negative <;> simp [clamp, PyFloat.eq, PyFloat.le, PyFloat.zero]
  | finite negative d =>
      have hzero :
          PyFloat.value false { digits := 0, exp := 0, normal := .inr ⟨rfl, rfl⟩ } = 0 := by
        norm_num [PyFloat.value]
      have heq : (PyFloat.finite negative d).eq .zero = true ↔ PyFloat.value negative d = 0 := by
        rw [PyFloat.eq, Bool.and_eq_true, PyFloat.zero]
        simp only [PyFloat.le, hzero, decide_eq_true_eq]
        exact le_antisymm_iff.symm
      rw [heq, clamp]
      constructor
      · intro h
        rcases max_choice (-1 : ℚ) (min 1 (PyFloat.value negative d)) with hmax | hmax
        · rw [hmax] at h
          norm_num at h
        · rw [hmax] at h
          rcases min_choice (1 : ℚ) (PyFloat.value negative d) with hmin | hmin
          · rw [hmin] at h
            norm_num at h
          · rw [← hmin, h]
      · intro h
        rw [h]
        norm_num

theorem isFinite_of_eq_zero {x : PyFloat} (h : x.eq .zero = true) : x.isFinite = true := by
  cases x with
  | nan => cases h
  | inf negative => cases negative <;> cases h
  | finite negative d => rfl

/-- Of the numbers that are not finite only one is clamped to the confidence of the fallback. -/
theorem clamp_confidence_eq_zero_iff {y : PyFloat} (hy : y.isFinite = false) :
    clamp y 0 1 = 0 ↔ y = .inf true := by
  cases y with
  | nan => simp [clamp]
  | inf negative => cases negative <;> simp [clamp]
  | finite negative d => cases hy

/-- An element without finite numbers falls back exactly if it is harmless. -/
theorem fallsBack_iff {item : Json} (hitem : ¬ IsFiniteElement p item) (i : ℕ) :
    sentimentScoreOf modelVersion fromCache i (parseItem p.py item) =
        sentimentScoreOf modelVersion fromCache i none ↔ IsHarmless p item := by
  cases item with
  | obj members =>
      rw [parseItem_obj]
      cases hscore : readScore p members with
      | none =>
          refine iff_of_true rfl ?_
          rintro _ x y ⟨rfl⟩ hx -
          rw [hscore] at hx
          cases hx
      | some x =>
          cases hconfidence : readConfidence p members with
          | none =>
              refine iff_of_true rfl ?_
              rintro _ x y ⟨rfl⟩ - hy
              rw [hconfidence] at hy
              cases hy
          | some y =>
              -- both are read, so the numbers decide
              have hfinite : ¬ (x.isFinite = true ∧ y.isFinite = true) := fun h =>
                hitem ⟨members, x, y, rfl, hscore, hconfidence, h.1, h.2⟩
              rw [Option.bind_some, Option.map_some, sentimentScoreOf_eq_none_iff]
              dsimp only
              rw [clamp_score_eq_zero_iff]
              constructor
              · rintro ⟨hx, hlabel, hy⟩ _ x' y' ⟨rfl⟩ hx' hy'
                rw [hscore] at hx'
                rw [hconfidence] at hy'
                rw [← Option.some.inj hx', ← Option.some.inj hy']
                -- zero is finite, so the confidence is not
                have hxfinite : x.isFinite = true := isFinite_of_eq_zero hx
                have hyinfinite : y.isFinite = false :=
                  Bool.eq_false_iff.mpr fun h => hfinite ⟨hxfinite, h⟩
                exact Or.inr ⟨hx, (clamp_confidence_eq_zero_iff hyinfinite).mp hy, hlabel⟩
              · intro h
                rcases h members x y rfl hscore hconfidence with hboth | ⟨hx, rfl, hlabel⟩
                · exact absurd hboth hfinite
                · exact ⟨hx, hlabel, (clamp_confidence_eq_zero_iff rfl).mpr rfl⟩
  | null | bool | int | float | str | arr =>
      refine iff_of_true rfl ?_
      rintro _ x y ⟨⟩

/-- An answer is parsed safely exactly if `json.loads` raises nothing but a `JSONDecodeError`, and
the elements of the headlines are harmless. -/
theorem parsesSafely_iff (p : Parser) (content : String) (n : ℕ) (modelVersion : String)
    (fromCache : Bool) :
    ParsesSafely p content n modelVersion fromCache ↔
      (∀ e, p.loads (cleaned content) ≠ .error (.other e)) ∧
        ∀ (i : ℕ) item, i < n → (elements p content)[i]? = some item → IsHarmless p item := by
  have hget : ∀ {scores}, parseResponse p content n modelVersion fromCache = .ok scores →
      ∀ {i : ℕ} {item}, i < n → (elements p content)[i]? = some item →
        scores[i]? = some (sentimentScoreOf modelVersion fromCache i (parseItem p.py item)) := by
    intro scores hscores i item hi hitem
    rw [getElem?_parseResponse hscores hi, hitem, Option.bind_some]
  constructor
  · rintro ⟨scores, hscores, -, -, -, hfallback⟩
    refine ⟨exists_parseResponse_iff.mp ⟨scores, hscores⟩, ?_⟩
    intro i item hi hitem
    by_cases hfinite : IsFiniteElement p item
    · rcases hfinite with ⟨members, x, y, rfl, hx, hy, hxfinite, hyfinite⟩
      rintro _ x' y' ⟨rfl⟩ hx' hy'
      rw [hx] at hx'
      rw [hy] at hy'
      rw [← Option.some.inj hx', ← Option.some.inj hy']
      exact Or.inl ⟨hxfinite, hyfinite⟩
    · rw [← fallsBack_iff hfinite i]
      exact Option.some.inj ((hget hscores hi hitem).symm.trans (hfallback i item hi hitem hfinite))
  · rintro ⟨hloads, hharmless⟩
    rcases exists_parseResponse_iff.mpr hloads with ⟨scores, hscores⟩
    refine ⟨scores, hscores, length_parseResponse hscores, ?_, ?_, ?_⟩
    · intro s _
      refine ⟨s.score_range, s.confidence_range, ?_⟩
      cases s.label <;> decide
    · intro content' n' scores' hscores' i hi hi' hsame
      rw [getElem?_parseResponse hscores hi, getElem?_parseResponse hscores' hi', hsame]
    · intro i item hi hitem hfinite
      rw [hget hscores hi hitem, (fallsBack_iff hfinite i).mpr (hharmless i item hi hitem)]

/-! ## An answer with a NaN -/

/-- A parser that writes and reads floats as JSON does, but for the name of NaN. -/
def nanParser : Parser where
  python :=
    { builtins :=
        { float := fun text =>
            if text = "nan" then some .nan
            else
              match Json.loads text with
              | some (.float x) => some x
              | _ => none
          loads := Json.loads
          divide := fun x _ => x
          multiply := fun x _ => x
          toFloat := fun _ => .zero
          repr := fun v =>
            match v with
            | .float .nan => "nan"
            | v => v.dumps }
      upper := String.toUpper }
  loads text :=
    match Json.loads text with
    | none => .error .jsonDecodeError
    | some v => .ok v

/-- The score of an element, if it is an object with one. -/
def elementScore (p : Parser) : Json → Option PyFloat
  | .obj members => readScore p members
  | _ => none

/-- An answer for one headline. -/
def nanAnswer : String :=
  "[\x7b\"score\": NaN, \"label\": \"BEARISH\", \"confidence\": 0.9\x7d]"

/-- A score of NaN becomes the most bullish one. -/
theorem nan_not_parsesSafely :
    ¬ ParsesSafely nanParser nanAnswer 1 "groq/llama-3.1-8b-instant" false := by
  rintro ⟨scores, hscores, -, -, -, hfallback⟩
  have hresult :
      (parseResponse nanParser nanAnswer 1 "groq/llama-3.1-8b-instant" false).toOption.map
        (fun scores => scores.map SentimentScore.score) = some [1] := by decide +kernel
  have hread :
      (elements nanParser nanAnswer)[0]?.map (elementScore nanParser) = some (some .nan) := by
    decide +kernel
  rcases Option.map_eq_some_iff.mp hread with ⟨item, hitem, hnan⟩
  have hfirst := hfallback 0 item one_pos hitem (by
    rintro ⟨members, x, y, rfl, hx, -, hfinite, -⟩
    rw [elementScore, hx] at hnan
    rw [Option.some.inj hnan] at hfinite
    cases hfinite)
  rw [hscores] at hresult
  have hone : scores.map SentimentScore.score = [1] := Option.some.inj hresult
  have hscore : (scores.map SentimentScore.score)[0]? = some 0 := by
    rw [List.getElem?_map, hfirst]
    rfl
  rw [hone] at hscore
  exact absurd hscore (by decide +kernel)

end Intraday.Sentiment
