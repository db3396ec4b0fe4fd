import Intraday.Core.Constants
import Intraday.Lib.Pages
import Intraday.Lib.PyValue
import Intraday.Sentiment.Models

/-!
# Intraday.Sentiment.Scorer — `shared/sentiment/scorer.py`

Headlines are scored in batches of at most twenty, one call of the LLM for each. A call that
fails, an answer that cannot be read and an element of an answer that cannot be read all give the
fallback, a neutral score with confidence 0; it looks like any other score.

Here a result that fell back is `none` until the score is built, and `Scored` remembers whether
the LLM gave the score. The source keeps the score only.
-/

namespace Intraday.Sentiment

open Intraday.Compliance (isSpace strip)
open Intraday.Core Intraday.Lib
open Intraday.Lib.Json (dictOf pyStr)

/-! ## One answer -/

/-- A score, a label and a confidence. -/
structure RawScore where
  score : ℚ
  label : SentimentLabel
  confidence : ℚ
  score_range : -1 ≤ score ∧ score ≤ 1
  confidence_range : 0 ≤ confidence ∧ confidence ≤ 1
deriving Repr

/-- The fallback: neutral, with confidence 0. -/
def fallback : RawScore :=
  { score := 0, label := .neutral, confidence := 0, score_range := by norm_num
    confidence_range := by norm_num }

/-- `_clamp`: `max(lo, min(hi, value))`, where a NaN is not less than `hi`. -/
def clamp (value : PyFloat) (lo hi : ℚ) : ℚ :=
  match value with
  | .nan => hi
  | .inf negative => if negative then lo else hi
  | .finite negative d => max lo (min hi (PyFloat.value negative d))

theorem clamp_range (value : PyFloat) {lo hi : ℚ} (h : lo ≤ hi) :
    lo ≤ clamp value lo hi ∧ clamp value lo hi ≤ hi := by
  cases value with
  | nan => exact ⟨h, le_refl hi⟩
  | inf negative => cases negative <;> simp [clamp, h]
  | finite negative d => exact ⟨le_max_left _ _, max_le h (min_le_left _ _)⟩

/-- What the scorer uses of Python: the built-ins, and `str.upper`. -/
structure Python where
  builtins : Builtins
  upper : String → String

/-- `0.5`. -/
def half : PyFloat := .finite false { digits := 5, exp := -1, normal := .inl (by decide) }

/-- The label of an element; anything else is neutral. -/
def labelOf (text : String) : SentimentLabel :=
  if text = "BULLISH" then .bullish else if text = "BEARISH" then .bearish else .neutral

/-- One element of an answer; `none` is the fallback. -/
def parseItem (py : Python) (item : Json) : Option RawScore :=
  match item with
  | .obj members =>
      let get := fun key default => ((dictOf members).get? key).getD default
      let text := fun value => pyStr py.builtins value
      match py.builtins.float (text (get "score" (.float .zero))),
          py.builtins.float (text (get "confidence" (.float half))) with
      | some rawScore, some rawConf =>
          some
            { score := clamp rawScore (-1) 1
              label := labelOf (strip (py.upper (text (get "label" (.str "NEUTRAL")))))
              confidence := clamp rawConf 0 1
              score_range := clamp_range rawScore (by norm_num)
              confidence_range := clamp_range rawConf (by norm_num) }
      | _, _ => none
  | _ => none

/-- The rest after an optional `json` and spaces. -/
def skipFence (cs : List Char) : List Char :=
  let rest := if cs.take 4 = ['j', 's', 'o', 'n'] then cs.drop 4 else cs
  rest.dropWhile isSpace

/-- The text without code fences, in at most `fuel` turns. -/
def stripFences : ℕ → List Char → List Char
  | 0, cs => cs
  | _ + 1, [] => []
  | fuel + 1, c :: cs =>
      if (c :: cs).take 3 = ['`', '`', '`'] then stripFences fuel (skipFence (cs.drop 2))
      else c :: stripFences fuel cs

/-- `_parse_llm_response`: one result for each of `n` headlines; `none` is the fallback. -/
def parseLlmResponse (py : Python) (content : String) (n : ℕ) : List (Option RawScore) :=
  let cleaned := strip (String.ofList (stripFences content.toList.length content.toList))
  let resultsRaw :=
    match py.builtins.loads cleaned with
    | some (.obj members) => ((dictOf members).get? "results").getD (.arr [])
    | some (.arr items) => .arr items
    | _ => .null
  match resultsRaw with
  | .arr items =>
      let scores := (items.take n).map (parseItem py)
      scores ++ List.replicate (n - scores.length) none
  | _ => List.replicate n none

theorem length_parseLlmResponse (py : Python) (content : String) (n : ℕ) :
    (parseLlmResponse py content n).length = n := by
  rw [parseLlmResponse]
  split
  · simp only [List.length_append, List.length_map, List.length_take, List.length_replicate]
    omega
  · exact List.length_replicate

/-! ## One call -/

/-- What a call of the LLM comes to: an exception of the call or in reading the response, or the
content of the response with the tokens that it reports. -/
inductive Answer where
  | raised
  | response (content : String) (tokens : ℕ)

/-- `_call_llm` on `n` headlines. -/
def callLlm (py : Python) (answer : Answer) (n : ℕ) : List (Option RawScore) × ℕ :=
  match answer with
  | .raised => (List.replicate n none, 0)
  | .response content tokens => (parseLlmResponse py content n, tokens)

theorem length_callLlm (py : Python) (answer : Answer) (n : ℕ) :
    (callLlm py answer n).1.length = n := by
  cases answer with
  | raised => exact List.length_replicate
  | response content tokens => exact length_parseLlmResponse py content n

/-! ## Batches -/

/-- A score, and whether the LLM gave it. -/
structure Scored where
  score : SentimentScore
  answered : Bool
deriving DecidableEq, Repr

/-- The score of a headline from its result. -/
def scoredOf (model text : String) (tokens : ℕ) (raw : Option RawScore) : Scored :=
  let r := raw.getD fallback
  { score :=
      { headline := text, score := r.score, label := r.label, confidence := r.confidence
        tokensUsed := tokens, fromCache := false, modelVersion := model
        score_range := r.score_range, confidence_range := r.confidence_range }
    answered := raw.isSome }

/-- One turn of the loop of `score_headlines_batch`. -/
def scoreBatch (py : Python) (model : String) (batch : List String) (answer : Answer) :
    List Scored × ℕ :=
  let (rawResults, batchTokens) := callLlm py answer batch.length
  let tokensPerHeadline := if 0 < batchTokens then batchTokens / batch.length else 0
  (List.zipWith (fun text raw => scoredOf model text tokensPerHeadline raw) batch rawResults,
    batchTokens)

/-- The batches of `SENTIMENT_BATCH_MAX_HEADLINES`. -/
def batches (texts : List String) : List (List String) :=
  let size := sentimentBatchMaxHeadlines
  (List.range ((texts.length + size - 1) / size)).map fun b => (texts.drop (size * b)).take size

/-- `score_headlines_batch`, where `answers` are those of the calls in order. -/
def scoreHeadlinesBatch (py : Python) (model : String) (texts : List String)
    (answers : ℕ → Answer) : List Scored × ℕ :=
  let perBatch := (batches texts).mapIdx fun b batch => scoreBatch py model batch (answers b)
  (perBatch.flatMap Prod.fst, (perBatch.map Prod.snd).sum)

/-! ## One score for each headline -/

section Batches

variable (py : Python) (model : String)

/-- The batches are the headlines. -/
theorem flatten_batches (texts : List String) : (batches texts).flatten = texts :=
  flatten_pages (by decide) texts

theorem zipWith_left {α β γ : Type} (f : α → β → γ) (g : γ → α) (h : ∀ a b, g (f a b) = a)
    {as : List α} {bs : List β} (hlen : bs.length = as.length) :
    (List.zipWith f as bs).map g = as := by
  induction as generalizing bs with
  | nil => simp
  | cons a as ih =>
      cases bs with
      | nil => cases hlen
      | cons b bs =>
          rw [List.zipWith_cons_cons, List.map_cons, h, ih (Nat.succ.inj hlen)]

/-- A batch is scored headline by headline. -/
theorem scoreBatch_headlines (batch : List String) (answer : Answer) :
    (scoreBatch py model batch answer).1.map (·.score.headline) = batch :=
  zipWith_left _ _ (fun _ _ => rfl) (length_callLlm py answer batch.length)

/-- All headlines are scored, in order. -/
theorem scoreHeadlinesBatch_headlines (texts : List String) (answers : ℕ → Answer) :
    (scoreHeadlinesBatch py model texts answers).1.map (·.score.headline) = texts := by
  have hbatches : ∀ (bs : List (List String)) (answers : ℕ → Answer),
      ((bs.mapIdx fun b batch => scoreBatch py model batch (answers b)).flatMap Prod.fst).map
        (·.score.headline) = bs.flatten := by
    intro bs
    induction bs with
    | nil => intro answers; rfl
    | cons batch bs ih =>
        intro answers
        rw [List.mapIdx_cons, List.flatMap_cons, List.map_append, scoreBatch_headlines,
          ih fun b => answers (b + 1), List.flatten_cons]
  rw [scoreHeadlinesBatch, hbatches, flatten_batches]

/-- Every score is a new one, and a fallback unless the LLM gave it. -/
theorem mem_scoreHeadlinesBatch {texts : List String} {answers : ℕ → Answer} {s : Scored}
    (h : s ∈ (scoreHeadlinesBatch py model texts answers).1) :
    s.score.fromCache = false ∧ (s.answered = false →
      s.score.score = 0 ∧ s.score.label = .neutral ∧ s.score.confidence = 0) := by
  rcases List.mem_flatMap.mp h with ⟨r, hr, hs⟩
  rcases List.mem_mapIdx.mp hr with ⟨b, hb, rfl⟩
  rcases List.mem_iff_getElem.mp hs with ⟨i, hi, rfl⟩
  simp only [scoreBatch, List.getElem_zipWith]
  refine ⟨rfl, ?_⟩
  intro hfailed
  rw [scoredOf, Option.isSome_eq_false_iff, Option.isNone_iff_eq_none] at hfailed
  rw [scoredOf, hfailed]
  exact ⟨rfl, rfl, rfl⟩

end Batches

end Intraday.Sentiment
