import Intraday.Lib.Pages
import Intraday.Sentiment.Lookup

/-!
# Intraday.Sentiment.Replies — the scorer, whatever the LLM replies

A call of the LLM that fails and a reply that cannot be read come to fallbacks, but not always: the
number of tokens is read where a `ValueError` is not caught, and the content is parsed where only a
`JSONDecodeError` is. Where nothing else is raised (`Answerable`), text `k` gets the result of
element `k % 20` of reply `k / 20` (`scoreHeadlinesBatch_eq`).
-/

namespace Intraday.Sentiment

open Intraday.Core Intraday.Lib
open Intraday.Lib.Json (pyStr)
open Intraday.Lib.Python (Exc)

/-! ## Replies -/

/-- A response: `usage.total_tokens`, if there is a usage, and for each choice `message.content`,
if there is a message. -/
structure Response where
  totalTokens : Option Json
  contents : List (Option Json)

/-- What a call of the LLM comes to. -/
inductive Reply where
  | raised
  | response (r : Response)

/-- An exception that `_call_llm` catches while it reads a response, or one that it does not. -/
inductive ReadExc where
  | caught
  | uncaught (e : Exc)

/-- The result in a score. -/
def SentimentScore.raw (s : SentimentScore) : RawScore :=
  { score := s.score, label := s.label, confidence := s.confidence
    score_range := s.score_range, confidence_range := s.confidence_range }

/-- The score of a text from its result. -/
def scoreOf (model text : String) (tokens : ℕ) (raw : RawScore) : SentimentScore :=
  (scoredOf model text tokens (some raw)).score

namespace RawAgent

variable {A : Type}

/-- `int(v)`: a `TypeError` is caught, a `ValueError` and an `OverflowError` are not. -/
def toInt (agent : RawAgent A) : Json → Except ReadExc ℤ
  | .null | .arr _ | .obj _ => .error .caught
  | .bool b => .ok (if b then 1 else 0)
  | .int i => .ok i
  | .float x =>
      match x.toInt with
      | .ok i => .ok i
      | .error e => .error (.uncaught e)
  | .str text =>
      match agent.intOf text with
      | some i => .ok i
      | none => .error (.uncaught (.other "invalid literal for int() with base 10"))

/-- `tokens` of a response. -/
def tokens (agent : RawAgent A) (r : Response) : Except ReadExc ℤ :=
  match r.totalTokens with
  | none => .ok 0
  | some v => agent.toInt v

/-- `content` of a response. -/
def content (agent : RawAgent A) (r : Response) : String :=
  match r.contents.head?.join with
  | some v => if v.truthy then pyStr agent.parser.python.builtins v else ""
  | none => ""

/-- `_call_llm`, on `n` headlines. -/
def callLlm (agent : RawAgent A) (reply : Reply) (n : ℕ) : Except Exc (List RawScore × ℤ) :=
  match reply with
  | .raised => .ok (List.replicate n fallback, 0)
  | .response r =>
      match agent.tokens r with
      | .error .caught => .ok (List.replicate n fallback, 0)
      | .error (.uncaught e) => .error e
      | .ok tokens =>
          (parseResponse agent.parser (agent.content r) n agent.model false).map fun parsed =>
            (parsed.map SentimentScore.raw, tokens)

/-- `tokens_per_headline`. -/
def tokensPerHeadline (batchTokens : ℤ) (n : ℕ) : ℕ :=
  if 0 < batchTokens then (batchTokens / n).toNat else 0

/-- One turn of the loop of `score_headlines_batch`. -/
def scoreBatch (agent : RawAgent A) (batch : List String) (reply : Reply) :
    Except Exc (List SentimentScore × ℤ) := do
  let (rawResults, batchTokens) ← agent.callLlm reply batch.length
  .ok (List.zipWith (scoreOf agent.model · (tokensPerHeadline batchTokens batch.length)) batch
    rawResults, batchTokens)

/-- `score_headlines_batch`, where `replies` are those to the calls in order. -/
def scoreHeadlinesBatch (agent : RawAgent A) (texts : List String) (replies : ℕ → Reply) :
    Except Exc (List SentimentScore × ℤ) :=
  (batches texts).zipIdx.foldlM (fun total p => do
    let new ← agent.scoreBatch p.1 (replies p.2)
    .ok (total.1 ++ new.1, total.2 + new.2)) ([], 0)

/-! ## What is read from a reply -/

/-- Reading the reply raises nothing that is not caught. -/
structure Answerable (agent : RawAgent A) (reply : Reply) : Prop where
  tokens : ∀ r, reply = .response r → ∀ e, agent.tokens r ≠ .error (.uncaught e)
  content : ∀ r t, reply = .response r → agent.tokens r = .ok t →
    ∀ e, agent.parser.loads (cleaned (agent.content r)) ≠ .error (.other e)

/-- The tokens that a reply reports. -/
def tokensOf (agent : RawAgent A) : Reply → ℤ
  | .raised => 0
  | .response r => (agent.tokens r).toOption.getD 0

/-- The elements of a reply. -/
def elementsOf (agent : RawAgent A) : Reply → List Json
  | .raised => []
  | .response r =>
      if (agent.tokens r).isOk then elements agent.parser (agent.content r) else []

/-- The result in place `j` of a reply. -/
def resultOf (agent : RawAgent A) (reply : Reply) (j : ℕ) : RawScore :=
  ((agent.elementsOf reply)[j]?.bind (parseItem agent.parser.py)).getD fallback

/-- The score of a text which is in place `j` of a batch of `n`. -/
def batchScore (agent : RawAgent A) (reply : Reply) (n j : ℕ) (text : String) : SentimentScore :=
  scoreOf agent.model text (tokensPerHeadline (agent.tokensOf reply) n) (agent.resultOf reply j)

section Scores

variable {agent : RawAgent A} {reply : Reply} {n : ℕ}

theorem elementsOf_ok {r : Response} {t : ℤ} (h : agent.tokens r = .ok t) :
    agent.elementsOf (.response r) = elements agent.parser (agent.content r) := by
  rw [elementsOf, h]
  rfl

theorem elementsOf_error {r : Response} {e : ReadExc} (h : agent.tokens r = .error e) :
    agent.elementsOf (.response r) = [] := by
  rw [elementsOf, h]
  rfl

theorem tokensOf_ok {r : Response} {t : ℤ} (h : agent.tokens r = .ok t) :
    agent.tokensOf (.response r) = t := by
  rw [tokensOf, h]
  rfl

theorem tokensOf_error {r : Response} {e : ReadExc} (h : agent.tokens r = .error e) :
    agent.tokensOf (.response r) = 0 := by
  rw [tokensOf, h]
  rfl

theorem map_range_fallback (n : ℕ) (f : ℕ → RawScore) (h : ∀ j, f j = fallback) :
    (List.range n).map f = List.replicate n fallback := by
  rw [funext h, List.map_const', List.length_range]

/-- A call that returns gives the result of every place. -/
theorem callLlm_eq (h : agent.Answerable reply) (n : ℕ) :
    agent.callLlm reply n =
      .ok ((List.range n).map (agent.resultOf reply), agent.tokensOf reply) := by
  cases reply with
  | raised =>
      rw [map_range_fallback n (agent.resultOf .raised) fun _ => rfl]
      rfl
  | response r =>
      have htokens := h.tokens r rfl
      have hcontent := h.content r
      cases hread : agent.tokens r with
      | error e =>
          cases e with
          | uncaught e => exact absurd hread (htokens e)
          | caught =>
              have hfallback : ∀ j, agent.resultOf (.response r) j = fallback := by
                intro j
                rw [resultOf, elementsOf_error hread]
                rfl
              rw [map_range_fallback n _ hfallback, tokensOf_error hread]
              simp only [callLlm, hread]
      | ok t =>
          have hparse : ∃ parsed,
              parseResponse agent.parser (agent.content r) n agent.model false = .ok parsed :=
            exists_parseResponse_iff.mpr (hcontent t rfl hread)
          rcases hparse with ⟨parsed, hparsed⟩
          simp only [callLlm, hread, hparsed, Except.map, tokensOf_ok hread]
          refine congrArg (fun results => Except.ok (results, t)) ?_
          -- place by place, what the parser gives is the result
          refine List.ext_getElem? ?_
          intro j
          rw [List.getElem?_map, List.getElem?_map]
          by_cases hj : j < n
          · rw [getElem?_parseResponse hparsed hj, List.getElem?_range hj, Option.map_some,
              Option.map_some, resultOf, elementsOf_ok hread]
            rfl
          · rw [List.getElem?_eq_none (by rw [length_parseResponse hparsed]; omega),
              List.getElem?_eq_none (by rw [List.length_range]; omega)]
            rfl

/-- A call raises only what is not caught. -/
theorem exists_callLlm_iff :
    (∃ results, agent.callLlm reply n = .ok results) ↔ agent.Answerable reply := by
  constructor
  · rintro ⟨results, h⟩
    refine { tokens := ?_, content := ?_ }
    · rintro r rfl e he
      simp only [callLlm, he] at h
      cases h
    · rintro r t rfl ht e he
      simp only [callLlm, ht] at h
      rcases exists_of_map_ok h with ⟨parsed, hparsed, -⟩
      exact exists_parseResponse_iff.mp ⟨parsed, hparsed⟩ e he
  · intro h
    exact ⟨_, callLlm_eq h n⟩

/-- A batch is scored place by place. -/
theorem scoreBatch_eq (h : agent.Answerable reply) (batch : List String) :
    agent.scoreBatch batch reply =
      .ok (batch.mapIdx (agent.batchScore reply batch.length), agent.tokensOf reply) := by
  rw [scoreBatch, callLlm_eq h]
  refine congrArg (fun scores => Except.ok (scores, agent.tokensOf reply)) ?_
  refine List.ext_getElem? ?_
  intro j
  rw [List.getElem?_zipWith, List.getElem?_map, List.getElem?_mapIdx]
  by_cases hj : j < batch.length
  · rw [List.getElem?_range hj, List.getElem?_eq_getElem hj]
    rfl
  · rw [List.getElem?_eq_none (Nat.not_lt.mp hj)]
    rfl

theorem exists_scoreBatch_iff {batch : List String} :
    (∃ new, agent.scoreBatch batch reply = .ok new) ↔ agent.Answerable reply := by
  constructor
  · rintro ⟨new, h⟩
    rcases bind_eq_ok_iff.mp h with ⟨results, hresults, -⟩
    exact exists_callLlm_iff.mp ⟨results, hresults⟩
  · intro h
    exact ⟨_, scoreBatch_eq h batch⟩

end Scores

/-! ## All batches -/

/-- How many calls score `m` texts. -/
def callCount (m : ℕ) : ℕ :=
  (m + sentimentBatchMaxHeadlines - 1) / sentimentBatchMaxHeadlines

/-- How many of `m` texts are in batch `b`. -/
def batchLength (m b : ℕ) : ℕ :=
  min sentimentBatchMaxHeadlines (m - sentimentBatchMaxHeadlines * b)

/-- The tokens that the replies to `m` texts report. -/
def reportedTokens (agent : RawAgent A) (replies : ℕ → Reply) (m : ℕ) : ℤ :=
  ((List.range (callCount m)).map fun b => agent.tokensOf (replies b)).sum

/-- The score of text `k` of `m`. -/
def textScore (agent : RawAgent A) (replies : ℕ → Reply) (m k : ℕ) (text : String) :
    SentimentScore :=
  agent.batchScore (replies (k / sentimentBatchMaxHeadlines))
    (batchLength m (k / sentimentBatchMaxHeadlines)) (k % sentimentBatchMaxHeadlines) text

section AllBatches

variable {agent : RawAgent A} {texts : List String} {replies : ℕ → Reply}

theorem zipIdx_batches (texts : List String) :
    (batches texts).zipIdx = (List.range (callCount texts.length)).map fun b =>
      ((texts.drop (sentimentBatchMaxHeadlines * b)).take sentimentBatchMaxHeadlines, b) :=
  zipIdx_pages sentimentBatchMaxHeadlines texts

theorem mem_zipIdx_batches {p : List String × ℕ} (h : p ∈ (batches texts).zipIdx) :
    p.2 < callCount texts.length ∧ p.1.length = batchLength texts.length p.2 := by
  rw [zipIdx_batches] at h
  rcases List.mem_map.mp h with ⟨b, hb, rfl⟩
  refine ⟨List.mem_range.mp hb, ?_⟩
  rw [List.length_take, List.length_drop]
  rfl

/-- The scores and the tokens of the batches, added up. -/
theorem foldl_total {β : Type} (items : List β) (f : β → List SentimentScore × ℤ)
    (total : List SentimentScore × ℤ) :
    (items.zip (items.map f)).foldl
        (fun total p => (total.1 ++ p.2.1, total.2 + p.2.2)) total =
      (total.1 ++ items.flatMap fun i => (f i).1,
        total.2 + (items.map fun i => (f i).2).sum) := by
  induction items generalizing total with
  | nil => simp
  | cons i items ih =>
      rw [List.map_cons, List.zip_cons_cons, List.foldl_cons, ih, List.flatMap_cons, List.map_cons,
        List.sum_cons, List.append_assoc, add_assoc]

/-- The scores of the batches are those of the texts. -/
theorem flatMap_batchScore (agent : RawAgent A) (texts : List String) (replies : ℕ → Reply) :
    ((batches texts).zipIdx.flatMap fun p =>
      p.1.mapIdx (agent.batchScore (replies p.2) p.1.length)) =
        texts.mapIdx (agent.textScore replies texts.length) := by
  refine Eq.trans ?_ (flatMap_pages (by decide) (fun b j =>
    agent.batchScore (replies b) (batchLength texts.length b) j) texts)
  refine List.flatMap_congr ?_
  intro p hp
  rw [(mem_zipIdx_batches hp).2]

theorem sum_tokensOf (agent : RawAgent A) (texts : List String) (replies : ℕ → Reply) :
    ((batches texts).zipIdx.map fun p => agent.tokensOf (replies p.2)).sum =
      agent.reportedTokens replies texts.length := by
  rw [zipIdx_batches, List.map_map]
  rfl

/-- Every text is scored with the result that is in its place. -/
theorem scoreHeadlinesBatch_eq
    (h : ∀ b < callCount texts.length, agent.Answerable (replies b)) :
    agent.scoreHeadlinesBatch texts replies =
      .ok (texts.mapIdx (agent.textScore replies texts.length),
        agent.reportedTokens replies texts.length) := by
  have hread : (batches texts).zipIdx.mapM (fun p => agent.scoreBatch p.1 (replies p.2)) =
      .ok ((batches texts).zipIdx.map fun p =>
        (p.1.mapIdx (agent.batchScore (replies p.2) p.1.length), agent.tokensOf (replies p.2))) :=
    mapM_eq_map fun p hp => scoreBatch_eq (h p.2 (mem_zipIdx_batches hp).1) p.1
  rw [scoreHeadlinesBatch, foldlM_read, hread]
  simp only [Except.map]
  rw [foldl_total, flatMap_batchScore, sum_tokensOf, List.nil_append, zero_add]

/-- All batches are scored if their replies are answerable. -/
theorem exists_scoreHeadlinesBatch_iff :
    (∃ new, agent.scoreHeadlinesBatch texts replies = .ok new) ↔
      ∀ b < callCount texts.length, agent.Answerable (replies b) := by
  constructor
  · rintro ⟨new, h⟩ b hb
    rw [scoreHeadlinesBatch, foldlM_read, zipIdx_batches] at h
    rcases exists_of_map_ok h with ⟨all, hall, -⟩
    have hmem := List.mem_map_of_mem
      (f := fun b => ((texts.drop (sentimentBatchMaxHeadlines * b)).take
        sentimentBatchMaxHeadlines, b)) (List.mem_range.mpr hb)
    exact exists_scoreBatch_iff.mp (exists_of_mapM_ok hall _ hmem)
  · intro h
    exact ⟨_, scoreHeadlinesBatch_eq h⟩

end AllBatches

end RawAgent

end Intraday.Sentiment
