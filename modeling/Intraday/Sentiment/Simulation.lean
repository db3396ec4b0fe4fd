import Mathlib.Algebra.BigOperators.Ring.Finset
import Intraday.Sentiment.Alignment

/-!
# Intraday.Sentiment.Simulation — the two models of a run

`Agent` has entries and answers where `Alignment` has what Redis holds and what the LLM replies.
Where the entries say what the lookups give, and the answers what is read from the replies, the two
runs are the same (`run_simulates`), so what holds of the runs of an `Agent` holds of the code as
long as nothing raises.
-/

namespace Intraday.Sentiment

open Intraday.Core Intraday.Lib

/-! ## Placeholders -/

/-- A placeholder gets the new value of its rank. -/
theorem getElem?_fill {α : Type} (xs : List (Option α)) (new : List α) (i : ℕ) :
    (fill xs new)[i]? = xs[i]?.map fun x => x.or new[rank Option.isNone xs i]? := by
  -- by the recursion of `fill`, which takes a new value at each placeholder
  induction xs, new using fill.induct generalizing i with
  | case1 new => rfl
  | case2 x rest new ih =>
      cases i with
      | zero => rfl
      | succ i =>
          rw [fill, List.getElem?_cons_succ, List.getElem?_cons_succ, ih i, rank, rank,
            List.take_succ_cons, List.countP_cons_of_neg (by simp)]
  | case3 rest x new ih =>
      cases i with
      | zero => rfl
      | succ i =>
          rw [fill, List.getElem?_cons_succ, List.getElem?_cons_succ, ih i, rank, rank,
            List.take_succ_cons, List.countP_cons_of_pos rfl, List.getElem?_cons_succ]
  | case4 rest ih =>
      cases i with
      | zero => rfl
      | succ i => rw [fill, List.getElem?_cons_succ, List.getElem?_cons_succ, ih i]; rfl

theorem rank_map {α β : Type} (p : β → Bool) (f : α → β) (xs : List α) (i : ℕ) :
    rank p (xs.map f) i = rank (p ∘ f) xs i := by
  rw [rank, ← List.map_take, List.countP_map, rank]

namespace RawAgent

variable {A : Type}

/-! ## Answers -/

/-- What is read from a reply. -/
def answerOf (agent : RawAgent A) : Reply → Answer
  | .raised => .raised
  | .response r =>
      match agent.tokens r with
      | .ok tokens => .response (agent.content r) tokens.toNat
      | .error _ => .raised

section Answers

variable {agent : RawAgent A} {reply : Reply}

/-- The answer has the results of the reply. -/
theorem callLlm_answerOf (agent : RawAgent A) (reply : Reply) (n : ℕ) :
    Sentiment.callLlm agent.parser.py (agent.answerOf reply) n =
      ((List.range n).map fun j =>
        (agent.elementsOf reply)[j]?.bind (parseItem agent.parser.py),
        (agent.tokensOf reply).toNat) := by
  have hnone : ∀ elements : List Json, elements = [] →
      (List.range n).map (fun j => elements[j]?.bind (parseItem agent.parser.py)) =
        List.replicate n none := by
    rintro _ rfl
    exact (List.map_const' ..).trans (by rw [List.length_range])
  cases reply with
  | raised =>
      rw [hnone (agent.elementsOf .raised) rfl]
      rfl
  | response r =>
      cases hread : agent.tokens r with
      | error e =>
          -- what raises, and is caught, is answered by fallbacks
          rw [hnone _ (elementsOf_error hread), tokensOf_error hread]
          simp only [answerOf, hread]
          rfl
      | ok t =>
          rw [elementsOf_ok hread, tokensOf_ok hread]
          simp only [answerOf, hread, Sentiment.callLlm]
          refine congrArg (fun results => (results, t.toNat)) ?_
          refine List.ext_getElem? ?_
          intro j
          by_cases hj : j < n
          · rw [getElem?_parseLlmResponse _ hj, List.getElem?_map, List.getElem?_range hj]
            rfl
          · rw [List.getElem?_eq_none (by rw [length_parseLlmResponse]; omega),
              List.getElem?_eq_none (by rw [List.length_map, List.length_range]; omega)]

/-- A batch has the same scores and the same tokens. -/
theorem scoreBatch_answerOf (htokens : 0 ≤ agent.tokensOf reply) (batch : List String) :
    (Sentiment.scoreBatch agent.parser.py agent.model batch (agent.answerOf reply)).1.map
        (·.score) = batch.mapIdx (agent.batchScore reply batch.length) ∧
      ((Sentiment.scoreBatch agent.parser.py agent.model batch (agent.answerOf reply)).2 : ℤ) =
        agent.tokensOf reply := by
  -- the quotient of the integers is that of the natural numbers
  rcases Int.eq_ofNat_of_zero_le htokens with ⟨t, ht⟩
  have hper : (if 0 < t then t / batch.length else 0) =
      tokensPerHeadline (agent.tokensOf reply) batch.length := by
    rw [tokensPerHeadline, ht]
    by_cases hpos : 0 < t
    · rw [if_pos hpos, if_pos (Int.natCast_pos.mpr hpos), ← Int.natCast_ediv, Int.toNat_natCast]
    · rw [if_neg hpos, if_neg (mt Int.natCast_pos.mp hpos)]
  constructor
  · rw [Sentiment.scoreBatch, callLlm_answerOf]
    simp only [ht, Int.toNat_natCast]
    refine List.ext_getElem? ?_
    intro j
    rw [List.getElem?_map, List.getElem?_zipWith, List.getElem?_map, List.getElem?_mapIdx]
    by_cases hj : j < batch.length
    · rw [List.getElem?_range hj, List.getElem?_eq_getElem hj, hper]
      rfl
    · rw [List.getElem?_eq_none (Nat.not_lt.mp hj)]
      rfl
  · rw [Sentiment.scoreBatch, callLlm_answerOf]
    exact Int.toNat_of_nonneg htokens

end Answers

/-! ## Runs -/

/-- The run of an agent with entries and answers stands for this one. -/
structure Represents (agent : RawAgent A) (input : RawInput) (abstract : Agent) (cache : Cache)
    (run : RunInput) : Prop where
  python : abstract.python = agent.parser.py
  model : abstract.model = agent.model
  exchange : run.exchange = input.exchange
  headlines : run.headlines = input.headlines
  lookups : ∀ p ∈ input.headlines.zipIdx,
    agent.lookupAt input p = .ok ((lookup abstract cache run.now p.1).map Entry.cached)
  answers : ∀ b, run.answers b = agent.answerOf (input.replies b)
  tokens : ∀ b, 0 ≤ agent.tokensOf (input.replies b)

end RawAgent

/-- The result of a run, with its tokens as an integer. -/
def MarketSentiment.raw (m : MarketSentiment) : RawSentiment :=
  { exchange := m.exchange, headlines := m.headlines, scores := m.scores
    aggregateScore := m.aggregateScore, totalTokensUsed := m.totalTokensUsed
    totalCostUsd := m.totalCostUsd, cacheHits := m.cacheHits, cacheMisses := m.cacheMisses }

namespace RawAgent

section Runs

variable {A : Type} {agent : RawAgent A} {input : RawInput} {abstract : Agent} {cache : Cache}
  {runInput : RunInput}

/-- The answers of the cache are the same. -/
theorem answered_eq (h : Represents agent input abstract cache runInput) :
    agent.answered input = runInput.headlines.map fun headline =>
      (headline, (lookup abstract cache runInput.now headline).map Entry.cached) := by
  -- the position does not matter, as the cache is the same for all lookups
  have hcached : ∀ p ∈ input.headlines.zipIdx, (p.1, agent.cachedAt input p) =
      (p.1, (lookup abstract cache runInput.now p.1).map Entry.cached) := by
    intro p hp
    rw [cachedAt, h.lookups p hp]
    rfl
  calc input.headlines.zipIdx.map (fun p => (p.1, agent.cachedAt input p))
      = input.headlines.zipIdx.map fun p =>
          (p.1, (lookup abstract cache runInput.now p.1).map Entry.cached) :=
        List.map_congr_left hcached
    _ = (input.headlines.zipIdx.map Prod.fst).map fun headline =>
          (headline, (lookup abstract cache runInput.now headline).map Entry.cached) := by
        rw [List.map_map]
        rfl
    _ = runInput.headlines.map fun headline =>
          (headline, (lookup abstract cache runInput.now headline).map Entry.cached) := by
        rw [List.zipIdx_map_fst, h.headlines]

/-- The same texts are scored. -/
theorem toScoreTexts_eq (h : Represents agent input abstract cache runInput) :
    Sentiment.toScoreTexts abstract cache runInput = agent.toScoreTexts input := by
  have hmiss : isMiss ∘ (fun headline : Headline =>
      (headline, (lookup abstract cache runInput.now headline).map Entry.cached)) =
        fun headline => (lookup abstract cache runInput.now headline).isNone := by
    funext headline
    exact Option.isNone_map
  rw [toScoreTexts, answered_eq h, List.filter_map, hmiss, List.map_map]
  rfl

/-- The texts get the same scores, for the same tokens. -/
theorem newScores_eq (h : Represents agent input abstract cache runInput) :
    (newScores abstract cache runInput).1.map (·.score) =
        (agent.toScoreTexts input).mapIdx
          (agent.textScore input.replies (agent.missCount input)) ∧
      ((newScores abstract cache runInput).2 : ℤ) =
        agent.reportedTokens input.replies (agent.missCount input) := by
  have hbatch : ∀ p : List String × ℕ, _ := fun p =>
    scoreBatch_answerOf (h.tokens p.2) p.1
  rw [← length_toScoreTexts, ← flatMap_batchScore, ← sum_tokensOf, newScores, toScoreTexts_eq h,
    h.python, h.model, Sentiment.scoreHeadlinesBatch, List.mapIdx_eq_zipIdx_map]
  simp only [h.answers, List.flatMap_map, List.map_flatMap, List.map_map]
  constructor
  · exact List.flatMap_congr fun p _ => (hbatch p).1
  · rw [Nat.cast_list_sum, List.map_map]
    exact congrArg List.sum (List.map_congr_left fun p _ => (hbatch p).2)

/-- The scores are the same, in the same places. -/
theorem runScores_eq (h : Represents agent input abstract cache runInput) :
    runScores abstract cache runInput = agent.alignedScores input := by
  have hcached : (runInput.headlines.map fun headline =>
      (lookup abstract cache runInput.now headline).map Entry.cached) =
        (agent.answered input).map Prod.snd := by
    rw [answered_eq h, List.map_map]
    rfl
  have hfill : fill ((agent.answered input).map Prod.snd)
      ((agent.toScoreTexts input).mapIdx
        (agent.textScore input.replies (agent.missCount input))) =
          (agent.alignedScores input).map some := by
    refine List.ext_getElem? ?_
    intro i
    rw [getElem?_fill, rank_map, List.getElem?_map, List.getElem?_map, alignedScores,
      List.getElem?_mapIdx, List.getElem?_mapIdx]
    cases hi : (agent.answered input)[i]? with
    | none => rfl
    | some p =>
        rcases p with ⟨headline, cached⟩
        cases cached with
        | some score => rfl
        | none =>
            -- the rank among the placeholders is the one among the misses
            have htext : (agent.toScoreTexts input)[rank (Option.isNone ∘ Prod.snd)
                (agent.answered input) i]? = some headline.text := getElem?_toScoreTexts hi
            rw [htext]
            rfl
  rw [runScores, hcached, (newScores_eq h).1, hfill, List.filterMap_map]
  exact List.filterMap_some

/-- Where nothing raises, a run is that of the agent that stands for it. -/
theorem run_simulates (h : Represents agent input abstract cache runInput)
    (hraised : Unraised agent input) :
    agent.run input = .ok (Sentiment.run abstract cache runInput).1.raw := by
  cases hne : input.headlines.isEmpty with
  | true =>
      rw [run, hne, Sentiment.run, h.headlines, hne, h.exchange]
      rfl
  | false =>
      have hhits : (runInput.headlines.filter fun headline =>
          (lookup abstract cache runInput.now headline).isSome).length =
            (agent.answered input).countP fun p => p.2.isSome := by
        rw [answered_eq h, List.countP_map, List.countP_eq_length_filter]
        simp only [Function.comp_def, Option.isSome_map]
      -- field by field, the result is the one of `run_eq`
      have hupper : abstract.python.upper runInput.exchange =
          agent.parser.python.upper input.exchange := by
        rw [h.python, h.exchange]
        rfl
      have hcost : blendedCost ((newScores abstract cache runInput).2 : ℤ) =
          (newScores abstract cache runInput).2 * (sentimentGroqCostPer1mInputUsd * (4 / 5) +
            sentimentGroqCostPer1mOutputUsd * (1 / 5)) / 1000000 := by
        rw [blendedCost, Int.cast_natCast]
      have hne' : runInput.headlines.isEmpty = false := by rw [h.headlines, hne]
      rw [run_eq hraised hne, Sentiment.run, hne', alignedResult, ← (newScores_eq h).2, hcost,
        ← hhits, ← length_toScoreTexts, ← toScoreTexts_eq h, ← runScores_eq h, ← hupper,
        ← h.headlines]
      rfl

end Runs

end RawAgent

end Intraday.Sentiment
