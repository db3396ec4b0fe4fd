import Mathlib.Algebra.Order.BigOperators.Group.List
import Intraday.Lib.Scatter
import Intraday.Sentiment.Agent
import Intraday.Sentiment.Replies

/-!
# Intraday.Sentiment.Alignment — `SentimentAgent.run`, headline by headline

The headlines that the cache has no answer for are picked out and scored in batches, and their
scores are put back where they belong. No score is shifted: a run that returns is aligned with its
headlines. It does not return where a lookup or a reply raises what nothing catches
(`aligned_iff`). Redis itself and the embedding model are taken to work, and the market indicators
are left out, as in `Agent`.
-/

namespace Intraday.Sentiment

open Intraday.Core Intraday.Lib
open Intraday.Lib.Python (Exc)

/-! ## A run -/

/-- The inputs of a run: the exchange, the headlines as they are given or fetched, what the list
in Redis holds at each lookup, and the replies of the LLM to the calls. -/
structure RawInput where
  exchange : String
  headlines : List Headline
  contents : ℕ → List (Option String)
  replies : ℕ → Reply

/-- `MarketSentiment`, with as many tokens as the provider says, be they negative. -/
structure RawSentiment where
  exchange : String
  headlines : List Headline
  scores : List SentimentScore
  aggregateScore : ℚ
  totalTokensUsed : ℤ
  totalCostUsd : ℚ
  cacheHits : ℕ
  cacheMisses : ℕ
deriving DecidableEq

/-- `MarketSentiment.empty`. -/
def RawSentiment.empty (exchange : String) : RawSentiment :=
  { exchange := exchange, headlines := [], scores := [], aggregateScore := 0
    totalTokensUsed := 0, totalCostUsd := 0, cacheHits := 0, cacheMisses := 0 }

/-- The variables of the loop over the headlines; a placeholder is `none`. -/
structure Loop where
  scores : List (Option SentimentScore)
  toScoreIndices : List ℕ
  toScoreTexts : List String
  cacheHits : ℕ

/-- The rest of a turn of the loop, after the lookup. -/
def Loop.place (s : Loop) (p : Headline × ℕ) (cached : Option SentimentScore) : Loop :=
  match cached with
  | some score => { s with scores := s.scores ++ [some score], cacheHits := s.cacheHits + 1 }
  | none =>
      { s with
        scores := s.scores ++ [none]
        toScoreIndices := s.toScoreIndices ++ [p.2]
        toScoreTexts := s.toScoreTexts ++ [p.1.text] }

/-- `input_toks`. -/
def inputToks (totalTokens : ℤ) : ℤ := (totalTokens * 4).tdiv 5

/-- `input_toks` and `output_toks`; an integer without a float is an `OverflowError`. -/
def splitTokens (totalTokens : ℤ) : Except Exc (ℤ × ℤ) :=
  if totalTokens.natAbs < floatBound then
    .ok (inputToks totalTokens, totalTokens - inputToks totalTokens)
  else .error overflowError

/-- The tokens at the blended rate. -/
def blendedCost (totalTokens : ℤ) : ℚ :=
  let blendedRate := sentimentGroqCostPer1mInputUsd * (4 / 5) +
    sentimentGroqCostPer1mOutputUsd * (1 / 5)
  totalTokens * blendedRate / 1000000

/-- `call_cost`. -/
def callCost (totalTokens : ℤ) : Except Exc ℚ :=
  if totalTokens.natAbs < floatBound then .ok (blendedCost totalTokens) else .error overflowError

namespace RawAgent

variable {A : Type}

/-- The lookup of a headline. -/
def lookupAt (agent : RawAgent A) (input : RawInput) (p : Headline × ℕ) :
    Except Exc (Option SentimentScore) :=
  if agent.hasRedis then agent.get (input.contents p.2) p.1.text else .ok none

/-- The loop over the headlines. -/
def lookups (agent : RawAgent A) (input : RawInput) : Except Exc Loop :=
  input.headlines.zipIdx.foldlM (fun s p => do
    let cached ← agent.lookupAt input p
    .ok (s.place p cached)) ⟨[], [], [], 0⟩

/-- The scores of the texts and the tokens they took, which are recorded. -/
def scoreMisses (agent : RawAgent A) (texts : List String) (replies : ℕ → Reply) :
    Except Exc (List SentimentScore × ℤ) :=
  if texts.isEmpty then .ok ([], 0)
  else do
    let new ← agent.scoreHeadlinesBatch texts replies
    let split ← splitTokens new.2
    agent.record split.1 split.2
    .ok new

/-- `SentimentAgent.run`, without the market indicators. -/
def run (agent : RawAgent A) (input : RawInput) : Except Exc RawSentiment :=
  if input.headlines.isEmpty then .ok (RawSentiment.empty input.exchange)
  else do
    let s ← agent.lookups input
    let new ← agent.scoreMisses s.toScoreTexts input.replies
    let totalCost ← callCost new.2
    let scores := scatter s.scores (s.toScoreIndices.zip (new.1.map some))
    let finalScores := scores.filterMap id
    .ok
      { exchange := agent.parser.python.upper input.exchange
        headlines := input.headlines
        scores := finalScores
        aggregateScore := computeAggregateScore finalScores
        totalTokensUsed := new.2
        totalCostUsd := totalCost
        cacheHits := s.cacheHits
        cacheMisses := s.toScoreTexts.length }

/-! ## What the results are to be -/

/-- The cache's answer for a headline. -/
def cachedAt (agent : RawAgent A) (input : RawInput) (p : Headline × ℕ) : Option SentimentScore :=
  (agent.lookupAt input p).toOption.join

/-- The headlines with the cache's answers. -/
def answered (agent : RawAgent A) (input : RawInput) :
    List (Headline × Option SentimentScore) :=
  input.headlines.zipIdx.map fun p => (p.1, agent.cachedAt input p)

/-- There is no answer. -/
def isMiss (p : Headline × Option SentimentScore) : Bool := p.2.isNone

/-- `to_score_texts`. -/
def toScoreTexts (agent : RawAgent A) (input : RawInput) : List String :=
  ((agent.answered input).filter isMiss).map (·.1.text)

/-- How many texts are scored. -/
def missCount (agent : RawAgent A) (input : RawInput) : ℕ := (agent.answered input).countP isMiss

/-- The place among the texts of the headline `i`. -/
def missRank (agent : RawAgent A) (input : RawInput) (i : ℕ) : ℕ :=
  rank isMiss (agent.answered input) i

/-- The scorer's result for the headline `i`, with this text. -/
def scorerResult (agent : RawAgent A) (input : RawInput) (i : ℕ) (text : String) :
    SentimentScore :=
  agent.textScore input.replies (agent.missCount input) (agent.missRank input i) text

/-- A result is aligned with the headlines of its run. -/
structure IsAligned (agent : RawAgent A) (input : RawInput) (result : RawSentiment) : Prop where
  /-- There are as many scores as headlines. -/
  length : result.scores.length = input.headlines.length
  /-- The score of a headline is the cache's answer for it, or the scorer's result. -/
  score : ∀ (i : ℕ) (h : Headline), input.headlines[i]? = some h →
    result.scores[i]? =
      some ((agent.cachedAt input (h, i)).getD (agent.scorerResult input i h.text))
  /-- The scorer's result is that for its text: the text has this place, of this batch. -/
  asked : ∀ (i : ℕ) (h : Headline), input.headlines[i]? = some h →
    agent.cachedAt input (h, i) = none → ∃ batch,
      (batches (agent.toScoreTexts input))[agent.missRank input i / sentimentBatchMaxHeadlines]? =
        some batch ∧
      batch[agent.missRank input i % sentimentBatchMaxHeadlines]? = some h.text
  /-- Hits and misses are the headlines. -/
  counted : result.cacheHits + result.cacheMisses = input.headlines.length
  /-- The tokens are those of all batches. -/
  tokens : result.totalTokensUsed = agent.reportedTokens input.replies (agent.missCount input)
  /-- The aggregate is between the smallest and the largest score that counts. -/
  aggregate_range : ∀ lo hi : ℚ, (∃ s ∈ result.scores, 0 < s.confidence) →
    (∀ s ∈ result.scores, 0 < s.confidence → lo ≤ s.score ∧ s.score ≤ hi) →
      lo ≤ result.aggregateScore ∧ result.aggregateScore ≤ hi
  /-- Whatever else is run, with the same scores in another order it gives the same aggregate. -/
  aggregate_order : ∀ (input' : RawInput) (result' : RawSentiment),
    agent.run input' = .ok result' → result'.scores.Perm result.scores →
      result'.aggregateScore = result.aggregateScore

/-- Nothing raises: not a lookup, not the reading of a reply, and the tokens can be counted. -/
structure Unraised (agent : RawAgent A) (input : RawInput) : Prop where
  lookups : ∀ p ∈ input.headlines.zipIdx, ∃ cached, agent.lookupAt input p = .ok cached
  replies : ∀ b < callCount (agent.missCount input), agent.Answerable (input.replies b)
  tokens : (agent.reportedTokens input.replies (agent.missCount input)).natAbs < floatBound
  recorded : 0 < agent.missCount input →
    let total := agent.reportedTokens input.replies (agent.missCount input)
    agent.record (inputToks total) (total - inputToks total) = .ok ()

end RawAgent

/-! ## The aggregate -/

theorem sum_mul_mem {α : Type} {xs : List α} {f w : α → ℚ} {lo hi : ℚ}
    (hw : ∀ x ∈ xs, 0 < w x) (hf : ∀ x ∈ xs, lo ≤ f x ∧ f x ≤ hi) :
    lo * (xs.map w).sum ≤ (xs.map fun x => f x * w x).sum ∧
      (xs.map fun x => f x * w x).sum ≤ hi * (xs.map w).sum := by
  induction xs with
  | nil => simp
  | cons x xs ih =>
      rw [List.forall_mem_cons] at hw hf
      rcases ih hw.2 hf.2 with ⟨hlo, hhi⟩
      have hlower : lo * w x ≤ f x * w x := mul_le_mul_of_nonneg_right hf.1.1 hw.1.le
      have hupper : f x * w x ≤ hi * w x := mul_le_mul_of_nonneg_right hf.1.2 hw.1.le
      simp only [List.map_cons, List.sum_cons, mul_add]
      exact ⟨add_le_add hlower hlo, add_le_add hupper hhi⟩

/-- A mean is between the values. -/
theorem computeAggregateScore_mem {scores : List SentimentScore} {lo hi : ℚ}
    (hsome : ∃ s ∈ scores, 0 < s.confidence)
    (h : ∀ s ∈ scores, 0 < s.confidence → lo ≤ s.score ∧ s.score ≤ hi) :
    lo ≤ computeAggregateScore scores ∧ computeAggregateScore scores ≤ hi := by
  have hweight : ∀ s ∈ scores.filter fun s => decide (0 < s.confidence), 0 < s.confidence := by
    intro s hs
    exact of_decide_eq_true (List.mem_filter.mp hs).2
  have hrange : ∀ s ∈ scores.filter fun s => decide (0 < s.confidence),
      lo ≤ s.score ∧ s.score ≤ hi := by
    intro s hs
    exact h s (List.mem_of_mem_filter hs) (hweight s hs)
  have hpos : 0 < ((scores.filter fun s => decide (0 < s.confidence)).map (·.confidence)).sum := by
    rcases hsome with ⟨s, hs, hconfidence⟩
    refine List.sum_pos _ ?_ ?_
    · intro x hx
      rcases List.mem_map.mp hx with ⟨t, ht, rfl⟩
      exact hweight t ht
    · exact List.ne_nil_of_mem (List.mem_map_of_mem
        (List.mem_filter.mpr ⟨hs, decide_eq_true hconfidence⟩))
  rcases sum_mul_mem hweight hrange with ⟨hlo, hhi⟩
  -- the scores that do not count have no part in the two sums
  simp only [computeAggregateScore]
  rw [if_pos hpos]
  exact ⟨(le_div_iff₀ hpos).mpr hlo, (div_le_iff₀ hpos).mpr hhi⟩

/-- A mean does not depend on the order. -/
theorem computeAggregateScore_perm {scores scores' : List SentimentScore}
    (h : scores.Perm scores') : computeAggregateScore scores = computeAggregateScore scores' := by
  have hcounted := h.filter fun s => decide (0 < s.confidence)
  simp only [computeAggregateScore]
  rw [(hcounted.map (·.confidence)).sum_eq, (hcounted.map fun s => s.score * s.confidence).sum_eq]

namespace RawAgent

variable {A : Type} {agent : RawAgent A} {input : RawInput}

/-! ## The loop over the headlines -/

/-- What the turns of the loop add up to. -/
theorem foldl_place (answer : Headline × ℕ → Option SentimentScore) (headlines : List Headline)
    (start : ℕ) (s : Loop) :
    ((headlines.zipIdx start).zip ((headlines.zipIdx start).map answer)).foldl
        (fun s p => s.place p.1 p.2) s =
      let answered := (headlines.zipIdx start).map fun p => (p.1, answer p)
      { scores := s.scores ++ answered.map Prod.snd
        toScoreIndices := s.toScoreIndices ++ answered.findIdxs isMiss start
        toScoreTexts := s.toScoreTexts ++ (answered.filter isMiss).map (·.1.text)
        cacheHits := s.cacheHits + answered.countP fun p => p.2.isSome } := by
  -- over the headlines, with what the turns before have left
  induction headlines generalizing start s with
  | nil => simp
  | cons h headlines ih =>
      rw [List.zipIdx_cons, List.map_cons, List.zip_cons_cons, List.foldl_cons, ih, List.map_cons]
      cases hanswer : answer (h, start) with
      | some score =>
          have hmiss : isMiss (h, some score) = false := rfl
          simp only [Loop.place, List.map_cons, List.findIdxs_cons, List.filter_cons, hmiss,
            Bool.false_eq_true, if_false, List.countP_cons, Option.isSome_some, if_true,
            List.append_assoc, List.singleton_append, Nat.add_assoc, Nat.add_comm 1]
      | none =>
          have hmiss : isMiss (h, none) = true := rfl
          simp only [Loop.place, List.map_cons, List.findIdxs_cons, List.filter_cons, hmiss,
            if_true, List.countP_cons, Option.isSome_none, Bool.false_eq_true, if_false,
            List.append_assoc, List.singleton_append, Nat.add_zero]

/-- Lookups that return give the cache's answers. -/
theorem lookups_eq (h : ∀ p ∈ input.headlines.zipIdx, ∃ cached,
      agent.lookupAt input p = .ok cached) :
    agent.lookups input =
      .ok
        { scores := (agent.answered input).map Prod.snd
          toScoreIndices := (agent.answered input).findIdxs isMiss
          toScoreTexts := agent.toScoreTexts input
          cacheHits := (agent.answered input).countP fun p => p.2.isSome } := by
  have hread : input.headlines.zipIdx.mapM (agent.lookupAt input) =
      .ok (input.headlines.zipIdx.map (agent.cachedAt input)) := by
    refine mapM_eq_map ?_
    intro p hp
    rcases h p hp with ⟨cached, hcached⟩
    rw [cachedAt, hcached]
    rfl
  rw [lookups, foldlM_read, hread]
  simp only [Except.map]
  rw [foldl_place]
  simp only [List.nil_append, Nat.zero_add]
  rfl

theorem exists_lookups_iff : (∃ s, agent.lookups input = .ok s) ↔
    ∀ p ∈ input.headlines.zipIdx, ∃ cached, agent.lookupAt input p = .ok cached := by
  constructor
  · rintro ⟨s, h⟩
    rw [lookups, foldlM_read] at h
    rcases exists_of_map_ok h with ⟨all, hall, -⟩
    exact exists_of_mapM_ok hall
  · intro h
    exact ⟨_, lookups_eq h⟩

theorem length_toScoreTexts (agent : RawAgent A) (input : RawInput) :
    (agent.toScoreTexts input).length = agent.missCount input := by
  rw [toScoreTexts, List.length_map, missCount, List.countP_eq_length_filter]

/-- The text of a miss has its rank among the texts. -/
theorem getElem?_toScoreTexts {i : ℕ} {h : Headline}
    (hi : (agent.answered input)[i]? = some (h, none)) :
    (agent.toScoreTexts input)[agent.missRank input i]? = some h.text := by
  rw [toScoreTexts, List.getElem?_map, missRank, getElem?_filter_rank hi rfl]
  rfl

/-! ## The scores that are put back -/

/-- The scores of a run that returns. -/
def alignedScores (agent : RawAgent A) (input : RawInput) : List SentimentScore :=
  (agent.answered input).mapIdx fun i p => p.2.getD (agent.scorerResult input i p.1.text)

/-- Each new score is put in the place of its headline. -/
theorem scatter_eq (agent : RawAgent A) (input : RawInput) :
    scatter ((agent.answered input).map Prod.snd)
      (((agent.answered input).findIdxs isMiss).zip
        (((agent.toScoreTexts input).mapIdx
          (agent.textScore input.replies (agent.missCount input))).map some)) =
      (agent.alignedScores input).map some := by
  have hlen : ((agent.answered input).findIdxs isMiss).length =
      (((agent.toScoreTexts input).mapIdx
        (agent.textScore input.replies (agent.missCount input))).map some).length := by
    rw [List.length_findIdxs, List.length_map, List.length_mapIdx, length_toScoreTexts, missCount]
  have hfst := List.map_fst_zip (Nat.le_of_eq hlen)
  refine List.ext_getElem? ?_
  intro i
  rw [alignedScores, List.getElem?_map, List.getElem?_mapIdx]
  cases hi : (agent.answered input)[i]? with
  | none =>
      rw [List.getElem?_eq_none]
      · rfl
      · rw [length_scatter, List.length_map]
        exact List.getElem?_eq_none_iff.mp hi
  | some p =>
      rcases p with ⟨h, cached⟩
      cases cached with
      | some score =>
          -- a hit is no position that is written to
          have hnot : i ∉ (agent.answered input).findIdxs isMiss := by
            intro hmem
            rcases List.mem_findIdxs_iff_exists_getElem_pos.mp hmem with ⟨hlt, hmiss⟩
            rw [(List.getElem?_eq_some_iff.mp hi).2] at hmiss
            cases hmiss
          rw [getElem?_scatter_of_notMem (by rwa [hfst]), List.getElem?_map, hi]
          rfl
      | none =>
          -- a miss gets the score of its text, which has the same rank
          have hrank : ((agent.answered input).findIdxs isMiss)[agent.missRank input i]? = some i :=
            getElem?_findIdxs_rank hi rfl 0
          have htext := getElem?_toScoreTexts hi
          refine getElem?_scatter (k := agent.missRank input i) ?_ ?_ ?_
          · rw [hfst]
            exact List.nodup_findIdxs
          · rw [List.getElem?_zip_eq_some]
            refine ⟨hrank, ?_⟩
            rw [List.getElem?_map, List.getElem?_mapIdx, htext]
            rfl
          · rw [List.length_map]
            exact (List.getElem?_eq_some_iff.mp hi).1

/-! ## Runs that return -/

theorem reportedTokens_zero_lt (agent : RawAgent A) (replies : ℕ → Reply) :
    (agent.reportedTokens replies 0).natAbs < floatBound :=
  lt_trans (Nat.succ_pos 999) small_lt_floatBound

/-- What is counted and recorded is the tokens of all batches. -/
theorem scoreMisses_eq {texts : List String} {replies : ℕ → Reply}
    (hreplies : ∀ b < callCount texts.length, agent.Answerable (replies b))
    (htokens : (agent.reportedTokens replies texts.length).natAbs < floatBound)
    (hrecorded : 0 < texts.length →
      let total := agent.reportedTokens replies texts.length
      agent.record (inputToks total) (total - inputToks total) = .ok ()) :
    agent.scoreMisses texts replies =
      .ok (texts.mapIdx (agent.textScore replies texts.length),
        agent.reportedTokens replies texts.length) := by
  cases texts with
  | nil => rfl
  | cons text texts =>
      have hrecord := hrecorded (Nat.succ_pos _)
      dsimp only at hrecord
      rw [scoreMisses, if_neg (by simp), scoreHeadlinesBatch_eq hreplies]
      simp only [bind, Except.bind, splitTokens, if_pos htokens, hrecord]

theorem of_scoreMisses {texts : List String} {replies : ℕ → Reply}
    {new : List SentimentScore × ℤ} (h : agent.scoreMisses texts replies = .ok new) :
    (∀ b < callCount texts.length, agent.Answerable (replies b)) ∧
      (agent.reportedTokens replies texts.length).natAbs < floatBound ∧
      (0 < texts.length →
        let total := agent.reportedTokens replies texts.length
        agent.record (inputToks total) (total - inputToks total) = .ok ()) := by
  cases texts with
  | nil =>
      refine ⟨?_, ?_, ?_⟩
      · intro b hb
        cases hb
      · exact reportedTokens_zero_lt agent replies
      · intro hpos
        cases hpos
  | cons text texts =>
      -- the three steps one after the other, each of which has returned
      rw [scoreMisses, if_neg (by simp)] at h
      rcases bind_eq_ok_iff.mp h with ⟨scored, hscored, h⟩
      rcases bind_eq_ok_iff.mp h with ⟨split, hsplit, h⟩
      rcases bind_eq_ok_iff.mp h with ⟨done, hdone, -⟩
      have hreplies := exists_scoreHeadlinesBatch_iff.mp ⟨scored, hscored⟩
      rw [scoreHeadlinesBatch_eq hreplies] at hscored
      rw [← Except.ok.inj hscored, splitTokens] at hsplit
      split at hsplit
      · rename_i htokens
        rw [← Except.ok.inj hsplit] at hdone
        exact ⟨hreplies, htokens, fun _ => hdone⟩
      · cases hsplit

/-- What a run returns for headlines. -/
def alignedResult (agent : RawAgent A) (input : RawInput) : RawSentiment :=
  { exchange := agent.parser.python.upper input.exchange
    headlines := input.headlines
    scores := agent.alignedScores input
    aggregateScore := computeAggregateScore (agent.alignedScores input)
    totalTokensUsed := agent.reportedTokens input.replies (agent.missCount input)
    totalCostUsd := blendedCost (agent.reportedTokens input.replies (agent.missCount input))
    cacheHits := (agent.answered input).countP fun p => p.2.isSome
    cacheMisses := agent.missCount input }

/-- Where nothing raises, a run returns the scores that were put back. -/
theorem run_eq (h : Unraised agent input) (hne : input.headlines.isEmpty = false) :
    agent.run input = .ok (agent.alignedResult input) := by
  rcases h with ⟨hlookups, hreplies, htokens, hrecorded⟩
  rw [← length_toScoreTexts] at hreplies htokens hrecorded
  have hnew := scoreMisses_eq hreplies htokens hrecorded
  have hscores : ((agent.alignedScores input).map some).filterMap id =
      agent.alignedScores input := by
    rw [List.filterMap_map]
    exact List.filterMap_some
  rw [run, hne, lookups_eq hlookups]
  simp only [Bool.false_eq_true, if_false, bind, Except.bind, hnew, callCost, if_pos htokens]
  rw [length_toScoreTexts, scatter_eq, hscores]
  rfl

/-- A run that returns has raised nothing. -/
theorem unraised_of_run {result : RawSentiment} (h : agent.run input = .ok result) :
    Unraised agent input := by
  cases hne : input.headlines.isEmpty with
  | true =>
      -- nothing is looked up, and nothing is asked for
      have hnil : input.headlines = [] := List.isEmpty_iff.mp hne
      have hanswered : agent.answered input = [] := by
        rw [answered, hnil]
        rfl
      have hcount : agent.missCount input = 0 := by
        rw [missCount, hanswered]
        rfl
      refine { lookups := ?_, replies := ?_, tokens := ?_, recorded := ?_ }
      · rw [hnil]
        intro p hp
        cases hp
      · rw [hcount]
        intro b hb
        cases hb
      · rw [hcount]
        exact reportedTokens_zero_lt agent input.replies
      · rw [hcount]
        intro hpos
        cases hpos
  | false =>
      rw [run, hne] at h
      rcases bind_eq_ok_iff.mp h with ⟨s, hs, h⟩
      rcases bind_eq_ok_iff.mp h with ⟨new, hnew, -⟩
      have hlookups := exists_lookups_iff.mp ⟨s, hs⟩
      rw [lookups_eq hlookups] at hs
      rw [← Except.ok.inj hs] at hnew
      rcases of_scoreMisses hnew with ⟨hreplies, htokens, hrecorded⟩
      rw [length_toScoreTexts] at hreplies htokens hrecorded
      exact { lookups := hlookups, replies := hreplies, tokens := htokens, recorded := hrecorded }

theorem aggregateScore_of_run {result : RawSentiment} (h : agent.run input = .ok result) :
    result.aggregateScore = computeAggregateScore result.scores := by
  cases hne : input.headlines.isEmpty with
  | true =>
      rw [run, hne] at h
      rw [← Except.ok.inj h]
      rfl
  | false =>
      rw [run_eq (unraised_of_run h) hne] at h
      rw [← Except.ok.inj h]
      rfl

/-! ## Alignment -/

theorem getElem?_answered (agent : RawAgent A) {i : ℕ} {h : Headline}
    (hi : input.headlines[i]? = some h) :
    (agent.answered input)[i]? = some (h, agent.cachedAt input (h, i)) := by
  rw [answered, List.getElem?_map, List.getElem?_zipIdx, hi, Nat.zero_add]
  rfl

theorem length_answered (agent : RawAgent A) (input : RawInput) :
    (agent.answered input).length = input.headlines.length := by
  rw [answered, List.length_map, List.length_zipIdx]

/-- A result with the scores that were put back is aligned. -/
theorem isAligned_of_scores {result : RawSentiment}
    (hscores : result.scores = agent.alignedScores input)
    (haggregate : result.aggregateScore = computeAggregateScore result.scores)
    (htokens : result.totalTokensUsed =
      agent.reportedTokens input.replies (agent.missCount input))
    (hhits : result.cacheHits = (agent.answered input).countP fun p => p.2.isSome)
    (hmisses : result.cacheMisses = agent.missCount input) :
    IsAligned agent input result := by
  refine { length := ?_, score := ?_, asked := ?_, counted := ?_, tokens := htokens
           aggregate_range := ?_, aggregate_order := ?_ }
  · rw [hscores, alignedScores, List.length_mapIdx, length_answered]
  · intro i h hi
    rw [hscores, alignedScores, List.getElem?_mapIdx, getElem?_answered agent hi]
    rfl
  · intro i h hi hmiss
    have hanswered := getElem?_answered agent hi
    rw [hmiss] at hanswered
    have htext := getElem?_toScoreTexts hanswered
    have hlt : agent.missRank input i < (agent.toScoreTexts input).length := by
      rw [length_toScoreTexts]
      exact rank_lt_countP hanswered rfl
    have hsize : 0 < sentimentBatchMaxHeadlines := by decide
    rcases getElem?_page hsize hlt with ⟨batch, hbatch, hplace⟩
    exact ⟨batch, hbatch, hplace.trans htext⟩
  · rw [hhits, hmisses, missCount, ← length_answered agent input]
    -- a headline that is no hit is a miss
    rw [List.length_eq_countP_add_countP fun p => p.2.isSome]
    refine congrArg _ (List.countP_congr ?_)
    intro p _
    rw [isMiss, decide_eq_true_iff, Option.not_isSome_iff_eq_none, Option.isNone_iff_eq_none]
  · intro lo hi hsome hrange
    rw [haggregate]
    exact computeAggregateScore_mem hsome hrange
  · intro input' result' hrun hperm
    rw [haggregate, aggregateScore_of_run hrun]
    exact computeAggregateScore_perm hperm

/-- A run comes to a result that is aligned with its headlines exactly if nothing raises. -/
theorem aligned_iff (agent : RawAgent A) (input : RawInput) :
    (∃ result, agent.run input = .ok result ∧ IsAligned agent input result) ↔
      Unraised agent input := by
  constructor
  · rintro ⟨result, hrun, -⟩
    exact unraised_of_run hrun
  · intro h
    cases hne : input.headlines.isEmpty with
    | true =>
        -- a run without headlines returns before the lookups
        have hnil : input.headlines = [] := List.isEmpty_iff.mp hne
        refine ⟨RawSentiment.empty input.exchange, by rw [run, hne]; rfl, ?_⟩
        have hanswered : agent.answered input = [] := by
          rw [answered, hnil]
          rfl
        refine isAligned_of_scores ?_ rfl ?_ ?_ ?_
        · rw [alignedScores, hanswered]
          rfl
        · rw [missCount, hanswered]
          rfl
        · rw [hanswered]
          rfl
        · rw [missCount, hanswered]
          rfl
    | false =>
        exact ⟨agent.alignedResult input, run_eq h hne, isAligned_of_scores rfl rfl rfl rfl rfl⟩

end RawAgent

/-! ## A reply with too many digits -/

/-- A parser that refuses an integer of more than 4300 digits, as Python does. -/
def digitParser : Parser where
  python := nanParser.python
  loads text :=
    if 4300 < text.toList.length ∧ text.toList.all Char.isDigit = true then
      .error (.other (.other "Exceeds the limit (4300 digits) for integer string conversion"))
    else nanParser.loads text

/-- An agent without a Redis client. -/
def digitAgent : RawAgent Unit where
  parser := digitParser
  intOf _ := none
  numpy :=
    { array := fun _ => .ok ()
      size := fun _ => 0
      norm := fun _ => .zero
      dotOver := fun _ _ _ => .ok .zero }
  embed _ := ()
  record _ _ := .ok ()
  model := "groq/llama-3.1-8b-instant"
  hasRedis := false

/-- A content of digits only. -/
def digits (n : ℕ) : String := String.ofList (List.replicate n '1')

theorem stripFences_digits {n fuel : ℕ} (h : n ≤ fuel) :
    stripFences fuel (List.replicate n '1') = List.replicate n '1' := by
  induction fuel generalizing n with
  | zero => rw [Nat.le_zero.mp h]; rfl
  | succ fuel ih =>
      cases n with
      | zero => rfl
      | succ n =>
          rw [List.replicate_succ, stripFences, if_neg (by simp), ih (Nat.le_of_succ_le_succ h)]

/-- Digits are parsed as they are. -/
theorem cleaned_digits (n : ℕ) : cleaned (digits n) = digits n := by
  have hspace : Compliance.isSpace '1' = false := by decide
  rw [cleaned, digits, String.toList_ofList, stripFences_digits List.length_replicate.ge,
    Compliance.strip, String.toList_ofList, List.dropWhile_replicate, hspace]
  simp only [Bool.false_eq_true, if_false]
  rw [List.reverse_replicate, List.dropWhile_replicate, hspace]
  simp only [Bool.false_eq_true, if_false, List.reverse_replicate]

theorem loads_digits {n : ℕ} (h : 4300 < n) :
    digitParser.loads (digits n) =
      .error (.other (.other "Exceeds the limit (4300 digits) for integer string conversion")) := by
  have hlist : (digits n).toList = List.replicate n '1' := String.toList_ofList
  refine if_pos ⟨?_, ?_⟩
  · rwa [hlist, List.length_replicate]
  · rw [hlist, List.all_replicate]
    simp

/-- The response with these digits. -/
def digitResponse (n : ℕ) : Response :=
  { totalTokens := none, contents := [some (.str (digits n))] }

theorem content_digitResponse {n : ℕ} (h : 4300 < n) :
    digitAgent.content (digitResponse n) = digits n := by
  have hne : digits n ≠ "" := by
    intro hempty
    have hlist : (digits n).toList = List.replicate n '1' := String.toList_ofList
    rw [hempty] at hlist
    have hlen := congrArg List.length hlist
    rw [List.length_replicate] at hlen
    exact absurd hlen.symm (by simp; omega)
  exact if_pos (decide_eq_true hne)

/-- One headline, and a reply of 4301 digits. -/
def digitInput : RawInput where
  exchange := "NSE"
  headlines := [{ text := "Markets rally", not_blank := by decide }]
  contents _ := []
  replies _ := .response (digitResponse 4301)

/-- The reply is not scored neutral: the run raises. -/
theorem digits_stop_run :
    ¬ ∃ result : RawSentiment, digitAgent.run digitInput = .ok result ∧
      RawAgent.IsAligned digitAgent digitInput result := by
  rintro ⟨result, hrun, -⟩
  have hreply := (RawAgent.unraised_of_run hrun).replies 0 (by decide)
  have hmany : 4300 < 4301 := by decide
  have hstop := hreply.content (digitResponse 4301) 0 rfl rfl
    (.other "Exceeds the limit (4300 digits) for integer string conversion")
  rw [content_digitResponse hmany, cleaned_digits] at hstop
  exact hstop (loads_digits hmany)

end Intraday.Sentiment
