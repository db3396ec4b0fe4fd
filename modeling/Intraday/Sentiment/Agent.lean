import Intraday.Lib.Machine
import Intraday.Sentiment.Cache

/-!
# Intraday.Sentiment.Agent — `shared/sentiment/agent.py`

A run looks every headline up in the cache, has the others scored, and stores every new score,
the fallbacks of failed calls among them. A later run may then get such a fallback from the cache,
for the same headline or for one that is close to it, and does not ask the LLM again.

`unpoisoned_iff` is the exact condition under which no run does; `unpoisoned_of_answered` is the
simple one, that nothing failed.
-/

namespace Intraday.Sentiment

open Intraday.Core Intraday.Lib

/-! ## A run -/

/-- `SentimentAgent`, with the embedding model that its cache uses and what it needs of Python.
Without a Redis client it has no cache. -/
structure Agent where
  python : Python
  embed : String → List ℚ
  norm : List ℚ → ℚ
  model : String
  hasRedis : Bool

/-- The inputs of a run: the exchange, the headlines as they are given or fetched, the answers of
the LLM to the calls of the run, and the times of the lookups and of the stores. -/
structure RunInput where
  exchange : String
  headlines : List Headline
  answers : ℕ → Answer
  now : ℕ
  storedAt : ℕ

/-- The entry that a headline is answered from, if there is one. -/
def lookup (agent : Agent) (cache : Cache) (now : ℕ) (h : Headline) : Option Entry :=
  if agent.hasRedis then hit agent.norm (agent.embed h.text) (cache.loadEntries now) else none

/-- `to_score_texts`. -/
def toScoreTexts (agent : Agent) (cache : Cache) (input : RunInput) : List String :=
  (input.headlines.filter fun h => (lookup agent cache input.now h).isNone).map (·.text)

/-- The new scores of a run, with the tokens they took. -/
def newScores (agent : Agent) (cache : Cache) (input : RunInput) : List Scored × ℕ :=
  scoreHeadlinesBatch agent.python agent.model (toScoreTexts agent cache input) input.answers

/-- The new values in the places of the placeholders, in order. -/
def fill {α : Type} : List (Option α) → List α → List (Option α)
  | [], _ => []
  | some x :: rest, new => some x :: fill rest new
  | none :: rest, x :: new => some x :: fill rest new
  | none :: rest, [] => none :: fill rest []

/-- `_compute_aggregate_score`. -/
def computeAggregateScore (scores : List SentimentScore) : ℚ :=
  let counted := scores.filter fun s => decide (0 < s.confidence)
  let totalWeight := (counted.map (·.confidence)).sum
  let weightedSum := (counted.map fun s => s.score * s.confidence).sum
  if 0 < totalWeight then weightedSum / totalWeight else 0

/-- The scores of a run, those of the cache among them. -/
def runScores (agent : Agent) (cache : Cache) (input : RunInput) : List SentimentScore :=
  let cached := input.headlines.map fun h => (lookup agent cache input.now h).map Entry.cached
  (fill cached ((newScores agent cache input).1.map (·.score))).filterMap id

/-- The cache after a run: each new score is stored. -/
def runCache (agent : Agent) (cache : Cache) (input : RunInput) : Cache :=
  if agent.hasRedis then
    ((toScoreTexts agent cache input).zip (newScores agent cache input).1).foldl
      (fun cache p => cache.put agent.embed input.storedAt p.1 p.2) cache
  else cache

/-- `SentimentAgent.run`, without the market indicators. -/
def run (agent : Agent) (cache : Cache) (input : RunInput) : MarketSentiment × Cache :=
  if input.headlines.isEmpty then (MarketSentiment.empty input.exchange, cache)
  else
    let scores := runScores agent cache input
    let hits := input.headlines.filter fun h => (lookup agent cache input.now h).isSome
    let totalTokens := (newScores agent cache input).2
    let blendedRate := sentimentGroqCostPer1mInputUsd * (4 / 5) +
      sentimentGroqCostPer1mOutputUsd * (1 / 5)
    ({ exchange := agent.python.upper input.exchange
       headlines := input.headlines
       scores := scores
       aggregateScore := computeAggregateScore scores
       totalTokensUsed := totalTokens
       totalCostUsd := totalTokens * blendedRate / 1000000
       cacheHits := hits.length
       cacheMisses := (toScoreTexts agent cache input).length },
      runCache agent cache input)

/-- The runs of an agent as a machine. -/
def runs (agent : Agent) : Machine Cache RunInput MarketSentiment :=
  ⟨fun cache input => ((run agent cache input).2, (run agent cache input).1)⟩

variable {agent : Agent} {cache : Cache} {input : RunInput}

/-! ## Where each score comes from -/

/-- If there is a new value for each placeholder, each place has its own value or the new one of
its turn. -/
theorem fill_map {α β : Type} (f : α → Option β) (xs : List α) {new : List β}
    (hlen : new.length = (xs.filter fun x => (f x).isNone).length) :
    ∃ ys : List β, fill (xs.map f) new = ys.map some ∧ ∀ (i : ℕ) (x : α), xs[i]? = some x →
      (∀ y, f x = some y → ys[i]? = some y) ∧
      (f x = none → ∃ y, (x, y) ∈ (xs.filter fun x => (f x).isNone).zip new ∧
        ys[i]? = some y) := by
  induction xs generalizing new with
  | nil => exact ⟨[], rfl, fun i x h => by simp at h⟩
  | cons x xs ih =>
      cases hx : f x with
      | some y =>
          -- the place has its value, and takes none of the new ones
          rw [List.filter_cons_of_neg (by simp [hx])] at hlen
          rcases ih hlen with ⟨ys, hys, hall⟩
          refine ⟨y :: ys, ?_, ?_⟩
          · rw [List.map_cons, hx, fill, hys, List.map_cons]
          · rw [List.filter_cons_of_neg (by simp [hx])]
            intro i x' hi
            cases i with
            | zero =>
                obtain rfl : x = x' := Option.some.inj hi
                simp [hx]
            | succ i => exact hall i x' hi
      | none =>
          rw [List.filter_cons_of_pos (by simp [hx])] at hlen
          cases new with
          | nil => cases hlen
          | cons y new =>
              rcases ih (Nat.succ.inj hlen) with ⟨ys, hys, hall⟩
              refine ⟨y :: ys, ?_, ?_⟩
              · rw [List.map_cons, hx, fill, hys, List.map_cons]
              · rw [List.filter_cons_of_pos (by simp [hx])]
                intro i x' hi
                cases i with
                | zero =>
                    obtain rfl : x = x' := Option.some.inj hi
                    simp [hx]
                | succ i =>
                    rcases hall i x' hi with ⟨hkept, hnew⟩
                    refine ⟨hkept, ?_⟩
                    intro hnone
                    rcases hnew hnone with ⟨y', hmem, hget⟩
                    exact ⟨y', List.mem_cons_of_mem _ hmem, hget⟩

/-- The new scores are those of the headlines that were asked for. -/
theorem newScores_headlines (agent : Agent) (cache : Cache) (input : RunInput) :
    (newScores agent cache input).1.map (·.score.headline) = toScoreTexts agent cache input :=
  scoreHeadlinesBatch_headlines _ _ _ _

theorem eq_of_mem_zip {α β γ : Type} {f : α → γ} {g : β → γ} {as : List α} {bs : List β}
    (h : as.map f = bs.map g) {p : α × β} (hp : p ∈ as.zip bs) : f p.1 = g p.2 := by
  rcases List.mem_iff_getElem.mp hp with ⟨i, hi, rfl⟩
  have hget := congrArg (fun l : List γ => l[i]?) h
  rw [List.length_zip, lt_min_iff] at hi
  simp only [List.getElem?_map, List.getElem?_eq_getElem hi.1, List.getElem?_eq_getElem hi.2,
    Option.map_some] at hget
  rw [List.getElem_zip]
  exact Option.some.inj hget

/-- A headline that hits gets the score of its entry, and one that misses is asked for. -/
theorem runScores_getElem? {i : ℕ} {h : Headline} (hi : input.headlines[i]? = some h) :
    (∀ e, lookup agent cache input.now h = some e →
      (runScores agent cache input)[i]? = some e.cached) ∧
    (lookup agent cache input.now h = none → h.text ∈ toScoreTexts agent cache input ∧
      ∃ s, (runScores agent cache input)[i]? = some s ∧ s.headline = h.text ∧
        s.fromCache = false) := by
  have hlen : ((newScores agent cache input).1.map (·.score)).length =
      (input.headlines.filter fun h =>
        ((lookup agent cache input.now h).map Entry.cached).isNone).length := by
    have hcount := congrArg List.length (newScores_headlines agent cache input)
    simp only [toScoreTexts, List.length_map] at hcount
    simpa using hcount
  rcases fill_map _ _ hlen with ⟨ys, hys, hall⟩
  -- no place stays empty, so the positions are those of the headlines
  have hscores : runScores agent cache input = ys := by
    rw [runScores, hys, List.filterMap_map]
    exact List.filterMap_some
  rw [hscores]
  rcases hall i h hi with ⟨hkept, hnew⟩
  constructor
  · intro e he
    exact hkept _ (congrArg (Option.map Entry.cached) he)
  · intro hmiss
    have hmem : h ∈ input.headlines := List.mem_of_getElem? hi
    refine ⟨List.mem_map_of_mem (List.mem_filter.mpr ⟨hmem, by simp [hmiss]⟩), ?_⟩
    rcases hnew (congrArg (Option.map Entry.cached) hmiss) with ⟨s, hzip, hget⟩
    simp only [Option.isNone_map] at hzip
    refine ⟨s, hget, ?_, ?_⟩
    · have htexts : (input.headlines.filter fun h =>
          (lookup agent cache input.now h).isNone).map (·.text) =
          ((newScores agent cache input).1.map (·.score)).map (·.headline) := by
        rw [List.map_map]
        exact (newScores_headlines agent cache input).symm
      exact (eq_of_mem_zip htexts hzip).symm
    · rcases List.mem_map.mp (List.of_mem_zip hzip).2 with ⟨scored, hscored, rfl⟩
      exact (mem_scoreHeadlinesBatch _ _ hscored).1

theorem lookup_erase (agent : Agent) (cache : Cache) (now : ℕ) (h : Headline) :
    lookup agent cache.erase now h = (lookup agent cache now h).map Entry.erase := by
  rw [lookup, lookup, Cache.loadEntries_erase, hit_erase]
  split <;> rfl

/-- What a run returns does not depend on what is not stored. -/
theorem run_erase (agent : Agent) (cache : Cache) (input : RunInput) :
    (run agent cache.erase input).1 = (run agent cache input).1 := by
  have htexts : toScoreTexts agent cache.erase input = toScoreTexts agent cache input := by
    simp only [toScoreTexts, lookup_erase, Option.isNone_map]
  have hnew : newScores agent cache.erase input = newScores agent cache input := by
    rw [newScores, htexts, newScores]
  have hcached : ∀ e : Entry, e.erase.cached = e.cached := fun _ => rfl
  have hscores : runScores agent cache.erase input = runScores agent cache input := by
    simp only [runScores, hnew, lookup_erase, Option.map_map, Function.comp_def, hcached]
  simp only [run, hscores, htexts, hnew, lookup_erase, Option.isSome_map]
  split <;> rfl

/-! ## Runs that return no failure -/

/-- Every headline of a run is scored by the LLM: its score is that of an entry which the LLM
answered, or it is asked for in this run. -/
def Unpoisoned (agent : Agent) (t : Trans Cache RunInput MarketSentiment) : Prop :=
  ∀ (i : ℕ) (h : Headline), t.op.headlines[i]? = some h →
    (∃ e, lookup agent t.pre t.op.now h = some e ∧ e.answered = true ∧
      t.reply.scores[i]? = some e.cached) ∨
    (h.text ∈ toScoreTexts agent t.pre t.op ∧ ∃ s, t.reply.scores[i]? = some s ∧
      s.headline = h.text ∧ s.fromCache = false)

/-- The entries that a run sees. -/
def visible (agent : Agent) (cache : Cache) (now : ℕ) : List Entry :=
  if agent.hasRedis then cache.loadEntries now else []

/-- An entry of a failure that is close to a headline of the run is not the closest: another one
is closer, or as close and older. -/
def Overshadowed (agent : Agent) (cache : Cache) (input : RunInput) : Prop :=
  ∀ h ∈ input.headlines, ∀ before failure after,
    visible agent cache input.now = before ++ failure :: after → failure.answered = false →
    let closeness := similarity agent.norm (agent.embed h.text)
    gptcacheSimilarityThreshold ≤ closeness failure →
    (∃ e ∈ before, closeness failure ≤ closeness e) ∨ ∃ e ∈ after, closeness failure < closeness e

theorem lookup_eq_some_iff {now : ℕ} {h : Headline} {e : Entry} :
    lookup agent cache now h = some e ↔
      gptcacheSimilarityThreshold ≤ similarity agent.norm (agent.embed h.text) e ∧
        IsFirstMax (similarity agent.norm (agent.embed h.text)) (visible agent cache now) e := by
  rw [lookup, visible]
  cases agent.hasRedis with
  | true => exact hit_eq_some_iff
  | false =>
      refine iff_of_false (by simp) ?_
      rintro ⟨-, before, after, hnil, -⟩
      exact List.append_ne_nil_of_right_ne_nil before (List.cons_ne_nil _ _) hnil.symm

/-- A run returns no failure exactly if the failures close to its headlines are not the closest. -/
theorem unpoisoned_fire_iff (agent : Agent) (cache : Cache) (input : RunInput) :
    Unpoisoned agent ((runs agent).fire cache input) ↔ Overshadowed agent cache input := by
  have hreply : ∀ (i : ℕ) (h : Headline), input.headlines[i]? = some h →
      ((runs agent).fire cache input).reply.scores[i]? = (runScores agent cache input)[i]? := by
    intro i h hi
    have hne : input.headlines.isEmpty = false := by
      cases hlist : input.headlines with
      | nil => rw [hlist] at hi; cases hi
      | cons _ _ => rfl
    simp only [runs, Machine.fire, Machine.reply, run, hne, Bool.false_eq_true, if_false]
  constructor
  · intro hall h hh before failure after hsplit hfailed closeness hclose
    by_contra hnot
    rw [not_or] at hnot
    -- then the failure is what the lookup returns
    have hlookup : lookup agent cache input.now h = some failure := by
      refine lookup_eq_some_iff.mpr ⟨hclose, before, after, hsplit, ?_, ?_⟩
      · intro e he
        exact not_le.mp fun hle => hnot.1 ⟨e, he, hle⟩
      · intro e he
        exact not_lt.mp fun hlt => hnot.2 ⟨e, he, hlt⟩
    rcases List.mem_iff_getElem?.mp hh with ⟨i, hi⟩
    have hscore := (runScores_getElem? hi).1 failure hlookup
    rcases hall i h hi with ⟨e, he, hanswered, -⟩ | ⟨-, s, hs, -, hfresh⟩
    · obtain rfl := Option.some.inj (hlookup.symm.trans he)
      exact Bool.false_ne_true (hfailed.symm.trans hanswered)
    · rw [hreply i h hi, hscore] at hs
      obtain rfl := Option.some.inj hs
      cases hfresh
  · intro hshadow i h hi
    rcases @runScores_getElem? agent cache input i h hi with ⟨hhit, hmiss⟩
    rw [hreply i h hi]
    cases hlookup : lookup agent cache input.now h with
    | none => exact .inr (hmiss hlookup)
    | some e =>
        refine .inl ⟨e, hlookup, ?_, hhit e hlookup⟩
        by_contra hfailed
        rcases lookup_eq_some_iff.mp hlookup with ⟨hclose, before, after, hsplit, hb, ha⟩
        rcases hshadow h (List.mem_of_getElem? hi) before e after hsplit
          (Bool.eq_false_iff.mpr hfailed) hclose with ⟨e', he', hle⟩ | ⟨e', he', hlt⟩
        · exact absurd (hb e' he') (not_lt.mpr hle)
        · exact absurd (ha e' he') (not_le.mpr hlt)

/-- Exactly when no run, of any sequence from an empty cache, returns a fallback that a failure
has stored: whenever a headline is close to one whose scoring failed, another entry is closer, or
as close and older. -/
theorem unpoisoned_iff (agent : Agent) (inputs : List RunInput) :
    (∀ t ∈ (runs agent).trans Cache.empty inputs, Unpoisoned agent t) ↔
      ∀ t ∈ (runs agent).trans Cache.empty inputs, Overshadowed agent t.pre t.op := by
  have hone : ∀ cache input, True →
      (Unpoisoned agent ((runs agent).fire cache input) ↔ Overshadowed agent cache input) :=
    fun cache input _ => unpoisoned_fire_iff agent cache input
  exact Machine.trans_forall_fire_iff (runs agent) (fun _ _ _ => trivial) hone trivial inputs

/-! An example: an agent with a cache, whose embeddings are all the same. -/

/-- The agent. -/
def sampleAgent : Agent :=
  { python :=
      { builtins :=
          { float := fun _ => none, loads := Json.loads, divide := fun x _ => x
            multiply := fun x _ => x, toFloat := fun _ => .zero, repr := fun _ => "" }
        upper := fun s => s }
    embed := fun _ => [1]
    norm := fun v => (v.map abs).sum
    model := sentimentDefaultModel
    hasRedis := true }

/-- A run on one headline. -/
def sampleInput (now : ℕ) (answer : Answer) : RunInput :=
  { exchange := "NSE", headlines := [⟨"RBI holds rates", by decide⟩], answers := fun _ => answer
    now := now, storedAt := now }

/-- The call fails. -/
def sampleOutage : RunInput := sampleInput 0 .raised

/-- A second later the LLM would answer. -/
def sampleRecovery : RunInput :=
  sampleInput 1000 (.response "[\x7b\"score\": 0.6, \"confidence\": 0.9\x7d]" 80)

/-- The second run gets the fallback of the first from the cache, and asks nothing. -/
theorem failure_is_cached :
    ¬ ∀ (agent : Agent) (inputs : List RunInput),
      ∀ t ∈ (runs agent).trans Cache.empty inputs, Unpoisoned agent t := by
  intro h
  have hall := h sampleAgent [sampleOutage, sampleRecovery]
  simp only [Machine.trans_cons, List.forall_mem_cons] at hall
  have hlookup : (lookup sampleAgent (run sampleAgent Cache.empty sampleOutage).2 1000
      ⟨"RBI holds rates", by decide⟩).map (·.answered) = some false := by decide +kernel
  have hscore : (run sampleAgent (run sampleAgent Cache.empty sampleOutage).2
      sampleRecovery).1.scores[0]?.map (·.fromCache) = some true := by decide +kernel
  rcases hall.2.1 0 _ rfl with ⟨e, he, hanswered, -⟩ | ⟨-, s, hs, -, hfresh⟩
  · have hfailed := hlookup.symm.trans (congrArg (Option.map (·.answered)) he)
    exact Bool.false_ne_true ((Option.some.inj hfailed).trans hanswered)
  · have hcached := hscore.symm.trans (congrArg (Option.map (·.fromCache)) hs)
    exact Bool.false_ne_true (hfresh.symm.trans (Option.some.inj hcached).symm)

/-! ## Runs in which nothing fails -/

/-- Everything that a run asks for is answered. -/
def AllAnswered (agent : Agent) (cache : Cache) (input : RunInput) : Prop :=
  agent.hasRedis = true → ∀ s ∈ (newScores agent cache input).1, s.answered = true

/-- The cache holds no failure. -/
def AnswersOnly (cache : Cache) : Prop := ∀ e ∈ cache.entries, e.answered = true

theorem answersOnly_put {embed : String → List ℚ} {now : ℕ} {headline : String} {scored : Scored}
    (h : AnswersOnly cache) (hscored : scored.answered = true) :
    AnswersOnly (cache.put embed now headline scored) := by
  intro e he
  rcases List.mem_append.mp he with hold | hnew
  · exact h e (cache.loadEntries_subset now hold)
  · rw [List.mem_singleton.mp hnew]
    exact hscored

/-- The stores of a run, one after the other. -/
theorem answersOnly_foldl_put {embed : String → List ℚ} {now : ℕ} {pairs : List (String × Scored)}
    (h : AnswersOnly cache) (hpairs : ∀ p ∈ pairs, p.2.answered = true) :
    AnswersOnly (pairs.foldl (fun cache p => cache.put embed now p.1 p.2) cache) := by
  induction pairs generalizing cache with
  | nil => exact h
  | cons p pairs ih =>
      rw [List.forall_mem_cons] at hpairs
      exact ih (answersOnly_put h hpairs.1) hpairs.2

/-- A run that is answered stores answers only. -/
theorem answersOnly_run (h : AnswersOnly cache) (hall : AllAnswered agent cache input) :
    AnswersOnly (run agent cache input).2 := by
  rw [run]
  split
  · exact h
  · rw [runCache]
    split
    · rename_i hredis
      refine answersOnly_foldl_put h ?_
      intro p hp
      exact hall hredis p.2 (List.of_mem_zip hp).2
    · exact h

/-- As long as nothing fails while there is a cache, no run returns a failure. -/
theorem unpoisoned_of_answered (agent : Agent) (inputs : List RunInput)
    (h : ∀ t ∈ (runs agent).trans Cache.empty inputs, AllAnswered agent t.pre t.op) :
    ∀ t ∈ (runs agent).trans Cache.empty inputs, Unpoisoned agent t := by
  have hstep : ∀ cache input, AnswersOnly cache → AllAnswered agent cache input →
      AnswersOnly ((runs agent).next cache input) := fun _ _ => answersOnly_run
  have hempty : AnswersOnly Cache.empty := by
    intro e he
    cases he
  intro t ht
  rcases Machine.trans_invariant_of_allowed (runs agent) hstep hempty h t ht with ⟨honly, hfire⟩
  rw [hfire, unpoisoned_fire_iff]
  intro h hh before failure after hsplit hfailed
  -- there is no entry of a failure
  have hmem : failure ∈ visible agent t.pre t.op.now := by
    rw [hsplit]
    exact List.mem_append_right _ List.mem_cons_self
  rw [visible] at hmem
  split at hmem
  · have hanswered := honly failure (t.pre.loadEntries_subset t.op.now hmem)
    exact absurd (hfailed.symm.trans hanswered) Bool.false_ne_true
  · cases hmem

end Intraday.Sentiment
