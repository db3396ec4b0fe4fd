import Intraday.Lib.FirstMax
import Intraday.Sentiment.Scorer

/-!
# Intraday.Sentiment.Cache — `shared/sentiment/cache.py`

The cache is a Redis list of scores with the embeddings of their headlines. A lookup returns the
score whose embedding is closest to that of the headline, if its cosine similarity reaches the
threshold; of two that are equally close it returns the older one (`hit_eq_some_iff`). The list
expires as a whole, a day after the last entry.
-/

namespace Intraday.Sentiment

open Intraday.Core Intraday.Lib

/-! ## Similarity -/

/-- `np.dot`. -/
def dot (a b : List ℚ) : ℚ := (List.zipWith (· * ·) a b).sum

/-- `_cosine_similarity`, with `norm` for `np.linalg.norm`. -/
def cosineSimilarity (norm : List ℚ → ℚ) (a b : List ℚ) : ℚ :=
  if norm a = 0 ∨ norm b = 0 then 0 else dot a b / (norm a * norm b)

/-! ## Lookups -/

/-- An entry of the list: a score, which is stored without `from_cache`, and an embedding, if
there is one. `answered` is not stored: it says whether the LLM gave the score. -/
structure Entry where
  score : SentimentScore
  embedding : Option (List ℚ)
  answered : Bool
deriving DecidableEq, Repr

/-- `_dict_to_score`. -/
def Entry.cached (e : Entry) : SentimentScore :=
  { e.score with tokensUsed := 0, fromCache := true }

/-- One turn of the loop of `get`, with the best similarity and entry so far. -/
def lookupStep (norm : List ℚ → ℚ) (query : List ℚ) (best : ℚ × Option Entry) (entry : Entry) :
    ℚ × Option Entry :=
  match entry.embedding with
  | none => best
  | some stored =>
      if stored.length ≠ query.length then best
      else
        let sim := cosineSimilarity norm query stored
        if sim > best.1 then (sim, some entry) else best

/-- The entry whose score `get` returns. -/
def hit (norm : List ℚ → ℚ) (query : List ℚ) (entries : List Entry) : Option Entry :=
  let best := entries.foldl (lookupStep norm query) (0, none)
  if best.1 ≥ gptcacheSimilarityThreshold then best.2 else none

/-- The similarity of an entry; 0 for one that is skipped. -/
def similarity (norm : List ℚ → ℚ) (query : List ℚ) (entry : Entry) : ℚ :=
  match entry.embedding with
  | none => 0
  | some stored => if stored.length ≠ query.length then 0 else cosineSimilarity norm query stored

/-- A turn of the loop keeps the better entry: skipping is to be no better than nothing. -/
theorem lookupStep_eq {norm : List ℚ → ℚ} {query : List ℚ} {best : ℚ × Option Entry}
    (h : 0 ≤ best.1) (entry : Entry) :
    lookupStep norm query best entry = keepBetter (similarity norm query) best entry := by
  rw [lookupStep, keepBetter, similarity]
  cases entry.embedding with
  | none => exact (if_neg (not_lt.mpr h)).symm
  | some stored =>
      by_cases hlen : stored.length ≠ query.length
      · simp only [if_pos hlen]
        exact (if_neg (not_lt.mpr h)).symm
      · simp only [if_neg hlen]

theorem foldl_lookupStep (norm : List ℚ → ℚ) (query : List ℚ) (entries : List Entry) :
    entries.foldl (lookupStep norm query) (0, none) =
      firstMax (similarity norm query) 0 entries := by
  have hfold : ∀ best : ℚ × Option Entry, 0 ≤ best.1 →
      entries.foldl (lookupStep norm query) best =
        entries.foldl (keepBetter (similarity norm query)) best := by
    induction entries with
    | nil => exact fun _ _ => rfl
    | cons entry rest ih =>
        intro best hbest
        rw [List.foldl_cons, List.foldl_cons, lookupStep_eq hbest]
        refine ih _ ?_
        rw [keepBetter]
        split
        · rename_i hbetter
          exact (lt_of_le_of_lt hbest hbetter).le
        · exact hbest
  exact hfold (0, none) (le_refl _)

/-- A lookup returns the first of the closest entries, if it is close enough. -/
theorem hit_eq_some_iff {norm : List ℚ → ℚ} {query : List ℚ} {entries : List Entry} {e : Entry} :
    hit norm query entries = some e ↔
      gptcacheSimilarityThreshold ≤ similarity norm query e ∧
        IsFirstMax (similarity norm query) entries e := by
  have hpos : (0 : ℚ) < gptcacheSimilarityThreshold := by norm_num [gptcacheSimilarityThreshold]
  rw [hit, foldl_lookupStep]
  constructor
  · intro h
    split at h
    · rename_i hclose
      have hbest := firstMax_fst h
      rw [hbest] at hclose
      exact ⟨hclose, (firstMax_eq_iff.mp hbest).2⟩
    · cases h
  · rintro ⟨hclose, hmax⟩
    rw [firstMax_eq_iff.mpr ⟨lt_of_lt_of_le hpos hclose, hmax⟩]
    exact if_pos hclose

/-- The entry as it is stored, which does not say whether the LLM gave the score. -/
def Entry.erase (e : Entry) : Entry := { e with answered := true }

/-- Lookups do not depend on what is not stored. -/
theorem hit_erase (norm : List ℚ → ℚ) (query : List ℚ) (entries : List Entry) :
    hit norm query (entries.map Entry.erase) = (hit norm query entries).map Entry.erase := by
  have hsame : similarity norm query ∘ Entry.erase = similarity norm query := rfl
  simp only [hit, foldl_lookupStep, firstMax_map, hsame]
  split <;> rfl

/-! ## The list in Redis -/

/-- The list and the time at which it expires, in milliseconds. -/
structure Cache where
  entries : List Entry
  expiresAt : ℕ

/-- A cache that was never written. -/
def Cache.empty : Cache := ⟨[], 0⟩

/-- `_load_entries`, at the time `now`. -/
def Cache.loadEntries (cache : Cache) (now : ℕ) : List Entry :=
  if now < cache.expiresAt then cache.entries else []

/-- `put`, at the time `now`: an `rpush` to what is left, and an `expire`. -/
def Cache.put (embed : String → List ℚ) (now : ℕ) (cache : Cache) (headline : String)
    (scored : Scored) : Cache :=
  { entries := cache.loadEntries now ++
      [{ score := scored.score, embedding := some (embed headline), answered := scored.answered }]
    expiresAt := now + sentimentCacheRedisTtlSeconds * 1000 }

/-- The cache as it is stored. -/
def Cache.erase (cache : Cache) : Cache := { cache with entries := cache.entries.map Entry.erase }

theorem Cache.loadEntries_erase (cache : Cache) (now : ℕ) :
    cache.erase.loadEntries now = (cache.loadEntries now).map Entry.erase := by
  by_cases hfresh : now < cache.expiresAt <;> simp [loadEntries, erase, hfresh]

theorem Cache.loadEntries_subset (cache : Cache) (now : ℕ) :
    cache.loadEntries now ⊆ cache.entries := by
  rw [loadEntries]
  split
  · exact List.Subset.refl _
  · exact List.nil_subset _

end Intraday.Sentiment
