import Intraday.Lib.Traverse
import Intraday.Sentiment.Cache
import Intraday.Sentiment.Parsing

/-!
# Intraday.Sentiment.Lookup — a lookup in a list that may hold anything

`Cache` is about the entries that `put` writes. The list in Redis may hold other texts: one that is
no JSON is skipped, with a warning; one that is JSON is taken for an entry, and what is wrong with
it raises in the lookup (`get_of_wellFormed`).
-/

namespace Intraday.Sentiment

open Intraday.Core Intraday.Lib
open Intraday.Lib.Json (dictOf pyStr)
open Intraday.Lib.Python (Exc)

/-- What the agent uses of numpy, with `A` for its arrays. -/
structure Numpy (A : Type) where
  /-- `np.array(values, dtype=np.float32)` -/
  array : List Json → Except Exc A
  /-- `a.shape[0]` -/
  size : A → ℕ
  /-- `float(np.linalg.norm(a))` -/
  norm : A → PyFloat
  /-- `float(np.dot(a, b) / x)` -/
  dotOver : A → A → PyFloat → Except Exc PyFloat

/-- `SentimentAgent`, with what it uses of Python, of numpy and of its embedding model, and with
what `CostTracker.record` comes to. -/
structure RawAgent (A : Type) where
  parser : Parser
  /-- `int(text)` -/
  intOf : String → Option ℤ
  numpy : Numpy A
  embed : String → A
  record : ℤ → ℤ → Except Exc Unit
  model : String
  hasRedis : Bool

namespace RawAgent

variable {A : Type}

/-! ## The entries -/

/-- One turn of the loop of `_load_entries`; `none` is an element that is not UTF-8. -/
def loadEntry (agent : RawAgent A) (entries : List (Dict String Json)) (raw : Option String) :
    Except Exc (List (Dict String Json)) :=
  match raw with
  | none => .ok entries
  | some text =>
      match agent.parser.loads text with
      | .error .jsonDecodeError => .ok entries
      | .error (.other e) => .error e
      | .ok (.obj members) => .ok (entries ++ [dictOf members])
      | .ok _ => .ok entries

/-- `_load_entries`. -/
def loadEntries (agent : RawAgent A) (contents : List (Option String)) :
    Except Exc (List (Dict String Json)) :=
  contents.foldlM agent.loadEntry []

/-! ## The score of an entry -/

/-- `str(d[key])`. -/
def item (agent : RawAgent A) (d : Dict String Json) (key : String) : Except Exc String :=
  match d.get? key with
  | some v => .ok (pyStr agent.parser.python.builtins v)
  | none => .error (.other ("KeyError: '" ++ key ++ "'"))

/-- `float(str(d[key]))`. -/
def number (agent : RawAgent A) (d : Dict String Json) (key : String) : Except Exc PyFloat := do
  let text ← agent.item d key
  match agent.parser.python.builtins.float text with
  | some x => .ok x
  | none => .error (.other ("could not convert string to float: '" ++ text ++ "'"))

/-- A number that the constructor of a score lets pass. -/
def inRange (x : PyFloat) (lo hi : ℚ) : Option {q : ℚ // lo ≤ q ∧ q ≤ hi} :=
  match x with
  | .finite negative d =>
      if h : lo ≤ PyFloat.value negative d ∧ PyFloat.value negative d ≤ hi then some ⟨_, h⟩
      else none
  | _ => none

/-- The label of a text. -/
def labelNamed (text : String) : Option SentimentLabel :=
  [.bullish, .bearish, .neutral].find? fun label => label.value = text

/-- `_dict_to_score`, for an entry of the cache, with the checks of `SentimentScore`. -/
def dictToScore (agent : RawAgent A) (d : Dict String Json) : Except Exc SentimentScore := do
  let headline ← agent.item d "headline"
  let score ← agent.number d "score"
  let label ← agent.item d "label"
  let confidence ← agent.number d "confidence"
  let modelVersion ← agent.item d "model_version"
  match inRange score (-1) 1, labelNamed label, inRange confidence 0 1 with
  | none, _, _ => .error (.other ("score must be in [-1, 1], got " ++ score.repr))
  | _, none, _ => .error (.other ("Unknown label: '" ++ label ++ "'"))
  | _, _, none => .error (.other ("confidence must be in [0, 1], got " ++ confidence.repr))
  | some score, some label, some confidence =>
      .ok
        { headline := headline, score := score, label := label, confidence := confidence
          tokensUsed := 0, fromCache := true, modelVersion := modelVersion
          score_range := score.2, confidence_range := confidence.2 }

/-! ## The closest entry -/

/-- `_cosine_similarity`. -/
def cosineSimilarity (agent : RawAgent A) (a b : A) : Except Exc PyFloat :=
  let normA := agent.numpy.norm a
  let normB := agent.numpy.norm b
  if normA.eq .zero || normB.eq .zero then .ok .zero
  else agent.numpy.dotOver a b (agent.parser.python.builtins.multiply normA normB)

/-- One turn of the loop of `get`. -/
def lookupStep (agent : RawAgent A) (query : A) (best : PyFloat × Option (Dict String Json))
    (entry : Dict String Json) : Except Exc (PyFloat × Option (Dict String Json)) :=
  match entry.get? "embedding" with
  | some (.arr values) => do
      let stored ← agent.numpy.array values
      if agent.numpy.size stored ≠ agent.numpy.size query then .ok best
      else do
        let sim ← agent.cosineSimilarity query stored
        .ok (if best.1.le sim && !sim.le best.1 then (sim, some entry) else best)
  | _ => .ok best

/-- `x >= GPTCACHE_SIMILARITY_THRESHOLD`. -/
def reachesThreshold : PyFloat → Bool
  | .nan => false
  | .inf negative => !negative
  | .finite negative d => decide (gptcacheSimilarityThreshold ≤ PyFloat.value negative d)

/-- `SentimentCache.get`, of a list with these elements. -/
def get (agent : RawAgent A) (contents : List (Option String)) (headline : String) :
    Except Exc (Option SentimentScore) := do
  let rawEntries ← agent.loadEntries contents
  if rawEntries.isEmpty then .ok none
  else do
    let best ← rawEntries.foldlM (agent.lookupStep (agent.embed headline)) (.zero, none)
    match best.2 with
    | some entry =>
        if reachesThreshold best.1 then (agent.dictToScore (entry.erase "embedding")).map some
        else .ok none
    | none => .ok none

/-! ## Lists that can be looked up in -/

/-- An element that does no harm: it is no JSON or no object, or it can be compared and has a
score. -/
structure WellFormed (agent : RawAgent A) (query : A) (raw : Option String) : Prop where
  loads : ∀ text ∈ raw, ∀ e, agent.parser.loads text ≠ .error (.other e)
  compares : ∀ text ∈ raw, ∀ members, agent.parser.loads text = .ok (.obj members) →
    ∀ best, ∃ best', agent.lookupStep query best (dictOf members) = .ok best'
  scored : ∀ text ∈ raw, ∀ members, agent.parser.loads text = .ok (.obj members) →
    ∃ s, agent.dictToScore ((dictOf members).erase "embedding") = .ok s

section WellFormed

variable {agent : RawAgent A} {query : A}

/-- The best entry is one of the list. -/
theorem lookupStep_snd {best best' : PyFloat × Option (Dict String Json)} {entry : Dict String Json}
    (h : agent.lookupStep query best entry = .ok best') : best' = best ∨ best'.2 = some entry := by
  rw [lookupStep] at h
  split at h
  · rcases bind_eq_ok_iff.mp h with ⟨stored, -, h⟩
    split at h
    · exact Or.inl (Except.ok.inj h).symm
    · rcases bind_eq_ok_iff.mp h with ⟨sim, -, h⟩
      rw [← Except.ok.inj h]
      split
      · exact Or.inr rfl
      · exact Or.inl rfl
  · exact Or.inl (Except.ok.inj h).symm

/-- The entries that are loaded are those of the elements. -/
theorem exists_loadEntries {contents : List (Option String)}
    (h : ∀ raw ∈ contents, WellFormed agent query raw) :
    ∃ entries, agent.loadEntries contents = .ok entries ∧ ∀ d ∈ entries,
      (∀ best, ∃ best', agent.lookupStep query best d = .ok best') ∧
        ∃ s, agent.dictToScore (d.erase "embedding") = .ok s := by
  refine exists_foldlM ?_ (by simp)
  intro entries hentries raw hraw
  rcases h raw hraw with ⟨hloads, hcompares, hscored⟩
  cases raw with
  | none => exact ⟨entries, rfl, hentries⟩
  | some text =>
      simp only [loadEntry]
      cases hload : agent.parser.loads text with
      | error e =>
          cases e with
          | jsonDecodeError => exact ⟨entries, rfl, hentries⟩
          | other e => exact absurd hload (hloads text rfl e)
      | ok v =>
          cases v with
          | obj members =>
              refine ⟨_, rfl, ?_⟩
              intro d hd
              rcases List.mem_append.mp hd with hold | hnew
              · exact hentries d hold
              · rw [List.mem_singleton.mp hnew]
                exact ⟨hcompares text rfl members hload, hscored text rfl members hload⟩
          | null | bool | int | float | str | arr => exact ⟨entries, rfl, hentries⟩

/-- A lookup returns if the elements of the list are well formed. -/
theorem get_of_wellFormed {contents : List (Option String)} {headline : String}
    (h : ∀ raw ∈ contents, WellFormed agent (agent.embed headline) raw) :
    ∃ answer, agent.get contents headline = .ok answer := by
  rcases exists_loadEntries h with ⟨entries, hentries, hall⟩
  -- the entry that is found is one of those that are loaded, so it has a score
  have hbest : ∃ best, entries.foldlM (agent.lookupStep (agent.embed headline)) (.zero, none) =
      .ok best ∧ ∀ entry ∈ best.2, entry ∈ entries := by
    refine exists_foldlM ?_ (by simp)
    intro best hmem entry hentry
    rcases (hall entry hentry).1 best with ⟨best', hstep⟩
    refine ⟨best', hstep, ?_⟩
    rcases lookupStep_snd hstep with rfl | hsome
    · exact hmem
    · intro entry' h'
      rw [hsome] at h'
      rwa [← Option.some.inj h']
  rcases hbest with ⟨best, hfold, hmem⟩
  rw [get, hentries]
  simp only [bind, Except.bind]
  split
  · exact ⟨none, rfl⟩
  · rw [hfold]
    dsimp only
    split
    · rename_i entry hentry
      split
      · rcases (hall entry (hmem entry hentry)).2 with ⟨s, hs⟩
        exact ⟨some s, by rw [hs]; rfl⟩
      · exact ⟨none, rfl⟩
    · exact ⟨none, rfl⟩

end WellFormed

end RawAgent

end Intraday.Sentiment
