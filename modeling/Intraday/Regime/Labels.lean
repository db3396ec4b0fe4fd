import Mathlib.Algebra.Order.BigOperators.Group.List
import Mathlib.Data.Finset.Card
import Mathlib.Data.List.NodupEquivFin
import Intraday.Lib.SortedSet
import Intraday.Regime.Classifier

/-!
# Intraday.Regime.Labels — what the columns of a forest stand for

`fit` trains the forest on the labels of the regimes, and a forest has a column for each label that
it has seen. `_model_classify` takes the number of the best column for its label. The two are the
same exactly if every smaller label was seen (`classify_maps_iff`).
-/

namespace Intraday.Regime

open Intraday.Core Intraday.Lib Intraday.Lib.Python Intraday.Risk

/-! ## Training -/

/-- `_regime_to_label`. -/
def regimeToLabel (regime : MarketRegime) : ℕ := regimeOrder.idxOf regime

/-- A fitted forest, by what it predicts for a row. -/
structure Forest where
  predictProba : List ℚ → List ℚ
  predict : List ℚ → ℕ

/-- `RandomForestClassifier.fit` and `GaussianHMM.fit`; the model of the latter finds a state for
each row of a sequence. -/
structure Trainers where
  fitForest : List (List ℚ) → List ℕ → Except Exc Forest
  fitHmm : List (List ℚ) → Except Exc (List (List ℚ) → List ℤ)

/-- `REGIME_HMM_N_COMPONENTS`. -/
def regimeHmmNComponents : ℕ := 4

/-- The regime of a state, by the predictions for its rows. -/
def regimeOfState (hmmStates : List ℤ) (rfLabels : List ℕ) (state : ℤ) :
    Except Exc MarketRegime :=
  let chosen := ((hmmStates.zip rfLabels).filter fun row => row.1 = state).map Prod.snd
  if chosen = [] then .ok .meanReverting
  else do
    let counts := (List.range regimeOrder.length).map fun label => (chosen.count label : ℚ)
    let majorityLabel ← argmax counts
    labelToRegime majorityLabel

/-- `_build_state_map`. -/
def buildStateMap (hmmStates : List ℤ) (rfLabels : List ℕ) :
    Except Exc (Dict ℤ MarketRegime) :=
  (List.range regimeHmmNComponents).foldlM
    (fun stateMap state => do
      let regime ← regimeOfState hmmStates rfLabels state
      return stateMap.set state regime) Dict.empty

/-- `fit`. -/
def fit (trainers : Trainers) (xTrain : List (List ℚ)) (y : List MarketRegime) :
    Except Exc RegimeClassifier := do
  if xTrain.length < 2 then
    throw (.other s!"Need at least 2 samples to fit, got {xTrain.length}")
  let rf ← trainers.fitForest xTrain (y.map regimeToLabel)
  let hmm ← trainers.fitHmm xTrain
  let stateMap ← buildStateMap (hmm xTrain) (xTrain.map rf.predict)
  return {
    models := some
      { predictProba := rf.predictProba
        hmmPredict := fun x => (hmm [x]).headD 0 }
    hmmStateToRegime := stateMap }

/-- What a fit returns has a forest that was trained on the labels of `y`. -/
theorem exists_forest_of_fit {trainers : Trainers} {xTrain : List (List ℚ)} {y : List MarketRegime}
    {clf : RegimeClassifier} (h : fit trainers xTrain y = .ok clf) :
    ∃ rf models, trainers.fitForest xTrain (y.map regimeToLabel) = .ok rf ∧
      clf.models = some models ∧ models.predictProba = rf.predictProba := by
  unfold fit at h
  split at h
  · cases h
  · cases hrf : trainers.fitForest xTrain (y.map regimeToLabel) with
    | error e =>
        rw [hrf] at h
        cases h
    | ok rf =>
        rw [hrf] at h
        cases hhmm : trainers.fitHmm xTrain with
        | error e =>
            rw [hhmm] at h
            cases h
        | ok hmm =>
            rw [hhmm] at h
            cases hmap : buildStateMap (hmm xTrain) (xTrain.map rf.predict) with
            | error e =>
                simp only [bind, Except.bind, hmap] at h
                cases h
            | ok stateMap =>
                simp only [bind, Except.bind, pure, Except.pure, hmap] at h
                rw [← Except.ok.inj h]
                exact ⟨rf, _, rfl, rfl, rfl⟩

/-! ## The labels of the columns -/

/-- A forest has a column for each of its classes, and the columns of a row are probabilities. -/
structure HasColumns (labels : List ℕ) (predictProba : List ℚ → List ℚ) : Prop where
  length : ∀ x, (predictProba x).length = (sortedSet labels).length
  nonneg : ∀ x, ∀ p ∈ predictProba x, 0 ≤ p
  sum : ∀ x, (predictProba x).sum = 1

/-- The forest gives the class `c` the highest probability, and it is sure enough. -/
def Wins (labels : List ℕ) (proba : List ℚ) (c : ℕ) : Prop :=
  ∃ (i : ℕ) (p : ℚ), (sortedSet labels)[i]? = some c ∧ proba[i]? = some p ∧ (∀ q ∈ proba, q ≤ p) ∧
    regimeConfidenceThreshold ≤ p

/-- The place of a label among the classes is the label exactly if no smaller one is missing. -/
theorem index_eq_label_iff {labels : List ℕ} {i c : ℕ} (h : (sortedSet labels)[i]? = some c) :
    i = c ↔ ∀ l < c, l ∈ labels := by
  rcases List.getElem?_eq_some_iff.mp h with ⟨hi, hc⟩
  -- the classes up to `c` are `i + 1` of the `c + 1` numbers up to it
  let upTo : Finset ℕ := ((sortedSet labels).filter fun l => decide (l ≤ c)).toFinset
  have hmem : ∀ l, l ∈ upTo ↔ l ∈ labels ∧ l ≤ c := by
    intro l
    rw [List.mem_toFinset, List.mem_filter, mem_sortedSet, decide_eq_true_iff]
  have hcard : upTo.card = i + 1 := by
    rw [List.toFinset_card_of_nodup ((nodup_sortedSet labels).filter _),
      filter_le (sortedSet_pairwise labels) h, List.length_take]
    omega
  have hsub : upTo ⊆ Finset.range (c + 1) := by
    intro l hl
    exact Finset.mem_range_succ_iff.mpr ((hmem l).mp hl).2
  constructor
  · rintro rfl l hl
    have hall : upTo = Finset.range (i + 1) :=
      Finset.eq_of_subset_of_card_le hsub ((Finset.card_range (i + 1)).le.trans hcard.ge)
    have hlmem : l ∈ upTo := by
      rw [hall, Finset.mem_range]
      omega
    exact ((hmem l).mp hlmem).1
  · intro hall
    have hcmem : c ∈ labels := mem_sortedSet.mp (List.mem_of_getElem? h)
    have heq : upTo = Finset.range (c + 1) := by
      refine Finset.Subset.antisymm hsub ?_
      intro l hl
      rw [hmem]
      rcases (Finset.mem_range_succ_iff.mp hl).lt_or_eq with hlt | rfl
      · exact ⟨hall l hlt, hlt.le⟩
      · exact ⟨hcmem, le_rfl⟩
    rw [heq, Finset.card_range] at hcard
    omega

/-! ## The best column -/

/-- A probability above a half is found once. -/
theorem index_unique {proba : List ℚ} (hnonneg : ∀ p ∈ proba, 0 ≤ p) (hsum : proba.sum = 1) {p : ℚ}
    (hhalf : 1 / 2 < p) {i j : ℕ} (hi : proba[i]? = some p) (hj : proba[j]? = some p) :
    ¬ i < j := by
  intro hlt
  rcases List.getElem?_eq_some_iff.mp hi with ⟨hi, hpi⟩
  rcases List.getElem?_eq_some_iff.mp hj with ⟨hj, hpj⟩
  have hduplicate : proba.Duplicate p :=
    List.duplicate_iff_exists_distinct_get.mpr ⟨⟨i, hi⟩, ⟨j, hj⟩, hlt, hpi.symm, hpj.symm⟩
  have htwo : 2 ≤ proba.count p := List.duplicate_iff_two_le_count.mp hduplicate
  have hsub : (List.replicate 2 p).Sublist proba := List.replicate_sublist_iff.mpr htwo
  -- two of them are more than the sum
  have hle := hsub.sum_le_sum hnonneg
  rw [hsum, List.sum_replicate, two_nsmul] at hle
  linarith

/-- The number that `argmax` finds is that of the highest probability. -/
theorem argmax_eq {proba : List ℚ} (hnonneg : ∀ p ∈ proba, 0 ≤ p) (hsum : proba.sum = 1) {i : ℕ}
    {p : ℚ} (hi : proba[i]? = some p) (hmax : ∀ q ∈ proba, q ≤ p) (hhalf : 1 / 2 < p) :
    argmax proba = .ok i := by
  have htop : proba.max? = some p := List.max?_eq_some_iff.mpr ⟨List.mem_of_getElem? hi, hmax⟩
  have hidx : proba.idxOf? p = some i := by
    rcases List.getElem?_eq_some_iff.mp hi with ⟨hlt, hp⟩
    rw [List.idxOf?_eq_some_iff]
    refine ⟨hlt, hp, ?_⟩
    intro j hj heq
    have hj' : proba[j]? = some p := List.getElem?_eq_some_iff.mpr ⟨hj.trans hlt, heq⟩
    exact index_unique hnonneg hsum hhalf hj' hi hj
  rw [argmax, htop, Option.bind_some, hidx]

/-- If the forest is sure of a class, the regime is that of the number of its column. -/
theorem classify_of_wins {labels : List ℕ} {clf : RegimeClassifier} {models : FittedModels}
    {features : RegimeFeatures} (nowS : ℚ) (hmodels : clf.models = some models)
    (hcolumns : HasColumns labels models.predictProba) (hcalm : isChaos features = false) {i : ℕ}
    {p : ℚ} (hi : (models.predictProba features.toFeatureArray)[i]? = some p)
    (hmax : ∀ q ∈ models.predictProba features.toFeatureArray, q ≤ p)
    (hsure : regimeConfidenceThreshold ≤ p) :
    (clf.classify features nowS).map RegimeClassification.regime = labelToRegime i := by
  have hhalf : 1 / 2 < p := lt_of_lt_of_le (by norm_num [regimeConfidenceThreshold]) hsure
  have hbest := argmax_eq (hcolumns.nonneg _) (hcolumns.sum _) hi hmax hhalf
  have hconfidence : (models.predictProba features.toFeatureArray).getD i 0 = p := by
    rw [List.getD_eq_getElem?_getD, hi, Option.getD_some]
  rw [RegimeClassifier.classify, hcalm, hmodels]
  unfold RegimeClassifier.modelClassify
  dsimp only
  rw [hbest]
  simp only [bind, Except.bind, Bool.false_eq_true, if_false]
  cases hregime : labelToRegime i with
  | error e => rfl
  | ok regime =>
      rw [hconfidence]
      simp only [if_neg (not_lt.mpr hsure)]
      rfl

/-- `classify` returns the regime that the label `c` stands for. -/
def Maps (clf : RegimeClassifier) (features : RegimeFeatures) (nowS : ℚ) (c : ℕ) : Prop :=
  ∃ result, clf.classify features nowS = .ok result ∧ labelToRegime c = .ok result.regime

/-- Two labels of one regime are the same. -/
theorem labelToRegime_injective {i c : ℕ} {regime : MarketRegime}
    (hi : labelToRegime i = .ok regime) (hc : labelToRegime c = .ok regime) : i = c := by
  have hindex : ∀ {l : ℕ}, labelToRegime l = .ok regime → regimeOrder[l]? = some regime := by
    intro l hl
    unfold labelToRegime at hl
    split at hl
    · rename_i found hfound
      rw [hfound, Except.ok.inj hl]
    · cases hl
  have hlt : i < regimeOrder.length := (List.getElem?_eq_some_iff.mp (hindex hi)).1
  exact (List.getElem?_inj hlt (by decide)).mp ((hindex hi).trans (hindex hc).symm)

/-- The labels of regimes are those of the encoding. -/
theorem labelToRegime_regimeToLabel (regime : MarketRegime) :
    labelToRegime (regimeToLabel regime) = .ok regime := by
  cases regime <;> rfl

/-- A forest that was trained on the labels of `y` and is sure of one of them is understood exactly
if no smaller label is missing in `y`. -/
theorem classify_maps_iff {y : List MarketRegime} {clf : RegimeClassifier} {models : FittedModels}
    {features : RegimeFeatures} (nowS : ℚ) {c : ℕ} (hmodels : clf.models = some models)
    (hcolumns : HasColumns (y.map regimeToLabel) models.predictProba)
    (hcalm : isChaos features = false)
    (hwins : Wins (y.map regimeToLabel) (models.predictProba features.toFeatureArray) c) :
    Maps clf features nowS c ↔ ∀ l < c, l ∈ y.map regimeToLabel := by
  rcases hwins with ⟨i, p, hclass, hi, hmax, hsure⟩
  have hclassify := classify_of_wins nowS hmodels hcolumns hcalm hi hmax hsure
  rw [← index_eq_label_iff hclass]
  constructor
  · rintro ⟨result, hresult, hregime⟩
    rw [hresult] at hclassify
    exact labelToRegime_injective hclassify.symm hregime
  · rintro rfl
    -- the label is one of a regime of the training data
    have hmem := mem_sortedSet.mp (List.mem_of_getElem? hclass)
    rcases List.mem_map.mp hmem with ⟨regime, -, rfl⟩
    rw [labelToRegime_regimeToLabel] at hclassify
    cases hresult : clf.classify features nowS with
    | error e =>
        rw [hresult] at hclassify
        cases hclassify
    | ok result =>
        rw [hresult] at hclassify
        refine ⟨result, hresult, ?_⟩
        rw [labelToRegime_regimeToLabel, ← hclassify]
        rfl

/-! ## Forests of two classes -/

/-- Trainers of a forest that has these columns for every row, and predicts this label, with one
hidden state. -/
def constantTrainers (proba : List ℚ) (label : ℕ) : Trainers where
  fitForest _ _ := .ok { predictProba := fun _ => proba, predict := fun _ => label }
  fitHmm _ := .ok fun rows => rows.map fun _ => 0

/-- The features of a calm market. -/
def calmFeatures : RegimeFeatures where
  adx := 20
  rsi := 50
  bbWidthPct := 2
  atrPct := 1
  vwapDeviationPct := 0
  volumeRatio := 1
  vix := 14
  atrSpike := false

/-- The models of a constant forest. -/
def constantModels (proba : List ℚ) : FittedModels where
  predictProba _ := proba
  hmmPredict _ := 0

theorem hasColumns_constantModels {labels : List ℕ} {proba : List ℚ}
    (hlength : proba.length = (sortedSet labels).length) (hnonneg : ∀ p ∈ proba, 0 ≤ p)
    (hsum : proba.sum = 1) : HasColumns labels (constantModels proba).predictProba :=
  ⟨fun _ => hlength, fun _ => hnonneg, fun _ => hsum⟩

/-- Trained on the first two regimes, the forest is understood. -/
theorem classify_maps_bull :
    Maps { models := some (constantModels [1 / 4, 3 / 4]), hmmStateToRegime := Dict.empty }
      calmFeatures 0 1 := by
  have hcolumns : HasColumns ([.bearTrend, .bullTrend].map regimeToLabel)
      (constantModels [1 / 4, 3 / 4]).predictProba :=
    hasColumns_constantModels (by decide) (by decide +kernel) (by decide +kernel)
  have hwins : Wins ([.bearTrend, .bullTrend].map regimeToLabel)
      ((constantModels [1 / 4, 3 / 4]).predictProba calmFeatures.toFeatureArray) 1 :=
    ⟨1, 3 / 4, by decide, rfl, by decide +kernel, by decide +kernel⟩
  exact (classify_maps_iff 0 rfl hcolumns (by decide +kernel) hwins).mpr (by decide)

/-- Trained on `BULL_TREND` and `MEAN_REVERTING`, the forest is sure of the second, and the first is
returned. -/
theorem mean_reverting_misread :
    ∃ clf models,
      fit (constantTrainers [1 / 10, 9 / 10] 3)
        [calmFeatures.toFeatureArray, [25, 60, 3, 1, 1, 1, 13, 0]]
        [.meanReverting, .bullTrend] = .ok clf ∧
      clf.models = some models ∧
      HasColumns ([.meanReverting, .bullTrend].map regimeToLabel) models.predictProba ∧
      isChaos calmFeatures = false ∧
      Wins ([.meanReverting, .bullTrend].map regimeToLabel)
        (models.predictProba calmFeatures.toFeatureArray) (regimeToLabel .meanReverting) ∧
      ¬ Maps clf calmFeatures 0 (regimeToLabel .meanReverting) := by
  refine ⟨_, _, rfl, rfl, ?_, ?_, ?_, ?_⟩
  · exact hasColumns_constantModels (by decide) (by decide +kernel) (by decide +kernel)
  · decide +kernel
  · exact ⟨1, 9 / 10, by decide, rfl, by decide +kernel, by decide +kernel⟩
  · rintro ⟨result, hresult, hregime⟩
    have hbull : (Except.ok result : Except Exc RegimeClassification).map
        RegimeClassification.regime = .ok .bullTrend := by
      rw [← hresult]
      decide +kernel
    rw [Except.map, ← hregime] at hbull
    exact absurd hbull (by decide)

end Intraday.Regime
