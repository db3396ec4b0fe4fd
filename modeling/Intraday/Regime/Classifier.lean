import Intraday.Lib.Decimal
import Intraday.Regime.Publisher

/-!
# Intraday.Regime.Classifier — `shared/regime/classifier.py`

`classify` looks at two of the features first: with a high VIX, or a spike of the ATR, the regime
is `HIGH_VOL_CHAOS` whatever the models say (`classify_of_chaos`). Otherwise a random forest
decides, or a hidden Markov model where the forest is not sure, or fixed rules where there are no
models.

The fitted models are parameters: what they predict for a vector of features. Numbers are exact.
-/

namespace Intraday.Regime

open Intraday.Core Intraday.Lib Intraday.Lib.Python Intraday.Risk

/-- `to_feature_array`. -/
def RegimeFeatures.toFeatureArray (f : RegimeFeatures) : List ℚ :=
  [f.adx, f.rsi, f.bbWidthPct, f.atrPct, f.vwapDeviationPct, f.volumeRatio, f.vix,
    if f.atrSpike then 1 else 0]

/-- `_REGIME_ORDER`. -/
def regimeOrder : List MarketRegime := [.bearTrend, .bullTrend, .highVolChaos, .meanReverting]

/-- `_label_to_regime`. -/
def labelToRegime (label : ℕ) : Except Exc MarketRegime :=
  match regimeOrder[label]? with
  | some regime => .ok regime
  | none => .error (.other "list index out of range")

/-- `np.argmax`: the first index of the greatest element. -/
def argmax (xs : List ℚ) : Except Exc ℕ :=
  match xs.max?.bind fun top => xs.idxOf? top with
  | some i => .ok i
  | none => .error (.other "attempt to get argmax of an empty sequence")

/-- A fitted forest and a fitted hidden Markov model, by what they predict for one row. -/
structure FittedModels where
  predictProba : List ℚ → List ℚ
  hmmPredict : List ℚ → ℤ

/-- `RegimeClassifier`; it is fitted if it has both models. -/
structure RegimeClassifier where
  models : Option FittedModels
  hmmStateToRegime : Dict ℤ MarketRegime

/-- `_is_chaos`. -/
def isChaos (features : RegimeFeatures) : Bool :=
  decide (features.vix > regimeVixChaosThreshold) || features.atrSpike

/-- `_rule_based_classify`, at `nowS`. -/
def ruleBasedClassify (features : RegimeFeatures) (nowS : ℚ) : RegimeClassification :=
  { regime :=
      if features.adx ≥ regimeAdxTrendThreshold then
        if features.vwapDeviationPct ≥ 0 then .bullTrend else .bearTrend
      else if features.adx < regimeAdxMeanRevertThreshold ∧
          regimeRsiMeanRevertLow ≤ features.rsi ∧ features.rsi ≤ regimeRsiMeanRevertHigh then
        .meanReverting
      else if features.adx ≥ regimeAdxTrendThreshold then .bullTrend
      else .meanReverting
    confidence := 0
    features := features
    hmmState := -1
    classifiedAt := nowS }

namespace RegimeClassifier

variable (clf : RegimeClassifier) (features : RegimeFeatures) (nowS : ℚ)

/-- `_model_classify`, at `nowS`. -/
def modelClassify (models : FittedModels) : Except Exc RegimeClassification := do
  let x := features.toFeatureArray
  let proba := models.predictProba x
  let rfLabel ← argmax proba
  let rfRegime ← labelToRegime rfLabel
  let rfConfidence := proba.getD rfLabel 0
  let hmmState := models.hmmPredict x
  let hmmRegime := (clf.hmmStateToRegime.get? hmmState).getD rfRegime
  -- an unsure forest yields to the hidden Markov model
  return {
    regime := if rfConfidence < regimeConfidenceThreshold then hmmRegime else rfRegime
    confidence := Decimal.roundTo 4 rfConfidence
    features := features
    hmmState := hmmState
    classifiedAt := nowS }

/-- `classify`, at `nowS`. -/
def classify : Except Exc RegimeClassification :=
  if isChaos features then
    .ok
      { regime := .highVolChaos
        confidence := 1
        features := features
        hmmState := -1
        classifiedAt := nowS }
  else
    match clf.models with
    | none => .ok (ruleBasedClassify features nowS)
    | some models => clf.modelClassify features nowS models

variable {features}

/-- The override comes before everything else. -/
theorem classify_of_chaos (h : isChaos features = true) :
    ∃ c, clf.classify features nowS = .ok c ∧ c.regime = .highVolChaos := by
  rw [classify, if_pos h]
  exact ⟨_, rfl, rfl⟩

end RegimeClassifier

end Intraday.Regime
