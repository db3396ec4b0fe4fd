import Mathlib.Algebra.Order.Ring.Abs
import Intraday.Core.Constants
import Intraday.Lib.Decimal
import Intraday.Signals.Models

/-!
# Intraday.Signals.Gates — `shared/signals/gates.py`

The nine gates. Gates 3, 6 and 7 divide or move a time, so they are run in `Except`; the other
gates cannot raise.
-/

namespace Intraday.Signals

open Intraday.Core Intraday.Lib Intraday.Lib.Decimal Intraday.Lib.Raise Intraday.Patterns
  Intraday.Risk

/-! ## Gate 1: the regime -/

/-- `gate_1_regime`. -/
def gate1Regime (ctx : SignalContext) : GateResult :=
  let regimeStr := ctx.regime.regime.value
  if ctx.regime.regime = .highVolChaos then
    { gateNumber := 1, passed := false
      reason := "HIGH_VOL_CHAOS — all entries blocked (RULE 2)" }
  else if ctx.direction = "LONG" ∧ ctx.regime.regime = .bearTrend then
    { gateNumber := 1, passed := false
      reason := "LONG entry blocked in " ++ regimeStr ++ " regime" }
  else if ctx.direction = "SHORT" ∧ ctx.regime.regime = .bullTrend then
    { gateNumber := 1, passed := false
      reason := "SHORT entry blocked in " ++ regimeStr ++ " regime" }
  else
    { gateNumber := 1, passed := true
      reason := "Direction " ++ ctx.direction ++ " permitted in " ++ regimeStr }

/-! ## Gate 2: the indicators -/

/-- The indicators that Gate 2 asks. -/
inductive Indicator where
  | ema
  | vwap
  | rsi
  | macd
  | stochastic
  | bbands
  | orb
  | volume
deriving DecidableEq, Repr

/-- The name of an indicator. -/
def Indicator.name : Indicator → String
  | .ema => "EMA"
  | .vwap => "VWAP"
  | .rsi => "RSI"
  | .macd => "MACD"
  | .stochastic => "STOCHASTIC"
  | .bbands => "BBANDS"
  | .orb => "ORB"
  | .volume => "VOLUME"

/-- `_check_indicator`. A value that is missing agrees with nothing. -/
def checkIndicator (ind : Indicator) (values : IndicatorValues) (direction : String)
    (currentPrice currentVolume avgVolume : ℚ) (orbDirection : Option ℤ) : Bool :=
  let v := values ind.name
  match ind with
  | .ema =>
      match v "EMA_9", v "EMA_21" with
      | some ema9, some ema21 =>
          if direction = "LONG" then decide (ema9 > ema21) else decide (ema9 < ema21)
      | _, _ => false
  | .vwap =>
      match v "VWAP" with
      | some vwap =>
          if direction = "LONG" then decide (currentPrice > vwap) else decide (currentPrice < vwap)
      | none => false
  | .rsi =>
      match v "RSI_14" with
      | some rsi =>
          if direction = "LONG" then decide (rsi > rsiBullishLevel)
          else decide (rsi < rsiBearishLevel)
      | none => false
  | .macd =>
      match v "MACD_HIST" with
      | some hist => if direction = "LONG" then decide (hist > 0) else decide (hist < 0)
      | none => false
  | .stochastic =>
      match v "STOCH_K", v "STOCH_D" with
      | some k, some d =>
          if direction = "LONG" then decide (k > 50 ∧ k > d) else decide (k < 50 ∧ k < d)
      | _, _ => false
  | .bbands =>
      match v "BB_MIDDLE" with
      | some mid =>
          if direction = "LONG" then decide (currentPrice > mid) else decide (currentPrice < mid)
      | none => false
  | .orb =>
      match orbDirection with
      | some orb => if direction = "LONG" then decide (orb = 1) else decide (orb = -1)
      | none => false
  | .volume =>
      if avgVolume ≤ 0 then false
      else decide (currentVolume > volumeConfirmationMultiplier * avgVolume)

/-- `_GATE_2_INDICATORS`. -/
def gate2IndicatorList : List Indicator :=
  [.ema, .vwap, .rsi, .macd, .stochastic, .bbands, .orb, .volume]

/-- The direction of the opening range breakout, if there is one. -/
def orbDirectionOf (ctx : SignalContext) : Option ℤ :=
  (ctx.patternSnapshot.bind (·.orbState)).bind (·.breakoutDirection)

/-- The indicators that agree with the direction of the trade. -/
def agreeing (ctx : SignalContext) : List Indicator :=
  gate2IndicatorList.filter fun ind =>
    checkIndicator ind ctx.indicatorValues ctx.direction ctx.currentPrice ctx.currentVolume
      ctx.avgVolume (orbDirectionOf ctx)

/-- `gate_2_indicators`. -/
def gate2Indicators (ctx : SignalContext) : GateResult :=
  let names := (agreeing ctx).map (·.name)
  let count := names.length
  if count < gate2MinIndicatorsAgreeing then
    { gateNumber := 2, passed := false
      reason := "Only " ++ toString count ++ "/" ++ toString gate2TotalIndicators ++
        " indicators agree (need ≥ " ++ toString gate2MinIndicatorsAgreeing ++ ")" }
  else
    { gateNumber := 2, passed := true
      reason := toString count ++ "/" ++ toString gate2TotalIndicators ++
        " indicators agree: " ++ ", ".intercalate names
      confidenceContribution := gate2PerIndicatorBonus * count
      confirmingIndicators := names }

/-! ## Gate 3: the order flow -/

/-- The sign test of `gate_3_order_flow`. -/
def directionMatch (direction : String) (volDelta : ℚ) : Bool :=
  let deltaLong := decide (volDelta > 0)
  (decide (direction = "LONG") && deltaLong) || (decide (direction = "SHORT") && !deltaLong)

/-- The end of `gate_3_order_flow`, past the absorption test. -/
def footprintDelta (direction : String) (volDelta : ℚ) : GateResult :=
  if !directionMatch direction volDelta then
    { gateNumber := 3, passed := false
      reason := "Footprint delta (" ++ fmtSigned 0 volDelta ++ ") conflicts with " ++ direction ++
        " direction" }
  else
    { gateNumber := 3, passed := true
      reason := "Order flow confirms " ++ direction ++ ": delta=" ++ fmtSigned 0 volDelta
      confidenceContribution := gate3ConfidenceBonus }

/-- The failure of `gate_3_order_flow` on an absorption. -/
def absorptionResult (vol deltaRatio volRatio : ℚ) : GateResult :=
  { gateNumber := 3, passed := false
    reason := "Institutional absorption detected: vol=" ++ fmtFixed 0 vol ++ " (" ++
      fmtFixed 1 volRatio ++ "× avg), delta_ratio=" ++ fmtFixed 3 deltaRatio }

/-- `gate_3_order_flow`. The message of an absorption divides by the average volume, which its
test does not. -/
def gate3OrderFlow (ctx : SignalContext) : Except Exc GateResult :=
  match ctx.indicatorValues "VOLUME_DELTA" "VOLUME_DELTA" with
  | none =>
      .ok
        { gateNumber := 3, passed := false
          reason := "VOLUME_DELTA unavailable — order flow unverifiable" }
  | some volDelta =>
      let absDelta := |volDelta|
      let vol := ctx.currentVolume
      if vol > 0 ∧ vol > gate3AbsorptionVolumeRatio * ctx.avgVolume then do
        let deltaRatio ← if vol > 0 then div absDelta vol else .ok 1
        if deltaRatio < gate3AbsorptionDeltaRatio then do
          let volRatio ← div vol ctx.avgVolume
          .ok (absorptionResult vol deltaRatio volRatio)
        else .ok (footprintDelta ctx.direction volDelta)
      else .ok (footprintDelta ctx.direction volDelta)

/-! ## Gate 4: candlestick patterns -/

/-- `100 if direction == "LONG" else -100`. -/
def expectedDirection (direction : String) : ℤ := if direction = "LONG" then 100 else -100

/-- The loop of `gate_4_candlestick`: the last signal that it accepts. The bars are counted back
from the number of signals. -/
def confirmingSignal (direction : String) (signals : List CandlestickSignal) :
    Option CandlestickSignal :=
  let lastBar : ℤ := signals.length
  signals.reverse.find? fun sig =>
    decide (lastBar - sig.barIndex ≤ 3) && decide (sig.direction = expectedDirection direction)

/-- The opening range broke out in the direction of the trade. -/
def orbConfirms (direction : String) (orb : Option ORBState) : Bool :=
  match orb.bind (·.breakoutDirection) with
  | some breakout => decide (breakout = if direction = "LONG" then 1 else -1)
  | none => false

/-- `gate_4_candlestick`. -/
def gate4Candlestick (ctx : SignalContext) : GateResult :=
  match ctx.patternSnapshot with
  | none => { gateNumber := 4, passed := false, reason := "No pattern snapshot available" }
  | some snapshot =>
      match confirmingSignal ctx.direction snapshot.candlestickSignals with
      | some sig =>
          { gateNumber := 4, passed := true
            reason := "Candlestick pattern " ++ sig.name ++ " confirms " ++ ctx.direction
            confidenceContribution := gate4ConfidenceBonus
            candlestickPattern := sig.name }
      | none =>
          if orbConfirms ctx.direction snapshot.orbState then
            { gateNumber := 4, passed := true
              reason := "ORB breakout confirms " ++ ctx.direction
              confidenceContribution := gate4ConfidenceBonus
              candlestickPattern := "ORB_BREAKOUT" }
          else
            { gateNumber := 4, passed := false
              reason := "No candlestick pattern confirms " ++ ctx.direction ++ " in last 3 bars" }

/-! ## Gate 5: timeframes -/

/-- The timeframes with any signal in the direction of the trade. -/
def timeframesShowing (direction : String) (mtf : MultiTimeframePatterns) : List String :=
  (mtf.snapshots.entries.filter fun entry =>
    entry.2.candlestickSignals.any fun s => decide (s.direction = expectedDirection direction)).map
    (·.1)

/-- The patterns confirmed in the direction of the trade. -/
def confirmedIn (direction : String) (mtf : MultiTimeframePatterns) : List String :=
  if direction = "LONG" then mtf.confirmedBullishPatterns else mtf.confirmedBearishPatterns

/-- `gate_5_multi_timeframe`. -/
def gate5MultiTimeframe (ctx : SignalContext) : GateResult :=
  match ctx.multiTfPatterns with
  | none =>
      { gateNumber := 5, passed := false
        reason := "Multi-timeframe patterns not provided (need ≥ " ++
          toString gate5MinTimeframesAgreeing ++ " timeframes)" }
  | some mtf =>
      let confirmed := confirmedIn ctx.direction mtf
      let tfs := timeframesShowing ctx.direction mtf
      if confirmed.isEmpty then
        { gateNumber := 5, passed := false
          reason := "No " ++ ctx.direction ++ " pattern confirmed on ≥ " ++
            toString gate5MinTimeframesAgreeing ++ " timeframes" }
      else
        let tfList := tfs.take gate5MinTimeframesAgreeing
        { gateNumber := 5, passed := true
          reason := toString confirmed.length ++ " pattern(s) confirmed on " ++
            toString tfs.length ++ " timeframe(s): " ++ ", ".intercalate tfList
          confidenceContribution := gate5ConfidenceBonus
          confirmingTimeframes := tfList }

/-! ## Gate 6: support and resistance -/

/-- The label of the levels that Gate 6 looks for. -/
def targetLevel (direction : String) : String :=
  if direction = "LONG" then "SUPPORT" else "RESISTANCE"

/-- The loop of `gate_6_sr_proximity`: the first level that is near enough, with its distance. -/
def nearLevel (price threshold : ℚ) (targetType : String) :
    List SRLevel → Except Exc (Option (SRLevel × ℚ))
  | [] => .ok none
  | level :: rest =>
      if level.levelType ≠ targetType then nearLevel price threshold targetType rest
      else if level.price ≤ 0 then nearLevel price threshold targetType rest
      else do
        let proximity ← div |price - level.price| level.price
        if proximity ≤ threshold then .ok (some (level, proximity))
        else nearLevel price threshold targetType rest

/-- `gate_6_sr_proximity`. -/
def gate6SrProximity (ctx : SignalContext) : Except Exc GateResult :=
  match ctx.patternSnapshot with
  | none =>
      .ok { gateNumber := 6, passed := false, reason := "No pattern snapshot — S/R check skipped" }
  | some snapshot => do
      let price := ctx.currentPrice
      let targetType := targetLevel ctx.direction
      let threshold := gate6SrProximityPct / 100
      match ← nearLevel price threshold targetType snapshot.srLevels with
      | some (level, proximity) =>
          .ok
            { gateNumber := 6, passed := true
              reason := "Price " ++ fmtFixed 2 price ++ " within " ++ fmtPercent 2 proximity ++
                " of " ++ targetType ++ " at " ++ fmtFixed 2 level.price ++ " (strength=" ++
                fmtFixed 2 level.strength ++ ")"
              confidenceContribution := gate6ConfidenceBonus }
      | none =>
          .ok
            { gateNumber := 6, passed := false
              reason := "Price " ++ fmtFixed 2 price ++ " not within " ++
                fmtFloat gate6SrProximityPct ++ "% of any " ++ targetType ++ " level" }

/-! ## Gate 7: session timing -/

/-- `delta.total_seconds() / 60`. -/
def totalMinutes (delta : ℤ) : ℚ := delta / 1000000 / 60

/-- `gate_7_session_timing`. -/
def gate7SessionTiming (ctx : SignalContext) : Except Exc GateResult := do
  let openingEnd ← ctx.sessionOpen.add (minutes gate7OpeningNoiseFilterMinutes)
  let closingStart ← ctx.sessionClose.add (-minutes gate7ClosingWindowMinutes)
  if ← ctx.evaluatedAt.lt openingEnd then
    let elapsed ← ctx.evaluatedAt.sub ctx.sessionOpen
    .ok
      { gateNumber := 7, passed := false
        reason := "Opening noise filter: " ++ fmtFixed 1 (totalMinutes elapsed) ++
          "min elapsed (need ≥ " ++ toString gate7OpeningNoiseFilterMinutes ++ "min)" }
  else if ← ctx.evaluatedAt.ge closingStart then
    let remaining ← ctx.sessionClose.sub ctx.evaluatedAt
    .ok
      { gateNumber := 7, passed := false
        reason := "Closing window: " ++ fmtFixed 1 (totalMinutes remaining) ++
          "min to session close (block at ≤ " ++ toString gate7ClosingWindowMinutes ++ "min)" }
  else .ok { gateNumber := 7, passed := true, reason := "Within tradeable session window" }

/-! ## Gate 8: divergence -/

/-- What the RSI adds to the adjustment, with its reason. -/
def rsiDivergence (direction : String) (rsi : ℚ) : Option (ℚ × String) :=
  if direction = "LONG" ∧ rsi > 75 then
    some (-gate8DivergencePenalty, "RSI overbought (" ++ fmtFixed 1 rsi ++ ") — divergence risk")
  else if direction = "SHORT" ∧ rsi < 25 then
    some (-gate8DivergencePenalty, "RSI oversold (" ++ fmtFixed 1 rsi ++ ") — divergence risk")
  else if direction = "LONG" ∧ 50 < rsi ∧ rsi ≤ 70 then
    some (gate8AlignmentBonus, "RSI aligned bullish (" ++ fmtFixed 1 rsi ++ ")")
  else if direction = "SHORT" ∧ 30 ≤ rsi ∧ rsi < 50 then
    some (gate8AlignmentBonus, "RSI aligned bearish (" ++ fmtFixed 1 rsi ++ ")")
  else none

/-- What the MACD histogram adds. -/
def macdDivergence (direction : String) (macdHist : ℚ) : Option (ℚ × String) :=
  if (direction = "LONG" ∧ macdHist > 0) ∨ (direction = "SHORT" ∧ macdHist < 0) then
    some (gate8AlignmentBonus, "MACD histogram aligned (" ++ fmtSigned 4 macdHist ++ ")")
  else if (direction = "LONG" ∧ macdHist < 0) ∨ (direction = "SHORT" ∧ macdHist > 0) then
    some (-gate8DivergencePenalty, "MACD histogram diverges (" ++ fmtSigned 4 macdHist ++ ")")
  else none

/-- What the sentiment adds. -/
def sentimentAlignment (direction : String) (score : ℚ) : Option (ℚ × String) :=
  if direction = "LONG" ∧ score > 3 / 10 then
    some (gate8AlignmentBonus * (1 / 2), "Sentiment bullish (" ++ fmtFixed 2 score ++ ")")
  else if direction = "SHORT" ∧ score < -(3 / 10) then
    some (gate8AlignmentBonus * (1 / 2), "Sentiment bearish (" ++ fmtFixed 2 score ++ ")")
  else none

/-- All that Gate 8 finds. -/
def divergences (ctx : SignalContext) : List (ℚ × String) :=
  ((ctx.indicatorValues "RSI" "RSI_14").bind (rsiDivergence ctx.direction)).toList ++
    ((ctx.indicatorValues "MACD" "MACD_HIST").bind (macdDivergence ctx.direction)).toList ++
    (ctx.sentiment.bind fun s => sentimentAlignment ctx.direction s.aggregateScore).toList

/-- `gate_8_divergence`. -/
def gate8Divergence (ctx : SignalContext) : GateResult :=
  let reasons := (divergences ctx).map Prod.snd
  { gateNumber := 8, passed := true
    reason := if reasons.isEmpty then "No divergence signals detected" else "; ".intercalate reasons
    confidenceContribution := ((divergences ctx).map Prod.fst).sum }

/-! ## Gate 9: the threshold -/

/-- The threshold of Gate 9. -/
def confidenceThreshold (ctx : SignalContext) : ℚ :=
  if ctx.isSnapshotWindow then gate9ConfidenceThresholdSnapshotWindow else gate9ConfidenceThreshold

/-- `gate_9_confidence`. -/
def gate9Confidence (baseConfidence : ℚ) (ctx : SignalContext) : GateResult :=
  let threshold := confidenceThreshold ctx
  if baseConfidence < threshold then
    { gateNumber := 9, passed := false
      reason := "Confidence " ++ fmtFixed 3 baseConfidence ++ " below threshold " ++
        fmtFixed 2 threshold ++ (if ctx.isSnapshotWindow then " (snapshot window)" else "") }
  else
    { gateNumber := 9, passed := true
      reason := "Confidence " ++ fmtFixed 3 baseConfidence ++ " ≥ threshold " ++
        fmtFixed 2 threshold }

/-! ## Stop-loss and targets -/

/-- `_compute_stop_loss`. -/
def computeStopLoss (entryPrice atr : ℚ) (direction : String) : ℚ :=
  let slDistance := atrStopLossMultiplier * atr
  if direction = "LONG" then entryPrice - slDistance else entryPrice + slDistance

/-- `_compute_targets`. The reward to risk ratio that it looks up by regime is not used. -/
def computeTargets (entryPrice stopLoss : ℚ) (direction : String) : ℚ × ℚ :=
  let risk := |entryPrice - stopLoss|
  let t1Dist := target1RewardRiskRatio * risk
  let t2Dist := target2RewardRiskRatio * risk
  if direction = "LONG" then (entryPrice + t1Dist, entryPrice + t2Dist)
  else (entryPrice - t1Dist, entryPrice - t2Dist)

/-- `compute_stop_and_targets`. -/
def computeStopAndTargets (ctx : SignalContext) : ℚ × ℚ × ℚ :=
  let sl := computeStopLoss ctx.currentPrice ctx.atr ctx.direction
  (sl, computeTargets ctx.currentPrice sl ctx.direction)

/-! ## What the gates return -/

variable {ctx : SignalContext}

/-- Gate 2 passes on three indicators, and each contributes. -/
theorem gate2Indicators_passed (h : (gate2Indicators ctx).passed = true) :
    3 ≤ (agreeing ctx).length ∧
      (gate2Indicators ctx).confidenceContribution =
        gate2PerIndicatorBonus * (agreeing ctx).length := by
  simp only [gate2Indicators, List.length_map] at h ⊢
  split at h
  · cases h
  · rename_i hcount
    rw [if_neg hcount]
    exact ⟨not_lt.mp hcount, rfl⟩

/-- The volume is high and the delta is small beside it. -/
def Absorbs (ctx : SignalContext) (volDelta : ℚ) : Prop :=
  (ctx.currentVolume > 0 ∧ ctx.currentVolume > gate3AbsorptionVolumeRatio * ctx.avgVolume) ∧
    |volDelta| / ctx.currentVolume < gate3AbsorptionDeltaRatio

instance (ctx : SignalContext) (volDelta : ℚ) : Decidable (Absorbs ctx volDelta) :=
  inferInstanceAs (Decidable (_ ∧ _))

/-- Gate 3 without its delta. -/
theorem gate3OrderFlow_of_none (h : ctx.indicatorValues "VOLUME_DELTA" "VOLUME_DELTA" = none) :
    gate3OrderFlow ctx =
      .ok
        { gateNumber := 3, passed := false
          reason := "VOLUME_DELTA unavailable — order flow unverifiable" } := by
  rw [gate3OrderFlow, h]

/-- An absorption: the message divides by the average volume. -/
theorem gate3OrderFlow_of_absorbs {volDelta : ℚ}
    (h : ctx.indicatorValues "VOLUME_DELTA" "VOLUME_DELTA" = some volDelta)
    (habs : Absorbs ctx volDelta) :
    gate3OrderFlow ctx = (div ctx.currentVolume ctx.avgVolume).map
      (absorptionResult ctx.currentVolume (|volDelta| / ctx.currentVolume)) := by
  rcases habs with ⟨hvol, hratio⟩
  rw [gate3OrderFlow, h]
  simp only [if_pos hvol, if_pos hvol.1, div_of_ne _ (ne_of_gt hvol.1), ok_bind, if_pos hratio]
  cases div ctx.currentVolume ctx.avgVolume <;> rfl

/-- No absorption: the sign of the delta decides. -/
theorem gate3OrderFlow_of_not_absorbs {volDelta : ℚ}
    (h : ctx.indicatorValues "VOLUME_DELTA" "VOLUME_DELTA" = some volDelta)
    (habs : ¬ Absorbs ctx volDelta) :
    gate3OrderFlow ctx = .ok (footprintDelta ctx.direction volDelta) := by
  rw [gate3OrderFlow, h]
  simp only
  split
  · rename_i hvol
    have hratio : ¬ |volDelta| / ctx.currentVolume < gate3AbsorptionDeltaRatio :=
      fun hlt => habs ⟨hvol, hlt⟩
    rw [if_pos hvol.1, div_of_ne _ (ne_of_gt hvol.1), ok_bind, if_neg hratio]
  · rfl

theorem footprintDelta_passed (direction : String) (volDelta : ℚ) :
    (footprintDelta direction volDelta).passed = directionMatch direction volDelta := by
  cases h : directionMatch direction volDelta <;> simp [footprintDelta, h]

theorem gate4Candlestick_contribution (h : (gate4Candlestick ctx).passed = true) :
    (gate4Candlestick ctx).confidenceContribution = gate4ConfidenceBonus := by
  rw [gate4Candlestick] at h ⊢
  split at h
  · cases h
  · split at h
    · rfl
    · split at h
      · rename_i horb
        rw [if_pos horb]
      · cases h

/-- Gate 5 passes on a confirmed pattern. -/
theorem gate5MultiTimeframe_passed :
    (gate5MultiTimeframe ctx).passed = true ↔
      ∃ mtf ∈ ctx.multiTfPatterns, confirmedIn ctx.direction mtf ≠ [] := by
  simp only [gate5MultiTimeframe]
  cases ctx.multiTfPatterns with
  | none => simp
  | some mtf => cases hconfirmed : confirmedIn ctx.direction mtf <;> simp [hconfirmed]

theorem gate5MultiTimeframe_contribution (h : (gate5MultiTimeframe ctx).passed = true) :
    (gate5MultiTimeframe ctx).confidenceContribution = gate5ConfidenceBonus := by
  simp only [gate5MultiTimeframe] at h ⊢
  split at h
  · cases h
  · split at h
    · cases h
    · rename_i hconfirmed
      rw [if_neg hconfirmed]

theorem gate5MultiTimeframe_confirming {mtf : MultiTimeframePatterns}
    (hmtf : ctx.multiTfPatterns = some mtf) (h : (gate5MultiTimeframe ctx).passed = true) :
    (gate5MultiTimeframe ctx).confirmingTimeframes =
      (timeframesShowing ctx.direction mtf).take gate5MinTimeframesAgreeing := by
  simp only [gate5MultiTimeframe, hmtf] at h ⊢
  split at h
  · cases h
  · rename_i hconfirmed
    rw [if_neg hconfirmed]

/-- A level that Gate 6 accepts. -/
def isNear (price threshold : ℚ) (targetType : String) (level : SRLevel) : Bool :=
  decide (level.levelType = targetType ∧ 0 < level.price ∧
    |price - level.price| / level.price ≤ threshold)

/-- The loop of Gate 6 divides by positive prices only, and finds the first near level. -/
theorem nearLevel_eq (price threshold : ℚ) (targetType : String) (levels : List SRLevel) :
    nearLevel price threshold targetType levels =
      .ok ((levels.find? (isNear price threshold targetType)).map fun level =>
        (level, |price - level.price| / level.price)) := by
  induction levels with
  | nil => rfl
  | cons level rest ih =>
      rw [nearLevel]
      by_cases htype : level.levelType = targetType
      · by_cases hprice : level.price ≤ 0
        · have hfar : isNear price threshold targetType level = false := by
            simp [isNear, htype, not_lt.mpr hprice]
          rw [if_neg (not_not.mpr htype), if_pos hprice, ih,
            List.find?_cons_of_neg (by simp [hfar])]
        · -- the divisor is positive, so the turn does not raise
          have hpos : 0 < level.price := not_le.mp hprice
          rw [if_neg (not_not.mpr htype), if_neg hprice, div_of_ne _ hpos.ne', ok_bind]
          by_cases hnear : |price - level.price| / level.price ≤ threshold
          · have hfound : isNear price threshold targetType level = true := by
              simp [isNear, htype, hpos, hnear]
            rw [if_pos hnear, List.find?_cons_of_pos hfound, Option.map_some]
          · have hfar : isNear price threshold targetType level = false := by
              simp [isNear, hnear]
            rw [if_neg hnear, ih, List.find?_cons_of_neg (by simp [hfar])]
      · have hfar : isNear price threshold targetType level = false := by
          simp [isNear, htype]
        rw [if_pos htype, ih, List.find?_cons_of_neg (by simp [hfar])]

/-- Gate 6 returns, and passes exactly if a level is near. -/
theorem gate6SrProximity_ok (ctx : SignalContext) :
    ∃ result, gate6SrProximity ctx = .ok result ∧
      (result.passed = true ↔ ∃ snapshot ∈ ctx.patternSnapshot,
        snapshot.srLevels.any
          (isNear ctx.currentPrice (gate6SrProximityPct / 100) (targetLevel ctx.direction)) =
            true) ∧
      (result.passed = true → result.confidenceContribution = gate6ConfidenceBonus) := by
  rw [gate6SrProximity]
  cases hsnap : ctx.patternSnapshot with
  | none => exact ⟨_, rfl, by simp, fun h => by cases h⟩
  | some snapshot =>
      simp only [nearLevel_eq, ok_bind]
      cases hfind : snapshot.srLevels.find? (isNear ctx.currentPrice (gate6SrProximityPct / 100)
        (targetLevel ctx.direction)) with
      | none =>
          refine ⟨_, rfl, iff_of_false Bool.false_ne_true ?_, fun h => by cases h⟩
          rintro ⟨_, hmem, hany⟩
          obtain rfl := Option.some.inj hmem
          rcases List.any_eq_true.mp hany with ⟨level, hlevel, hnear⟩
          exact List.find?_eq_none.mp hfind level hlevel hnear
      | some level =>
          refine ⟨_, rfl, iff_of_true rfl ⟨snapshot, rfl, ?_⟩, fun _ => rfl⟩
          exact List.any_eq_true.mpr
            ⟨level, List.mem_of_find?_eq_some hfind, List.find?_some hfind⟩

/-- Gate 7 contributes nothing. -/
theorem gate7SessionTiming_contribution {result : GateResult}
    (h : gate7SessionTiming ctx = .ok result) : result.confidenceContribution = 0 := by
  simp only [gate7SessionTiming, bind_eq_ok] at h
  rcases h with ⟨openingEnd, -, closingStart, -, early, -, h⟩
  cases early with
  | true =>
      simp only [if_true, bind_eq_ok] at h
      rcases h with ⟨elapsed, -, h⟩
      rw [← Except.ok.inj h]
  | false =>
      simp only [Bool.false_eq_true, if_false, bind_eq_ok] at h
      rcases h with ⟨late, -, h⟩
      cases late with
      | true =>
          simp only [if_true, bind_eq_ok] at h
          rcases h with ⟨remaining, -, h⟩
          rw [← Except.ok.inj h]
      | false =>
          simp only [Bool.false_eq_true, if_false] at h
          rw [← Except.ok.inj h]

/-- Gate 7 returns where the session's times can be moved and all times compare. -/
theorem gate7SessionTiming_ok (hopen : ctx.evaluatedAt.Consistent ctx.sessionOpen)
    (hclose : ctx.evaluatedAt.Consistent ctx.sessionClose)
    (hin : ctx.sessionOpen.InRange (minutes gate7OpeningNoiseFilterMinutes))
    (hin' : ctx.sessionClose.InRange (-minutes gate7ClosingWindowMinutes)) :
    ∃ result, gate7SessionTiming ctx = .ok result := by
  -- a moved time keeps its offset
  let openingEnd : PyDateTime := ⟨_, ctx.sessionOpen.utcoffset, hin⟩
  let closingStart : PyDateTime := ⟨_, ctx.sessionClose.utcoffset, hin'⟩
  have hend : ctx.evaluatedAt.Consistent openingEnd := hopen
  have hstart : ctx.evaluatedAt.Consistent closingStart := hclose
  rcases PyDateTime.exists_sub hend with ⟨toEnd, htoEnd⟩
  rcases PyDateTime.exists_sub hstart with ⟨toStart, htoStart⟩
  rcases PyDateTime.exists_sub hopen with ⟨elapsed, helapsed⟩
  rcases PyDateTime.exists_sub hclose.symm with ⟨remaining, hremaining⟩
  rw [gate7SessionTiming, PyDateTime.add_ok hin, PyDateTime.add_ok hin']
  simp only [ok_bind]
  rw [PyDateTime.lt_of_sub htoEnd, PyDateTime.ge_of_sub htoStart, helapsed, hremaining]
  simp only [ok_bind]
  split
  · exact ⟨_, rfl⟩
  · split <;> exact ⟨_, rfl⟩

end Intraday.Signals
