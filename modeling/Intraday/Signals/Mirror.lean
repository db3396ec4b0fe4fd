import Intraday.Signals.Totality

/-!
# Intraday.Signals.Mirror — the same market upside down

The mirror of a context trades the other direction in the market reflected about its price. Eight
of the nine gates treat the two alike, and so do the stop and the targets. Gate 3 does not: a
delta of zero confirms a short and no long.

`mirror_symmetry_iff` is the exact condition under which a context and its mirror are judged
alike.
-/

namespace Intraday.Signals

open Intraday.Core Intraday.Lib Intraday.Lib.Decimal Intraday.Lib.Raise Intraday.Patterns
  Intraday.Risk Intraday.Sentiment

/-! ## The mirror -/

/-- The other direction. -/
def flip (direction : String) : String :=
  if direction = "LONG" then "SHORT" else if direction = "SHORT" then "LONG" else direction

/-- The opposite trend. -/
def mirrorRegime : MarketRegime → MarketRegime
  | .bullTrend => .bearTrend
  | .bearTrend => .bullTrend
  | regime => regime

/-- The two averages change places. -/
def mirrorKey (key : String) : String :=
  if key = "EMA_9" then "EMA_21" else if key = "EMA_21" then "EMA_9" else key

/-- A price is reflected about `price`, an oscillator about 50 and a signed value about 0. -/
def mirrorValue (price : ℚ) (key : String) (value : ℚ) : ℚ :=
  if key ∈ ["VWAP", "BB_MIDDLE"] then 2 * price - value
  else if key ∈ ["RSI_14", "STOCH_K", "STOCH_D"] then 100 - value
  else if key ∈ ["MACD_HIST", "VOLUME_DELTA"] then -value
  else value

/-- The indicators of the reflected market. -/
def mirrorIndicators (price : ℚ) (values : IndicatorValues) : IndicatorValues :=
  fun name key => (values name (mirrorKey key)).map (mirrorValue price key)

/-- The other label. -/
def mirrorLevel (levelType : String) : String :=
  if levelType = "SUPPORT" then "RESISTANCE"
  else if levelType = "RESISTANCE" then "SUPPORT" else levelType

/-- Bullish signals become bearish, breakouts go the other way, and the labels of the levels
change places. -/
def mirrorSnapshot (snapshot : PatternSnapshot) : PatternSnapshot :=
  { snapshot with
    candlestickSignals :=
      snapshot.candlestickSignals.map fun s => { s with direction := -s.direction }
    orbState := snapshot.orbState.map fun orb =>
      { orb with breakoutDirection := orb.breakoutDirection.map fun breakout => -breakout }
    srLevels := snapshot.srLevels.map fun level =>
      { level with levelType := mirrorLevel level.levelType } }

/-- The confirmed patterns change sides. -/
def mirrorPatterns (mtf : MultiTimeframePatterns) : MultiTimeframePatterns :=
  { mtf with
    snapshots := mtf.snapshots.mapEntries fun _ => mirrorSnapshot
    confirmedBullishPatterns := mtf.confirmedBearishPatterns
    confirmedBearishPatterns := mtf.confirmedBullishPatterns }

/-- The mirror of a context. -/
def mirror (ctx : SignalContext) : SignalContext :=
  { ctx with
    direction := flip ctx.direction
    regime := { ctx.regime with regime := mirrorRegime ctx.regime.regime }
    indicatorValues := mirrorIndicators ctx.currentPrice ctx.indicatorValues
    patternSnapshot := ctx.patternSnapshot.map mirrorSnapshot
    multiTfPatterns := ctx.multiTfPatterns.map mirrorPatterns
    sentiment := ctx.sentiment.map fun s => { s with aggregateScore := -s.aggregateScore } }

/-- What a gate decides. -/
def decision (result : GateResult) : Bool × ℚ := (result.passed, result.confidenceContribution)

/-- The generated flag, the failed gate and the confidence. -/
def verdict (result : EvaluatedSignal) : Bool × Option ℕ × ℚ :=
  (result.generated, result.failedAtGate, result.confidence)

/-- Three prices reflected about `price`. -/
def reflect (price : ℚ) (prices : ℚ × ℚ × ℚ) : ℚ × ℚ × ℚ :=
  (2 * price - prices.1, 2 * price - prices.2.1, 2 * price - prices.2.2)

variable {ctx ctx' : SignalContext} {now : PyDateTime}

/-! ## Gate by gate -/

/-- A context trades one of the two directions. -/
def Directed (ctx : SignalContext) : Prop := ctx.direction = "LONG" ∨ ctx.direction = "SHORT"

theorem decision_gate1 (h : Directed ctx) :
    decision (gate1Regime (mirror ctx)) = decision (gate1Regime ctx) := by
  rcases h with hdir | hdir <;> cases hregime : ctx.regime.regime <;>
    simp [gate1Regime, mirror, hdir, hregime, flip, mirrorRegime, decision]

/-- Each indicator agrees with a direction exactly if its reflection agrees with the other. -/
theorem checkIndicator_mirror {direction : String}
    (h : direction = "LONG" ∨ direction = "SHORT") (ind : Indicator) (values : IndicatorValues)
    (price volume avgVolume : ℚ) (orb : Option ℤ) :
    checkIndicator ind (mirrorIndicators price values) (flip direction) price volume avgVolume
        (orb.map fun breakout => -breakout) =
      checkIndicator ind values direction price volume avgVolume orb := by
  -- what each comparison becomes in the mirror
  have habove : ∀ v, 2 * price - v < price ↔ price < v := fun v => by
    constructor <;> intro <;> linarith
  have hbelow : ∀ v, price < 2 * price - v ↔ v < price := fun v => by
    constructor <;> intro <;> linarith
  have hbullish : ∀ v, rsiBullishLevel < 100 - v ↔ v < rsiBearishLevel := fun v => by
    rw [rsiBullishLevel, rsiBearishLevel]
    constructor <;> intro <;> linarith
  have hbearish : ∀ v, 100 - v < rsiBearishLevel ↔ rsiBullishLevel < v := fun v => by
    rw [rsiBullishLevel, rsiBearishLevel]
    constructor <;> intro <;> linarith
  have hover : ∀ v : ℚ, 50 < 100 - v ↔ v < 50 := fun v => by
    constructor <;> intro <;> linarith
  have hunder : ∀ v : ℚ, 100 - v < 50 ↔ 50 < v := fun v => by
    constructor <;> intro <;> linarith
  cases ind with
  | ema =>
      rcases h with rfl | rfl <;>
        cases hslow : values "EMA" "EMA_21" <;> cases hfast : values "EMA" "EMA_9" <;>
        simp [checkIndicator, Indicator.name, mirrorIndicators, mirrorKey, mirrorValue, flip,
          hslow, hfast]
  | vwap =>
      rcases h with rfl | rfl <;> cases hvwap : values "VWAP" "VWAP" <;>
        simp [checkIndicator, Indicator.name, mirrorIndicators, mirrorKey, mirrorValue, flip,
          hvwap, habove, hbelow]
  | rsi =>
      rcases h with rfl | rfl <;> cases hrsi : values "RSI" "RSI_14" <;>
        simp [checkIndicator, Indicator.name, mirrorIndicators, mirrorKey, mirrorValue, flip,
          hrsi, hbullish, hbearish]
  | macd =>
      rcases h with rfl | rfl <;> cases hmacd : values "MACD" "MACD_HIST" <;>
        simp [checkIndicator, Indicator.name, mirrorIndicators, mirrorKey, mirrorValue, flip,
          hmacd]
  | stochastic =>
      rcases h with rfl | rfl <;> cases hk : values "STOCHASTIC" "STOCH_K" <;>
        cases hd : values "STOCHASTIC" "STOCH_D" <;>
        simp [checkIndicator, Indicator.name, mirrorIndicators, mirrorKey, mirrorValue, flip,
          hk, hd, hover, hunder]
  | bbands =>
      rcases h with rfl | rfl <;> cases hmid : values "BBANDS" "BB_MIDDLE" <;>
        simp [checkIndicator, Indicator.name, mirrorIndicators, mirrorKey, mirrorValue, flip,
          hmid, habove, hbelow]
  | orb =>
      rcases h with rfl | rfl <;> cases orb <;> simp [checkIndicator, flip]; omega
  | volume => rfl

theorem orbDirectionOf_mirror (ctx : SignalContext) :
    orbDirectionOf (mirror ctx) = (orbDirectionOf ctx).map fun breakout => -breakout := by
  cases hsnap : ctx.patternSnapshot with
  | none => simp [orbDirectionOf, mirror, hsnap]
  | some snapshot => cases horb : snapshot.orbState <;>
      simp [orbDirectionOf, mirror, hsnap, mirrorSnapshot, horb]

theorem agreeing_mirror (h : Directed ctx) : agreeing (mirror ctx) = agreeing ctx := by
  rw [agreeing, agreeing]
  congr 1
  funext ind
  rw [orbDirectionOf_mirror]
  exact checkIndicator_mirror h ind _ _ _ _ _

theorem decision_gate2 (h : Directed ctx) :
    decision (gate2Indicators (mirror ctx)) = decision (gate2Indicators ctx) := by
  simp only [gate2Indicators, agreeing_mirror h]

/-- The delta of the mirror. -/
theorem delta_mirror (ctx : SignalContext) :
    (mirror ctx).indicatorValues "VOLUME_DELTA" "VOLUME_DELTA" =
      (ctx.indicatorValues "VOLUME_DELTA" "VOLUME_DELTA").map fun delta => -delta := by
  cases hdelta : ctx.indicatorValues "VOLUME_DELTA" "VOLUME_DELTA" <;>
    simp [mirror, mirrorIndicators, mirrorKey, mirrorValue, hdelta]

theorem absorbs_mirror {delta : ℚ} : Absorbs (mirror ctx) (-delta) ↔ Absorbs ctx delta := by
  rw [Absorbs, Absorbs, abs_neg]
  exact Iff.rfl

/-- A delta of zero with no absorption: a short may go on, and a long may not. -/
def NeutralFlow (ctx : SignalContext) : Prop :=
  ctx.indicatorValues "VOLUME_DELTA" "VOLUME_DELTA" = some 0 ∧
    ¬ (0 < ctx.currentVolume ∧ gate3AbsorptionVolumeRatio * ctx.avgVolume < ctx.currentVolume)

/-- Away from a delta of zero the sign test is the same in the mirror. -/
theorem directionMatch_mirror {direction : String}
    (h : direction = "LONG" ∨ direction = "SHORT") {delta : ℚ} (hdelta : delta ≠ 0) :
    directionMatch (flip direction) (-delta) = directionMatch direction delta := by
  rcases lt_or_gt_of_ne hdelta with hneg | hpos
  · have hle := not_lt.mpr hneg.le
    rcases h with rfl | rfl <;> simp [directionMatch, flip, hneg, hle]
  · have hle := not_lt.mpr hpos.le
    rcases h with rfl | rfl <;> simp [directionMatch, flip, hpos, hle]

theorem decision_footprintDelta (direction : String) (delta : ℚ) :
    decision (footprintDelta direction delta) = (directionMatch direction delta,
      if directionMatch direction delta then gate3ConfidenceBonus else 0) := by
  cases h : directionMatch direction delta <;> simp [footprintDelta, h, decision]

/-- Gate 3 decides the same, unless the delta is zero and nothing is absorbed. -/
theorem decision_gate3 (h : Directed ctx) (hflow : ¬ NeutralFlow ctx) :
    (gate3OrderFlow (mirror ctx)).map decision = (gate3OrderFlow ctx).map decision := by
  cases hdelta : ctx.indicatorValues "VOLUME_DELTA" "VOLUME_DELTA" with
  | none =>
      have hdelta' := delta_mirror ctx
      rw [hdelta, Option.map_none] at hdelta'
      rw [gate3OrderFlow_of_none hdelta, gate3OrderFlow_of_none hdelta']
  | some delta =>
      have hdelta' := delta_mirror ctx
      rw [hdelta, Option.map_some] at hdelta'
      by_cases habs : Absorbs ctx delta
      · -- an absorption fails, or raises, whatever the sign
        rw [gate3OrderFlow_of_absorbs hdelta habs,
          gate3OrderFlow_of_absorbs hdelta' (absorbs_mirror.mpr habs), abs_neg]
        rfl
      · rw [gate3OrderFlow_of_not_absorbs hdelta habs,
          gate3OrderFlow_of_not_absorbs hdelta' (fun habs' => habs (absorbs_mirror.mp habs'))]
        have hne : delta ≠ 0 := by
          rintro rfl
          refine hflow ⟨hdelta, fun hvol => habs ⟨hvol, ?_⟩⟩
          rw [abs_zero, zero_div, gate3AbsorptionDeltaRatio]
          norm_num
        have hmatch := directionMatch_mirror h hne
        simp only [Except.map, decision_footprintDelta]
        rw [mirror, hmatch]

theorem expectedDirection_flip {direction : String}
    (h : direction = "LONG" ∨ direction = "SHORT") :
    expectedDirection (flip direction) = -expectedDirection direction := by
  rcases h with rfl | rfl <;> rfl

/-- The loop of Gate 4 accepts the same signal, turned round. -/
theorem confirmingSignal_mirror {direction : String}
    (h : direction = "LONG" ∨ direction = "SHORT") (signals : List CandlestickSignal) :
    confirmingSignal (flip direction) (signals.map fun s => { s with direction := -s.direction }) =
      (confirmingSignal direction signals).map fun s => { s with direction := -s.direction } := by
  simp only [confirmingSignal, ← List.map_reverse, List.find?_map, List.length_map,
    Function.comp_def, expectedDirection_flip h, neg_inj]

theorem orbConfirms_mirror {direction : String} (h : direction = "LONG" ∨ direction = "SHORT")
    (orb : Option ORBState) :
    orbConfirms (flip direction) (orb.map fun orb =>
      { orb with breakoutDirection := orb.breakoutDirection.map fun breakout => -breakout }) =
      orbConfirms direction orb := by
  cases orb with
  | none => rfl
  | some orb =>
      rcases h with rfl | rfl <;> cases hbreak : orb.breakoutDirection <;>
        simp [orbConfirms, hbreak, flip]; omega

theorem decision_gate4 (h : Directed ctx) :
    decision (gate4Candlestick (mirror ctx)) = decision (gate4Candlestick ctx) := by
  cases hsnap : ctx.patternSnapshot with
  | none => simp [gate4Candlestick, mirror, hsnap, decision]
  | some snapshot =>
      have hsig := confirmingSignal_mirror h snapshot.candlestickSignals
      have horb := orbConfirms_mirror h snapshot.orbState
      simp only [gate4Candlestick, mirror, hsnap, Option.map_some, mirrorSnapshot, hsig, horb]
      cases confirmingSignal ctx.direction snapshot.candlestickSignals with
      | some sig => rfl
      | none => cases orbConfirms ctx.direction snapshot.orbState <;> rfl

theorem decision_gate5 (h : Directed ctx) :
    decision (gate5MultiTimeframe (mirror ctx)) = decision (gate5MultiTimeframe ctx) := by
  cases hmtf : ctx.multiTfPatterns with
  | none => simp [gate5MultiTimeframe, mirror, hmtf, decision]
  | some mtf =>
      have hconfirmed : confirmedIn (flip ctx.direction) (mirrorPatterns mtf) =
          confirmedIn ctx.direction mtf := by
        rcases h with hdir | hdir <;> simp [confirmedIn, hdir, flip, mirrorPatterns]
      simp only [gate5MultiTimeframe, mirror, hmtf, Option.map_some, hconfirmed]
      cases confirmedIn ctx.direction mtf <;> rfl

/-- A level is near for one direction exactly if the other label is near for the other. -/
theorem isNear_mirror {direction : String} (h : direction = "LONG" ∨ direction = "SHORT")
    (price threshold : ℚ) (level : SRLevel) :
    isNear price threshold (targetLevel (flip direction))
        { level with levelType := mirrorLevel level.levelType } =
      isNear price threshold (targetLevel direction) level := by
  have hlabel : mirrorLevel level.levelType = targetLevel (flip direction) ↔
      level.levelType = targetLevel direction := by
    rw [mirrorLevel]
    rcases h with rfl | rfl
    · by_cases hsupport : level.levelType = "SUPPORT"
      · simp [hsupport, targetLevel, flip]
      · by_cases hresistance : level.levelType = "RESISTANCE" <;>
          simp [hsupport, hresistance, targetLevel, flip]
    · by_cases hsupport : level.levelType = "SUPPORT"
      · simp [hsupport, targetLevel, flip]
      · by_cases hresistance : level.levelType = "RESISTANCE" <;>
          simp [hsupport, hresistance, targetLevel, flip]
  simp only [isNear, hlabel]

theorem decision_gate6 (h : Directed ctx) :
    (gate6SrProximity (mirror ctx)).map decision = (gate6SrProximity ctx).map decision := by
  cases hsnap : ctx.patternSnapshot with
  | none => simp [gate6SrProximity, mirror, hsnap]
  | some snapshot =>
      simp only [gate6SrProximity, mirror, hsnap, Option.map_some, mirrorSnapshot, nearLevel_eq,
        List.find?_map, Function.comp_def, isNear_mirror h]
      cases snapshot.srLevels.find?
          (isNear ctx.currentPrice (gate6SrProximityPct / 100) (targetLevel ctx.direction)) <;>
        simp only [Option.map_none, Option.map_some, ok_bind, Except.map, decision]

/-- Gate 7 reads no side of the market. -/
theorem gate7_mirror (ctx : SignalContext) :
    gate7SessionTiming (mirror ctx) = gate7SessionTiming ctx := rfl

/-- What the RSI adds for each direction. -/
theorem map_rsiDivergence (rsi : ℚ) :
    (rsiDivergence "LONG" rsi).map Prod.fst =
      (if 75 < rsi then some (-gate8DivergencePenalty)
        else if 50 < rsi ∧ rsi ≤ 70 then some gate8AlignmentBonus else none) ∧
    (rsiDivergence "SHORT" rsi).map Prod.fst =
      (if rsi < 25 then some (-gate8DivergencePenalty)
        else if 30 ≤ rsi ∧ rsi < 50 then some gate8AlignmentBonus else none) := by
  simp [rsiDivergence, apply_ite (Option.map Prod.fst)]

/-- What the histogram adds for each direction. -/
theorem map_macdDivergence (hist : ℚ) :
    (macdDivergence "LONG" hist).map Prod.fst =
      (if 0 < hist then some gate8AlignmentBonus
        else if hist < 0 then some (-gate8DivergencePenalty) else none) ∧
    (macdDivergence "SHORT" hist).map Prod.fst =
      (if hist < 0 then some gate8AlignmentBonus
        else if 0 < hist then some (-gate8DivergencePenalty) else none) := by
  simp [macdDivergence, apply_ite (Option.map Prod.fst)]

/-- What the sentiment adds for each direction. -/
theorem map_sentimentAlignment (score : ℚ) :
    (sentimentAlignment "LONG" score).map Prod.fst =
      (if 3 / 10 < score then some (gate8AlignmentBonus * (1 / 2)) else none) ∧
    (sentimentAlignment "SHORT" score).map Prod.fst =
      (if score < -(3 / 10) then some (gate8AlignmentBonus * (1 / 2)) else none) := by
  simp [sentimentAlignment, apply_ite (Option.map Prod.fst)]

theorem rsiDivergence_mirror {direction : String} (h : direction = "LONG" ∨ direction = "SHORT")
    (rsi : ℚ) : (rsiDivergence (flip direction) (100 - rsi)).map Prod.fst =
      (rsiDivergence direction rsi).map Prod.fst := by
  have hoversold : 100 - rsi < 25 ↔ 75 < rsi := by constructor <;> intro <;> linarith
  have hoverbought : 75 < 100 - rsi ↔ rsi < 25 := by constructor <;> intro <;> linarith
  have hbearish : 30 ≤ 100 - rsi ∧ 100 - rsi < 50 ↔ 50 < rsi ∧ rsi ≤ 70 := by
    constructor <;> rintro ⟨_, _⟩ <;> constructor <;> linarith
  have hbullish : 50 < 100 - rsi ∧ 100 - rsi ≤ 70 ↔ 30 ≤ rsi ∧ rsi < 50 := by
    constructor <;> rintro ⟨_, _⟩ <;> constructor <;> linarith
  rcases h with rfl | rfl
  · rw [(map_rsiDivergence rsi).1]
    simp only [← hoversold, ← hbearish]
    exact (map_rsiDivergence (100 - rsi)).2
  · rw [(map_rsiDivergence rsi).2]
    simp only [← hoverbought, ← hbullish]
    exact (map_rsiDivergence (100 - rsi)).1

theorem macdDivergence_mirror {direction : String} (h : direction = "LONG" ∨ direction = "SHORT")
    (hist : ℚ) : (macdDivergence (flip direction) (-hist)).map Prod.fst =
      (macdDivergence direction hist).map Prod.fst := by
  have hshort := (map_macdDivergence (-hist)).2
  have hlong := (map_macdDivergence (-hist)).1
  simp only [neg_pos, neg_lt_zero] at hshort hlong
  rcases h with rfl | rfl
  · exact hshort.trans (map_macdDivergence hist).1.symm
  · exact hlong.trans (map_macdDivergence hist).2.symm

theorem sentimentAlignment_mirror {direction : String}
    (h : direction = "LONG" ∨ direction = "SHORT") (score : ℚ) :
    (sentimentAlignment (flip direction) (-score)).map Prod.fst =
      (sentimentAlignment direction score).map Prod.fst := by
  have hshort := (map_sentimentAlignment (-score)).2
  have hlong := (map_sentimentAlignment (-score)).1
  simp only [neg_lt_neg_iff] at hshort
  have hbearish : 3 / 10 < -score ↔ score < -(3 / 10) := lt_neg
  simp only [hbearish] at hlong
  rcases h with rfl | rfl
  · exact hshort.trans (map_sentimentAlignment score).1.symm
  · exact hlong.trans (map_sentimentAlignment score).2.symm

theorem map_fst_toList {found : Option (ℚ × String)} :
    found.toList.map Prod.fst = (found.map Prod.fst).toList := by
  cases found <;> rfl

/-- Gate 8 finds the same amounts. -/
theorem map_divergences_mirror (h : Directed ctx) :
    (divergences (mirror ctx)).map Prod.fst = (divergences ctx).map Prod.fst := by
  have hrsi : ((mirror ctx).indicatorValues "RSI" "RSI_14") =
      (ctx.indicatorValues "RSI" "RSI_14").map fun rsi => 100 - rsi := by
    cases hval : ctx.indicatorValues "RSI" "RSI_14" <;>
      simp [mirror, mirrorIndicators, mirrorKey, mirrorValue, hval]
  have hmacd : ((mirror ctx).indicatorValues "MACD" "MACD_HIST") =
      (ctx.indicatorValues "MACD" "MACD_HIST").map fun hist => -hist := by
    cases hval : ctx.indicatorValues "MACD" "MACD_HIST" <;>
      simp [mirror, mirrorIndicators, mirrorKey, mirrorValue, hval]
  have hdir : (mirror ctx).direction = flip ctx.direction := rfl
  have hsentiment : (mirror ctx).sentiment =
      ctx.sentiment.map fun s => { s with aggregateScore := -s.aggregateScore } := rfl
  simp only [divergences, List.map_append, map_fst_toList, hrsi, hmacd, hdir, hsentiment,
    Option.bind_map, Option.map_bind, Function.comp_def, rsiDivergence_mirror h,
    macdDivergence_mirror h, sentimentAlignment_mirror h]

theorem decision_gate8 (h : Directed ctx) :
    decision (gate8Divergence (mirror ctx)) = decision (gate8Divergence ctx) := by
  simp only [decision, gate8Divergence, map_divergences_mirror h]

/-! ## Two runs that decide alike -/

/-- Where the loop ends, without the results. -/
def ending (run : GateRun) : ℚ × Option ℕ := (run.confidence, run.failedGate)

/-- If each gate that is reached decides alike on two contexts, the loop ends alike. -/
theorem runGates_congr {gs : List (ℕ × (SignalContext → Except Exc GateResult))}
    (h : ∀ before g after rs, gs = before ++ g :: after → PassAll ctx before rs →
      (g.2 ctx').map decision = (g.2 ctx).map decision)
    (results results' : List GateResult) (confidence : ℚ) :
    (runGates ctx' gs results' confidence).map ending =
      (runGates ctx gs results confidence).map ending := by
  induction gs generalizing results results' confidence with
  | nil => rfl
  | cons g rest ih =>
      rcases g with ⟨num, gateFn⟩
      have hhead : (gateFn ctx').map decision = (gateFn ctx).map decision :=
        h [] (num, gateFn) rest [] rfl ⟨rfl, by simp⟩
      rw [runGates, runGates]
      rcases map_eq_map_iff.mp hhead with ⟨e, hgate', hgate⟩ | ⟨r', r, hgate', hgate, hdecision⟩
      · rw [hgate, hgate', error_bind, error_bind]
      · rw [decision, decision, Prod.mk.injEq] at hdecision
        rw [hgate, hgate', ok_bind, ok_bind, hdecision.1, hdecision.2]
        cases hpassed : r.passed with
        | false => rfl
        | true =>
            refine ih ?_ _ _ _
            intro before g after rs hsplit hpass
            -- the head passes, so the rest is reached
            refine h ((num, gateFn) :: before) g after (r :: rs) ?_
              (PassAll.cons hgate hpassed hpass)
            rw [hsplit, List.cons_append]

/-- If each gate that is reached and Gate 8 decide alike, so does the evaluation. -/
theorem evaluate_congr
    (h : ∀ before g after rs, terminatingGates = before ++ g :: after → PassAll ctx before rs →
      (g.2 ctx').map decision = (g.2 ctx).map decision)
    (height : decision (gate8Divergence ctx') = decision (gate8Divergence ctx))
    (hwindow : ctx'.isSnapshotWindow = ctx.isSnapshotWindow) :
    (evaluate now ctx').map verdict = (evaluate now ctx).map verdict := by
  have hending := runGates_congr h [] [] gate2IndicatorBaseConfidence
  rw [evaluate, evaluate]
  rcases map_eq_map_iff.mp hending with ⟨e, hrun', hrun⟩ | ⟨run', run, hrun', hrun, hend⟩
  · rw [hrun, hrun', error_bind, error_bind]
  · rw [ending, ending, Prod.mk.injEq] at hend
    have hcontribution := congrArg Prod.snd height
    simp only [decision] at hcontribution
    rw [hrun, hrun', ok_bind, ok_bind, hend.1, hend.2]
    cases run.failedGate with
    | some num => rfl
    | none =>
        simp only [gate9Confidence, confidenceThreshold, hwindow, hcontribution]
        split_ifs <;> rfl

/-! ## The mirror of an evaluation -/

/-- Each gate decides alike, Gate 3 only away from a neutral flow. -/
theorem decision_gate (h : Directed ctx) {k : ℕ} (hk : k < 7)
    (hthree : k = 2 → ¬ NeutralFlow ctx) :
    (gate (k + 1) (mirror ctx)).map (Except.map decision) =
      (gate (k + 1) ctx).map (Except.map decision) := by
  have hcases : k = 0 ∨ k = 1 ∨ k = 2 ∨ k = 3 ∨ k = 4 ∨ k = 5 ∨ k = 6 := by omega
  rcases hcases with rfl | rfl | rfl | rfl | rfl | rfl | rfl
  · exact congrArg (fun d => some (Except.ok d)) (decision_gate1 h)
  · exact congrArg (fun d => some (Except.ok d)) (decision_gate2 h)
  · exact congrArg some (decision_gate3 h (hthree rfl))
  · exact congrArg (fun d => some (Except.ok d)) (decision_gate4 h)
  · exact congrArg (fun d => some (Except.ok d)) (decision_gate5 h)
  · exact congrArg some (decision_gate6 h)
  · exact congrArg (fun r => some (Except.map decision r)) (gate7_mirror ctx)

/-- Gate 3 is reached, with a neutral flow. -/
def ReachesNeutralFlow (ctx : SignalContext) : Prop :=
  Passes ctx 1 ∧ Passes ctx 2 ∧ NeutralFlow ctx

/-- Where no neutral flow is reached, the mirror is judged alike. -/
theorem evaluate_mirror (now : PyDateTime) (h : Directed ctx) (hflow : ¬ ReachesNeutralFlow ctx) :
    (evaluate now (mirror ctx)).map verdict = (evaluate now ctx).map verdict := by
  refine evaluate_congr ?_ (decision_gate8 h) rfl
  intro before g after rs hsplit hpass
  rcases gateTrail_of_split hsplit hpass.1 with ⟨hlt, -, htrail, -, hgate⟩
  have hget : terminatingGates[before.length]? = some g := by
    rw [hsplit, List.getElem?_append_right (le_refl _), Nat.sub_self, List.getElem?_cons_zero]
  have hgate' := (@gate_of_getElem? (mirror ctx) _ _ hget).2
  have hdecision := decision_gate h hlt (by
    intro htwo hneutral
    have hpasses := htrail.passes hpass.2
    rw [htwo] at hpasses
    exact hflow ⟨hpasses 1 (by decide), hpasses 2 (by decide), hneutral⟩)
  rw [hgate, hgate', Option.map_some, Option.map_some] at hdecision
  exact Option.some.inj hdecision

/-- With a neutral flow the sign test is all of Gate 3. -/
theorem gate3_of_neutral (h : NeutralFlow ctx) :
    gate 3 ctx = some (.ok (footprintDelta ctx.direction 0)) := by
  have habs : ¬ Absorbs ctx 0 := fun habs => h.2 habs.1
  exact congrArg some (gate3OrderFlow_of_not_absorbs h.1 habs)

theorem neutral_mirror (h : NeutralFlow ctx) : NeutralFlow (mirror ctx) := by
  refine ⟨?_, h.2⟩
  rw [delta_mirror, h.1, Option.map_some, neg_zero]

/-- A long that reaches a neutral flow fails there. -/
theorem long_stops (now : PyDateTime) (hdir : ctx.direction = "LONG")
    (h : ReachesNeutralFlow ctx) :
    ∃ result, evaluate now ctx = .ok result ∧ result.failedAtGate = some 3 := by
  rcases h with ⟨hone, htwo, hneutral⟩
  have hgate : gate3OrderFlow ctx = .ok (footprintDelta "LONG" 0) := by
    rw [← hdir]
    exact Option.some.inj (gate3_of_neutral hneutral)
  have hpassed1 := hone.of_gate (gate_one ctx)
  have hpassed2 := htwo.of_gate (gate_two ctx)
  have hfails : (footprintDelta "LONG" 0).passed = false := by
    rw [footprintDelta_passed, directionMatch]
    simp
  simp only [evaluate, terminatingGates, runGates, ok_bind, hpassed1, hpassed2, hgate, hfails,
    Bool.not_true, Bool.not_false, Bool.false_eq_true, if_true, if_false]
  exact ⟨_, rfl, rfl⟩

/-- A short never fails at a neutral flow. -/
theorem short_passes {result : EvaluatedSignal} (hdir : ctx.direction = "SHORT")
    (h : NeutralFlow ctx) (hresult : evaluate now ctx = .ok result) :
    result.failedAtGate ≠ some 3 := by
  have hpassed : (footprintDelta ctx.direction 0).passed = true := by
    rw [footprintDelta_passed, directionMatch, hdir]
    simp
  have hpass : Passes ctx 3 := ⟨_, gate3_of_neutral h, hpassed⟩
  intro hfailed
  rcases evaluate_cases hresult with ⟨n, rs, r, -, -, hgate, -, hr, rfl⟩ | ⟨rs, -, -, rfl⟩
  · obtain rfl : n = 2 := Nat.succ.inj (Option.some.inj hfailed)
    exact hpass.not_fails ⟨r, hgate, hr⟩
  · split at hfailed <;> cases hfailed

theorem direction_mirror_of_long (h : ctx.direction = "LONG") :
    (mirror ctx).direction = "SHORT" := by
  simp [mirror, flip, h]

theorem direction_mirror_of_short (h : ctx.direction = "SHORT") :
    (mirror ctx).direction = "LONG" := by
  simp [mirror, flip, h]

/-- One direction is judged at Gate 3 and the other is not. -/
theorem evaluate_mirror_ne (now : PyDateTime) (h : Directed ctx) (hflow : ReachesNeutralFlow ctx) :
    (evaluate now (mirror ctx)).map verdict ≠ (evaluate now ctx).map verdict := by
  intro heq
  have hneutral := hflow.2.2
  -- the mirror reaches Gate 3, too
  have hpasses : ReachesNeutralFlow (mirror ctx) := by
    refine ⟨?_, ?_, neutral_mirror hneutral⟩
    · have hpassed := hflow.1.of_gate (gate_one ctx)
      exact ⟨_, gate_one _, (congrArg Prod.fst (decision_gate1 h)).trans hpassed⟩
    · have hpassed := hflow.2.1.of_gate (gate_two ctx)
      exact ⟨_, gate_two _, (congrArg Prod.fst (decision_gate2 h)).trans hpassed⟩
  rcases map_eq_map_iff.mp heq with ⟨e, hmirror, hplain⟩ | ⟨result', result, hmirror, hplain, hv⟩
  · -- the one that is a long does not raise
    rcases h with hdir | hdir
    · rcases long_stops now hdir hflow with ⟨result, hok, -⟩
      cases hplain.symm.trans hok
    · rcases long_stops now (direction_mirror_of_short hdir) hpasses with ⟨result, hok, -⟩
      cases hmirror.symm.trans hok
  · -- it stops at Gate 3, and the other does not
    have hfailed : result'.failedAtGate = result.failedAtGate :=
      congrArg (fun v : Bool × Option ℕ × ℚ => v.2.1) hv
    rcases h with hdir | hdir
    · have hshort := direction_mirror_of_long hdir
      rcases long_stops now hdir hflow with ⟨stopped, hok, hthree⟩
      obtain rfl := Except.ok.inj (hplain.symm.trans hok)
      exact short_passes hshort hpasses.2.2 hmirror (hfailed.trans hthree)
    · have hlong := direction_mirror_of_short hdir
      rcases long_stops now hlong hpasses with ⟨stopped, hok, hthree⟩
      obtain rfl := Except.ok.inj (hmirror.symm.trans hok)
      exact short_passes hdir hneutral hplain (hfailed.symm.trans hthree)

theorem computeStopLoss_flip {direction : String} (h : direction = "LONG" ∨ direction = "SHORT")
    (price atr : ℚ) :
    computeStopLoss price atr (flip direction) =
      2 * price - computeStopLoss price atr direction := by
  rcases h with rfl | rfl <;> simp [computeStopLoss, flip] <;> ring

/-- The risk is the same on both sides, so the targets are reflected with the stop. -/
theorem computeTargets_flip {direction : String} (h : direction = "LONG" ∨ direction = "SHORT")
    (price stop : ℚ) :
    computeTargets price (2 * price - stop) (flip direction) =
      (2 * price - (computeTargets price stop direction).1,
        2 * price - (computeTargets price stop direction).2) := by
  have hrisk : |price - (2 * price - stop)| = |price - stop| := by
    rw [← abs_neg]
    congr 1
    ring
  rcases h with rfl | rfl <;> simp [computeTargets, flip, hrisk] <;> constructor <;> ring

/-- The stop and the targets are reflected about the price. -/
theorem computeStopAndTargets_mirror (h : Directed ctx) :
    computeStopAndTargets (mirror ctx) =
      reflect ctx.currentPrice (computeStopAndTargets ctx) := by
  have hstop := computeStopLoss_flip h ctx.currentPrice ctx.atr
  simp only [computeStopAndTargets, mirror, hstop, computeTargets_flip h, reflect]

/-- Exactly when a context and its mirror are treated alike: Gate 3 is not reached with a delta
of zero and no absorption. -/
theorem mirror_symmetry_iff (now : PyDateTime) (ctx : SignalContext) (h : Directed ctx) :
    ((evaluate now (mirror ctx)).map verdict = (evaluate now ctx).map verdict ∧
      computeStopAndTargets (mirror ctx) =
        reflect ctx.currentPrice (computeStopAndTargets ctx)) ↔
      ¬ ReachesNeutralFlow ctx := by
  constructor
  · rintro ⟨heq, -⟩ hflow
    exact evaluate_mirror_ne now h hflow heq
  · intro hflow
    exact ⟨evaluate_mirror now h hflow, computeStopAndTargets_mirror h⟩

/-- The long of the example and the short in its mirror are both generated. -/
theorem sample_mirror :
    (evaluate (sampleTime 60) (mirror (sampleContext false))).map verdict =
        (evaluate (sampleTime 60) (sampleContext false)).map verdict ∧
      computeStopAndTargets (mirror (sampleContext false)) =
        reflect 100 (computeStopAndTargets (sampleContext false)) :=
  (mirror_symmetry_iff (sampleTime 60) (sampleContext false) (.inl rfl)).mpr fun hflow =>
    absurd hflow.2.2.1 (by decide +kernel)

/-- The long of the example, with a delta of zero. -/
def neutralContext : SignalContext :=
  { sampleContext false with
    indicatorValues := fun name key =>
      if key = "VOLUME_DELTA" then some 0 else sampleIndicators name key }

/-- The long fails at Gate 3, and the short in its mirror is generated. -/
theorem zero_delta_favours_shorts :
    ¬ ∀ (now : PyDateTime) (ctx : SignalContext), Directed ctx →
      (evaluate now (mirror ctx)).map verdict = (evaluate now ctx).map verdict ∧
        computeStopAndTargets (mirror ctx) =
          reflect ctx.currentPrice (computeStopAndTargets ctx) := by
  intro h
  have hverdict := (h (sampleTime 60) neutralContext (.inl rfl)).1
  revert hverdict
  decide +kernel

end Intraday.Signals
