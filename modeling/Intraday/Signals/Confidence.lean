import Intraday.Lib.Rounding
import Intraday.Signals.Engine

/-!
# Intraday.Signals.Confidence — the verdict of the nine gates

A gate that passes contributes a fixed amount, except Gate 2, which contributes for each
indicator that agrees, and Gate 8, which may contribute a negative one. With three indicators the
other gates bring the composite confidence to 0.75, above the threshold outside the snapshot
window.

All contributions are multiples of 0.005, so rounding the reported confidence to four decimals
changes nothing. A signal that Gate 9 rejects is reported with the confidence 0.

`gate_engine_semantics` is what an evaluation returns.
-/

namespace Intraday.Signals

open Intraday.Core Intraday.Lib Intraday.Lib.Decimal Intraday.Lib.Raise Intraday.Patterns
  Intraday.Risk

variable {ctx : SignalContext} {now : PyDateTime} {result : EvaluatedSignal}

/-! ## The contributions -/

theorem contribution_of {k : ℕ} {r : GateResult} (h : gate k ctx = some (.ok r)) :
    contribution ctx k = r.confidenceContribution := by
  rw [contribution, h]

theorem contribution_one (ctx : SignalContext) : contribution ctx 1 = 0 := by
  simp only [contribution_of (gate_one ctx), gate1Regime]
  split
  · rfl
  · split
    · rfl
    · split <;> rfl

theorem contribution_two (h : Passes ctx 2) :
    3 ≤ (agreeing ctx).length ∧ contribution ctx 2 = (agreeing ctx).length / 50 := by
  rcases gate2Indicators_passed (h.of_gate (gate_two ctx)) with ⟨hcount, hbonus⟩
  refine ⟨hcount, ?_⟩
  rw [contribution_of (gate_two ctx), hbonus, gate2PerIndicatorBonus, one_div_mul_eq_div]

theorem contribution_three (h : Passes ctx 3) : contribution ctx 3 = gate3ConfidenceBonus := by
  rcases h with ⟨r, hgate, hpassed⟩
  rw [contribution_of hgate]
  have hflow : gate3OrderFlow ctx = .ok r := Option.some.inj hgate
  cases hdelta : ctx.indicatorValues "VOLUME_DELTA" "VOLUME_DELTA" with
  | none =>
      rw [gate3OrderFlow_of_none hdelta] at hflow
      rw [← Except.ok.inj hflow] at hpassed
      cases hpassed
  | some volDelta =>
      by_cases habs : Absorbs ctx volDelta
      · -- an absorption raises or fails
        rw [gate3OrderFlow_of_absorbs hdelta habs] at hflow
        cases hdiv : div ctx.currentVolume ctx.avgVolume with
        | error e =>
            rw [hdiv] at hflow
            cases hflow
        | ok ratio =>
            rw [hdiv] at hflow
            rw [← Except.ok.inj hflow] at hpassed
            cases hpassed
      · rw [gate3OrderFlow_of_not_absorbs hdelta habs] at hflow
        obtain rfl := Except.ok.inj hflow
        rw [footprintDelta_passed] at hpassed
        simp [footprintDelta, hpassed]

theorem contribution_four (h : Passes ctx 4) : contribution ctx 4 = gate4ConfidenceBonus := by
  rw [contribution_of (gate_four ctx)]
  exact gate4Candlestick_contribution (h.of_gate (gate_four ctx))

theorem contribution_five (h : Passes ctx 5) : contribution ctx 5 = gate5ConfidenceBonus := by
  rw [contribution_of (gate_five ctx)]
  exact gate5MultiTimeframe_contribution (h.of_gate (gate_five ctx))

theorem contribution_six (h : Passes ctx 6) : contribution ctx 6 = gate6ConfidenceBonus := by
  rcases gate6SrProximity_ok ctx with ⟨r, hok, -, hbonus⟩
  have hgate : gate 6 ctx = some (.ok r) := by rw [gate_six, hok]
  rw [contribution_of hgate, hbonus (h.of_gate hgate)]

theorem contribution_seven (h : Passes ctx 7) : contribution ctx 7 = 0 := by
  rcases h with ⟨r, hgate, -⟩
  rw [contribution_of hgate, gate7SessionTiming_contribution (Option.some.inj hgate)]

/-- Past gates 1 to 7 the confidence is decided by the number of indicators and by Gate 8. -/
theorem compositeConfidence_of_passes (h : ∀ k ∈ List.range' 1 7, Passes ctx k) :
    ∃ count : ℕ, 3 ≤ count ∧
      compositeConfidence ctx = clampUnit (69 / 100 + count / 50 + contribution ctx 8) := by
  rcases contribution_two (h 2 (by decide)) with ⟨hcount, htwo⟩
  refine ⟨(agreeing ctx).length, hcount, ?_⟩
  rw [compositeConfidence]
  congr 1
  have hlist : List.range' 1 8 = [1, 2, 3, 4, 5, 6, 7, 8] := rfl
  rw [hlist]
  simp only [List.map_cons, List.map_nil, List.sum_cons, List.sum_nil, contribution_one, htwo,
    contribution_three (h 3 (by decide)), contribution_four (h 4 (by decide)),
    contribution_five (h 5 (by decide)), contribution_six (h 6 (by decide)),
    contribution_seven (h 7 (by decide)), gate2IndicatorBaseConfidence, gate3ConfidenceBonus,
    gate4ConfidenceBonus, gate5ConfidenceBonus, gate6ConfidenceBonus]
  ring

/-! ## Rounding -/

/-- A multiple of 0.005. -/
def OnGrid (x : ℚ) : Prop := ∃ n : ℤ, x = n / 200

theorem OnGrid.add {x y : ℚ} (hx : OnGrid x) (hy : OnGrid y) : OnGrid (x + y) := by
  rcases hx with ⟨m, rfl⟩
  rcases hy with ⟨n, rfl⟩
  exact ⟨m + n, by push_cast; ring⟩

theorem OnGrid.clampUnit {x : ℚ} (hx : OnGrid x) : OnGrid (clampUnit x) := by
  rw [Signals.clampUnit]
  rcases max_choice 0 (min 1 x) with h | h <;> rw [h]
  · exact ⟨0, by norm_num⟩
  · rcases min_choice 1 x with h' | h' <;> rw [h']
    · exact ⟨200, by norm_num⟩
    · exact hx

/-- Four decimals are enough for a multiple of 0.005. -/
theorem OnGrid.roundTo_eq {x : ℚ} (hx : OnGrid x) : roundTo 4 x = x := by
  rcases hx with ⟨n, rfl⟩
  exact roundTo_of_intCast (n := n * 50) (by push_cast; ring)

theorem onGrid_sum {found : List (ℚ × String)} (h : ∀ p ∈ found, OnGrid p.1) :
    OnGrid (found.map Prod.fst).sum := by
  induction found with
  | nil => exact ⟨0, by norm_num⟩
  | cons p rest ih =>
      rw [List.map_cons, List.sum_cons]
      exact (h p List.mem_cons_self).add (ih fun q hq => h q (List.mem_cons_of_mem p hq))

/-! Gate 8 adds a bonus, half a bonus or a penalty. -/

theorem onGrid_bonus : OnGrid gate8AlignmentBonus := ⟨10, by norm_num [gate8AlignmentBonus]⟩

theorem onGrid_halfBonus : OnGrid (gate8AlignmentBonus * (1 / 2)) :=
  ⟨5, by norm_num [gate8AlignmentBonus]⟩

theorem onGrid_penalty : OnGrid (-gate8DivergencePenalty) :=
  ⟨-20, by norm_num [gate8DivergencePenalty]⟩

theorem onGrid_rsiDivergence {direction : String} {rsi : ℚ} {p : ℚ × String}
    (h : rsiDivergence direction rsi = some p) : OnGrid p.1 := by
  unfold rsiDivergence at h
  split at h
  · obtain rfl := Option.some.inj h
    exact onGrid_penalty
  split at h
  · obtain rfl := Option.some.inj h
    exact onGrid_penalty
  split at h
  · obtain rfl := Option.some.inj h
    exact onGrid_bonus
  split at h
  · obtain rfl := Option.some.inj h
    exact onGrid_bonus
  · cases h

theorem onGrid_macdDivergence {direction : String} {macdHist : ℚ} {p : ℚ × String}
    (h : macdDivergence direction macdHist = some p) : OnGrid p.1 := by
  unfold macdDivergence at h
  split at h
  · obtain rfl := Option.some.inj h
    exact onGrid_bonus
  split at h
  · obtain rfl := Option.some.inj h
    exact onGrid_penalty
  · cases h

theorem onGrid_sentimentAlignment {direction : String} {score : ℚ} {p : ℚ × String}
    (h : sentimentAlignment direction score = some p) : OnGrid p.1 := by
  unfold sentimentAlignment at h
  split at h
  · obtain rfl := Option.some.inj h
    exact onGrid_halfBonus
  split at h
  · obtain rfl := Option.some.inj h
    exact onGrid_halfBonus
  · cases h

theorem onGrid_divergences (ctx : SignalContext) : ∀ p ∈ divergences ctx, OnGrid p.1 := by
  intro p hp
  simp only [divergences, List.mem_append, Option.mem_toList,
    Option.bind_eq_some_iff] at hp
  rcases hp with (⟨rsi, -, hp⟩ | ⟨hist, -, hp⟩) | ⟨sentiment, -, hp⟩
  · exact onGrid_rsiDivergence hp
  · exact onGrid_macdDivergence hp
  · exact onGrid_sentimentAlignment hp

theorem onGrid_compositeConfidence (h : ∀ k ∈ List.range' 1 7, Passes ctx k) :
    OnGrid (compositeConfidence ctx) := by
  rcases compositeConfidence_of_passes h with ⟨count, -, heq⟩
  rw [heq]
  have hcount : OnGrid (69 / 100 + count / 50) := ⟨138 + 4 * count, by push_cast; ring⟩
  exact (hcount.add (onGrid_sum (onGrid_divergences ctx))).clampUnit

/-! ## The verdict -/

/-- Gates 1 to 7 let the signal through, and the engine reports the results of all nine, the
confidence `reported`, and whether the composite confidence meets the threshold. -/
structure DecidedByConfidence (ctx : SignalContext) (result : EvaluatedSignal) (reported : ℚ) :
    Prop where
  results : result.gateResults.map (fun r => some (Except.ok r)) =
    (List.range' 1 8).map (gate · ctx) ++ [some (.ok (gate9 ctx))]
  confidence : result.confidence = reported
  generated : result.generated = true ↔ confidenceThreshold ctx ≤ compositeConfidence ctx
  penalised : ctx.isSnapshotWindow = false → result.generated = false → contribution ctx 8 < 0

/-- What the gate engine promises of a result, if it reports the confidence `reported`. -/
structure GateEngine (ctx : SignalContext) (result : EvaluatedSignal) (reported : ℚ) : Prop where
  stops : ∀ k, LeastFailing ctx k → result.generated = false ∧ result.failedAtGate = some k ∧
    GateTrail ctx k result.gateResults
  decides : (∀ k ∈ List.range' 1 7, ¬ Fails ctx k) → DecidedByConfidence ctx result reported

/-- Outside the snapshot window only a penalty brings the confidence below the threshold. -/
theorem penalised_of_rejected (h : ∀ k ∈ List.range' 1 7, Passes ctx k)
    (hwindow : ctx.isSnapshotWindow = false)
    (hlow : ¬ confidenceThreshold ctx ≤ compositeConfidence ctx) : contribution ctx 8 < 0 := by
  by_contra hnonneg
  apply hlow
  rcases compositeConfidence_of_passes h with ⟨count, hcount, heq⟩
  have hthree : (3 : ℚ) ≤ count := by exact_mod_cast hcount
  rw [heq, confidenceThreshold, hwindow, clampUnit]
  simp only [Bool.false_eq_true, if_false, gate9ConfidenceThreshold]
  refine le_max_of_le_right (le_min (by norm_num) ?_)
  linarith

/-- The composite confidence as it is reported: 0 for a rejected signal. -/
def reportedConfidence (ctx : SignalContext) (result : EvaluatedSignal) : ℚ :=
  if result.generated then compositeConfidence ctx else 0

theorem decidedByConfidence (h : evaluate now ctx = .ok result)
    (hnone : ∀ k ∈ List.range' 1 7, ¬ Fails ctx k) :
    DecidedByConfidence ctx result (reportedConfidence ctx result) := by
  rcases evaluate_decided h hnone with ⟨rs, htrail, hall, hresult⟩
  have hpasses := htrail.passes hall
  have hresults : (rs ++ [gate8Divergence ctx, gate9 ctx]).map (fun r => some (Except.ok r)) =
      (List.range' 1 8).map (gate · ctx) ++ [some (.ok (gate9 ctx))] := by
    rw [List.map_append, htrail, List.range'_1_concat, List.map_append, List.append_assoc]
    rfl
  cases h9 : (gate9 ctx).passed with
  | true =>
      -- the reported confidence is rounded, which changes nothing on the grid
      have hmet := (gate9_passed ctx).mp h9
      rw [h9, if_pos rfl] at hresult
      subst hresult
      refine ⟨hresults, (onGrid_compositeConfidence hpasses).roundTo_eq,
        ⟨fun _ => hmet, fun _ => rfl⟩, ?_⟩
      intro _ hrejected
      cases hrejected
  | false =>
      have hlow : ¬ confidenceThreshold ctx ≤ compositeConfidence ctx := fun hmet =>
        Bool.false_ne_true (h9.symm.trans ((gate9_passed ctx).mpr hmet))
      rw [h9, if_neg Bool.false_ne_true] at hresult
      subst hresult
      refine ⟨hresults, rfl, ⟨?_, fun hmet => absurd hmet hlow⟩,
        fun hwindow _ => penalised_of_rejected hpasses hwindow hlow⟩
      intro hgenerated
      cases hgenerated

/-- What an evaluation that completes returns. -/
theorem gate_engine_semantics (now : PyDateTime) (ctx : SignalContext) (result : EvaluatedSignal)
    (h : evaluate now ctx = .ok result) :
    GateEngine ctx result (reportedConfidence ctx result) :=
  ⟨fun _ hk => evaluate_stops h hk, decidedByConfidence h⟩

/-! ## An example

A long at 100, an hour into the session, that passes gates 1 to 7 with three indicators. -/

/-- `n` minutes after the open. -/
def sampleTime (n : Fin 1000) : PyDateTime :=
  { wall := 63900000000000000 + n.val * 60000000, utcoffset := some 0
    range := by
      have hlt := n.isLt
      rw [maxWall]
      omega }

/-- A hammer on the newest of 20 candles, and a support level at the price. -/
def sampleSnapshot (timeframe : String) : PatternSnapshot :=
  { symbol := "INFY", exchange := "NSE", timeframe := timeframe
    candlestickSignals := [⟨"CDLHAMMER", 100, 19⟩], orbState := none
    srLevels := [⟨100, "SUPPORT", 1, 3, 18⟩] }

/-- The hammer on two timeframes. -/
def samplePatterns : MultiTimeframePatterns :=
  { symbol := "INFY", exchange := "NSE"
    snapshots := (Dict.empty.set "5m" (sampleSnapshot "5m")).set "15m" (sampleSnapshot "15m")
    confirmedBullishPatterns := ["CDLHAMMER"], confirmedBearishPatterns := [] }

/-- The averages, the VWAP and the middle band agree, and so does the delta. -/
def sampleIndicators : IndicatorValues := fun _ key =>
  [("EMA_9", 101), ("EMA_21", 100), ("VWAP", 99), ("BB_MIDDLE", 98), ("VOLUME_DELTA", 500)].lookup
    key

/-- The context of the long, inside or outside the snapshot window. -/
def sampleContext (isSnapshotWindow : Bool) : SignalContext :=
  { symbol := "INFY", exchange := "NSE", direction := "LONG", strategyId := "EMAVWAP1"
    regime := ⟨.bullTrend⟩, indicatorValues := sampleIndicators
    patternSnapshot := some (sampleSnapshot "5m"), multiTfPatterns := some samplePatterns
    currentPrice := 100, currentVolume := 1000, avgVolume := 1000, atr := 2
    isSnapshotWindow := isSnapshotWindow, sessionOpen := sampleTime 0
    sessionClose := sampleTime 375, evaluatedAt := sampleTime 60 }

/-- The results of gates 1 to 8 on it. -/
def sampleTrail (isSnapshotWindow : Bool) : List GateResult :=
  (gates.filterMap fun g => (g (sampleContext isSnapshotWindow)).toOption) ++
    [gate9 (sampleContext isSnapshotWindow)]

/-- Outside the snapshot window the long is generated with 0.75. -/
theorem sample_generated :
    let result :=
      generatedResult (sampleTime 60) (sampleContext false) (sampleTrail false) (3 / 4)
    GateEngine (sampleContext false) result (reportedConfidence (sampleContext false) result) ∧
      result.confidence = 3 / 4 :=
  ⟨gate_engine_semantics (sampleTime 60) (sampleContext false)
    (generatedResult (sampleTime 60) (sampleContext false) (sampleTrail false) (3 / 4))
    (by decide +kernel), by decide +kernel⟩

/-- A rejection by Gate 9 is past gates that do not fail. -/
theorem not_fails_of_rejected_by_nine (h : evaluate now ctx = .ok result)
    (hnine : result.failedAtGate = some 9) : ∀ k ∈ List.range' 1 7, ¬ Fails ctx k := by
  intro k hk
  rcases evaluate_cases h with ⟨n, rs, r, hn, -, -, -, -, rfl⟩ | ⟨rs, htrail, hall, -⟩
  · have heq : n + 1 = 9 := Option.some.inj hnine
    omega
  · exact (htrail.passes hall k hk).not_fails

/-- Inside the window the same long is rejected, and reported with a confidence of 0. -/
theorem rejected_confidence_is_zero :
    ¬ ∀ (now : PyDateTime) (ctx : SignalContext) (result : EvaluatedSignal),
      evaluate now ctx = .ok result → GateEngine ctx result (compositeConfidence ctx) := by
  intro h
  have hresult : evaluate (sampleTime 60) (sampleContext true) =
      .ok (failedResult (sampleContext true) (sampleTrail true) 9) := by decide +kernel
  have hnone := not_fails_of_rejected_by_nine hresult rfl
  have hconfidence := ((h _ _ _ hresult).decides hnone).confidence
  revert hconfidence
  decide +kernel

end Intraday.Signals
