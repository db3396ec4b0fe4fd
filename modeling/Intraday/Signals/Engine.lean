import Mathlib.Data.List.Forall2
import Intraday.Signals.Gates

/-!
# Intraday.Signals.Engine — `shared/signals/engine.py`

`evaluate` runs gates 1 to 7 in order and stops at the first that fails; past them it adds the
contributions up with that of Gate 8 and compares the composite confidence with the threshold of
Gate 9.

`gate` numbers the gates and `compositeConfidence` adds their contributions up without the loop;
what `evaluate` returns is stated in these terms.
-/

namespace Intraday.Signals

open Intraday.Core Intraday.Lib Intraday.Lib.Decimal Intraday.Lib.Raise Intraday.Risk

/-! ## The engine -/

/-- The terminating gates before the confidence is known, with their numbers. -/
def terminatingGates : List (ℕ × (SignalContext → Except Exc GateResult)) :=
  [(1, fun ctx => .ok (gate1Regime ctx)), (2, fun ctx => .ok (gate2Indicators ctx)),
    (3, gate3OrderFlow), (4, fun ctx => .ok (gate4Candlestick ctx)),
    (5, fun ctx => .ok (gate5MultiTimeframe ctx)), (6, gate6SrProximity), (7, gate7SessionTiming)]

/-- Where the loop over the gates ends: the results so far, the running confidence and the gate
that failed. -/
structure GateRun where
  results : List GateResult
  confidence : ℚ
  failedGate : Option ℕ

/-- The loop of `evaluate`. -/
def runGates (ctx : SignalContext) : List (ℕ × (SignalContext → Except Exc GateResult)) →
    List GateResult → ℚ → Except Exc GateRun
  | [], results, confidence =>
      .ok { results := results, confidence := confidence, failedGate := none }
  | (num, gateFn) :: rest, results, confidence => do
      let result ← gateFn ctx
      let results := results ++ [result]
      if !result.passed then
        .ok { results := results, confidence := confidence, failedGate := some num }
      else runGates ctx rest results (confidence + result.confidenceContribution)

/-- `_failed_result`. -/
def failedResult (ctx : SignalContext) (gateResults : List GateResult) (failedGate : ℕ) :
    EvaluatedSignal :=
  { generated := false
    symbol := ctx.symbol
    exchange := ctx.exchange
    direction := ctx.direction
    confidence := 0
    entryPrice := ctx.currentPrice
    stopLoss := 0
    target1 := 0
    target2 := 0
    atr := ctx.atr
    strategyId := ctx.strategyId
    gateResults := gateResults
    failedAtGate := some failedGate
    confirmingIndicators := []
    confirmingTimeframes := []
    candlestickPattern := ""
    regime := ctx.regime.regime.value
    evaluatedAt := ctx.evaluatedAt }

/-- The last value that is not empty, over the gates in order. -/
def lastNonempty {α : Type} (isEmpty : α → Bool) (default : α) (values : List α) : α :=
  values.foldl (fun acc x => if isEmpty x then acc else x) default

/-- The result of a signal that passed all gates, at the time `now`. -/
def generatedResult (now : PyDateTime) (ctx : SignalContext) (gateResults : List GateResult)
    (confidence : ℚ) : EvaluatedSignal :=
  let (stopLoss, target1, target2) := computeStopAndTargets ctx
  { generated := true
    symbol := ctx.symbol
    exchange := ctx.exchange
    direction := ctx.direction
    confidence := roundTo 4 confidence
    entryPrice := ctx.currentPrice
    stopLoss := roundTo 4 stopLoss
    target1 := roundTo 4 target1
    target2 := roundTo 4 target2
    atr := ctx.atr
    strategyId := ctx.strategyId
    gateResults := gateResults
    failedAtGate := none
    confirmingIndicators :=
      lastNonempty List.isEmpty [] (gateResults.map (·.confirmingIndicators))
    confirmingTimeframes :=
      lastNonempty List.isEmpty [] (gateResults.map (·.confirmingTimeframes))
    candlestickPattern :=
      lastNonempty String.isEmpty "" (gateResults.map (·.candlestickPattern))
    regime := ctx.regime.regime.value
    evaluatedAt := now }

/-- `max(0.0, min(1.0, x))`. -/
def clampUnit (x : ℚ) : ℚ := max 0 (min 1 x)

/-- `SignalEngine.evaluate`, which reads the clock at the end. -/
def evaluate (now : PyDateTime) (ctx : SignalContext) : Except Exc EvaluatedSignal := do
  let run ← runGates ctx terminatingGates [] gate2IndicatorBaseConfidence
  match run.failedGate with
  | some num => .ok (failedResult ctx run.results num)
  | none =>
      let g8 := gate8Divergence ctx
      let runningConfidence := clampUnit (run.confidence + g8.confidenceContribution)
      let g9 := gate9Confidence runningConfidence ctx
      let gateResults := run.results ++ [g8, g9]
      if !g9.passed then .ok (failedResult ctx gateResults 9)
      else .ok (generatedResult now ctx gateResults runningConfidence)

/-! ## The gates by number -/

/-- Gates 1 to 8, in order. -/
def gates : List (SignalContext → Except Exc GateResult) :=
  terminatingGates.map Prod.snd ++ [fun ctx => .ok (gate8Divergence ctx)]

/-- Gate `k` on a context; `none` unless `k` is from 1 to 8. -/
def gate (k : ℕ) (ctx : SignalContext) : Option (Except Exc GateResult) :=
  match k with
  | 0 => none
  | k + 1 => (gates[k]?).map (· ctx)

/-- Gate `k` returns a result that does not pass. -/
def Fails (ctx : SignalContext) (k : ℕ) : Prop :=
  ∃ result, gate k ctx = some (.ok result) ∧ result.passed = false

/-- Gate `k` returns a result that passes. -/
def Passes (ctx : SignalContext) (k : ℕ) : Prop :=
  ∃ result, gate k ctx = some (.ok result) ∧ result.passed = true

/-- `k` is the least failing gate among 1 to 7. -/
def LeastFailing (ctx : SignalContext) (k : ℕ) : Prop :=
  k ∈ List.range' 1 7 ∧ Fails ctx k ∧ ∀ j ∈ List.range' 1 7, j < k → ¬ Fails ctx j

/-- The confidence that gate `k` contributes. -/
def contribution (ctx : SignalContext) (k : ℕ) : ℚ :=
  match gate k ctx with
  | some (.ok result) => result.confidenceContribution
  | _ => 0

/-- The base confidence and the contributions of gates 1 to 8, clamped. -/
def compositeConfidence (ctx : SignalContext) : ℚ :=
  clampUnit (gate2IndicatorBaseConfidence + ((List.range' 1 8).map (contribution ctx)).sum)

/-- The results `rs` are those of gates 1 to `n`. -/
def GateTrail (ctx : SignalContext) (n : ℕ) (rs : List GateResult) : Prop :=
  rs.map (fun r => some (Except.ok r)) = (List.range' 1 n).map (gate · ctx)

theorem gate_one (ctx : SignalContext) : gate 1 ctx = some (.ok (gate1Regime ctx)) := rfl

theorem gate_two (ctx : SignalContext) : gate 2 ctx = some (.ok (gate2Indicators ctx)) := rfl

theorem gate_three (ctx : SignalContext) : gate 3 ctx = some (gate3OrderFlow ctx) := rfl

theorem gate_four (ctx : SignalContext) : gate 4 ctx = some (.ok (gate4Candlestick ctx)) := rfl

theorem gate_five (ctx : SignalContext) : gate 5 ctx = some (.ok (gate5MultiTimeframe ctx)) := rfl

theorem gate_six (ctx : SignalContext) : gate 6 ctx = some (gate6SrProximity ctx) := rfl

theorem gate_seven (ctx : SignalContext) : gate 7 ctx = some (gate7SessionTiming ctx) := rfl

variable {ctx : SignalContext} {now : PyDateTime} {result : EvaluatedSignal}

/-! ## The loop -/

/-- Every gate of `gs` returns, with the results `rs`, and passes. -/
def PassAll (ctx : SignalContext) (gs : List (ℕ × (SignalContext → Except Exc GateResult)))
    (rs : List GateResult) : Prop :=
  rs.map Except.ok = gs.map (·.2 ctx) ∧ ∀ r ∈ rs, r.passed = true

theorem PassAll.cons {g : ℕ × (SignalContext → Except Exc GateResult)}
    {gs : List (ℕ × (SignalContext → Except Exc GateResult))} {r : GateResult}
    {rs : List GateResult} (hgate : g.2 ctx = .ok r) (hpassed : r.passed = true)
    (h : PassAll ctx gs rs) : PassAll ctx (g :: gs) (r :: rs) := by
  refine ⟨?_, List.forall_mem_cons.mpr ⟨hpassed, h.2⟩⟩
  rw [List.map_cons, List.map_cons, h.1, hgate]

/-- The loop ends past all gates or at the first that fails. -/
theorem runGates_cases {gs : List (ℕ × (SignalContext → Except Exc GateResult))}
    {results : List GateResult} {confidence : ℚ} {run : GateRun}
    (h : runGates ctx gs results confidence = .ok run) :
    (∃ rs, PassAll ctx gs rs ∧ run.results = results ++ rs ∧ run.failedGate = none ∧
      run.confidence = confidence + (rs.map (·.confidenceContribution)).sum) ∨
    (∃ before num gateFn after rs r, gs = before ++ (num, gateFn) :: after ∧
      PassAll ctx before rs ∧ gateFn ctx = .ok r ∧ r.passed = false ∧
      run.results = results ++ (rs ++ [r]) ∧ run.failedGate = some num) := by
  induction gs generalizing results confidence with
  | nil =>
      obtain rfl := Except.ok.inj h
      exact .inl ⟨[], ⟨rfl, by simp⟩, by simp, rfl, by simp⟩
  | cons g rest ih =>
      rcases g with ⟨num, gateFn⟩
      rw [runGates] at h
      cases hgate : gateFn ctx with
      | error e =>
          rw [hgate, error_bind] at h
          cases h
      | ok r =>
          rw [hgate, ok_bind] at h
          cases hpassed : r.passed with
          | false =>
              -- the loop stops here
              simp only [hpassed, Bool.not_false, if_true] at h
              obtain rfl := Except.ok.inj h
              exact .inr ⟨[], num, gateFn, rest, [], r, rfl, ⟨rfl, by simp⟩, hgate, hpassed, rfl,
                rfl⟩
          | true =>
              -- the rest of the loop decides, with one more result before it
              simp only [hpassed, Bool.not_true, Bool.false_eq_true, if_false] at h
              rcases ih h with ⟨rs, hpass, hres, hfail, hconf⟩ |
                ⟨before, num', gateFn', after, rs, r', rfl, hpass, hgate', hr', hres, hfail⟩
              · refine .inl ⟨r :: rs, PassAll.cons hgate hpassed hpass, ?_, hfail, ?_⟩
                · rw [hres, List.append_assoc, List.singleton_append]
                · rw [hconf, List.map_cons, List.sum_cons, add_assoc]
              · refine .inr ⟨(num, gateFn) :: before, num', gateFn', after, r :: rs, r', rfl,
                  PassAll.cons hgate hpassed hpass, hgate', hr', ?_, hfail⟩
                rw [hres, List.append_assoc, List.singleton_append, List.cons_append]

/-- The gates of the loop are gates 1 to 7. -/
theorem map_terminatingGates (ctx : SignalContext) :
    terminatingGates.map (fun g => some (g.2 ctx)) = (List.range' 1 7).map (gate · ctx) := rfl

theorem take_range'_map {α : Type} (f : ℕ → α) {k n : ℕ} (h : k ≤ n) :
    ((List.range' 1 n).map f).take k = (List.range' 1 k).map f := by
  have hsplit : List.range' 1 n = List.range' 1 k ++ List.range' (1 + k) (n - k) := by
    rw [List.range'_append_1, Nat.add_sub_of_le h]
  rw [← List.map_take, hsplit, List.take_left' (by simp)]

/-- The gate at position `i` of the loop is gate `i + 1`. -/
theorem gate_of_getElem? {i : ℕ} {g : ℕ × (SignalContext → Except Exc GateResult)}
    (h : terminatingGates[i]? = some g) : g.1 = i + 1 ∧ gate (i + 1) ctx = some (g.2 ctx) := by
  have hlt : i < 7 := (List.getElem?_eq_some_iff.mp h).1
  constructor
  · have hnum : terminatingGates.map Prod.fst = List.range' 1 7 := rfl
    have hget := congrArg (fun l : List ℕ => l[i]?) hnum
    simp only [List.getElem?_map, h, List.getElem?_range' hlt, Option.map_some] at hget
    have heq := Option.some.inj hget
    omega
  · rw [gate, gates, List.getElem?_append_left hlt, List.getElem?_map, h]
    rfl

/-- Where the loop is cut, the results before it are those of the gates by number. -/
theorem gateTrail_of_split {before after : List (ℕ × (SignalContext → Except Exc GateResult))}
    {g : ℕ × (SignalContext → Except Exc GateResult)} {rs : List GateResult}
    (hsplit : terminatingGates = before ++ g :: after)
    (hrs : rs.map Except.ok = before.map (·.2 ctx)) :
    before.length < 7 ∧ rs.length = before.length ∧ GateTrail ctx before.length rs ∧
      g.1 = before.length + 1 ∧ gate (before.length + 1) ctx = some (g.2 ctx) := by
  have hseven : before.length + (after.length + 1) = 7 := by
    have hcount := congrArg List.length hsplit
    rw [List.length_append, List.length_cons] at hcount
    exact hcount.symm
  have hget : terminatingGates[before.length]? = some g := by
    rw [hsplit, List.getElem?_append_right (le_refl _), Nat.sub_self, List.getElem?_cons_zero]
  refine ⟨by omega, by simpa using congrArg List.length hrs, ?_, gate_of_getElem? hget⟩
  have htrail := congrArg (List.take before.length) (map_terminatingGates ctx)
  rw [take_range'_map _ (by omega), ← List.map_take, hsplit, List.take_left] at htrail
  rw [GateTrail, ← htrail]
  simpa [Function.comp_def] using congrArg (List.map some) hrs

/-- What the loop of `evaluate` has found. -/
theorem runGates_trail {run : GateRun}
    (h : runGates ctx terminatingGates [] gate2IndicatorBaseConfidence = .ok run) :
    (GateTrail ctx 7 run.results ∧ (∀ r ∈ run.results, r.passed = true) ∧
      run.failedGate = none ∧ run.confidence =
        gate2IndicatorBaseConfidence + (run.results.map (·.confidenceContribution)).sum) ∨
    (∃ n rs r, n < 7 ∧ rs.length = n ∧ run.results = rs ++ [r] ∧ GateTrail ctx n rs ∧
      gate (n + 1) ctx = some (.ok r) ∧ (∀ r ∈ rs, r.passed = true) ∧ r.passed = false ∧
      run.failedGate = some (n + 1)) := by
  rcases runGates_cases h with ⟨rs, ⟨hrs, hall⟩, hres, hfail, hconf⟩ |
    ⟨before, num, gateFn, after, rs, r, hsplit, ⟨hrs, hall⟩, hgate, hr, hres, hfail⟩
  · rw [List.nil_append] at hres
    refine .inl ⟨?_, by rwa [hres], hfail, by rw [hconf, hres]⟩
    rw [GateTrail, ← map_terminatingGates, hres]
    simpa [Function.comp_def] using congrArg (List.map some) hrs
  · rw [List.nil_append] at hres
    rcases gateTrail_of_split hsplit hrs with ⟨hlt, hlen, htrail, hnum, hget⟩
    refine .inr ⟨before.length, rs, r, hlt, hlen, hres, htrail, ?_, hall, hr, ?_⟩
    · rw [hget, ← hgate]
    · rw [hfail, ← hnum]

/-! ## The result -/

/-- The contributions of gates whose results are known. -/
theorem GateTrail.contributions {n : ℕ} {rs : List GateResult} (h : GateTrail ctx n rs) :
    (List.range' 1 n).map (contribution ctx) = rs.map (·.confidenceContribution) := by
  let read : Option (Except Exc GateResult) → ℚ := fun r =>
    match r with
    | some (.ok result) => result.confidenceContribution
    | _ => 0
  have hread := congrArg (List.map read) h
  rw [List.map_map, List.map_map] at hread
  exact hread.symm

/-- The running confidence past Gate 8 is the composite confidence. -/
theorem compositeConfidence_eq {rs : List GateResult} (h : GateTrail ctx 7 rs) :
    compositeConfidence ctx =
      clampUnit (gate2IndicatorBaseConfidence + (rs.map (·.confidenceContribution)).sum +
        (gate8Divergence ctx).confidenceContribution) := by
  have height : contribution ctx 8 = (gate8Divergence ctx).confidenceContribution := rfl
  rw [compositeConfidence, List.range'_1_concat, List.map_append, h.contributions,
    List.sum_append, List.map_singleton, List.sum_singleton, height, add_assoc]

/-- What Gate 9 says of the composite confidence. -/
def gate9 (ctx : SignalContext) : GateResult := gate9Confidence (compositeConfidence ctx) ctx

theorem gate9_passed (ctx : SignalContext) :
    (gate9 ctx).passed = true ↔ confidenceThreshold ctx ≤ compositeConfidence ctx := by
  simp only [gate9, gate9Confidence]
  split <;> rename_i h
  · exact iff_of_false Bool.false_ne_true (not_le.mpr h)
  · exact iff_of_true rfl (not_lt.mp h)

/-- An evaluation that completes stops at a gate from 1 to 7, or is decided by Gate 9. -/
theorem evaluate_cases (h : evaluate now ctx = .ok result) :
    (∃ n rs r, n < 7 ∧ GateTrail ctx n rs ∧ gate (n + 1) ctx = some (.ok r) ∧
      (∀ r ∈ rs, r.passed = true) ∧ r.passed = false ∧
      result = failedResult ctx (rs ++ [r]) (n + 1)) ∨
    (∃ rs, GateTrail ctx 7 rs ∧ (∀ r ∈ rs, r.passed = true) ∧
      result = if (gate9 ctx).passed
        then generatedResult now ctx (rs ++ [gate8Divergence ctx, gate9 ctx])
          (compositeConfidence ctx)
        else failedResult ctx (rs ++ [gate8Divergence ctx, gate9 ctx]) 9) := by
  rw [evaluate] at h
  cases hrun : runGates ctx terminatingGates [] gate2IndicatorBaseConfidence with
  | error e =>
      rw [hrun, error_bind] at h
      cases h
  | ok run =>
      rw [hrun, ok_bind] at h
      rcases runGates_trail hrun with ⟨htrail, hall, hfail, hconf⟩ |
        ⟨n, rs, r, hn, -, hres, htrail, hgate, hall, hr, hfail⟩
      · -- past the loop Gate 9 decides
        right
        simp only [hfail, hconf, ← compositeConfidence_eq htrail] at h
        refine ⟨run.results, htrail, hall, ?_⟩
        cases h9 : (gate9 ctx).passed with
        | false =>
            rw [gate9] at h9
            simp only [h9, Bool.not_false, if_true] at h
            exact (Except.ok.inj h).symm
        | true =>
            rw [gate9] at h9
            simp only [h9, Bool.not_true, Bool.false_eq_true, if_false] at h
            exact (Except.ok.inj h).symm
      · left
        simp only [hfail] at h
        rw [hres] at h
        exact ⟨n, rs, r, hn, htrail, hgate, hall, hr, (Except.ok.inj h).symm⟩

/-- Gates whose results all passed. -/
theorem GateTrail.passes {n : ℕ} {rs : List GateResult} (h : GateTrail ctx n rs)
    (hall : ∀ r ∈ rs, r.passed = true) : ∀ j ∈ List.range' 1 n, Passes ctx j := by
  intro j hj
  have hmem : gate j ctx ∈ (List.range' 1 n).map (gate · ctx) := List.mem_map_of_mem hj
  rw [← h] at hmem
  rcases List.mem_map.mp hmem with ⟨r, hr, heq⟩
  exact ⟨r, heq.symm, hall r hr⟩

/-- A trail and the result of the next gate. -/
theorem GateTrail.concat {n : ℕ} {rs : List GateResult} {r : GateResult} (h : GateTrail ctx n rs)
    (hr : gate (n + 1) ctx = some (.ok r)) : GateTrail ctx (n + 1) (rs ++ [r]) := by
  rw [GateTrail, List.range'_1_concat, List.map_append, List.map_append, h, List.map_singleton,
    List.map_singleton, add_comm 1 n, hr]

/-- The result of a gate that passes. -/
theorem Passes.of_gate {k : ℕ} {r : GateResult} (h : Passes ctx k)
    (hgate : gate k ctx = some (.ok r)) : r.passed = true := by
  rcases h with ⟨r', hgate', hpassed⟩
  rw [hgate, Option.some_inj] at hgate'
  obtain rfl := Except.ok.inj hgate'
  exact hpassed

theorem Passes.not_fails {k : ℕ} (h : Passes ctx k) : ¬ Fails ctx k := by
  rintro ⟨r, hr, hfail⟩
  exact Bool.false_ne_true (hfail.symm.trans (h.of_gate hr))

/-- The least failing gate, if the gates before `k` pass and `k` fails. -/
theorem LeastFailing.eq_of {k k' : ℕ} (h : LeastFailing ctx k') (hk : k ∈ List.range' 1 7)
    (hpass : ∀ j ∈ List.range' 1 7, j < k → Passes ctx j) (hfail : Fails ctx k) : k' = k := by
  rcases h with ⟨hk', hfail', hleast⟩
  rcases lt_trichotomy k' k with hlt | heq | hgt
  · exact absurd hfail' (hpass k' hk' hlt).not_fails
  · exact heq
  · exact absurd hfail (hleast k hk hgt)

/-- At the least failing gate `evaluate` stops. -/
theorem evaluate_stops (h : evaluate now ctx = .ok result) {k : ℕ} (hk : LeastFailing ctx k) :
    result.generated = false ∧ result.failedAtGate = some k ∧
      GateTrail ctx k result.gateResults := by
  rcases evaluate_cases h with ⟨n, rs, r, hn, htrail, hgate, hall, hr, rfl⟩ | ⟨rs, htrail, hall, -⟩
  · have heq : k = n + 1 := by
      refine hk.eq_of (by simp; omega) ?_ ⟨r, hgate, hr⟩
      intro j hj hlt
      refine htrail.passes hall j ?_
      rw [List.mem_range'_1] at hj ⊢
      omega
    subst heq
    exact ⟨rfl, rfl, htrail.concat hgate⟩
  · exact absurd hk.2.1 (htrail.passes hall k hk.1).not_fails

/-- Where no gate from 1 to 7 fails, all pass and Gate 9 decides. -/
theorem evaluate_decided (h : evaluate now ctx = .ok result)
    (hnone : ∀ k ∈ List.range' 1 7, ¬ Fails ctx k) :
    ∃ rs, GateTrail ctx 7 rs ∧ (∀ r ∈ rs, r.passed = true) ∧
      result = if (gate9 ctx).passed
        then generatedResult now ctx (rs ++ [gate8Divergence ctx, gate9 ctx])
          (compositeConfidence ctx)
        else failedResult ctx (rs ++ [gate8Divergence ctx, gate9 ctx]) 9 := by
  rcases evaluate_cases h with ⟨n, rs, r, hn, -, hgate, -, hr, -⟩ | hdecided
  · exact absurd ⟨r, hgate, hr⟩ (hnone (n + 1) (by simp; omega))
  · exact hdecided

end Intraday.Signals
