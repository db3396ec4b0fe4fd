import Intraday.Lib.Clock
import Intraday.Lib.FloatCounter
import Intraday.Lib.Machine
import Intraday.Sentiment.Agent

/-!
# Intraday.Sentiment.CostTracker — `shared/sentiment/cost_tracker.py`

With Redis the costs of a day are counted under the key of the day; without it there is the total
of the session only, and that knows no days (`getDailyTotalUsd_run`).

A run of the agent records the cost of its tokens by the rates of its model, and reports another
one, by one rate for all models (`reported_eq_recorded_iff`). Costs are exact.
-/

namespace Intraday.Sentiment

open Intraday.Core Intraday.Lib
open Intraday.Lib.Decimal (truncate)
open Intraday.Lib.FloatCounter (Totals totalOf totals_empty exists_add get_totals)

/-! ## Rates -/

/-- `_COST_TABLE`: the costs of a million tokens, read and written. -/
def costTable : List (String × ℚ × ℚ) :=
  [("groq/llama-3.1-8b-instant", sentimentGroqCostPer1mInputUsd, sentimentGroqCostPer1mOutputUsd),
    ("groq/llama-3.3-70b-versatile", 27 / 100, 27 / 100),
    ("claude-sonnet-4-6", 3, 15),
    ("claude-haiku-4-5-20251001", 1 / 4, 5 / 4)]

/-- `_DEFAULT_COST_PER_1M`. -/
def defaultCostPer1m : ℚ × ℚ := (sentimentGroqCostPer1mInputUsd, sentimentGroqCostPer1mOutputUsd)

/-- `_COST_TABLE.get(model, _DEFAULT_COST_PER_1M)`. -/
def costPer1m (model : String) : ℚ × ℚ := (costTable.lookup model).getD defaultCostPer1m

/-- `_compute_cost`. -/
def computeCost (model : String) (inputTokens outputTokens : ℤ) : ℚ :=
  (inputTokens * (costPer1m model).1 + outputTokens * (costPer1m model).2) / 1000000

/-! ## The tracker -/

/-- `_redis_key`. -/
def redisKey (date : Date) : String := sentimentCostRedisKeyPrefix ++ ":" ++ date.compact

/-- `_REDIS_TTL_SECONDS`. -/
def redisTtlSeconds : ℕ := 90000

/-- A `CostTracker`, the Redis server that it uses if it has a client, and the clock of UTC. -/
structure CostTracker where
  hasRedis : Bool
  sessionTotal : ℚ
  redis : FloatCounter.Store
  clock : Wall

/-- What `record` returns, and whether it warns. -/
structure Recorded where
  cost : ℚ
  budgetReached : Bool
deriving DecidableEq

namespace CostTracker

/-- A new tracker, at a server without counters. -/
def start (hasRedis : Bool) (clock : Wall) : CostTracker :=
  { hasRedis := hasRedis, sessionTotal := 0, redis := fun _ => none, clock := clock }

/-- `get_daily_total_usd`. -/
def getDailyTotalUsd (t : CostTracker) : ℚ :=
  if t.hasRedis then
    match t.redis.get t.clock.moment (redisKey t.clock.date) with
    | none => 0
    | some (.num total) => total
    | some (.word _) => t.sessionTotal
  else t.sessionTotal

/-- `record`; `none` is the exception of a counter that is no number. -/
def record (t : CostTracker) (model : String) (inputTokens outputTokens : ℤ) :
    CostTracker × Option Recorded :=
  let cost := computeCost model inputTokens outputTokens
  let counted := { t with sessionTotal := t.sessionTotal + cost }
  let returned := fun (t : CostTracker) =>
    (t, some
      { cost := cost, budgetReached := decide (llmDailyCostTargetUsd ≤ t.getDailyTotalUsd) })
  if t.hasRedis then
    let key := redisKey t.clock.date
    match t.redis.incrByFloat t.clock.moment key cost with
    | none => (counted, none)
    | some redis =>
        returned { counted with redis := redis.expire t.clock.moment key redisTtlSeconds }
  else returned counted

/-- Time passes until a moment, unless that is an earlier one. -/
def waitUntil (t : CostTracker) (moment : Wall) : CostTracker :=
  if t.clock.moment ≤ moment.moment then { t with clock := moment } else t

end CostTracker

/-- What happens to a tracker: a call of `record`, and time that passes until another moment. -/
inductive TrackerOp where
  | record (model : String) (inputTokens outputTokens : ℤ)
  | wait (moment : Wall)

/-- The tracker as a machine. -/
def tracking : Machine CostTracker TrackerOp (Option Recorded) where
  step t op :=
    match op with
    | .record model inputTokens outputTokens => t.record model inputTokens outputTokens
    | .wait moment => (t.waitUntil moment, none)

/-- The costs of the calls of a run, with the days of the calls. -/
def recordedCosts (ts : List (Trans CostTracker TrackerOp (Option Recorded))) :
    List (Date × ℚ) :=
  ts.filterMap fun t =>
    match t.op with
    | .record model inputTokens outputTokens =>
        some (t.pre.clock.date, computeCost model inputTokens outputTokens)
    | .wait _ => none

/-! ## Daily totals -/

/-- The moment at which a day ends. -/
def dayEnd (date : Date) : ℕ := dayMicros * (date.toOrdinal + 1)

theorem moment_le_dayEnd (w : Wall) : w.moment ≤ dayEnd w.date := by
  have htime := w.time.micros_range
  unfold Wall.moment dayEnd
  rw [Nat.mul_add]
  omega

/-- The deadline of a counter is after its day. -/
theorem dayEnd_le (w : Wall) : dayEnd w.date ≤ w.moment + 1000000 * redisTtlSeconds := by
  have hday : dayMicros ≤ 1000000 * redisTtlSeconds := by decide
  unfold Wall.moment dayEnd
  rw [Nat.mul_add]
  omega

theorem redisKey_injective : Function.Injective redisKey := by
  intro d e h
  exact Date.compact_injective ((String.append_right_inj _).mp h)

/-- What holds of a tracker after calls with these costs. -/
structure Counts (t : CostTracker) (costs : List (Date × ℚ)) : Prop where
  session : t.sessionTotal = (costs.map Prod.snd).sum
  daily : t.hasRedis = true → Totals redisKey dayEnd t.redis costs

variable {t : CostTracker} {costs : List (Date × ℚ)}

theorem counts_start (hasRedis : Bool) (clock : Wall) :
    Counts (CostTracker.start hasRedis clock) [] :=
  { session := rfl, daily := fun _ => totals_empty redisKey dayEnd }

/-- A call adds its cost to the day on which it is made, and never fails. -/
theorem counts_record (h : Counts t costs) (model : String) (inputTokens outputTokens : ℤ) :
    (t.record model inputTokens outputTokens).2.isSome = true ∧
      (t.record model inputTokens outputTokens).1.hasRedis = t.hasRedis ∧
      (t.record model inputTokens outputTokens).1.clock = t.clock ∧
      Counts (t.record model inputTokens outputTokens).1
        (costs ++ [(t.clock.date, computeCost model inputTokens outputTokens)]) := by
  have hsession : t.sessionTotal + computeCost model inputTokens outputTokens =
      ((costs ++ [(t.clock.date, computeCost model inputTokens outputTokens)]).map
        Prod.snd).sum := by
    simp [h.session]
  cases hredis : t.hasRedis with
  | false =>
      simp only [CostTracker.record, hredis, Bool.false_eq_true, if_false]
      refine ⟨rfl, trivial, trivial, { session := hsession, daily := ?_ }⟩
      intro htrue
      cases htrue
  | true =>
      rcases exists_add redisKey_injective (h.daily hredis) (moment_le_dayEnd t.clock)
        (dayEnd_le t.clock) (computeCost model inputTokens outputTokens) with
        ⟨redis, hincr, htotals⟩
      simp only [CostTracker.record, hredis, hincr, if_true]
      exact ⟨rfl, trivial, trivial, { session := hsession, daily := fun _ => htotals }⟩

theorem run_record (t : CostTracker) (model : String) (inputTokens outputTokens : ℤ) :
    tracking.run t [.record model inputTokens outputTokens] =
      (t.record model inputTokens outputTokens).1 := rfl

theorem run_wait (t : CostTracker) (moment : Wall) :
    tracking.run t [.wait moment] = t.waitUntil moment := rfl

theorem recordedCosts_record (t : CostTracker) (model : String) (inputTokens outputTokens : ℤ) :
    recordedCosts (tracking.trans t [.record model inputTokens outputTokens]) =
      [(t.clock.date, computeCost model inputTokens outputTokens)] := rfl

theorem recordedCosts_wait (t : CostTracker) (moment : Wall) :
    recordedCosts (tracking.trans t [.wait moment]) = [] := rfl

theorem recordedCosts_append (ts us : List (Trans CostTracker TrackerOp (Option Recorded))) :
    recordedCosts (ts ++ us) = recordedCosts ts ++ recordedCosts us :=
  List.filterMap_append

/-- After any calls, at any moments, the tracker has their costs. -/
theorem counts_run (hasRedis : Bool) (clock : Wall) (ops : List TrackerOp) :
    (tracking.run (CostTracker.start hasRedis clock) ops).hasRedis = hasRedis ∧
      Counts (tracking.run (CostTracker.start hasRedis clock) ops)
        (recordedCosts (tracking.trans (CostTracker.start hasRedis clock) ops)) := by
  induction ops using List.reverseRecOn with
  | nil => exact ⟨rfl, counts_start hasRedis clock⟩
  | append_singleton ops op ih =>
      rw [tracking.run_append, tracking.trans_append, recordedCosts_append]
      cases op with
      | record model inputTokens outputTokens =>
          rcases counts_record ih.2 model inputTokens outputTokens with ⟨-, hkept, -, hcounts⟩
          rw [run_record, recordedCosts_record]
          exact ⟨hkept.trans ih.1, hcounts⟩
      | wait moment =>
          rw [run_wait, recordedCosts_wait, List.append_nil, CostTracker.waitUntil]
          split
          · exact ⟨ih.1, { session := ih.2.session, daily := ih.2.daily }⟩
          · exact ih

/-- What the total of the day is, by what was recorded. -/
theorem getDailyTotalUsd_of_counts (h : Counts t costs) :
    t.getDailyTotalUsd =
      if t.hasRedis then totalOf costs t.clock.date else (costs.map Prod.snd).sum := by
  rw [CostTracker.getDailyTotalUsd]
  cases hredis : t.hasRedis with
  | false =>
      simp only [Bool.false_eq_true, if_false]
      exact h.session
  | true =>
      simp only [if_true]
      rcases get_totals (h.daily hredis) (moment_le_dayEnd t.clock) with ⟨hnone, hzero⟩ | hsome
      · rw [hnone, hzero]
      · rw [hsome]

/-- With Redis the total of the day is the sum of the costs that were recorded on it. Without, it
is the sum of all costs of the session. -/
theorem getDailyTotalUsd_run (hasRedis : Bool) (clock : Wall) (ops : List TrackerOp) :
    (tracking.run (CostTracker.start hasRedis clock) ops).getDailyTotalUsd =
      if hasRedis then
        totalOf (recordedCosts (tracking.trans (CostTracker.start hasRedis clock) ops))
          (tracking.run (CostTracker.start hasRedis clock) ops).clock.date
      else
        ((recordedCosts (tracking.trans (CostTracker.start hasRedis clock) ops)).map
          Prod.snd).sum := by
  rcases counts_run hasRedis clock ops with ⟨hkept, hcounts⟩
  rw [getDailyTotalUsd_of_counts hcounts, hkept]

/-- A minute before the midnight after 16 January 2024. -/
def beforeMidnight : Wall where
  date := (Date.ofFields 2024 1 16).get rfl
  time := (Time.ofHourMinute 23 59).get rfl

/-- A minute after it. -/
def afterMidnight : Wall where
  date := (Date.ofFields 2024 1 17).get rfl
  time := (Time.ofHourMinute 0 1).get rfl

/-- In memory, what was recorded before midnight is in the total after it. -/
theorem memory_keeps_yesterday :
    ¬∀ (hasRedis : Bool) (clock : Wall) (ops : List TrackerOp),
      (tracking.run (CostTracker.start hasRedis clock) ops).getDailyTotalUsd =
        totalOf (recordedCosts (tracking.trans (CostTracker.start hasRedis clock) ops))
          (tracking.run (CostTracker.start hasRedis clock) ops).clock.date := by
  intro h
  have htotal := h false beforeMidnight
    [.record sentimentDefaultModel 1000000 0, .wait afterMidnight]
  revert htotal
  decide +kernel

/-! ## The cost of a run -/

/-- A call of `record` adds its cost to the total of the day. -/
theorem getDailyTotalUsd_record (h : Counts t costs) (model : String)
    (inputTokens outputTokens : ℤ) :
    (t.record model inputTokens outputTokens).1.getDailyTotalUsd =
      t.getDailyTotalUsd + computeCost model inputTokens outputTokens := by
  rcases counts_record h model inputTokens outputTokens with ⟨-, hkept, hclock, hcounts⟩
  rw [getDailyTotalUsd_of_counts hcounts, getDailyTotalUsd_of_counts h, hkept, hclock]
  cases t.hasRedis with
  | true => exact FloatCounter.totalOf_append_self _ _ _
  | false => simp

/-- What `SentimentAgent.run` records of its tokens, four fifths of them read. -/
def recordTokens (model : String) (totalTokens : ℕ) (t : CostTracker) : CostTracker :=
  let inputToks := truncate (totalTokens * (4 / 5))
  let outputToks := totalTokens - inputToks
  (t.record model inputToks outputToks).1

/-- The tracker after a run; the cost is recorded if something was asked for. -/
def runTracker (agent : Agent) (cache : Cache) (input : RunInput) (t : CostTracker) :
    CostTracker :=
  if (toScoreTexts agent cache input).isEmpty then t
  else recordTokens agent.model (newScores agent cache input).2 t

/-- A model has the rates of the default one, or dearer ones. -/
theorem costPer1m_cases (model : String) :
    costPer1m model = defaultCostPer1m ∨
      1 / 4 ≤ (costPer1m model).1 ∧ 1 / 4 ≤ (costPer1m model).2 := by
  have hall : ∀ entry ∈ costTable,
      entry.2 = defaultCostPer1m ∨ 1 / 4 ≤ entry.2.1 ∧ 1 / 4 ≤ entry.2.2 := by decide +kernel
  rw [costPer1m]
  cases hlookup : costTable.lookup model with
  | none => exact .inl rfl
  | some rates =>
      rcases List.lookup_eq_some_iff.mp hlookup with ⟨before, after, hsplit, -⟩
      have hmem : (model, rates) ∈ costTable := by
        rw [hsplit]
        exact List.mem_append_right _ List.mem_cons_self
      exact hall _ hmem

/-- The part that is read is rounded down, so it is exact for multiples of five. -/
theorem truncate_four_fifths (tokens : ℕ) :
    0 ≤ truncate (tokens * (4 / 5)) ∧ truncate (tokens * (4 / 5)) ≤ tokens ∧
      ((truncate (tokens * (4 / 5)) : ℚ) = tokens * (4 / 5) ↔ 5 ∣ tokens) := by
  have hnonneg : (0 : ℚ) ≤ tokens * (4 / 5) := by positivity
  have hfraction : (tokens * (4 / 5) : ℚ) = ((4 * tokens : ℕ) : ℚ) / ((5 : ℕ) : ℚ) := by
    push_cast
    ring
  have hfloor : truncate (tokens * (4 / 5)) = ((4 * tokens / 5 : ℕ) : ℤ) := by
    rw [truncate, if_pos hnonneg, hfraction, Rat.floor_natCast_div_natCast]
    rfl
  -- from here on it is a division of natural numbers
  rw [hfloor]
  refine ⟨Int.natCast_nonneg _, ?_, ?_⟩
  · exact_mod_cast (show 4 * tokens / 5 ≤ tokens by omega)
  · rw [mul_div_assoc', eq_div_iff (by decide)]
    norm_cast
    omega

/-- By the rates of its model a run costs what it reports only if these are the default ones. -/
theorem computeCost_eq_iff (model : String) (tokens : ℕ) :
    (tokens * (sentimentGroqCostPer1mInputUsd * (4 / 5) +
          sentimentGroqCostPer1mOutputUsd * (1 / 5)) / 1000000 =
        computeCost model (truncate (tokens * (4 / 5)))
          (tokens - truncate (tokens * (4 / 5)))) ↔
      tokens = 0 ∨ costPer1m model = defaultCostPer1m ∧ 5 ∣ tokens := by
  rcases truncate_four_fifths tokens with ⟨hnonneg, hle, hexact⟩
  generalize truncate (tokens * (4 / 5)) = read at hnonneg hle hexact ⊢
  have hnonneg : (0 : ℚ) ≤ read := by exact_mod_cast hnonneg
  have hle : (read : ℚ) ≤ tokens := by exact_mod_cast hle
  rw [computeCost, div_left_inj' (by decide)]
  push_cast
  rcases costPer1m_cases model with hdefault | ⟨hread, hwritten⟩
  · -- the rates agree, so it depends on how the tokens are split
    rw [hdefault, ← hexact]
    simp only [defaultCostPer1m, sentimentGroqCostPer1mInputUsd, sentimentGroqCostPer1mOutputUsd,
      true_and]
    constructor
    · intro h
      refine .inr ?_
      linarith
    · rintro (rfl | h)
      · have hzero : (read : ℚ) = 0 := le_antisymm (by exact_mod_cast hle) hnonneg
        rw [hzero]
        norm_num
      · rw [h]
        ring
  · -- every token costs more than the reported rate
    have hdear : costPer1m model ≠ defaultCostPer1m := by
      intro h
      rw [h] at hread
      revert hread
      decide +kernel
    have hcost : (tokens : ℚ) * (1 / 4) ≤
        read * (costPer1m model).1 + (tokens - read) * (costPer1m model).2 := by
      have hreadCost := mul_le_mul_of_nonneg_left hread hnonneg
      have hwrittenCost := mul_le_mul_of_nonneg_left hwritten (sub_nonneg.mpr hle)
      linarith
    simp only [hdear, false_and, or_false, sentimentGroqCostPer1mInputUsd,
      sentimentGroqCostPer1mOutputUsd]
    constructor
    · intro h
      have hzero : (tokens : ℚ) ≤ 0 := by linarith
      exact Nat.le_zero.mp (by exact_mod_cast hzero)
    · rintro rfl
      have hzero : (read : ℚ) = 0 := le_antisymm (by exact_mod_cast hle) hnonneg
      rw [hzero]
      norm_num

/-- What a run adds to the total of the day is what it reports exactly if it took no tokens, or
its model has the default rates and the tokens can be split. -/
theorem reported_eq_recorded_iff (agent : Agent) (cache : Cache) (input : RunInput) (clock : Wall)
    (ops : List TrackerOp) :
    (run agent cache input).1.totalCostUsd =
        (runTracker agent cache input
            (tracking.run (CostTracker.start agent.hasRedis clock) ops)).getDailyTotalUsd -
          (tracking.run (CostTracker.start agent.hasRedis clock) ops).getDailyTotalUsd ↔
      (run agent cache input).1.totalTokensUsed = 0 ∨
        costPer1m agent.model = defaultCostPer1m ∧
          5 ∣ (run agent cache input).1.totalTokensUsed := by
  rcases counts_run agent.hasRedis clock ops with ⟨-, hcounts⟩
  generalize tracking.run (CostTracker.start agent.hasRedis clock) ops = tracker at hcounts ⊢
  have hnone : toScoreTexts agent cache input = [] → (newScores agent cache input).2 = 0 := by
    intro hnil
    rw [newScores, hnil]
    rfl
  rw [run]
  cases hempty : input.headlines.isEmpty with
  | true =>
      -- no headlines: nothing is recorded, and nothing reported
      have hnil : toScoreTexts agent cache input = [] := by
        rw [toScoreTexts, List.isEmpty_iff.mp hempty]
        rfl
      simp only [runTracker, hnil, List.isEmpty_nil, if_true, MarketSentiment.empty, sub_self,
        true_or]
  | false =>
      simp only [Bool.false_eq_true, if_false]
      rw [runTracker]
      by_cases hasked : (toScoreTexts agent cache input).isEmpty = true
      · have hzero := hnone (List.isEmpty_iff.mp hasked)
        simp [hasked, hzero]
      · rw [if_neg hasked, recordTokens, getDailyTotalUsd_record hcounts, add_sub_cancel_left]
        exact computeCost_eq_iff agent.model (newScores agent cache input).2

/-- An agent without Redis, whose model is not the default one. -/
def sonnetAgent : Agent := { sampleAgent with model := "claude-sonnet-4-6", hasRedis := false }

/-- 100 tokens are reported as 0.0000056 dollars, and recorded as 0.00054. -/
theorem sonnet_reports_less :
    ¬∀ (agent : Agent) (cache : Cache) (input : RunInput) (clock : Wall) (ops : List TrackerOp),
      (run agent cache input).1.totalCostUsd =
        (runTracker agent cache input
            (tracking.run (CostTracker.start agent.hasRedis clock) ops)).getDailyTotalUsd -
          (tracking.run (CostTracker.start agent.hasRedis clock) ops).getDailyTotalUsd := by
  intro h
  have hcost := h sonnetAgent Cache.empty (sampleInput 0 (.response "[]" 100)) beforeMidnight []
  revert hcost
  decide +kernel

end Intraday.Sentiment
