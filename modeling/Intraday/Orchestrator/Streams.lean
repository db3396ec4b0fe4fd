import Intraday.Orchestrator.Cycle
import Intraday.Regime.Publisher
import Intraday.Signals.Publisher

/-!
# Intraday.Orchestrator.Streams — what the nodes make of the publishers' entries

Both publishers append entries with a single field, `data`, that holds the serialised message.
`regime_node` looks for the fields `regime` and `confidence`, `signal_node` for `symbol` and
`exchange`; on such an entry each of them gets its default. So a published regime never
arrives (`regime_reaches_iff`), and the reconciliation block is asked about the pair of two
empty strings, whatever signal was published (`block_reaches_iff`).
-/

namespace Intraday.Orchestrator

open Intraday.Core Intraday.Lib Intraday.Lib.Python Intraday.Lib.RedisStore
open Intraday.Regime (RegimeChanged RegimeClassification publishRegimeChange
  xrevrange_publishRegimeChange)
open Intraday.Signals (SignalGenerated Attempt Accepts publish dataFields publish_of_accepts)

/-- The nodes read from the server `store`, and `blocked` is the set of blocked pairs. -/
def storeEnv (store : Store) (blocked : String → String → Bool) (clock : NodeName → String) : Env
  | .xrevrange stream count => .ok (store.xrevrange stream count)
  | .get key => .ok (store.get key)
  | .blocked symbol exchange => .ok (blocked symbol exchange)
  | .utcnow node => clock node

variable {cfg : Config} {env : Env} {s : StateDict} {store : Store}
  {blocked : String → String → Bool} {clock : NodeName → String}

/-- A field that a publisher's entry does not have reads as the default. -/
theorem fieldText_data (payload : ByteArray) {name : String} (h : name ≠ "data")
    (default : String) :
    fieldText (Dict.empty.set "data" payload) name default = some default := by
  rw [fieldText, Dict.get?_set_of_ne _ _ h]
  rfl

/-! ## The regime stream -/

/-- The result of `signal_node` on `s` increases `signals_today`. -/
def Counts (s : StateDict) (result : Except Exc StateDict) : Prop :=
  ∃ u m n, result = .ok u ∧ s.signalsToday = some m ∧ (s.merge u).signalsToday = some n ∧ m < n

theorem not_counts_of_gated (h : Gated cfg env s) :
    ¬ Counts s ((signalNode cfg.redis cfg.blockedFn s).eval env) := by
  rintro ⟨u, m, n, hu, hm, hn, hlt⟩
  rw [StateDict.merge_signalsToday, signalNode_gated h hu, hm] at hn
  exact absurd (Option.some.inj hn) (ne_of_lt hlt)

/-- After `regime_node` the state has the regime and the confidence of `c`, and if that is
`HIGH_VOL_CHAOS`, then `signal_node` counts no signal. -/
def RegimeReaches (cfg : Config) (env : Env) (t : TradingSystemState) (c : RegimeClassification) :
    Prop :=
  let after := afterRegime cfg env t.toDict
  after.marketRegime = some c.regime.value ∧ after.regimeConfidence = some c.confidence ∧
    (c.regime = .highVolChaos →
      ∀ env', ¬ Counts after ((signalNode cfg.redis cfg.blockedFn after).eval env'))

/-- On a publisher's entry `regime_node` returns no key. -/
theorem regimeUpdate_data (payload : ByteArray) :
    regimeUpdate (Dict.empty.set "data" payload) = {} := by
  have hregime : fieldText (Dict.empty.set "data" payload) "regime" "" = some "" :=
    fieldText_data payload (by decide) ""
  simp [regimeUpdate, hregime]

/-- The run after a publication leaves the state as it is. -/
theorem afterRegime_publish (hredis : cfg.redis = true) (serialize : RegimeChanged → ByteArray)
    (evicted : ℕ) (c : RegimeClassification) :
    afterRegime cfg (storeEnv (publishRegimeChange serialize evicted store c).1 blocked clock) s =
      s.merge {} := by
  have hentries : storeEnv (publishRegimeChange serialize evicted store c).1 blocked clock
      (.xrevrange regimeRedisStream 1) = .ok _ :=
    congrArg Except.ok (xrevrange_publishRegimeChange evicted)
  simp [afterRegime, regimeNode, hredis, hentries, update, regimeUpdate_data]

/-- A published regime reaches the state only if it was there already. -/
theorem regime_reaches_iff (cfg : Config) (hredis : cfg.redis = true)
    (serialize : RegimeChanged → ByteArray) (evicted : ℕ) (store : Store)
    (c : RegimeClassification) (t : TradingSystemState) (blocked : String → String → Bool)
    (clock : NodeName → String) :
    RegimeReaches cfg (storeEnv (publishRegimeChange serialize evicted store c).1 blocked clock) t c
      ↔ t.marketRegime = c.regime.value ∧ t.regimeConfidence = c.confidence := by
  rw [RegimeReaches, afterRegime_publish hredis]
  constructor
  · rintro ⟨hregime, hconfidence, -⟩
    exact ⟨Option.some.inj hregime, Option.some.inj hconfidence⟩
  · rintro ⟨hregime, hconfidence⟩
    refine ⟨congrArg some hregime, congrArg some hconfidence, ?_⟩
    intro hchaos env'
    have hseen : t.marketRegime = "HIGH_VOL_CHAOS" := by
      rw [hregime, hchaos]
      rfl
    exact not_counts_of_gated (.inr (.inr (.inr (congrArg some hseen))))

/-- A classification of the regime `regime`. -/
def classified (regime : Risk.MarketRegime) (confidence : ℚ) : RegimeClassification :=
  { regime := regime
    confidence := confidence
    features :=
      { adx := 31, rsi := 72, bbWidthPct := 6, atrPct := 3, vwapDeviationPct := 2
        volumeRatio := 4, vix := 29, atrSpike := true }
    hmmState := 3
    classifiedAt := 1782966600 }

/-- An empty server. -/
def emptyStore : Store :=
  { nowMs := 1782966600000
    strings := fun _ => none
    streams := fun _ => [] }

/-- The regime of a new state, published again, is the regime of the state. -/
theorem same_regime_reaches :
    RegimeReaches plainConfig
      (storeEnv (publishRegimeChange (fun msg => msg.regime.toByteArray) 0 emptyStore
        (classified .meanReverting 0)).1 (fun _ _ => false) (fun _ => "2026-07-02T10:00:00"))
      (makeInitialState "2026-07-02") (classified .meanReverting 0) :=
  (regime_reaches_iff plainConfig rfl _ 0 emptyStore _ _ _ _).mpr ⟨rfl, rfl⟩

/-- Chaos is published, and no message format brings it to the state. -/
theorem chaos_does_not_arrive :
    ¬ ∃ serialize : RegimeChanged → ByteArray,
      RegimeReaches plainConfig
        (storeEnv (publishRegimeChange serialize 0 emptyStore (classified .highVolChaos 1)).1
          (fun _ _ => false) (fun _ => "2026-07-02T10:00:00"))
        (makeInitialState "2026-07-02") (classified .highVolChaos 1) := by
  rintro ⟨serialize, hregime, -⟩
  rw [afterRegime_publish rfl] at hregime
  exact absurd (Option.some.inj hregime) (by decide)

/-! ## The signals stream -/

/-- The pairs for which the block was consulted, in order. -/
def consulted : List Call → List (String × String)
  | [] => []
  | .blocked symbol exchange :: rest => (symbol, exchange) :: consulted rest
  | _ :: rest => consulted rest

/-- A blocked signal is not counted, and for one that is not blocked `signal_node`, once past
its other gates, consults the block for exactly its pair. -/
def BlockReaches (cfg : Config) (env : Env) (t : TradingSystemState)
    (blocked : String → String → Bool) (symbol exchange : String) : Prop :=
  (blocked symbol exchange = true →
    ¬ Counts t.toDict ((signalNode cfg.redis cfg.blockedFn t.toDict).eval env)) ∧
  (blocked symbol exchange = false → ¬ Gated cfg env t.toDict →
    consulted ((signalNode cfg.redis cfg.blockedFn t.toDict).calls env) = [(symbol, exchange)])

/-- Past its gates, `signal_node` has read two keys and goes on to the stream. -/
theorem signalNode_open (hredis : cfg.redis = true) (blockedFn : Bool)
    (hopen : ¬ Gated cfg (storeEnv store blocked clock) s) :
    (signalNode cfg.redis blockedFn s).eval (storeEnv store blocked clock) =
        (consumeSignal blockedFn s).eval (storeEnv store blocked clock) ∧
      (signalNode cfg.redis blockedFn s).calls (storeEnv store blocked clock) =
        .get killSwitchHaltedKey :: .get ingestionDegradedRedisKey ::
          (consumeSignal blockedFn s).calls (storeEnv store blocked clock) := by
  simp only [Gated, KeyPresent, not_or] at hopen
  rcases hopen with ⟨hs, hhalted, hdegraded, hchaos⟩
  have hread : ∀ key, ¬ (cfg.redis = true ∧ ∃ raw, storeEnv store blocked clock (.get key) =
      .ok (some raw)) → storeEnv store blocked clock (.get key) = .ok none := by
    intro key hkey
    cases hget : store.get key with
    | none => exact congrArg Except.ok hget
    | some raw => exact absurd ⟨hredis, raw, congrArg Except.ok hget⟩ hkey
  simp [signalNode, hs, hredis, hread _ hhalted, hread _ hdegraded, hchaos]

/-- On a publisher's entry the block is consulted for two empty strings. -/
theorem consumeSignal_data (blocked : String → String → Bool) (clock : NodeName → String)
    {payload : ByteArray} {entry : Entry} {n : ℤ}
    (hlatest : store.xrevrange signalRedisStream 1 = [entry])
    (hfields : entry.fields = dataFields payload) (hn : s.signalsToday = some n) :
    (consumeSignal true s).eval (storeEnv store blocked clock) =
        .ok (if blocked "" "" then {} else { signalsToday := some (n + 1) }) ∧
      (consumeSignal true s).calls (storeEnv store blocked clock) =
        [.xrevrange signalRedisStream 1, .blocked "" ""] := by
  have hentries : storeEnv store blocked clock (.xrevrange signalRedisStream 1) = .ok [entry] :=
    congrArg Except.ok hlatest
  have hsymbol : fieldText entry.fields "symbol" "" = some "" := by
    rw [hfields]
    exact fieldText_data payload (by decide) ""
  have hexchange : fieldText entry.fields "exchange" "" = some "" := by
    rw [hfields]
    exact fieldText_data payload (by decide) ""
  have hask : storeEnv store blocked clock (.blocked "" "") = .ok (blocked "" "") := rfl
  cases hb : blocked "" "" with
  | true =>
      rw [hb] at hask
      simp [consumeSignal, hentries, hsymbol, hexchange, hask, update]
  | false =>
      rw [hb] at hask
      simp [consumeSignal, countSignal, hentries, hsymbol, hexchange, hask, hn, update]

theorem counts_unless_iff (t : TradingSystemState) (b : Bool) :
    Counts t.toDict (.ok (if b then {} else { signalsToday := some (t.signalsToday + 1) })) ↔
      b = false := by
  cases b with
  | false =>
      refine iff_of_true ?_ rfl
      exact ⟨_, t.signalsToday, t.signalsToday + 1, rfl, rfl, rfl, lt_add_one _⟩
  | true =>
      refine iff_of_false ?_ (by decide)
      rintro ⟨u, m, n, hu, hm, hn, hlt⟩
      obtain rfl := Except.ok.inj hu
      exact absurd (Option.some.inj (hm.symm.trans hn)) (ne_of_lt hlt)

/-- The latest entry after an accepted publication. -/
theorem xrevrange_publish (serialize : SignalGenerated → ByteArray) {a : Attempt}
    (haccepts : Accepts store a) :
    ∃ entry, (publish serialize store a).1.xrevrange signalRedisStream 1 = [entry] ∧
      entry.fields = dataFields (a.payload serialize) := by
  rw [publish_of_accepts haccepts]
  exact ⟨_, Store.xrevrange_xadd _, rfl⟩

/-- What `signal_node` does with a published signal, past its gates. -/
theorem signalNode_published (hredis : cfg.redis = true) {serialize : SignalGenerated → ByteArray}
    {before : Store} {a : Attempt} (haccepts : Accepts before a)
    (hlatest : store.xrevrange signalRedisStream 1 =
      (publish serialize before a).1.xrevrange signalRedisStream 1)
    {t : TradingSystemState} (hopen : ¬ Gated cfg (storeEnv store blocked clock) t.toDict) :
    (signalNode cfg.redis true t.toDict).eval (storeEnv store blocked clock) =
        .ok (if blocked "" "" then {} else { signalsToday := some (t.signalsToday + 1) }) ∧
      consulted ((signalNode cfg.redis true t.toDict).calls (storeEnv store blocked clock)) =
        [("", "")] := by
  rcases xrevrange_publish serialize haccepts with ⟨entry, hentry, hfields⟩
  rcases consumeSignal_data (s := t.toDict) blocked clock (hlatest.trans hentry) hfields rfl with
    ⟨heval, hcalls⟩
  rcases signalNode_open hredis true hopen with ⟨hopenEval, hopenCalls⟩
  refine ⟨hopenEval.trans heval, ?_⟩
  rw [hopenCalls, hcalls]
  rfl

/-- A published signal meets the reconciliation block exactly if the run is stopped before
it, if its own pair is the pair of two empty strings, or if both pairs are blocked. -/
theorem block_reaches_iff (cfg : Config) (hredis : cfg.redis = true)
    (hblockedFn : cfg.blockedFn = true) (serialize : SignalGenerated → ByteArray)
    (before : Store) (a : Attempt) (haccepts : Accepts before a) (store : Store)
    (hlatest : store.xrevrange signalRedisStream 1 =
      (publish serialize before a).1.xrevrange signalRedisStream 1)
    (t : TradingSystemState) (blocked : String → String → Bool) (clock : NodeName → String) :
    BlockReaches cfg (storeEnv store blocked clock) t blocked a.result.symbol a.result.exchange ↔
      Gated cfg (storeEnv store blocked clock) t.toDict ∨
        (a.result.symbol = "" ∧ a.result.exchange = "") ∨
        (blocked a.result.symbol a.result.exchange = true ∧ blocked "" "" = true) := by
  by_cases hgated : Gated cfg (storeEnv store blocked clock) t.toDict
  · refine iff_of_true ⟨fun _ => not_counts_of_gated hgated, ?_⟩ (.inl hgated)
    intro _ hopen
    exact absurd hgated hopen
  · rcases signalNode_published hredis haccepts hlatest hgated with ⟨heval, hconsulted⟩
    -- past the gates, the node counts the signal unless the empty pair is blocked
    have hcounts : Counts t.toDict ((signalNode cfg.redis cfg.blockedFn t.toDict).eval
        (storeEnv store blocked clock)) ↔ blocked "" "" = false := by
      rw [hblockedFn, heval]
      exact counts_unless_iff t (blocked "" "")
    rw [BlockReaches, hcounts, hblockedFn, hconsulted]
    simp only [hgated, not_false_eq_true, true_implies, false_or, List.cons.injEq, and_true,
      Prod.mk.injEq, Bool.not_eq_false]
    cases hpair : blocked a.result.symbol a.result.exchange with
    | false =>
        simp only [Bool.false_eq_true, false_implies, true_implies, true_and, false_and, or_false]
        exact ⟨fun h => ⟨h.1.symm, h.2.symm⟩, fun h => ⟨h.1.symm, h.2.symm⟩⟩
    | true =>
        simp only [true_implies, Bool.true_eq_false, false_implies, and_true, true_and]
        refine ⟨.inr, ?_⟩
        rintro (⟨hsymbol, hexchange⟩ | hempty)
        · rwa [hsymbol, hexchange] at hpair
        · exact hempty

/-- A signal for INFY on the NSE. -/
def infySignal : Attempt :=
  { publisher := { dedupWindow := 300, dedupWindow_pos := by decide }
    result :=
      { generated := true, symbol := "INFY", exchange := "NSE", direction := "BUY"
        confidence := 4 / 5, entryPrice := 1500, stopLoss := 1485, target1 := 1522
        target2 := 1545, atr := 12, strategyId := "orb-v1"
        confirmingIndicators := ["rsi", "vwap"], confirmingTimeframes := ["5m"]
        candlestickPattern := "hammer", regime := "BULL_TREND" }
    signalId := "3f0c"
    nowMs := 1782966600000 }

theorem accepts_infySignal : Accepts emptyStore infySignal := ⟨rfl, rfl, rfl⟩

/-- An orchestrator with a Redis client and a block callback. -/
def blockingConfig : Config := { plainConfig with blockedFn := true }

/-- If every pair is blocked, then so is the published one. -/
theorem block_of_everything_reaches :
    BlockReaches blockingConfig
      (storeEnv (publish (fun msg => msg.symbol.toByteArray) emptyStore infySignal).1
        (fun _ _ => true) (fun _ => "2026-07-02T10:00:00"))
      (makeInitialState "2026-07-02") (fun _ _ => true) "INFY" "NSE" :=
  (block_reaches_iff blockingConfig rfl rfl _ emptyStore infySignal accepts_infySignal _ rfl
    _ _ _).mpr (.inr (.inr ⟨rfl, rfl⟩))

/-- INFY is blocked, and its signal is counted, whatever the message format. -/
theorem blocked_signal_is_counted :
    ¬ ∃ serialize : SignalGenerated → ByteArray,
      BlockReaches blockingConfig
        (storeEnv (publish serialize emptyStore infySignal).1
          (fun symbol exchange => symbol == "INFY" && exchange == "NSE")
          (fun _ => "2026-07-02T10:00:00"))
        (makeInitialState "2026-07-02")
        (fun symbol exchange => symbol == "INFY" && exchange == "NSE") "INFY" "NSE" := by
  rintro ⟨serialize, hblocked, -⟩
  refine hblocked rfl ⟨{ signalsToday := some 1 }, 0, 1, ?_, rfl, rfl, by decide⟩
  rfl

end Intraday.Orchestrator
