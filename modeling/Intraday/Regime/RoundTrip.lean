import Mathlib.Algebra.Order.Round
import Mathlib.Tactic.Linarith
import Mathlib.Tactic.FieldSimp
import Intraday.Execution.Engine
import Intraday.Lib.Json
import Intraday.Regime.Classifier

/-!
# Intraday.Regime.RoundTrip — a classification, published and read back

The message has no field for the spike of the ATR, and the reader fills in `False`. A
classification that is chaotic because of its spike alone comes back with features that are not
chaotic, and classifying these again gives another regime (`regime_round_trip_iff`,
`chaos_survives_iff`).
-/

namespace Intraday.Regime

open Intraday.Core Intraday.Lib Intraday.Lib.Python Intraday.Lib.RedisStore Intraday.Risk

/-- What is read back, `d`, agrees with what was published, `c`: in the regime, the confidence,
the time up to a millisecond and the two features of the override, so that chaotic features are
still classified as chaos. -/
structure RoundTrips (c d : RegimeClassification) : Prop where
  regime : d.regime = c.regime
  confidence : d.confidence = c.confidence
  classifiedAt : |d.classifiedAt - c.classifiedAt| < 1 / 1000
  vix : d.features.vix = c.features.vix
  atrSpike : d.features.atrSpike = c.features.atrSpike
  chaos : isChaos c.features = true → ∀ (clf : RegimeClassifier) (nowS : ℚ),
    ∃ again, clf.classify d.features nowS = .ok again ∧ again.regime = .highVolChaos

/-- `read_latest_regime` after `publish_regime_change` of `c` gives such a classification. -/
def ReadsBack (serialize : RegimeChanged → ByteArray)
    (parse : ByteArray → Except Exc RegimeChanged) (evicted : ℕ) (s : Store)
    (c : RegimeClassification) : Prop :=
  ∃ d, readLatestRegime parse (publishRegimeChange serialize evicted s c).1 = .ok (some d) ∧
    RoundTrips c d

/-- Rounding towards zero moves a number by less than one. -/
theorem abs_truncate_sub_lt (x : ℚ) : |(truncate x : ℚ) - x| < 1 := by
  have hpos : (0 : ℤ) < x.den := by exact_mod_cast x.den_pos
  have hden : (0 : ℚ) < x.den := by exact_mod_cast x.den_pos
  have hdivides : (truncate x : ℚ) * x.den + (x.num.tmod x.den : ℤ) = x.num := by
    exact_mod_cast Int.tdiv_mul_add_tmod x.num x.den
  have hdifference : ((truncate x : ℚ) - x) * x.den = -(x.num.tmod x.den : ℤ) := by
    rw [sub_mul, Rat.mul_den_eq_num]
    linarith
  -- the remainder is smaller than the denominator
  have hlower : -(x.den : ℚ) < (x.num.tmod x.den : ℤ) := by
    exact_mod_cast Int.lt_tmod_of_pos x.num hpos
  have hupper : ((x.num.tmod x.den : ℤ) : ℚ) < x.den := by
    exact_mod_cast Int.tmod_lt_of_pos x.num hpos
  rw [abs_lt]
  constructor
  · refine lt_of_mul_lt_mul_right ?_ hden.le
    rw [hdifference]
    linarith
  · refine lt_of_mul_lt_mul_right ?_ hden.le
    rw [hdifference]
    linarith

variable {serialize : RegimeChanged → ByteArray} {parse : ByteArray → Except Exc RegimeChanged}
  {single : ℚ → ℚ} {s : Store} {c : RegimeClassification}

/-- Chaotic features are read back as chaotic exactly if the VIX is high in single precision. -/
theorem chaos_survives_iff (hparse : ∀ msg, parse (serialize msg) = .ok (msg.inSingle single))
    (evicted : ℕ) {d : RegimeClassification}
    (h : readLatestRegime parse (publishRegimeChange serialize evicted s c).1 = .ok (some d)) :
    isChaos d.features = true ↔ regimeVixChaosThreshold < single c.features.vix := by
  rw [readLatestRegime_publish_single hparse] at h
  cases h
  simp [isChaos, ofMessage, RegimeChanged.inSingle, buildMessage]

/-- A classification makes the round trip exactly if its confidence and its VIX have single
precision and its features have no spike of the ATR. -/
theorem regime_round_trip_iff
    (hparse : ∀ msg, parse (serialize msg) = .ok (msg.inSingle single)) (evicted : ℕ) (s : Store)
    (c : RegimeClassification) :
    ReadsBack serialize parse evicted s c ↔
      single c.confidence = c.confidence ∧ single c.features.vix = c.features.vix ∧
        c.features.atrSpike = false := by
  rw [ReadsBack, readLatestRegime_publish_single hparse]
  constructor
  · rintro ⟨d, hd, hround⟩
    cases hd
    exact ⟨hround.confidence, hround.vix, hround.atrSpike.symm⟩
  · rintro ⟨hconfidence, hvix, hspike⟩
    have hfeatures : (ofMessage c.regime ((buildMessage c).inSingle single)).features.vix =
        c.features.vix := hvix
    refine ⟨_, rfl, { regime := rfl, confidence := hconfidence, classifiedAt := ?_, vix := hvix
                      atrSpike := hspike.symm, chaos := ?_ }⟩
    · have hms : (ofMessage c.regime ((buildMessage c).inSingle single)).classifiedAt =
          truncate (c.classifiedAt * 1000) / 1000 := rfl
      have hlt := abs_truncate_sub_lt (c.classifiedAt * 1000)
      rw [abs_lt] at hlt ⊢
      rw [hms]
      constructor
      · linarith
      · linarith
    · -- without a spike the features are chaotic by their VIX, which is read back
      intro hchaos clf nowS
      refine clf.classify_of_chaos nowS ?_
      rw [isChaos, hspike, Bool.or_false, decide_eq_true_eq] at hchaos
      rw [isChaos, hfeatures, decide_eq_true hchaos, Bool.true_or]

/-! ## A wire format -/

/-- A message as a list of JSON values, its numbers as fractions. -/
def encode (msg : RegimeChanged) : ByteArray :=
  (Json.arr
    [.str msg.regime, .int msg.confidence.num, .int msg.confidence.den, .int msg.adx.num,
      .int msg.adx.den, .int msg.rsi.num, .int msg.rsi.den, .int msg.vwapDeviation.num,
      .int msg.vwapDeviation.den, .int msg.volumeDelta.num, .int msg.volumeDelta.den,
      .int msg.vix.num, .int msg.vix.den, .int msg.classifiedAtMs]).dumps.toByteArray

/-- The message of such a list. -/
def decode (raw : ByteArray) : Except Exc RegimeChanged :=
  match (String.fromUTF8? raw).bind Json.loads with
  | some (.arr
      [.str regime, .int confidence, .int confidence', .int adx, .int adx', .int rsi, .int rsi',
        .int vwap, .int vwap', .int volume, .int volume', .int vix, .int vix', .int ms]) =>
      .ok
        { regime := regime
          confidence := confidence / confidence'
          adx := adx / adx'
          rsi := rsi / rsi'
          vwapDeviation := vwap / vwap'
          volumeDelta := volume / volume'
          vix := vix / vix'
          classifiedAtMs := ms }
  | _ => .error (.other "DecodeError")

theorem decode_encode (msg : RegimeChanged) : decode (encode msg) = .ok msg := by
  have hfraction : ∀ q : ℚ, (q.num : ℚ) / ((q.den : ℤ) : ℚ) = q := by
    intro q
    rw [Int.cast_natCast]
    exact q.num_div_den
  simp only [decode, encode, fromUTF8?_toByteArray, Option.bind_some, Json.loads_dumps, hfraction]

/-- A classification at a VIX of 18. -/
def atVix18 (regime : MarketRegime) (atrSpike : Bool) : RegimeClassification :=
  { regime := regime
    confidence := 1
    features :=
      { adx := 30, rsi := 65, bbWidthPct := 4, atrPct := 3, vwapDeviationPct := 1
        volumeRatio := 2, vix := 18, atrSpike := atrSpike }
    hmmState := -1
    classifiedAt := 1782966600 }

/-- Without a spike it makes the round trip. -/
theorem calm_round_trip : ReadsBack encode decode 0
    { nowMs := 0, strings := fun _ => none, streams := fun _ => [] } (atVix18 .bullTrend false) :=
  (@regime_round_trip_iff encode decode id decode_encode 0 _ _).mpr ⟨rfl, rfl, rfl⟩

/-- With one it is chaos, and is read back as calm features, which are a bull trend again. -/
theorem spike_is_lost :
    ¬ ∀ (serialize : RegimeChanged → ByteArray) (parse : ByteArray → Except Exc RegimeChanged),
      (∀ msg, parse (serialize msg) = .ok msg) →
      ∀ (evicted : ℕ) (s : Store) (c : RegimeClassification),
        ReadsBack serialize parse evicted s c := by
  intro h
  rcases h encode decode decode_encode 0
    { nowMs := 0, strings := fun _ => none, streams := fun _ => [] }
    (atVix18 .highVolChaos true) with ⟨d, hd, hround⟩
  rw [readLatestRegime_publish decode_encode] at hd
  cases hd
  exact absurd hround.atrSpike (by decide)

end Intraday.Regime
