import Intraday.Core.Constants
import Intraday.Lib.Python
import Intraday.Lib.RedisStore
import Intraday.Risk.Models

/-!
# Intraday.Regime.Publisher — `shared/regime/publisher.py`

A classification is published as a serialised `RegimeChanged` in the field `data` of a stream
entry. The module's own reader, `read_latest_regime`, parses that field again; what it reads
back after a publication is the classification that was published, less the features that
the message does not carry (`readLatestRegime_publish`).

`SerializeToString` and `ParseFromString` are parameters.
-/

namespace Intraday.Regime

open Intraday.Core Intraday.Lib Intraday.Lib.Python Intraday.Lib.RedisStore Intraday.Risk

/-- `RegimeFeatures`. -/
structure RegimeFeatures where
  adx : ℚ
  rsi : ℚ
  bbWidthPct : ℚ
  atrPct : ℚ
  vwapDeviationPct : ℚ
  volumeRatio : ℚ
  vix : ℚ
  atrSpike : Bool
deriving DecidableEq, Repr

/-- `RegimeClassification`; `classifiedAt` is the POSIX time of `classified_at`. -/
structure RegimeClassification where
  regime : MarketRegime
  confidence : ℚ
  features : RegimeFeatures
  hmmState : ℤ
  classifiedAt : ℚ
deriving DecidableEq, Repr

/-- The message `RegimeChanged`. -/
structure RegimeChanged where
  regime : String
  confidence : ℚ
  adx : ℚ
  rsi : ℚ
  vwapDeviation : ℚ
  volumeDelta : ℚ
  vix : ℚ
  classifiedAtMs : ℤ
deriving DecidableEq, Repr

/-- `int(x)` on a float: rounding towards zero. -/
def truncate (x : ℚ) : ℤ := x.num.tdiv x.den

/-- The message that `publish_regime_change` fills in. -/
def buildMessage (c : RegimeClassification) : RegimeChanged :=
  { regime := c.regime.value
    confidence := c.confidence
    adx := c.features.adx
    rsi := c.features.rsi
    vwapDeviation := c.features.vwapDeviationPct
    volumeDelta := c.features.volumeRatio
    vix := c.features.vix
    classifiedAtMs := truncate (c.classifiedAt * 1000) }

/-- `_MAX_STREAM_LENGTH`. -/
def maxStreamLength : ℕ := 1000

/-- `publish_regime_change`: the server with the new entry, of which it may drop `evicted` old
ones, and the id of the entry. -/
def publishRegimeChange (serialize : RegimeChanged → ByteArray) (evicted : ℕ) (s : Store)
    (c : RegimeClassification) : Store × EntryId :=
  (s.xaddMaxlen regimeRedisStream maxStreamLength evicted
    (Dict.empty.set "data" (serialize (buildMessage c))),
   s.nextId regimeRedisStream)

/-- `MarketRegime(value)`; `none` is a `ValueError`. -/
def marketRegime? (value : String) : Option MarketRegime :=
  [.bullTrend, .bearTrend, .meanReverting, .highVolChaos].find? (·.value == value)

/-- The classification that `read_latest_regime` makes of a message. -/
def ofMessage (regime : MarketRegime) (msg : RegimeChanged) : RegimeClassification :=
  { regime := regime
    confidence := msg.confidence
    features :=
      { adx := msg.adx
        rsi := msg.rsi
        bbWidthPct := 0
        atrPct := 0
        vwapDeviationPct := msg.vwapDeviation
        volumeRatio := msg.volumeDelta
        vix := msg.vix
        atrSpike := false }
    hmmState := -1
    classifiedAt := msg.classifiedAtMs / 1000 }

/-- `read_latest_regime`. -/
def readLatestRegime (parse : ByteArray → Except Exc RegimeChanged) (s : Store) :
    Except Exc (Option RegimeClassification) :=
  match s.xrevrange regimeRedisStream 1 with
  | [] => .ok none
  | entry :: _ =>
      match entry.fields.get? "data" with
      | none => .ok none
      | some payload =>
          match parse payload with
          | .error exc => .error exc
          | .ok msg =>
              match marketRegime? msg.regime with
              | none => .ok none
              | some regime => .ok (some (ofMessage regime msg))

variable {serialize : RegimeChanged → ByteArray} {s : Store} {c : RegimeClassification}

/-- The published entry is the newest, and `data` its only field. -/
theorem xrevrange_publishRegimeChange (evicted : ℕ) :
    (publishRegimeChange serialize evicted s c).1.xrevrange regimeRedisStream 1 =
      [{ id := s.nextId regimeRedisStream
         fields := Dict.empty.set "data" (serialize (buildMessage c)) }] :=
  Store.xrevrange_xaddMaxlen (by decide) evicted _

theorem marketRegime?_value (regime : MarketRegime) : marketRegime? regime.value = some regime := by
  cases regime <;> decide

/-- The message as it is set and sent: its `float` fields hold single precision, to which
`single` rounds. -/
def RegimeChanged.inSingle (single : ℚ → ℚ) (msg : RegimeChanged) : RegimeChanged :=
  { msg with
    confidence := single msg.confidence
    adx := single msg.adx
    rsi := single msg.rsi
    vwapDeviation := single msg.vwapDeviation
    volumeDelta := single msg.volumeDelta
    vix := single msg.vix }

/-- What is read back after a publication: the regime, and what the message makes of the rest. -/
theorem readLatestRegime_publish_single {parse : ByteArray → Except Exc RegimeChanged}
    {single : ℚ → ℚ} (hparse : ∀ msg, parse (serialize msg) = .ok (msg.inSingle single))
    (evicted : ℕ) :
    readLatestRegime parse (publishRegimeChange serialize evicted s c).1 =
      .ok (some (ofMessage c.regime ((buildMessage c).inSingle single))) := by
  have hregime : marketRegime? ((buildMessage c).inSingle single).regime = some c.regime :=
    marketRegime?_value c.regime
  simp only [readLatestRegime, xrevrange_publishRegimeChange, Dict.get?_set_self, hparse, hregime]

/-- What is published is read back, up to the features that the message leaves out. -/
theorem readLatestRegime_publish {parse : ByteArray → Except Exc RegimeChanged}
    (hparse : ∀ msg, parse (serialize msg) = .ok msg) (evicted : ℕ) :
    readLatestRegime parse (publishRegimeChange serialize evicted s c).1 =
      .ok (some
        { c with
          features := { c.features with bbWidthPct := 0, atrPct := 0, atrSpike := false }
          hmmState := -1
          classifiedAt := truncate (c.classifiedAt * 1000) / 1000 }) :=
  @readLatestRegime_publish_single serialize s c parse id hparse evicted

end Intraday.Regime
