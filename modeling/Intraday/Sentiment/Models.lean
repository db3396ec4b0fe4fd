import Mathlib.Algebra.Order.Field.Rat
import Intraday.Compliance.StrategyRegistry

/-!
# Intraday.Sentiment.Models — `shared/sentiment/models.py`

The scores of headlines and the aggregate that Gate 8 reads. A `SentimentScore` carries the
ranges that its constructor checks.
-/

namespace Intraday.Sentiment

open Intraday.Compliance (isSpace)

/-- The labels of a score. -/
inductive SentimentLabel where
  | bullish
  | bearish
  | neutral
deriving DecidableEq, Repr

/-- The label in a message. -/
def SentimentLabel.value : SentimentLabel → String
  | .bullish => "BULLISH"
  | .bearish => "BEARISH"
  | .neutral => "NEUTRAL"

/-- `SentimentScore`. -/
structure SentimentScore where
  headline : String
  score : ℚ
  label : SentimentLabel
  confidence : ℚ
  tokensUsed : ℕ
  fromCache : Bool
  modelVersion : String
  score_range : -1 ≤ score ∧ score ≤ 1
  confidence_range : 0 ≤ confidence ∧ confidence ≤ 1
deriving DecidableEq, Repr

/-- `Headline`, as far as the agent reads it: its text is not blank. -/
structure Headline where
  text : String
  not_blank : text.toList.any (!isSpace ·) = true
deriving DecidableEq, Repr

/-- `MarketSentiment`, without the market indicators and its time. -/
structure MarketSentiment where
  exchange : String
  headlines : List Headline
  scores : List SentimentScore
  aggregateScore : ℚ
  totalTokensUsed : ℕ
  totalCostUsd : ℚ
  cacheHits : ℕ
  cacheMisses : ℕ
deriving DecidableEq, Repr

/-- `MarketSentiment.empty`. -/
def MarketSentiment.empty (exchange : String) : MarketSentiment :=
  { exchange := exchange, headlines := [], scores := [], aggregateScore := 0
    totalTokensUsed := 0, totalCostUsd := 0, cacheHits := 0, cacheMisses := 0 }

end Intraday.Sentiment
