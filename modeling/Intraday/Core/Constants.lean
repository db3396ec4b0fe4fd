import Mathlib.Algebra.Field.Rat

/-!
# Intraday.Core.Constants — `shared/core/constants.py`

The system-wide constants that the modelled modules read, with the values of
`constants.py`. Floats are the rationals they denote.
-/

namespace Intraday.Core

/-! ## Daily system circuit breakers -/

/-- `DAILY_LOSS_LIMIT_PCT`: Tier 1 kill switch threshold (% of capital). -/
def dailyLossLimitPct : ℚ := -2

/-- `MAX_DAILY_TRADES`. -/
def maxDailyTrades : ℤ := 10

/-! ## The 3-5-7 risk rule -/

/-- `MAX_SINGLE_TRADE_LOSS_PCT`. -/
def maxSingleTradeLossPct : ℚ := 3

/-- `MAX_SECTOR_EXPOSURE_PCT`. -/
def maxSectorExposurePct : ℚ := 5

/-- `MAX_PORTFOLIO_HEAT_PCT`. -/
def maxPortfolioHeatPct : ℚ := 7

/-! ## Regime-based risk posture -/

/-- `RISK_PCT_BULL_TREND`. -/
def riskPctBullTrend : ℚ := 1

/-- `RISK_PCT_BEAR_TREND`. -/
def riskPctBearTrend : ℚ := 3 / 4

/-- `RISK_PCT_MEAN_REVERTING`. -/
def riskPctMeanReverting : ℚ := 1 / 2

/-- `RISK_PCT_HIGH_VOL_CHAOS`. -/
def riskPctHighVolChaos : ℚ := 0

/-- `SNAPSHOT_WINDOW_SIZE_MULTIPLIER`. -/
def snapshotWindowSizeMultiplier : ℚ := 1 / 2

/-! ## Risk and position sizing -/

/-- `MAX_POSITION_CORRELATION`. -/
def maxPositionCorrelation : ℚ := 7 / 10

/-- `KELLY_FRACTION`. -/
def kellyFraction : ℚ := 1 / 4

/-- `CORRELATION_LOOKBACK_DAYS`. -/
def correlationLookbackDays : ℕ := 20

/-- `MIN_STOP_DISTANCE_PCT`. -/
def minStopDistancePct : ℚ := 1 / 20

/-! ## Compliance: India -/

/-- `MWPL_EXCLUSION_THRESHOLD_PCT`. -/
def mwplExclusionThresholdPct : ℚ := 90

/-- `MAX_LEVERAGE`. -/
def maxLeverage : ℚ := 5

/-- `STRATEGY_ID_MAX_LENGTH`: cap of the Kite order `tag` field. -/
def strategyIdMaxLength : ℕ := 8

/-- `MPP_SLIPPAGE_BUFFER_PCT`. -/
def mppSlippageBufferPct : ℚ := 1 / 4

/-- `FORCE_SQUARE_OFF_IST_HOUR`. -/
def forceSquareOffIstHour : ℕ := 15

/-- `FORCE_SQUARE_OFF_IST_MINUTE`. -/
def forceSquareOffIstMinute : ℕ := 10

/-! ## Compliance: Australia -/

/-- `WASH_TRADE_LOOKBACK_SECONDS`. -/
def washTradeLookbackSeconds : ℤ := 60

/-- `ASX_POST_CLOSE_CUTOFF_HOUR`. -/
def asxPostCloseCutoffHour : ℕ := 16

/-- `ASX_POST_CLOSE_CUTOFF_MINUTE`. -/
def asxPostCloseCutoffMinute : ℕ := 21

/-- `ASX_POST_CLOSE_CUTOFF_SECOND`. -/
def asxPostCloseCutoffSecond : ℕ := 30

/-- `ASX_STAGGERED_OPEN_NOISE_FILTER_MINUTES`. -/
def asxStaggeredOpenNoiseFilterMinutes : ℚ := 15

/-! ## Kill switch and order execution -/

/-- `KILL_SWITCH_HALTED_KEY`. -/
def killSwitchHaltedKey : String := "system:status:halted"

/-- `KILL_SWITCH_TIER_KEY`. -/
def killSwitchTierKey : String := "system:kill_switch:tier"

/-- `KILL_SWITCH_REASON_KEY`. -/
def killSwitchReasonKey : String := "system:kill_switch:reason"

/-- `MAX_RETRIES`. -/
def maxRetries : ℤ := 3

/-- `RETRY_BASE_DELAY_SECONDS`. -/
def retryBaseDelaySeconds : ℚ≥0 := 1 / 2

/-- `RISK_DAILY_PNL_REDIS_KEY`, formatted for a date. -/
def riskDailyPnlRedisKey (date : String) : String := "risk:daily:pnl:" ++ date

/-- `DLQ_REDIS_KEY`. -/
def dlqRedisKey : String := "dlq:orders"

/-! ## Heartbeats -/

/-- `HEARTBEAT_INTERVAL_SECONDS`. -/
def heartbeatIntervalSeconds : ℤ := 30

/-- `MAX_MISSED_HEARTBEATS_BEFORE_KILL`. -/
def maxMissedHeartbeatsBeforeKill : ℤ := 2

/-- `MONITOR_HEARTBEAT_REDIS_KEY_PREFIX`. -/
def monitorHeartbeatRedisKeyPrefix : String := "monitor:heartbeat"

/-! ## Streams and status keys -/

/-- `REGIME_REDIS_STREAM`. -/
def regimeRedisStream : String := "regime:changes"

/-- `SIGNAL_REDIS_STREAM`. -/
def signalRedisStream : String := "signals:generated"

/-- `RECONCILIATION_BLOCKED_REDIS_KEY_PREFIX`. -/
def reconciliationBlockedRedisKeyPrefix : String := "reconciliation:blocked"

/-- `RECONCILIATION_MISMATCH_REDIS_STREAM`. -/
def reconciliationMismatchRedisStream : String := "reconciliation:mismatches"

/-- `RECONCILIATION_TOLERANCE_PRICE_PCT`. -/
def reconciliationTolerancePricePct : ℚ := 1 / 1000

/-- `INGESTION_DEGRADED_REDIS_KEY`. -/
def ingestionDegradedRedisKey : String := "system:status:degraded"

/-! ## Signals -/

/-- `SIGNAL_EXPIRY_MINUTES`. -/
def signalExpiryMinutes : ℤ := 5

/-- `SIGNAL_DEDUP_WINDOW_SECONDS`. -/
def signalDedupWindowSeconds : ℤ := 60

/-! ## Market regime -/

/-- `REGIME_ADX_TREND_THRESHOLD`. -/
def regimeAdxTrendThreshold : ℚ := 25

/-- `REGIME_ADX_MEAN_REVERT_THRESHOLD`. -/
def regimeAdxMeanRevertThreshold : ℚ := 20

/-- `REGIME_VIX_CHAOS_THRESHOLD`. -/
def regimeVixChaosThreshold : ℚ := 25

/-- `REGIME_RSI_MEAN_REVERT_LOW`. -/
def regimeRsiMeanRevertLow : ℚ := 40

/-- `REGIME_RSI_MEAN_REVERT_HIGH`. -/
def regimeRsiMeanRevertHigh : ℚ := 60

/-- `REGIME_CONFIDENCE_THRESHOLD`. -/
def regimeConfidenceThreshold : ℚ := 3 / 5

/-! ## Watchlists -/

/-- `WATCHLIST_TOP_N`. -/
def watchlistTopN : ℕ := 20

/-- `WATCHLIST_REDIS_TTL_SECONDS`: eight hours. -/
def watchlistRedisTtlSeconds : ℕ := 28800

/-- `WATCHLIST_MIN_CANDLES`. -/
def watchlistMinCandles : ℕ := 50

/-! ## Orchestrator -/

/-- `HITL_CAPITAL_THRESHOLD_PCT`: a fraction of the starting capital. -/
def hitlCapitalThresholdPct : ℚ := 1 / 20

/-- `ORCHESTRATOR_STATE_REDIS_KEY`. -/
def orchestratorStateRedisKey : String := "orchestrator:state"

/-- `WORKING_MEMORY_MAX_TOKENS`. -/
def workingMemoryMaxTokens : ℕ := 2000

/-- `SHORT_TERM_MEMORY_TTL_SECONDS`. -/
def shortTermMemoryTtlSeconds : ℕ := 3600

/-- `SHORT_TERM_MEMORY_REDIS_KEY_PREFIX`. -/
def shortTermMemoryRedisKeyPrefix : String := "orchestrator:stm"

/-! ## Authentication -/

/-- `KITE_SESSION_TTL_SECONDS`. -/
def kiteSessionTtlSeconds : ℕ := 30600

/-- `KITE_TOKEN_REDIS_KEY`. -/
def kiteTokenRedisKey : String := "auth:kite:access_token"

/-- `IBKR_PAPER_PORT`. -/
def ibkrPaperPort : ℕ := 7497

/-- `IBKR_LIVE_PORT`. -/
def ibkrLivePort : ℕ := 7496

/-- `IBKR_CLIENT_ID_POOL_MAX`. -/
def ibkrClientIdPoolMax : ℤ := 8

/-! ## API -/

/-- `API_KEY_HEADER`. -/
def apiKeyHeader : String := "X-API-Key"

/-- `API_PAUSE_REDIS_KEY`. -/
def apiPauseRedisKey : String := "system:status:paused"

/-- `API_WS_HEARTBEAT_INTERVAL_SECONDS`. -/
def apiWsHeartbeatIntervalSeconds : ℚ := 30

/-- `API_SIGNALS_STREAM_MAX_READ`. -/
def apiSignalsStreamMaxRead : ℕ := 50

/-! ## Data ingestion -/

/-- `WS_FALLBACK_TIMEOUT_SECONDS`. -/
def wsFallbackTimeoutSeconds : ℚ := 2

/-- `TICK_MAX_BACKWARD_MS`. -/
def tickMaxBackwardMs : ℤ := 500

/-- `TICK_MAX_FUTURE_MS`. -/
def tickMaxFutureMs : ℤ := 2000

/-- `CANDLE_INTERVAL_1M`. -/
def candleInterval1m : ℤ := 60

/-- `CANDLE_INTERVAL_5M`. -/
def candleInterval5m : ℤ := 300

/-! ## Stop-loss and target rules -/

/-- `ATR_STOP_LOSS_MULTIPLIER`. -/
def atrStopLossMultiplier : ℚ := 3 / 2

/-- `TARGET_1_REWARD_RISK_RATIO`. -/
def target1RewardRiskRatio : ℚ := 3 / 2

/-- `TARGET_2_REWARD_RISK_RATIO`. -/
def target2RewardRiskRatio : ℚ := 3

/-! ## The nine gates -/

/-- `GATE_2_MIN_INDICATORS_AGREEING`. -/
def gate2MinIndicatorsAgreeing : ℕ := 3

/-- `GATE_2_TOTAL_INDICATORS`. -/
def gate2TotalIndicators : ℕ := 8

/-- `GATE_2_INDICATOR_BASE_CONFIDENCE`. -/
def gate2IndicatorBaseConfidence : ℚ := 2 / 5

/-- `GATE_2_PER_INDICATOR_BONUS`. -/
def gate2PerIndicatorBonus : ℚ := 1 / 50

/-- `GATE_3_ABSORPTION_VOLUME_RATIO`. -/
def gate3AbsorptionVolumeRatio : ℚ := 2

/-- `GATE_3_ABSORPTION_DELTA_RATIO`. -/
def gate3AbsorptionDeltaRatio : ℚ := 1 / 5

/-- `GATE_3_CONFIDENCE_BONUS`. -/
def gate3ConfidenceBonus : ℚ := 7 / 100

/-- `GATE_4_CONFIDENCE_BONUS`. -/
def gate4ConfidenceBonus : ℚ := 7 / 100

/-- `GATE_5_MIN_TIMEFRAMES_AGREEING`. -/
def gate5MinTimeframesAgreeing : ℕ := 2

/-- `GATE_5_CONFIDENCE_BONUS`. -/
def gate5ConfidenceBonus : ℚ := 1 / 10

/-- `GATE_6_SR_PROXIMITY_PCT`. -/
def gate6SrProximityPct : ℚ := 1 / 2

/-- `GATE_6_CONFIDENCE_BONUS`. -/
def gate6ConfidenceBonus : ℚ := 1 / 20

/-- `GATE_7_OPENING_NOISE_FILTER_MINUTES`. -/
def gate7OpeningNoiseFilterMinutes : ℤ := 15

/-- `GATE_7_CLOSING_WINDOW_MINUTES`. -/
def gate7ClosingWindowMinutes : ℤ := 30

/-- `GATE_8_DIVERGENCE_PENALTY`. -/
def gate8DivergencePenalty : ℚ := 1 / 10

/-- `GATE_8_ALIGNMENT_BONUS`. -/
def gate8AlignmentBonus : ℚ := 1 / 20

/-- `GATE_9_CONFIDENCE_THRESHOLD`. -/
def gate9ConfidenceThreshold : ℚ := 7 / 10

/-- `GATE_9_CONFIDENCE_THRESHOLD_SNAPSHOT_WINDOW`. -/
def gate9ConfidenceThresholdSnapshotWindow : ℚ := 4 / 5

/-- `VOLUME_CONFIRMATION_MULTIPLIER`. -/
def volumeConfirmationMultiplier : ℚ := 3 / 2

/-- `RSI_BULLISH_LEVEL`. -/
def rsiBullishLevel : ℚ := 55

/-- `RSI_BEARISH_LEVEL`. -/
def rsiBearishLevel : ℚ := 45

/-! ## Indicators -/

/-- `INDICATOR_CACHE_TTL_SECONDS`. -/
def indicatorCacheTtlSeconds : ℕ := 30

/-- `VWAP_BAND_STDDEV_MULTIPLIER`. -/
def vwapBandStddevMultiplier : ℚ := 2

/-! ## Pattern recognition -/

/-- `CDL_MIN_CANDLES`. -/
def cdlMinCandles : ℕ := 10

/-! ## Sentiment -/

/-- `SENTIMENT_BATCH_MAX_HEADLINES`. -/
def sentimentBatchMaxHeadlines : ℕ := 20

/-- `GPTCACHE_SIMILARITY_THRESHOLD`. -/
def gptcacheSimilarityThreshold : ℚ := 19 / 20

/-- `SENTIMENT_CACHE_REDIS_TTL_SECONDS`. -/
def sentimentCacheRedisTtlSeconds : ℕ := 86400

/-- `SENTIMENT_GROQ_COST_PER_1M_INPUT_USD`. -/
def sentimentGroqCostPer1mInputUsd : ℚ := 1 / 20

/-- `SENTIMENT_GROQ_COST_PER_1M_OUTPUT_USD`. -/
def sentimentGroqCostPer1mOutputUsd : ℚ := 2 / 25

/-- `SENTIMENT_DEFAULT_MODEL`. -/
def sentimentDefaultModel : String := "groq/llama-3.1-8b-instant"

/-! ## Promotion from paper trading -/

/-- `PAPER_TRADING_MIN_DAYS`. -/
def paperTradingMinDays : ℤ := 20

/-- `PAPER_TRADING_MIN_SHARPE`. -/
def paperTradingMinSharpe : ℚ := 3 / 2

/-- `PAPER_TRADING_MIN_WIN_RATE_PCT`. -/
def paperTradingMinWinRatePct : ℚ := 50

/-- `PAPER_TRADING_MAX_DRAWDOWN_PCT`. -/
def paperTradingMaxDrawdownPct : ℚ := 5

/-! ## Calendars -/

/-- `HOLIDAY_CACHE_MAX_AGE_DAYS`. -/
def holidayCacheMaxAgeDays : ℤ := 7

/-! ## Alerts -/

/-- `ALERT_TELEGRAM_RATE_LIMIT_PER_MINUTE`. -/
def alertTelegramRateLimitPerMinute : ℤ := 20

/-- `LLM_COST_ALERT_THRESHOLD_USD`. -/
def llmCostAlertThresholdUsd : ℚ := 4 / 5

/-- `LLM_DAILY_COST_TARGET_USD`. -/
def llmDailyCostTargetUsd : ℚ := 1

/-- `SENTIMENT_COST_REDIS_KEY_PREFIX`. -/
def sentimentCostRedisKeyPrefix : String := "sentiment:cost:daily"

/-- `LLM_COMPLEX_DAILY_COUNTER_KEY.format(date=date)`. -/
def llmComplexDailyCounterKey (date : String) : String := "orchestrator:llm:complex:" ++ date

/-! ## Backtests -/

/-- `EMA_PERIODS[0]`. -/
def emaFastPeriod : ℕ := 9

/-- `EMA_PERIODS[1]`. -/
def emaSlowPeriod : ℕ := 21

/-- `SLIPPAGE_BUCKET_OPEN_MU`. -/
def slippageBucketOpenMu : ℚ := 2

/-- `SLIPPAGE_BUCKET_OPEN_SIGMA`. -/
def slippageBucketOpenSigma : ℚ := 1 / 2

/-- `SLIPPAGE_BUCKET_MID_MU`. -/
def slippageBucketMidMu : ℚ := 7 / 5

/-- `SLIPPAGE_BUCKET_MID_SIGMA`. -/
def slippageBucketMidSigma : ℚ := 2 / 5

/-- `SLIPPAGE_BUCKET_CLOSE_MU`. -/
def slippageBucketCloseMu : ℚ := 9 / 5

/-- `SLIPPAGE_BUCKET_CLOSE_SIGMA`. -/
def slippageBucketCloseSigma : ℚ := 1 / 2

/-- `SLIPPAGE_REFERENCE_SPREAD_BPS`. -/
def slippageReferenceSpreadBps : ℚ := 5

/-- `WALK_FORWARD_IN_SAMPLE_DAYS`. -/
def walkForwardInSampleDays : ℕ := 60

/-- `WALK_FORWARD_OUT_OF_SAMPLE_DAYS`. -/
def walkForwardOutOfSampleDays : ℕ := 20

/-- `WALK_FORWARD_STEP_DAYS`. -/
def walkForwardStepDays : ℕ := 10

/-! ## Compliance lists -/

/-- `COMPLIANCE_CACHE_MAX_AGE_HOURS`. -/
def complianceCacheMaxAgeHours : ℚ := 24

end Intraday.Core
