import Intraday.Lib.Machine
import Intraday.Lib.Redis
import Intraday.Lib.Decimal
import Intraday.Lib.Dict
import Intraday.Lib.Proc
import Intraday.Lib.Python
import Intraday.Lib.RedisStore
import Intraday.Lib.StateGraph
import Intraday.Lib.Key
import Intraday.Lib.PyFloat
import Intraday.Lib.Json
import Intraday.Lib.FallbackQueue
import Intraday.Core.Constants
import Intraday.Lua.Margin
import Intraday.Lua.Failure
import Intraday.Lua.RateLimiter
import Intraday.Compliance.Models
import Intraday.Compliance.StrategyRegistry
import Intraday.Compliance.Checks
import Intraday.Compliance.Engine
import Intraday.Execution.Models
import Intraday.Execution.Engine
import Intraday.Execution.Runs
import Intraday.Execution.Gate
import Intraday.Execution.HaltRace
import Intraday.Compliance.KillSwitch
import Intraday.Monitor.Heartbeat
import Intraday.Execution.Exits
import Intraday.Execution.Broker
import Intraday.Execution.Outcome
import Intraday.Execution.Paper
import Intraday.Execution.DeadLetter
import Intraday.Risk.ThreeFiveSeven
import Intraday.Risk.Budget
import Intraday.Signals.Publisher
import Intraday.Signals.Instruments
import Intraday.Orchestrator.State
import Intraday.Orchestrator.Nodes
import Intraday.Orchestrator.Graph
import Intraday.Orchestrator.Cycle
import Intraday.Orchestrator.Session
import Intraday.Orchestrator.Approval
import Intraday.Orchestrator.Latch
import Intraday.Regime.Publisher
import Intraday.Regime.Classifier
import Intraday.Regime.RoundTrip
import Intraday.Orchestrator.Streams
import Intraday.Api.Controls
import Intraday.Api.Delivery
import Intraday.Api.Status
import Intraday.Api.Pnl
import Intraday.Orchestrator.Feed
import Intraday.Orchestrator.Mismatches
import Intraday.Reconciliation.Models
import Intraday.Reconciliation.Differ
import Intraday.Reconciliation.PositionDiff
import Intraday.Reconciliation.OrderDiff
import Intraday.Reconciliation.BlockRegistry
import Intraday.Reconciliation.Agent
import Intraday.Reconciliation.Restarts
import Intraday.Ingestion.Models
import Intraday.Ingestion.Validator
import Intraday.Ingestion.Aggregator
import Intraday.Ingestion.Buffer
import Intraday.Ingestion.Agent
import Intraday.Ingestion.Watchdog
import Intraday.Storage.SqliteBuffer
import Intraday.Universe.Repository
import Intraday.Auth.Models
import Intraday.Auth.IbkrPool
import Intraday.Auth.TokenStore
import Intraday.Auth.Kite
import Intraday.Orchestrator.WorkingMemory
import Intraday.Orchestrator.ShortTermMemory
import Intraday.Orchestrator.LongTermMemory
import Intraday.Lua.CircuitBreaker
import Intraday.Monitor.Polls
import Intraday.Monitor.PnlTracker
import Intraday.Lib.PyValue
import Intraday.Monitor.Agent
import Intraday.Lib.Raise
import Intraday.Lib.Rounding
import Intraday.Lib.FirstMax
import Intraday.Risk.Audit
import Intraday.Patterns.Models
import Intraday.Patterns.Engine
import Intraday.Signals.Models
import Intraday.Signals.Gates
import Intraday.Signals.Engine
import Intraday.Signals.Confidence
import Intraday.Signals.Totality
import Intraday.Signals.Confirmation
import Intraday.Signals.Mirror
import Intraday.Signals.Geometry
import Intraday.Backtesting.Models
import Intraday.Backtesting.PromotionGate
import Intraday.Backtesting.Repository
import Intraday.Sentiment.Models
import Intraday.Sentiment.Scorer
import Intraday.Sentiment.Cache
import Intraday.Sentiment.Agent
import Intraday.Risk.Correlation
import Intraday.Compliance.Mpp
import Intraday.Execution.PaperFills
import Intraday.Reconciliation.PriceDiff
import Intraday.Lib.Grouping
import Intraday.Lib.FloatOrder
import Intraday.Ingestion.GroupBy
import Intraday.Ingestion.FiveMinute
import Intraday.Ingestion.Replay
import Intraday.Lib.Increments
import Intraday.Ingestion.KiteWs
import Intraday.Lib.JsonIndent
import Intraday.Session.Holidays
import Intraday.Session.CacheShapes
import Intraday.Session.Coverage
import Intraday.Lib.Clock
import Intraday.Lib.Phases
import Intraday.Session.States
import Intraday.Session.SnapshotFlag
import Intraday.Instruments.Models
import Intraday.Lib.Regex
import Intraday.Lib.Traverse
import Intraday.Instruments.Adjustment
import Intraday.Instruments.ExDates
import Intraday.Instruments.NseSubjects
import Intraday.Instruments.ManualOverrides
import Intraday.Patterns.Orb
import Intraday.Patterns.SupportResistance
import Intraday.Patterns.Clustering
import Intraday.Lib.FloatCounter
import Intraday.Sentiment.CostTracker
import Intraday.Lib.OffsetTime
import Intraday.Indicators.Cache
import Intraday.Indicators.Vwap
import Intraday.Lib.Pages
import Intraday.Lib.Scatter
import Intraday.Lib.Upsert
import Intraday.Instruments.Refresh
import Intraday.Sentiment.Feeds
import Intraday.Lib.SlidingWindow
import Intraday.Alerts.Models
import Intraday.Alerts.Dispatcher
import Intraday.Alerts.CostAlert
import Intraday.Lib.Drawdown
import Intraday.Backtesting.Metrics
import Intraday.Backtesting.Trades
import Intraday.Backtesting.EmaCrossover
import Intraday.Lib.SortedSet
import Intraday.Backtesting.Engine
import Intraday.Backtesting.Leaks
import Intraday.Backtesting.Selection
import Intraday.Reporting.Metrics
import Intraday.Lib.Csv
import Intraday.Reporting.CsvExport
import Intraday.Reporting.HtmlReport
import Intraday.Orchestrator.Recovery
import Intraday.Lib.Transaction
import Intraday.Storage.Repositories
import Intraday.Lib.Rollup
import Intraday.Storage.Aggregates
import Intraday.Storage.Backfill
import Intraday.Lib.Custody
import Intraday.Ingestion.IbkrStream
import Intraday.Regime.Labels
import Intraday.Universe.TopN
import Intraday.Universe.Compliance
import Intraday.Sentiment.Parsing
import Intraday.Sentiment.Lookup
import Intraday.Sentiment.Replies
import Intraday.Sentiment.Simulation
import Intraday.Lib.Simulation
import Intraday.Api.Kill
import Intraday.Auth.Scheduler
import Intraday.Lib.DictReader
import Intraday.Lib.UpsertStatement
import Intraday.Instruments.Masters
import Intraday.Instruments.AdjustedSeries
import Intraday.Api.Reads
import Intraday.Ingestion.Fallback
import Intraday.Lib.Html
import Intraday.Orchestrator.Activation
