import ApiScore.Lib.Table
import ApiScore.Lib.Transaction
import ApiScore.Lib.Journal
import ApiScore.Lib.Program
import ApiScore.Lib.Replay
import ApiScore.Lib.Alone
import ApiScore.Lib.Beside
import ApiScore.Lib.Sorting
import ApiScore.Lib.Grouping
import ApiScore.Execution.Types
import ApiScore.Execution.Money
import ApiScore.Rules.Strategy
import ApiScore.Execution.OperatorPort
import ApiScore.Execution.Entities
import ApiScore.Execution.Ledger
import ApiScore.Execution.LedgerWrites
import ApiScore.Execution.LedgerHistory
import ApiScore.Execution.LedgerCheck
import ApiScore.Execution.LedgerBatch
import ApiScore.Execution.Control
import ApiScore.Execution.ModeLadder
import ApiScore.Execution.Risk
import ApiScore.Execution.Orders
import ApiScore.Execution.Moves
import ApiScore.Execution.Exposure
import ApiScore.Execution.Evolution
import ApiScore.Execution.Compare
import ApiScore.Execution.Calls
import ApiScore.Execution.Runs
import ApiScore.Execution.Guards
import ApiScore.Execution.CallSpecs
import ApiScore.Execution.RunSpecs
import ApiScore.Execution.Discipline
import ApiScore.Execution.Replay
import ApiScore.Execution.ReservedBalance
import ApiScore.Execution.StopBarrier
import ApiScore.Execution.SingleSubmission
import ApiScore.Execution.DecisionMoves
import ApiScore.Execution.DecisionAgreement
import ApiScore.Execution.Currency
import ApiScore.Execution.RunOpening
import ApiScore.Execution.RunOwnership
import ApiScore.Execution.LedgerEffects
import ApiScore.Execution.RiskSessions
import ApiScore.Execution.RiskCaps
import ApiScore.Execution.ReservePhases
import ApiScore.Execution.ReserveCommutes
import ApiScore.Execution.ReserveSteps
import ApiScore.Execution.Serialisable
import ApiScore.Simulation.Resolver
import ApiScore.Odds.Quotes
import ApiScore.Odds.Suspension
import ApiScore.Matches.Fixture
import ApiScore.Matches.Stability
import ApiScore.Matches.Json
import ApiScore.Ingestion.GoalEvents
import ApiScore.Rules.Stats
import ApiScore.Rules.Evaluator
import ApiScore.Rules.LiveSignals
import ApiScore.Rules.SignalShape
import ApiScore.Simulation.Plan
import ApiScore.Execution.PaperOperator
import ApiScore.Execution.SettlementAgreement
import ApiScore.Simulation.Tick
import ApiScore.Simulation.Ownership
import ApiScore.Backtest.CanonicalJson
import ApiScore.Backtest.Replay
import ApiScore.Backtest.RowOrder
import ApiScore.Backtest.ReplayRuns
import ApiScore.Simulation.NewDecisions
import ApiScore.Simulation.RunTick
import ApiScore.Odds.QuoteWindows
import ApiScore.Backtest.NoLookAhead
import ApiScore.Backtest.LiveAgreement
import ApiScore.Backtest.LookAhead
import ApiScore.Simulation.TickRows
import ApiScore.Simulation.OneDecision
import ApiScore.Simulation.Bankroll
import ApiScore.Lib.Statement
import ApiScore.Scheduling.SingleSync
import ApiScore.Recommendations.OneCoupon
import ApiScore.Ingestion.WholeSets
import ApiScore.Backtest.RunLifecycle
import ApiScore.Auth.Login
import ApiScore.Auth.RateLimit
import ApiScore.Auth.SessionSafety
import ApiScore.Execution.SettlementStages
import ApiScore.Lib.Amid
import ApiScore.Execution.SettlementRetries
import ApiScore.Execution.UnknownTruth
import ApiScore.Execution.AcceptanceFits
import ApiScore.Backtest.CompleteRules
import ApiScore.Backtest.Folds
import ApiScore.Backtest.GuardGaps
import ApiScore.Backtest.WindowAccounts
import ApiScore.Execution.AcceptedViews
import ApiScore.Execution.OrderListing
import ApiScore.Execution.ReceiptRedactor
import ApiScore.Odds.Partitions
import ApiScore.Rules.AbsentStats
import ApiScore.Simulation.Acquired
import ApiScore.Lib.Double
import ApiScore.Lib.Delimited
import ApiScore.Lib.Base64
import ApiScore.Execution.DecimalForms
import ApiScore.Execution.ProfitRange
import ApiScore.History.ImportWindows
import ApiScore.History.GoalHalves
import ApiScore.Backtest.JsonTexts
import ApiScore.Simulation.Replanning
import ApiScore.Simulation.TickTimes
import ApiScore.Simulation.JournalSummary
import ApiScore.Simulation.IsoDates
import ApiScore.Simulation.DecisionCursor
import ApiScore.Simulation.DecisionListing
import ApiScore.Lib.Register
import ApiScore.Execution.Sandbox
import ApiScore.Execution.SandboxRuns
import ApiScore.Execution.SandboxBalance
import ApiScore.Execution.SandboxAgreement
import ApiScore.Lib.Embedding
import ApiScore.Scheduling.ReconciliationTick
import ApiScore.Scheduling.OneReconciler
import ApiScore.Execution.CleanRuns
import ApiScore.Execution.Alarms
import ApiScore.Analytics.BaseRates
import ApiScore.Analytics.RateTable
import ApiScore.Analytics.RateLookup
import ApiScore.Execution.PaperBook
import ApiScore.Execution.PaperReports
import ApiScore.Odds.Ingestion
import ApiScore.Odds.LatestOffer
import ApiScore.Odds.Ingestion
import ApiScore.Odds.LatestOffer
