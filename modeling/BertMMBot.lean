import BertMMBot.AsyncFibers
import BertMMBot.DepositorStore
import BertMMBot.Encryption
import BertMMBot.VaultRuntime
import BertMMBot.ExecutorRefinement
import BertMMBot.PipelineRefinement
import BertMMBot.ShareConservation
import BertMMBot.ShareSolvency
import BertMMBot.PaymentSafety
import BertMMBot.OracleGate
import BertMMBot.DrainSemantics
import BertMMBot.DrainTotality
import BertMMBot.PayoutFairness
import BertMMBot.AsyncRecords
import BertMMBot.RecordedTriples
import BertMMBot.VaultJournal
import BertMMBot.JournalMachine
import BertMMBot.JournalTriples
import BertMMBot.JournalStore
import BertMMBot.ChatSessions
import BertMMBot.ChatJournal
import BertMMBot.DispatchJournal
import BertMMBot.MainJournal
import BertMMBot.JournalLaws
import BertMMBot.PlayedJournals
import BertMMBot.DestinationSafety
import BertMMBot.TotpGating
import BertMMBot.ConfirmedWithdrawals
import BertMMBot.WithdrawalCaps
import BertMMBot.SweptDeposits
import BertMMBot.PollCompleteness
import BertMMBot.AsyncWiring
import BertMMBot.RecordedOutcomes
import BertMMBot.LoopBounds
import BertMMBot.Strategy
import BertMMBot.ConfigFile
import BertMMBot.BotProgram
import BertMMBot.Rebalancer
import BertMMBot.MainLoop
import BertMMBot.MakerBounds
import BertMMBot.TrackedPosition
import BertMMBot.PlayedBot
import BertMMBot.TrackedRuns
import BertMMBot.BotRuns
import BertMMBot.DegradedGate
import BertMMBot.RebalanceLimits
import BertMMBot.PauseSwitch
import BertMMBot.TxSubmission
import BertMMBot.DryRun
import BertMMBot.CancelledChanges
import BertMMBot.NavAgreement
import BertMMBot.MarkToMarket
import BertMMBot.AtomicWrites
import BertMMBot.AuditFidelity
import BertMMBot.TelegramPolling
import BertMMBot.BruteForceBound
import BertMMBot.TotpReplay
import BertMMBot.StrandedDeposits
import BertMMBot.OracleStaleness
import BertMMBot.DrawdownBreaker
import BertMMBot.AsyncParts
import BertMMBot.DepositorParts
import BertMMBot.TenantIsolation
import BertMMBot.CredentialKeeping
import BertMMBot.PrefixCover
import BertMMBot.MeteoraClient
import BertMMBot.PartialClose
import BertMMBot.MirroredPool
import BertMMBot.PriceGrid
import BertMMBot.OpenedRange
import BertMMBot.RaydiumClient
import BertMMBot.SwapToRatio
import BertMMBot.DustSweeps
import BertMMBot.OracleCorroboration
import BertMMBot.AnsweredCalls
import BertMMBot.PositionSizing
import BertMMBot.SustainedMoves
import BertMMBot.RangeUnits
import BertMMBot.SnapshotConsistency
import BertMMBot.SnapshotMachine
import BertMMBot.SnapshotJobs
import BertMMBot.DepositPricing
import BertMMBot.LatestSnapshot
import BertMMBot.FrozenDrain
import BertMMBot.PayoutSplit
import BertMMBot.SubmissionLandings
import BertMMBot.SplitBounds
import BertMMBot.AlertDedup
import BertMMBot.Reconciliation
import BertMMBot.WiredOutcomes
import BertMMBot.OperatorCli
import BertMMBot.CliBounds
import BertMMBot.CliRuns
import BertMMBot.RestartLockout
import BertMMBot.PriceSources
import BertMMBot.OracleOutage
import BertMMBot.DailyCap
import BertMMBot.SlowPolling
import BertMMBot.RestingRange
import BertMMBot.RaydiumPositions
import BertMMBot.GuardedCalls
import BertMMBot.ReserveFloor
import BertMMBot.KeptInvariants
import BertMMBot.KeyCustody
import BertMMBot.PayoutOrder
import BertMMBot.ConfigSchema
import BertMMBot.KeptSettings
