import SlaSettle.Effect.Program
import SlaSettle.Effect.Interleaving
import SlaSettle.Effect.Throwing
import SlaSettle.Effect.Yields
import SlaSettle.Store.Table
import SlaSettle.Store.LastWrite
import SlaSettle.Js.Number
import SlaSettle.Js.Value
import SlaSettle.Go.Time
import SlaSettle.Indexer.Db
import SlaSettle.Indexer.Decode
import SlaSettle.Indexer.Classify
import SlaSettle.Indexer.ContractEvent
import SlaSettle.Indexer.Holds
import SlaSettle.Indexer.Wire
import SlaSettle.Indexer.Rpc
import SlaSettle.Indexer.Ingest
import SlaSettle.Indexer.Run
import SlaSettle.Indexer.Exactness
import SlaSettle.Indexer.Resume
import SlaSettle.Indexer.Checkpoint
import SlaSettle.Indexer.Overlap
import SlaSettle.Indexer.Settlements
import SlaSettle.Indexer.Tally
import SlaSettle.Web.Wallet
import SlaSettle.Web.UseTransaction
import SlaSettle.Web.TransactionOutcome
import SlaSettle.Watcher.Endpoint
import SlaSettle.Watcher.Round
import SlaSettle.Watcher.ScVal
import SlaSettle.Watcher.Contract
import SlaSettle.Watcher.Reads
import SlaSettle.Watcher.Daemon
import SlaSettle.Watcher.Prompt
import SlaSettle.Watcher.Scene
import SlaSettle.Watcher.VoteIntegrity
import SlaSettle.Watcher.RoundCoverage
import SlaSettle.Js.Decimal
import SlaSettle.Indexer.Cursor
import SlaSettle.Web.IndexerClient
import SlaSettle.Indexer.LiveReads
import SlaSettle.Web.ServedSettlements
import SlaSettle.Indexer.Pagination
import SlaSettle.Indexer.Providers
import SlaSettle.Web.ExactNumbers
import SlaSettle.Web.SettlementHistory
import SlaSettle.Web.ProviderSlas
import SlaSettle.Web.RoundStatus
import SlaSettle.Web.StatusPage
import SlaSettle.Js.Utf16
import SlaSettle.Sdk.Hash
import SlaSettle.Text.Trim
import SlaSettle.Sdk.Commitment
import SlaSettle.Js.Strings
import SlaSettle.Web.Format
import SlaSettle.Sdk.SlaVault
import SlaSettle.Web.CreateSla
import SlaSettle.Sdk.EndpointRules
import SlaSettle.Indexer.WireFields
import SlaSettle.Indexer.Replay
import SlaSettle.Watcher.Submission
import SlaSettle.Watcher.Decoding
import SlaSettle.Indexer.OneRead
import SlaSettle.Indexer.QueryValidation
import SlaSettle.Web.AmountText
import SlaSettle.Watcher.Shutdown
import SlaSettle.Web.UsePolling
import SlaSettle.Go.Strconv
import SlaSettle.Watcher.Config
import SlaSettle.Watcher.ConfigLimits
import SlaSettle.Watcher.Backoff
import SlaSettle.Effect.Promises
import SlaSettle.Web.FetchProviderSlas
import SlaSettle.Web.SlaAccounting
import SlaSettle.Web.AwaitCreated
import SlaSettle.Js.Arithmetic
import SlaSettle.Js.Canonical
import SlaSettle.Js.Date
import SlaSettle.Indexer.LedgerInfo
import SlaSettle.Effect.Interpret
import SlaSettle.Effect.Laws
import SlaSettle.Effect.Bystanders
import SlaSettle.Effect.Relying
import SlaSettle.Indexer.Api
import SlaSettle.Indexer.Participation
import SlaSettle.Web.RoundReads
import SlaSettle.Indexer.WorkerFetch
import SlaSettle.Indexer.Traffic
import SlaSettle.Indexer.Thresholds
import SlaSettle.Indexer.EventClient
import SlaSettle.Indexer.RunForever
import SlaSettle.Indexer.Backlog
import SlaSettle.Effect.Turns
import SlaSettle.Web.WriteActions
