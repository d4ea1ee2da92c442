import BankingBackend.Accounts.Service
import BankingBackend.Auth.Calls
import BankingBackend.Auth.Commits
import BankingBackend.Auth.Effects
import BankingBackend.Auth.Events
import BankingBackend.Auth.Execution
import BankingBackend.Auth.Interleaving
import BankingBackend.Auth.Log
import BankingBackend.Auth.LoginRateLimit
import BankingBackend.Auth.Progress
import BankingBackend.Auth.Queries
import BankingBackend.Auth.Replay
import BankingBackend.Auth.Requests
import BankingBackend.Auth.Schema
import BankingBackend.Auth.Server
import BankingBackend.Auth.Service
import BankingBackend.Auth.System
import BankingBackend.Auth.Tracking
import BankingBackend.Calls.AccountHistory
import BankingBackend.Calls.Accounts
import BankingBackend.Calls.AuditTrail
import BankingBackend.Calls.Bodies
import BankingBackend.Calls.Bookkeeping
import BankingBackend.Calls.Commands
import BankingBackend.Calls.Conflicts
import BankingBackend.Calls.DailyCounters
import BankingBackend.Calls.DailyLimit
import BankingBackend.Calls.Events
import BankingBackend.Calls.Fraud
import BankingBackend.Calls.Interleaving
import BankingBackend.Calls.Invariant
import BankingBackend.Calls.Journal
import BankingBackend.Calls.Journaling
import BankingBackend.Calls.Lifecycle
import BankingBackend.Calls.LockOrder
import BankingBackend.Calls.Openings
import BankingBackend.Calls.Statements
import BankingBackend.Calls.Transactions
import BankingBackend.Calls.Working
import BankingBackend.Common.Service
import BankingBackend.Foundation.DoubleEntry
import BankingBackend.Foundation.Embedding
import BankingBackend.Foundation.Execution
import BankingBackend.Foundation.Expiry
import BankingBackend.Foundation.FixedWindow
import BankingBackend.Foundation.Json
import BankingBackend.Foundation.Lease
import BankingBackend.Foundation.Matching
import BankingBackend.Foundation.Monitor
import BankingBackend.Foundation.Program
import BankingBackend.Foundation.ReadCommitted
import BankingBackend.Foundation.RelyGuarantee
import BankingBackend.Foundation.Reservation
import BankingBackend.Foundation.Restriction
import BankingBackend.Foundation.Rounding
import BankingBackend.Foundation.Significant
import BankingBackend.Foundation.Text
import BankingBackend.Foundation.Transition
import BankingBackend.Foundation.Translation
import BankingBackend.Foundation.WaitFor
import BankingBackend.Fraud.Rules
import BankingBackend.Http.Address
import BankingBackend.Http.ClientContext
import BankingBackend.Http.Gateway
import BankingBackend.Http.GlobalRateLimit
import BankingBackend.Http.Grip
import BankingBackend.Http.Grips
import BankingBackend.Http.RateLimits
import BankingBackend.Http.Site
import BankingBackend.Http.Turn
import BankingBackend.Ledger.Ledger
import BankingBackend.Ledger.Refinement
import BankingBackend.Messaging.Answers
import BankingBackend.Messaging.Broker
import BankingBackend.Messaging.Consumer
import BankingBackend.Messaging.Custody
import BankingBackend.Messaging.Deliveries
import BankingBackend.Messaging.Dispatch
import BankingBackend.Messaging.Encoding
import BankingBackend.Messaging.Errors
import BankingBackend.Messaging.Handling
import BankingBackend.Messaging.Outputs
import BankingBackend.Messaging.Payload
import BankingBackend.Messaging.Placement
import BankingBackend.Messaging.Provenance
import BankingBackend.Messaging.Recording
import BankingBackend.Messaging.Registrations
import BankingBackend.Messaging.Server
import BankingBackend.Outbox.Events
import BankingBackend.Outbox.Interleaving
import BankingBackend.Outbox.Live
import BankingBackend.Outbox.Protocol
import BankingBackend.Outbox.Publications
import BankingBackend.Outbox.Service
import BankingBackend.Outbox.Worker
import BankingBackend.Platform.Letters
import BankingBackend.Platform.Links
import BankingBackend.Platform.System
import BankingBackend.Postgres.Frame
import BankingBackend.Postgres.Locking
import BankingBackend.Postgres.Schema
import BankingBackend.Postgres.Server
import BankingBackend.Postgres.Statement
import BankingBackend.Postgres.Uuid
import BankingBackend.Properties.AccountLifecycle
import BankingBackend.Properties.AccountLocks
import BankingBackend.Properties.AuditTrail
import BankingBackend.Properties.Authorization
import BankingBackend.Properties.Balances
import BankingBackend.Properties.BatchIsolation
import BankingBackend.Properties.Completion
import BankingBackend.Properties.Conservation
import BankingBackend.Properties.Correspondence
import BankingBackend.Properties.Custody
import BankingBackend.Properties.DailyLimit
import BankingBackend.Properties.DailyTotals
import BankingBackend.Properties.DeadlockFreedom
import BankingBackend.Properties.Dispositions
import BankingBackend.Properties.Drain
import BankingBackend.Properties.ErrorWrapping
import BankingBackend.Properties.EventAgreement
import BankingBackend.Properties.ExactlyOnce
import BankingBackend.Properties.ExclusiveClaims
import BankingBackend.Properties.FailedCalls
import BankingBackend.Properties.IpMasking
import BankingBackend.Properties.KeyOwners
import BankingBackend.Properties.KeyReturn
import BankingBackend.Properties.LockFallback
import BankingBackend.Properties.LockFencing
import BankingBackend.Properties.LoginFailures
import BankingBackend.Properties.MoneyColumns
import BankingBackend.Properties.OneSession
import BankingBackend.Properties.Pipeline
import BankingBackend.Properties.ProfileUpdates
import BankingBackend.Properties.Quotes
import BankingBackend.Properties.RateLimits
import BankingBackend.Properties.RegistrationEvents
import BankingBackend.Properties.Rejections
import BankingBackend.Properties.ReleaseReserve
import BankingBackend.Properties.Replays
import BankingBackend.Properties.Retries
import BankingBackend.Properties.RetryBounds
import BankingBackend.Properties.RowProtocol
import BankingBackend.Properties.SameRequest
import BankingBackend.Properties.SessionsEnd
import BankingBackend.Properties.SingleEffect
import BankingBackend.Properties.SinglePublish
import BankingBackend.Properties.StatusGate
import BankingBackend.Properties.Stranding
import BankingBackend.Properties.Successes
import BankingBackend.Properties.TokenChains
import BankingBackend.Properties.TransferExclusion
import BankingBackend.Properties.WorkerPasses
import BankingBackend.Redis.Keys
import BankingBackend.Redis.Reservations
import BankingBackend.Redis.Scripts
import BankingBackend.System
import BankingBackend.Transactions.Collaborators
import BankingBackend.Transactions.Controller
import BankingBackend.Transactions.Dto
import BankingBackend.Transactions.Guard
import BankingBackend.Transactions.Service
import BankingBackend.Transactions.TransferRateLimit
import BankingBackend.Users.Service
