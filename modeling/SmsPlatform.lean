import SmsPlatform.Lib.Runs
import SmsPlatform.Lib.Rows
import SmsPlatform.Lib.Segments
import SmsPlatform.Lib.StateExcept
import SmsPlatform.Lib.Escrow
import SmsPlatform.Messages.Types
import SmsPlatform.Database
import SmsPlatform.Outbox.Outbox
import SmsPlatform.Wallet.Ledger
import SmsPlatform.Messages.StateMachine
import SmsPlatform.Messages.Submission
import SmsPlatform.Messages.Workflow
import SmsPlatform.Dlr.Processor
import SmsPlatform.Messages.GuardedWork
import SmsPlatform.Pipeline.Works
import SmsPlatform.Pipeline.World
import SmsPlatform.Pipeline.Steps
import SmsPlatform.Lib.Optimistic
import SmsPlatform.Messages.History
import SmsPlatform.Pipeline.Snapshots
import SmsPlatform.Pipeline.Billing
import SmsPlatform.Wallet.Interleaving
import SmsPlatform.Pipeline.StaleResults
import SmsPlatform.Pipeline.ReportOrder
import SmsPlatform.Pipeline.Events
import SmsPlatform.Pipeline.Orphans
import SmsPlatform.Pipeline.Submits
import SmsPlatform.Pipeline.Tokens
import SmsPlatform.Pipeline.Budget
import SmsPlatform.Lib.Binary64
import SmsPlatform.Lib.Decimal
import SmsPlatform.Wallet.JsNumbers
import SmsPlatform.Lib.Expiring
import SmsPlatform.Redis.CircuitBreaker
import SmsPlatform.Pipeline.RefusedDispatch
import SmsPlatform.Outbox.Relay
import SmsPlatform.Outbox.AtLeastOnce
import SmsPlatform.Outbox.Terminal
import SmsPlatform.Pipeline.Deduplication
import SmsPlatform.Pipeline.Intake
import SmsPlatform.Pipeline.Idempotency
import SmsPlatform.Pipeline.ClientIds
import SmsPlatform.Compliance.OptOuts
import SmsPlatform.SenderIds.SenderIds
import SmsPlatform.Messages.Preparation
import SmsPlatform.Compliance.Spelling
import SmsPlatform.Lib.Records
import SmsPlatform.Pipeline.Platform
import SmsPlatform.Pipeline.Routes
import SmsPlatform.Pipeline.Senders
import SmsPlatform.Lib.TokenBucket
import SmsPlatform.Redis.FailureCounting
import SmsPlatform.Redis.RateLimit
import SmsPlatform.Pipeline.Marks
import SmsPlatform.Pipeline.Reports
import SmsPlatform.Pipeline.Settlement
import SmsPlatform.Pipeline.Versions
import SmsPlatform.Campaigns.Campaigns
import SmsPlatform.Campaigns.Sessions
import SmsPlatform.Campaigns.Materialization
import SmsPlatform.Campaigns.Cancellation
import SmsPlatform.Campaigns.Ownership
import SmsPlatform.Auth.Guards
import SmsPlatform.Explorers.Explorers
import SmsPlatform.Explorers.Noninterference
import SmsPlatform.Explorers.MessageReads
import SmsPlatform.Redis.RetryAfter
import SmsPlatform.Redis.DailyQuota
import SmsPlatform.Redis.StaleClocks
import SmsPlatform.Redis.FailedProbes
import SmsPlatform.Lib.Numerals
import SmsPlatform.Templates.Templates
import SmsPlatform.Templates.References
import SmsPlatform.Connectors.SessionBound
import SmsPlatform.Auth.ApiKeys
import SmsPlatform.Auth.Rotation
import SmsPlatform.Auth.Suspension
import SmsPlatform.Fraud.Fraud
import SmsPlatform.Fraud.Velocity
import SmsPlatform.Dlr.Payload
import SmsPlatform.Pipeline.PoisonWebhooks
import SmsPlatform.Lib.Ranking
import SmsPlatform.Routing.Routing
import SmsPlatform.Lib.ReadThrough
import SmsPlatform.Routing.RuleCache
import SmsPlatform.Routing.Coverage
import SmsPlatform.Routing.Prices
import SmsPlatform.Dlr.Correlation
import SmsPlatform.Dlr.Spellings
import SmsPlatform.Messages.Parts
import SmsPlatform.Templates.ActiveVersions
import SmsPlatform.Lib.Scanning
import SmsPlatform.Templates.Rendering
import SmsPlatform.Contacts.Csv
import SmsPlatform.Contacts.Imports
import SmsPlatform.Campaigns.FirstRuns
import SmsPlatform.Fraud.Verdict
import SmsPlatform.Lib.Streaks
import SmsPlatform.Redis.Tripping
import SmsPlatform.Contacts.Accounting
import SmsPlatform.Contacts.Blanks
import SmsPlatform.Lib.Calendar
import SmsPlatform.Messages.Dates
import SmsPlatform.Lib.Paging
import SmsPlatform.Explorers.Paging
import SmsPlatform.Pipeline.Logs
import SmsPlatform.Pipeline.Timeline
import SmsPlatform.Lib.Separated
import SmsPlatform.Contacts.Download
import SmsPlatform.Contacts.RoundTrip
import SmsPlatform.Compliance.Normalisers
import SmsPlatform.Connectors.Slots
import SmsPlatform.Lib.Tokens
import SmsPlatform.Lib.Statements
import SmsPlatform.Lib.Updates
import SmsPlatform.Messages.Statements
import SmsPlatform.Messages.Updates
import SmsPlatform.Messages.Execution
import SmsPlatform.Auth.Sessions
import SmsPlatform.Auth.Confirmation
import SmsPlatform.Pipeline.Termination
import SmsPlatform.Connectors.Answers
import SmsPlatform.Pipeline.Acceptance
import SmsPlatform.Pipeline.Finality
import SmsPlatform.Contacts.Store
import SmsPlatform.Contacts.Changes
import SmsPlatform.Contacts.Isolation
import SmsPlatform.Contacts.Views
import SmsPlatform.Deployment.Migrations
import SmsPlatform.Redis.WarmStart
import SmsPlatform.Lib.SharedCache
import SmsPlatform.Fraud.RulesInForce
import SmsPlatform.Routing.RecentRules
import SmsPlatform.Pipeline.Throughput
