import ChatLedger.Arguments.Reading
import ChatLedger.Arguments.Shape
import ChatLedger.Arguments.Usage
import ChatLedger.Article
import ChatLedger.Bounds
import ChatLedger.Command.Basic
import ChatLedger.Command.Grammar
import ChatLedger.Command.Perform
import ChatLedger.Command.Report
import ChatLedger.DataDirectory
import ChatLedger.Decimal.CompensatedSum
import ChatLedger.Decimal.Layout
import ChatLedger.Decimal.Reading
import ChatLedger.Decimal.Shortest
import ChatLedger.Diagnostics
import ChatLedger.Error
import ChatLedger.Json.Printer
import ChatLedger.Json.Reader
import ChatLedger.Json.Value
import ChatLedger.Json.Wire
import ChatLedger.Main
import ChatLedger.Membership
import ChatLedger.Message
import ChatLedger.Ownership
import ChatLedger.Paging
import ChatLedger.Proofs.Chat.Acceptance
import ChatLedger.Proofs.Chat.Apart
import ChatLedger.Proofs.Chat.Calls
import ChatLedger.Proofs.Chat.Deletion
import ChatLedger.Proofs.Chat.FreshAnswers
import ChatLedger.Proofs.Chat.Guarded
import ChatLedger.Proofs.Chat.Isolation
import ChatLedger.Proofs.Chat.KeptAnswers
import ChatLedger.Proofs.Chat.Lookups
import ChatLedger.Proofs.Chat.MessageUpdates
import ChatLedger.Proofs.Chat.Precedence
import ChatLedger.Proofs.Chat.RollupExactness
import ChatLedger.Proofs.Chat.Rows
import ChatLedger.Proofs.Chat.Shares
import ChatLedger.Proofs.Chat.SoftRefresh
import ChatLedger.Proofs.Chat.Views
import ChatLedger.Proofs.Chat.Within
import ChatLedger.Proofs.Command.OutputMode
import ChatLedger.Proofs.DatabaseName
import ChatLedger.Proofs.Documents.NormalForm
import ChatLedger.Proofs.Documents.Numbers
import ChatLedger.Proofs.Documents.Settling
import ChatLedger.Proofs.Membership.Agreement
import ChatLedger.Proofs.Membership.Calls
import ChatLedger.Proofs.Membership.Conflicts
import ChatLedger.Proofs.Membership.Effective
import ChatLedger.Proofs.Membership.KeptAnswers
import ChatLedger.Proofs.Membership.Links
import ChatLedger.Proofs.Membership.LostAttempts
import ChatLedger.Proofs.Membership.Overtaken
import ChatLedger.Proofs.Membership.Race
import ChatLedger.Proofs.Membership.RacingSubscribers
import ChatLedger.Proofs.Membership.Reachable
import ChatLedger.Proofs.Membership.Reference
import ChatLedger.Proofs.Membership.Refinement
import ChatLedger.Proofs.Membership.ReportedOnce
import ChatLedger.Proofs.Membership.Roster
import ChatLedger.Proofs.Membership.RosterStore
import ChatLedger.Proofs.Membership.Rows
import ChatLedger.Proofs.Paging
import ChatLedger.Proofs.Reading.Calendar
import ChatLedger.Proofs.Reading.ExactNumbers
import ChatLedger.Proofs.Reading.FiniteNumbers
import ChatLedger.Proofs.Reading.Identifiers
import ChatLedger.Proofs.Reading.Order
import ChatLedger.Proofs.Reading.Patterns
import ChatLedger.Proofs.Reading.StoredTimes
import ChatLedger.Proofs.Reading.Times
import ChatLedger.Proofs.Reading.WireTimes
import ChatLedger.Proofs.Reading.Words
import ChatLedger.Proofs.Service.Accepted
import ChatLedger.Proofs.Service.BulkDeletion
import ChatLedger.Proofs.Service.Calls
import ChatLedger.Proofs.Service.Coherence
import ChatLedger.Proofs.Service.DifferingRollups
import ChatLedger.Proofs.Service.DisjointUpdates
import ChatLedger.Proofs.Service.FailedCalls
import ChatLedger.Proofs.Service.KeptAnswers
import ChatLedger.Proofs.Service.Listings
import ChatLedger.Proofs.Service.LostRaces
import ChatLedger.Proofs.Service.MessageRows
import ChatLedger.Proofs.Service.MissedRefreshes
import ChatLedger.Proofs.Service.Readable
import ChatLedger.Proofs.Service.Searches
import ChatLedger.Proofs.Service.SoftDeletion
import ChatLedger.Proofs.Service.Statistics
import ChatLedger.Proofs.Service.TextLimits
import ChatLedger.Proofs.Service.Timely
import ChatLedger.Proofs.Store.Alone
import ChatLedger.Proofs.Store.AmountOrder
import ChatLedger.Proofs.Store.Amounts
import ChatLedger.Proofs.Store.Changes
import ChatLedger.Proofs.Store.Columns
import ChatLedger.Proofs.Store.DeletedRecords
import ChatLedger.Proofs.Store.Figures
import ChatLedger.Proofs.Store.Finality
import ChatLedger.Proofs.Store.Interleaving
import ChatLedger.Proofs.Store.Legible
import ChatLedger.Proofs.Store.Paths
import ChatLedger.Proofs.Store.Persistence
import ChatLedger.Proofs.Store.ReadBack
import ChatLedger.Proofs.Store.ReferenceLists
import ChatLedger.Proofs.Store.Rivals
import ChatLedger.Proofs.Store.Sums
import ChatLedger.Proofs.Store.Turns
import ChatLedger.Proofs.Validation
import ChatLedger.Rollup
import ChatLedger.Service.Articles
import ChatLedger.Service.Memberships
import ChatLedger.Service.Messages
import ChatLedger.Service.Operation
import ChatLedger.Service.Sessions
import ChatLedger.Session
import ChatLedger.Settings
import ChatLedger.SettingsFile
import ChatLedger.Statistics
import ChatLedger.Store.Chat
import ChatLedger.Store.Database
import ChatLedger.Store.Document
import ChatLedger.Store.Figures
import ChatLedger.Store.Interference
import ChatLedger.Store.Program
import ChatLedger.Store.Request
import ChatLedger.Store.Rows
import ChatLedger.Store.Subscriptions
import ChatLedger.Store.Tables
import ChatLedger.Subscription
import ChatLedger.Terminal.Table
import ChatLedger.Text.Blank
import ChatLedger.Text.ColumnRanges
import ChatLedger.Text.Columns
import ChatLedger.Text.Emoji
import ChatLedger.Text.EmojiRanges
import ChatLedger.Text.LetterCase
import ChatLedger.Text.Ligature
import ChatLedger.Text.Like
import ChatLedger.Text.Lowercase
import ChatLedger.Time.Calendar
import ChatLedger.Time.Instant
import ChatLedger.Time.Reading
import ChatLedger.Time.Shown
import ChatLedger.Time.Text
import ChatLedger.Toml.Document
import ChatLedger.Toml.Line
import ChatLedger.Toml.Printer
import ChatLedger.Toml.Scalar
import ChatLedger.User
import ChatLedger.Uuid
import ChatLedger.Validation
import ChatLedger.Vocabulary
