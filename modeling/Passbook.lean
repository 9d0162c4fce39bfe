import Passbook.Account
import Passbook.Assign
import Passbook.Call.Context
import Passbook.Call.Posting
import Passbook.Call.PostingError
import Passbook.Call.Query
import Passbook.Call.Turn
import Passbook.Call.Waiting
import Passbook.Call.World
import Passbook.Config.Database
import Passbook.Config.EnvFile
import Passbook.Config.Service
import Passbook.Config.Settings
import Passbook.Database.Address
import Passbook.Database.Domain
import Passbook.Database.Failure
import Passbook.Database.Host
import Passbook.Database.Pool
import Passbook.Database.Rehearsal
import Passbook.Database.Row
import Passbook.Database.Statement
import Passbook.Database.Store
import Passbook.Database.Url
import Passbook.Deadline
import Passbook.Decimal.Arithmetic
import Passbook.Decimal.Basic
import Passbook.Decimal.Binary
import Passbook.Decimal.Reading
import Passbook.Decimal.Text
import Passbook.Entry
import Passbook.Error
import Passbook.Http.Body
import Passbook.Http.Exchange
import Passbook.Http.Failure
import Passbook.Http.MediaType
import Passbook.Http.Request
import Passbook.Http.Response
import Passbook.Http.Target
import Passbook.Id
import Passbook.Json.Fault
import Passbook.Json.Ledger
import Passbook.Json.Number
import Passbook.Json.Record
import Passbook.Json.Source
import Passbook.Json.Value
import Passbook.Json.Writer
import Passbook.Log.Event
import Passbook.Log.Setup
import Passbook.Memory.Basic
import Passbook.Memory.Store
import Passbook.Migration
import Passbook.Money
import Passbook.Outcome
import Passbook.Posting
import Passbook.Power
import Passbook.Proofs.Calls.Bounds
import Passbook.Proofs.Calls.Discipline
import Passbook.Proofs.Calls.Polling
import Passbook.Proofs.Calls.Reach
import Passbook.Proofs.Calls.RollbackTrouble
import Passbook.Proofs.Calls.Story
import Passbook.Proofs.Calls.Veiled
import Passbook.Proofs.Calls.Waiting
import Passbook.Proofs.Config.Address
import Passbook.Proofs.Config.Assembled
import Passbook.Proofs.Config.Redaction
import Passbook.Proofs.Database.Column
import Passbook.Proofs.Database.Rows
import Passbook.Proofs.Database.WaitBound
import Passbook.Proofs.Decimal.Close
import Passbook.Proofs.Decimal.Exact
import Passbook.Proofs.Decimal.Judgement
import Passbook.Proofs.Decimal.Nearest
import Passbook.Proofs.Decimal.Normal
import Passbook.Proofs.Decimal.PlainReading
import Passbook.Proofs.Decimal.Positional
import Passbook.Proofs.Decimal.Shortest
import Passbook.Proofs.Decimal.Sums
import Passbook.Proofs.Decimal.Text
import Passbook.Proofs.Decimal.Totals
import Passbook.Proofs.Decimal.Units
import Passbook.Proofs.Http.Amounts
import Passbook.Proofs.Http.Effects
import Passbook.Proofs.Http.Secrecy
import Passbook.Proofs.Http.Service
import Passbook.Proofs.Http.Statuses
import Passbook.Proofs.Http.TextAmounts
import Passbook.Proofs.Json.Ledger
import Passbook.Proofs.Json.Numeral
import Passbook.Proofs.Json.Real
import Passbook.Proofs.Json.Scalar
import Passbook.Proofs.Json.Writer
import Passbook.Proofs.Ledger.Canonical
import Passbook.Proofs.Ledger.Chain
import Passbook.Proofs.Ledger.Reckoning
import Passbook.Proofs.Memory.Change
import Passbook.Proofs.Memory.Footing
import Passbook.Proofs.Memory.Integrity
import Passbook.Proofs.Memory.Mirror
import Passbook.Proofs.Memory.MirrorCalls
import Passbook.Proofs.Memory.MirrorChange
import Passbook.Proofs.Memory.Numbering
import Passbook.Proofs.Memory.Outcome
import Passbook.Proofs.Memory.Published
import Passbook.Proofs.Memory.Refusals
import Passbook.Proofs.Memory.Rows
import Passbook.Proofs.Memory.Standing
import Passbook.Proofs.Memory.View
import Passbook.Proofs.Shared.Accounting
import Passbook.Proofs.Shared.AppendOnly
import Passbook.Proofs.Shared.Ascending
import Passbook.Proofs.Shared.CallMove
import Passbook.Proofs.Shared.Commitment
import Passbook.Proofs.Shared.Coverage
import Passbook.Proofs.Shared.Creation
import Passbook.Proofs.Shared.Deadlock
import Passbook.Proofs.Shared.Drafts
import Passbook.Proofs.Shared.Draws
import Passbook.Proofs.Shared.ExactlyOnce
import Passbook.Proofs.Shared.Fate
import Passbook.Proofs.Shared.Grants
import Passbook.Proofs.Shared.HistoryOrder
import Passbook.Proofs.Shared.Independence
import Passbook.Proofs.Shared.Inquiries
import Passbook.Proofs.Shared.Integrity
import Passbook.Proofs.Shared.Interruption
import Passbook.Proofs.Shared.Invariant
import Passbook.Proofs.Shared.Issued
import Passbook.Proofs.Shared.Judgement
import Passbook.Proofs.Shared.Linearizable
import Passbook.Proofs.Shared.Mild
import Passbook.Proofs.Shared.MirrorSteps
import Passbook.Proofs.Shared.Moment
import Passbook.Proofs.Shared.Ownership
import Passbook.Proofs.Shared.PhantomRows
import Passbook.Proofs.Shared.Plain
import Passbook.Proofs.Shared.PostingFits
import Passbook.Proofs.Shared.PostingMove
import Passbook.Proofs.Shared.Publication
import Passbook.Proofs.Shared.Reconciled
import Passbook.Proofs.Shared.Replay
import Passbook.Proofs.Shared.Retirement
import Passbook.Proofs.Shared.RowLocks
import Passbook.Proofs.Shared.Single
import Passbook.Proofs.Shared.Standing
import Passbook.Proofs.Shared.State
import Passbook.Proofs.Shared.Statements
import Passbook.Proofs.Shared.Trial
import Passbook.Proofs.Shared.Verdicts
import Passbook.Proofs.Text.Digits
import Passbook.Proofs.Text.Percent
import Passbook.Proofs.Text.Split
import Passbook.Proofs.Time.Calendar
import Passbook.Proofs.Time.Text
import Passbook.Rounding
import Passbook.Session.Command
import Passbook.Session.Run
import Passbook.Session.State
import Passbook.Store.Error
import Passbook.Store.Interface
import Passbook.Store.Rigged
import Passbook.Store.Wish
import Passbook.Text.Alphanumeric
import Passbook.Text.Blank
import Passbook.Text.Composition
import Passbook.Text.Direction
import Passbook.Text.Folding
import Passbook.Text.Hidden
import Passbook.Text.Integer
import Passbook.Text.Joining
import Passbook.Text.Mark
import Passbook.Text.Percent
import Passbook.Text.Punycode
import Passbook.Text.Quoted
import Passbook.Text.Ranges
import Passbook.Text.Split
import Passbook.Text.Unprintable
import Passbook.Text.Utf8
import Passbook.Time.Calendar
import Passbook.Time.Text
import Passbook.Time.Timestamp
import Passbook.Proofs.Calls.Interruptions
