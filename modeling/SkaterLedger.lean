import SkaterLedger.Backup
import SkaterLedger.Binary64.Basic
import SkaterLedger.Binary64.Decimal
import SkaterLedger.Binary64.Shortest
import SkaterLedger.Calendar.Date
import SkaterLedger.Calendar.Instant
import SkaterLedger.Calendar.Rfc3339
import SkaterLedger.Command.Arguments
import SkaterLedger.Command.Run
import SkaterLedger.Command.Workspace
import SkaterLedger.Config
import SkaterLedger.Contacts.Contact
import SkaterLedger.Contacts.Report
import SkaterLedger.Contacts.Similarity
import SkaterLedger.Csv.Reader
import SkaterLedger.Csv.Writer
import SkaterLedger.Digest
import SkaterLedger.Failure
import SkaterLedger.Json.Printer
import SkaterLedger.Json.Reading
import SkaterLedger.Json.Tree
import SkaterLedger.Json.Value
import SkaterLedger.Main
import SkaterLedger.Proofs.Backups.Checksum
import SkaterLedger.Proofs.Backups.Coverage
import SkaterLedger.Proofs.Backups.ReadBack
import SkaterLedger.Proofs.Backups.Restore
import SkaterLedger.Proofs.Binary64.Nearest
import SkaterLedger.Proofs.Binary64.Notation
import SkaterLedger.Proofs.Binary64.Numerals
import SkaterLedger.Proofs.Binary64.Rounding
import SkaterLedger.Proofs.Binary64.Shortest
import SkaterLedger.Proofs.Calendar.Days
import SkaterLedger.Proofs.Calendar.Notation
import SkaterLedger.Proofs.Calendar.Order
import SkaterLedger.Proofs.Calendar.Stored
import SkaterLedger.Proofs.Contacts.BestMatch
import SkaterLedger.Proofs.Contacts.Names
import SkaterLedger.Proofs.Contacts.Reports
import SkaterLedger.Proofs.Contacts.Tables
import SkaterLedger.Proofs.Csv.Bytes
import SkaterLedger.Proofs.Csv.Documents
import SkaterLedger.Proofs.Json.Layout
import SkaterLedger.Proofs.Json.Nesting
import SkaterLedger.Proofs.Json.Numerals
import SkaterLedger.Proofs.Json.Objects
import SkaterLedger.Proofs.Json.Scaling
import SkaterLedger.Proofs.Json.Strings
import SkaterLedger.Proofs.Json.Unambiguous
import SkaterLedger.Proofs.Json.Values
import SkaterLedger.Proofs.Outcome
import SkaterLedger.Proofs.Relations.Malformed
import SkaterLedger.Proofs.Relations.Plan
import SkaterLedger.Proofs.Relations.PlanFile
import SkaterLedger.Proofs.Relations.Ranking
import SkaterLedger.Proofs.Relations.Reasons
import SkaterLedger.Proofs.Relations.Reordering
import SkaterLedger.Proofs.Relations.Resumption
import SkaterLedger.Proofs.Relations.WellFormed
import SkaterLedger.Proofs.Requests.Blocks
import SkaterLedger.Proofs.Requests.Descriptions
import SkaterLedger.Proofs.Requests.EventLines
import SkaterLedger.Proofs.Requests.EventNumbers
import SkaterLedger.Proofs.Requests.Extracted
import SkaterLedger.Proofs.Requests.Kinds
import SkaterLedger.Proofs.Requests.Layout
import SkaterLedger.Proofs.Requests.Patterns
import SkaterLedger.Proofs.Requests.Prefixes
import SkaterLedger.Proofs.Requests.Purchases
import SkaterLedger.Proofs.Requests.Sheets
import SkaterLedger.Proofs.Requests.Statuses
import SkaterLedger.Proofs.Requests.Tidy
import SkaterLedger.Proofs.Store.Accounting
import SkaterLedger.Proofs.Store.Addresses
import SkaterLedger.Proofs.Store.Atomicity
import SkaterLedger.Proofs.Store.Balance
import SkaterLedger.Proofs.Store.Cleanup
import SkaterLedger.Proofs.Store.Coherence
import SkaterLedger.Proofs.Store.CoherentUse
import SkaterLedger.Proofs.Store.Columns
import SkaterLedger.Proofs.Store.Households
import SkaterLedger.Proofs.Store.Identity
import SkaterLedger.Proofs.Store.Ids
import SkaterLedger.Proofs.Store.Import
import SkaterLedger.Proofs.Store.ImportAccount
import SkaterLedger.Proofs.Store.Imported
import SkaterLedger.Proofs.Store.Integers
import SkaterLedger.Proofs.Store.Keys
import SkaterLedger.Proofs.Store.Labelled
import SkaterLedger.Proofs.Store.Links
import SkaterLedger.Proofs.Store.Namesakes
import SkaterLedger.Proofs.Store.Reading
import SkaterLedger.Proofs.Store.Reapplied
import SkaterLedger.Proofs.Store.Recorded
import SkaterLedger.Proofs.Store.Reimport
import SkaterLedger.Proofs.Store.ReportAccount
import SkaterLedger.Proofs.Store.Reported
import SkaterLedger.Proofs.Store.Separation
import SkaterLedger.Proofs.Store.Siblings
import SkaterLedger.Proofs.Store.StalePlans
import SkaterLedger.Proofs.Store.Tables
import SkaterLedger.Proofs.Store.Trail
import SkaterLedger.Proofs.Store.Transaction
import SkaterLedger.Proofs.Store.Upserts
import SkaterLedger.Proofs.Store.Usage
import SkaterLedger.Proofs.Text.Blanks
import SkaterLedger.Proofs.Text.ByteOrder
import SkaterLedger.Proofs.Text.Decimal
import SkaterLedger.Proofs.Text.Lowercase
import SkaterLedger.Proofs.Text.Records
import SkaterLedger.Proofs.Text.Search
import SkaterLedger.Proofs.Text.Splitting
import SkaterLedger.Proofs.Text.Utf8
import SkaterLedger.Relations.Plan
import SkaterLedger.Relations.PlanFile
import SkaterLedger.Relations.RecordId
import SkaterLedger.Relations.Relation
import SkaterLedger.Requests.Document
import SkaterLedger.Requests.Entry
import SkaterLedger.Requests.Line
import SkaterLedger.Requests.Listing
import SkaterLedger.Requests.Section
import SkaterLedger.Requests.Sheet
import SkaterLedger.Requests.Status
import SkaterLedger.Store.Audit
import SkaterLedger.Store.Basic
import SkaterLedger.Store.Cell
import SkaterLedger.Store.Cleanup
import SkaterLedger.Store.File
import SkaterLedger.Store.Households
import SkaterLedger.Store.Ids
import SkaterLedger.Store.Import
import SkaterLedger.Store.Location
import SkaterLedger.Store.Opened
import SkaterLedger.Store.Query
import SkaterLedger.Store.Rows
import SkaterLedger.Store.Transaction
import SkaterLedger.Text.Blank
import SkaterLedger.Text.Digit
import SkaterLedger.Text.Lowercase
import SkaterLedger.Text.Printable
import SkaterLedger.Text.Quoted
import SkaterLedger.Text.Ranges
import SkaterLedger.Text.Search
import SkaterLedger.Text.Uppercase
import SkaterLedger.Text.Utf8
import SkaterLedger.Toml.Document
import SkaterLedger.Toml.Scalar
import SkaterLedger.Toml.Text
import SkaterLedger.Toml.Value
import SkaterLedger.Uuid
