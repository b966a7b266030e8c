import Meetings.Archive
import Meetings.Booking
import Meetings.Calendar
import Meetings.CommandLine.Command
import Meetings.CommandLine.Markup
import Meetings.CommandLine.Run
import Meetings.CommandLine.Table
import Meetings.Commitment
import Meetings.Config
import Meetings.Config.Fault
import Meetings.Config.File
import Meetings.Disk
import Meetings.Disk.Fault
import Meetings.Disk.Path
import Meetings.Failure
import Meetings.Fault
import Meetings.Hours
import Meetings.Json.Fault
import Meetings.Json.Printer
import Meetings.Json.Reader
import Meetings.Json.Shown
import Meetings.Json.Value
import Meetings.Lenient.Fault
import Meetings.Lenient.Integer
import Meetings.Lenient.Moment
import Meetings.Log
import Meetings.Main
import Meetings.Moment
import Meetings.Moment.Reading
import Meetings.Moment.Written
import Meetings.Number.Binary64
import Meetings.Number.Numeral
import Meetings.Number.Shortest
import Meetings.Office
import Meetings.Participant
import Meetings.PersonRef
import Meetings.Request.Mapping
import Meetings.Request.Meeting
import Meetings.Request.Registration
import Meetings.Service.People
import Meetings.Service.Pipeline
import Meetings.Service.Scheduling
import Meetings.Slot.Grid
import Meetings.Slot.Report
import Meetings.Slot.Search
import Meetings.Store
import Meetings.Store.Fault
import Meetings.Store.Record
import Meetings.Text.Base64
import Meetings.Text.Blank
import Meetings.Text.Capital
import Meetings.Text.DecimalDigit
import Meetings.Text.Digits
import Meetings.Text.Lines
import Meetings.Text.Printable
import Meetings.Text.Quoted
import Meetings.Text.Utf8
import Meetings.Text.Utf8.Blocks
import Meetings.Text.Width
import Meetings.TimeRange
import Meetings.Yaml
import Meetings.Yaml.Cursor
import Meetings.Yaml.Fault
import Meetings.Yaml.Node
import Meetings.Yaml.Number
import Meetings.Yaml.Scalar
import Meetings.Yaml.Tag
import Meetings.Yaml.Timestamp
import Meetings.Yaml.Token
import Meetings.Yaml.Token.Lexer
import Meetings.Yaml.Token.Property
import Meetings.Yaml.Value
import Meetings.Yaml.Value.OfNode
import Meetings.Yaml.Value.Shown
import Meetings.Proofs.Except
import Meetings.Proofs.Moment
import Meetings.Proofs.Commitment
import Meetings.Proofs.Slot.Exact
import Meetings.Proofs.Action
import Meetings.Proofs.Service.Effects
import Meetings.Proofs.Service.Lookup
import Meetings.Proofs.Json.Text
import Meetings.Proofs.Text.Digits
import Meetings.Proofs.Json.RoundTrip
import Meetings.Proofs.Json.Printed
import Meetings.Proofs.Calendar
import Meetings.Proofs.Moment.Reading
import Meetings.Proofs.Store.Valid
import Meetings.Proofs.Store.RoundTrip
import Meetings.Proofs.Disk.Rooted
import Meetings.Proofs.Archive
import Meetings.Proofs.Office.Operation
import Meetings.Proofs.Office.Perform
import Meetings.Proofs.Slot.Free
import Meetings.Proofs.Office.Growth
import Meetings.Proofs.Office.Session
import Meetings.Proofs.Office.NoDoubleBooking
import Meetings.Proofs.Store.Settled
import Meetings.Proofs.Office.Refinement
import Meetings.Proofs.Store.Sound
import Meetings.Proofs.Archive.Calls
import Meetings.Proofs.Archive.ReadBack
import Meetings.Proofs.Request.Meeting
import Meetings.Proofs.Store.People
import Meetings.Proofs.Office.Agreement
import Meetings.Proofs.Service.Steps
import Meetings.Proofs.Office.Interleaved
import Meetings.Proofs.Office.Runs
import Meetings.Proofs.Office.Views
import Meetings.Proofs.Office.History
import Meetings.Proofs.Archive.FailedSave
import Meetings.Proofs.Number.Binary64
import Meetings.Proofs.Json.Legible
import Meetings.Proofs.Archive.FileHeld
import Meetings.Proofs.Office.Apart
import Meetings.Proofs.Lenient.Offset
import Meetings.Proofs.Request.Rules
import Meetings.Proofs.Archive.Unforeseen
import Meetings.Proofs.CommandLine.Session
import Meetings.Proofs.CommandLine.Markup
import Meetings.Proofs.CommandLine.Effects
import Meetings.Proofs.CommandLine.Runs
import Meetings.Proofs.Hours
import Meetings.Proofs.Slot.Ending
import Meetings.Proofs.Slot.Answers
import Meetings.Proofs.Slot.Sequence
import Meetings.Proofs.Booking
import Meetings.Proofs.Lenient.Written
import Meetings.Proofs.Request.NormalForm
import Meetings.Proofs.Office.Registration
import Meetings.Proofs.Config
import Meetings.Proofs.CommandLine.UsualRequest
import Meetings.Proofs.Service.Listing
import Meetings.Proofs.Store.Short
import Meetings.Proofs.Office.Loaded
