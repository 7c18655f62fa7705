import CallBook.Call.Record
import CallBook.Cli.Program
import CallBook.Dotenv.File
import CallBook.Execution.Engine
import CallBook.Http.Exchange
import CallBook.Import.Curl
import CallBook.Import.Har
import CallBook.Main
import CallBook.Proofs.Answers
import CallBook.Proofs.Call.NormalText
import CallBook.Proofs.Call.Record
import CallBook.Proofs.Cli.Changes
import CallBook.Proofs.Cli.ForcedImport
import CallBook.Proofs.Cli.Runs
import CallBook.Proofs.Cli.Saving
import CallBook.Proofs.Cli.Sections
import CallBook.Proofs.Cli.UnforcedImport
import CallBook.Proofs.Cli.Variables
import CallBook.Proofs.Dotenv.Assignments
import CallBook.Proofs.Execution.Agreement
import CallBook.Proofs.Execution.Engine
import CallBook.Proofs.Execution.Outbound
import CallBook.Proofs.Execution.Transport
import CallBook.Proofs.Grouping
import CallBook.Proofs.Http.FieldLines
import CallBook.Proofs.Http.Framing
import CallBook.Proofs.Http.HeaderLines
import CallBook.Proofs.Http.HeaderMap
import CallBook.Proofs.Http.ResponseHeaders
import CallBook.Proofs.Import.Address
import CallBook.Proofs.Import.Archive
import CallBook.Proofs.Import.Batch
import CallBook.Proofs.Import.CurlCommand
import CallBook.Proofs.Import.Entry
import CallBook.Proofs.Import.HeaderRules
import CallBook.Proofs.Import.Layout
import CallBook.Proofs.Import.LeastNumber
import CallBook.Proofs.Import.Listing
import CallBook.Proofs.Import.LooseScan
import CallBook.Proofs.Import.OneLine
import CallBook.Proofs.Import.Options
import CallBook.Proofs.Import.Payload
import CallBook.Proofs.Import.Payloads
import CallBook.Proofs.Import.Sayings
import CallBook.Proofs.Import.Title
import CallBook.Proofs.Json.Bounded
import CallBook.Proofs.Json.Integers
import CallBook.Proofs.Json.Members
import CallBook.Proofs.Json.Numerals
import CallBook.Proofs.Json.Objects
import CallBook.Proofs.Json.Records
import CallBook.Proofs.Json.Remainder
import CallBook.Proofs.Json.Skipping
import CallBook.Proofs.Json.Strings
import CallBook.Proofs.Json.Values
import CallBook.Proofs.OrderedMap
import CallBook.Proofs.Report.Echo
import CallBook.Proofs.Report.PrettyText
import CallBook.Proofs.Report.Printing
import CallBook.Proofs.Shell.Quoting
import CallBook.Proofs.Storage.Disk
import CallBook.Proofs.Storage.Path
import CallBook.Proofs.Storage.Refinement
import CallBook.Proofs.Template.Composition
import CallBook.Proofs.Template.Cut
import CallBook.Proofs.Template.Missing
import CallBook.Proofs.Terminal.Unstyled
import CallBook.Proofs.Text.Trimming
import CallBook.Proofs.Text.Utf8
import CallBook.Proofs.Url.Address
import CallBook.Proofs.Url.Parser
import CallBook.Proofs.Url.WebHost
import CallBook.Report.Shown
import CallBook.Storage.Disk
import CallBook.Template
import CallBook.Url.Parser
