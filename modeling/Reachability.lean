import Reachability.Cli.Arguments
import Reachability.Cli.Failure
import Reachability.Cli.Logging
import Reachability.Cli.Request
import Reachability.Cli.Run
import Reachability.Config.Basic
import Reachability.Config.Document
import Reachability.Config.File
import Reachability.Connect.Probe
import Reachability.Document.Basic
import Reachability.Document.Json.Printer
import Reachability.Document.Json.Reader
import Reachability.Document.Toml.Printer
import Reachability.Document.Toml.Reader
import Reachability.Document.Toml.Scalar
import Reachability.Document.Toml.Tree
import Reachability.Document.Word
import Reachability.Document.Yaml.Place
import Reachability.Document.Yaml.Printer
import Reachability.Document.Yaml.Reader
import Reachability.Document.Yaml.Scalar
import Reachability.Document.Yaml.Tag
import Reachability.Domain.CodePointTable
import Reachability.Domain.Composition
import Reachability.Domain.Direction
import Reachability.Domain.Joining
import Reachability.Domain.Mapping
import Reachability.Domain.Name
import Reachability.Domain.Punycode
import Reachability.Download.Document
import Reachability.Download.Probe
import Reachability.Download.Result
import Reachability.Download.Trail
import Reachability.Download.Transfer
import Reachability.Error
import Reachability.Fault
import Reachability.File.Directory
import Reachability.File.MediaType
import Reachability.File.Name
import Reachability.File.Path
import Reachability.File.Tree
import Reachability.Http.Message
import Reachability.Http.Peer
import Reachability.Http.Redirect
import Reachability.Main
import Reachability.Monitor.Basic
import Reachability.Net.Address
import Reachability.Number.Binary64
import Reachability.Number.Decimal
import Reachability.Ping.Command
import Reachability.Ping.Document
import Reachability.Ping.Probe
import Reachability.Ping.Reply
import Reachability.Ping.Statistics
import Reachability.Probe.Attempts
import Reachability.Probe.Document
import Reachability.Probe.Error
import Reachability.Probe.Execution
import Reachability.Probe.Outcome
import Reachability.Probe.Report
import Reachability.Process.Basic
import Reachability.Process.Program
import Reachability.Process.Shell.Arithmetic
import Reachability.Process.Shell.Expansion
import Reachability.Process.Shell.Reader
import Reachability.Process.Shell.Run
import Reachability.Process.Shell.Script
import Reachability.Process.Shell.Session
import Reachability.Process.Shell.Token
import Reachability.Process.System
import Reachability.Proofs.Cli.BriefTask
import Reachability.Proofs.Config.Document
import Reachability.Proofs.Config.Partial
import Reachability.Proofs.Config.Rules
import Reachability.Proofs.Config.Saving
import Reachability.Proofs.Config.Toml
import Reachability.Proofs.Connect.Course
import Reachability.Proofs.Document.Json.Grammar
import Reachability.Proofs.Document.Json.Numeral
import Reachability.Proofs.Document.Json.Printed
import Reachability.Proofs.Document.Json.Quoted
import Reachability.Proofs.Document.Record
import Reachability.Proofs.Document.Toml.Line
import Reachability.Proofs.Document.Toml.Printed
import Reachability.Proofs.Document.Toml.Scalar
import Reachability.Proofs.Document.Toml.Text
import Reachability.Proofs.Document.Toml.Tree
import Reachability.Proofs.Document.Toml.Value
import Reachability.Proofs.Download.Alone
import Reachability.Proofs.Download.Cancellation
import Reachability.Proofs.Download.Consistency
import Reachability.Proofs.Download.Copying
import Reachability.Proofs.Download.Deposit
import Reachability.Proofs.Download.Explanation
import Reachability.Proofs.Download.LastRequest
import Reachability.Proofs.Download.Party
import Reachability.Proofs.Download.Promptness
import Reachability.Proofs.Download.Remains
import Reachability.Proofs.Download.Run
import Reachability.Proofs.Download.Trail
import Reachability.Proofs.File.Change
import Reachability.Proofs.File.Content
import Reachability.Proofs.File.Directory
import Reachability.Proofs.File.Disposition
import Reachability.Proofs.File.FreeName
import Reachability.Proofs.File.Path
import Reachability.Proofs.File.SafeName
import Reachability.Proofs.File.Tree
import Reachability.Proofs.File.Walk
import Reachability.Proofs.Net.Address
import Reachability.Proofs.Number.Digits
import Reachability.Proofs.Number.Range
import Reachability.Proofs.Ping.Course
import Reachability.Proofs.Ping.LetterCase
import Reachability.Proofs.Ping.Likeness
import Reachability.Proofs.Ping.Lines
import Reachability.Proofs.Ping.Numbers
import Reachability.Proofs.Ping.Printing
import Reachability.Proofs.Ping.RawOutput
import Reachability.Proofs.Ping.Reading
import Reachability.Proofs.Ping.Strictness
import Reachability.Proofs.Ping.Template
import Reachability.Proofs.Ping.Timeout
import Reachability.Proofs.Ping.Wording
import Reachability.Proofs.Probe.Attempts
import Reachability.Proofs.Probe.Outcome
import Reachability.Proofs.Steps
import Reachability.Proofs.Task.Agreement
import Reachability.Proofs.Task.Change
import Reachability.Proofs.Task.Drawing
import Reachability.Proofs.Task.Frame
import Reachability.Proofs.Task.Loading
import Reachability.Proofs.Task.Reading
import Reachability.Proofs.Task.Session
import Reachability.Proofs.Task.Table
import Reachability.Proofs.Task.Uniqueness
import Reachability.Proofs.Task.Verdict
import Reachability.Proofs.Text.Cutting
import Reachability.Proofs.Text.Percent
import Reachability.Proofs.Text.Raw
import Reachability.Proofs.Text.Searching
import Reachability.Proofs.Text.Utf8
import Reachability.Proofs.Time.Clock
import Reachability.Task.Basic
import Reachability.Task.Database
import Reachability.Task.Database.Cell
import Reachability.Task.Database.Table
import Reachability.Task.Document
import Reachability.Task.Identity
import Reachability.Task.Registry
import Reachability.Task.Storage
import Reachability.Text.Blank
import Reachability.Text.Percent
import Reachability.Text.Raw
import Reachability.Text.Split
import Reachability.Text.Utf8
import Reachability.Text.WordCharacter
import Reachability.Time.Clock
import Reachability.Time.Duration
import Reachability.Url.Basic
import Reachability.Url.Host
import Reachability.Url.Reader
