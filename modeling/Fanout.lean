import Fanout.Cluster
import Fanout.Collector
import Fanout.Command.Executor
import Fanout.Command.Launch
import Fanout.Command.Template
import Fanout.Config.Basic
import Fanout.Config.Codec
import Fanout.Config.Load
import Fanout.Console.Basic
import Fanout.Console.Colors
import Fanout.Console.HostTable
import Fanout.Console.Outcomes
import Fanout.Decimal.Binary
import Fanout.Decimal.Notation
import Fanout.Decimal.Shortest
import Fanout.Dispatch.Machine
import Fanout.Dispatch.Policy
import Fanout.Dispatch.Run
import Fanout.Dispatch.Schedule
import Fanout.Environment
import Fanout.Failure
import Fanout.Fault
import Fanout.FileTree
import Fanout.Host.Basic
import Fanout.Host.Codec
import Fanout.Host.Set
import Fanout.Invocation.Basic
import Fanout.Invocation.Completion
import Fanout.Invocation.Options
import Fanout.Invocation.Parameter
import Fanout.Invocation.Reader
import Fanout.Invocation.Usage
import Fanout.Invocation.UsageError
import Fanout.Json.Basic
import Fanout.Json.Decode
import Fanout.Json.Reader
import Fanout.Json.Tree
import Fanout.Log.Calendar
import Fanout.Log.File
import Fanout.Log.Record
import Fanout.Log.Tee
import Fanout.Main
import Fanout.Operation
import Fanout.OsError
import Fanout.Outcome.Basic
import Fanout.Outcome.Codec
import Fanout.Outcome.Map
import Fanout.Outcome.Report
import Fanout.Path.Expand
import Fanout.Path.Locate
import Fanout.Program.Dispatching
import Fanout.Program.ExitCode
import Fanout.Program.Listing
import Fanout.Program.Run
import Fanout.Program.Transcript
import Fanout.Retry.Attempt
import Fanout.Retry.Delay
import Fanout.Shell.Arithmetic
import Fanout.Shell.Builtin
import Fanout.Shell.Condition
import Fanout.Shell.Evaluation
import Fanout.Shell.Expansion
import Fanout.Shell.Filter
import Fanout.Shell.Format
import Fanout.Shell.Grammar
import Fanout.Shell.Launch
import Fanout.Shell.Octets
import Fanout.Shell.Pattern
import Fanout.Shell.Program
import Fanout.Shell.Reader
import Fanout.Shell.State
import Fanout.Shell.Utility
import Fanout.Text.Alphanumeric
import Fanout.Text.Blank
import Fanout.Text.Line
import Fanout.Text.Quoted
import Fanout.Text.Replace
import Fanout.Text.Utf8
import Fanout.Toml.Decode
import Fanout.Toml.Quoted
import Fanout.Toml.Reader
import Fanout.Toml.Scalar
import Fanout.Toml.Value
import Fanout.Proofs.Collector
import Fanout.Proofs.Outcome.Views
import Fanout.Proofs.Text.Lines
import Fanout.Proofs.Outcome.Diagnostic
import Fanout.Proofs.Outcome.Report
import Fanout.Proofs.Failure.Code
import Fanout.Proofs.Failure.Rendering
import Fanout.Proofs.Dispatch.Step
import Fanout.Proofs.Dispatch.Trail
import Fanout.Proofs.Dispatch.Ledger
import Fanout.Proofs.Dispatch.Coverage
import Fanout.Proofs.Dispatch.Token
import Fanout.Proofs.Dispatch.Answers
import Fanout.Proofs.Dispatch.Failures
import Fanout.Proofs.Dispatch.FailFast
import Fanout.Proofs.Dispatch.Driving
import Fanout.Proofs.Dispatch.Reference
import Fanout.Proofs.Host.Set
import Fanout.Proofs.Config.Load
import Fanout.Proofs.Program.Status
import Fanout.Proofs.Dispatch.Flight
import Fanout.Proofs.Dispatch.Observer
import Fanout.Proofs.Cluster.Machines
import Fanout.Proofs.Config.Layout
import Fanout.Proofs.Config.Selection
import Fanout.Proofs.Decimal.Double
import Fanout.Proofs.Retry.Delay
import Fanout.Proofs.Command.Executor
import Fanout.Proofs.Command.Template
import Fanout.Proofs.Collector.FirstWrite
import Fanout.Proofs.Retry.Law
import Fanout.Proofs.Dispatch.Eager
import Fanout.Proofs.Dispatch.Extent
import Fanout.Proofs.Json.Scalar
import Fanout.Proofs.Json.Written
import Fanout.Proofs.Json.Reading
import Fanout.Proofs.Json.Record
import Fanout.Proofs.Host.Codec
import Fanout.Proofs.Outcome.Codec
import Fanout.Proofs.Program.Output
import Fanout.Proofs.Cluster.Contents
import Fanout.Proofs.Console.Outcomes
import Fanout.Proofs.Console.HostTable
import Fanout.Proofs.Log.Lines
