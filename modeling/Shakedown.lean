import Shakedown.Build.Expansion
import Shakedown.Build.Makefile
import Shakedown.Build.Read
import Shakedown.Build.Update
import Shakedown.Build.Word
import Shakedown.CommandLine.Basic
import Shakedown.CommandLine.Help
import Shakedown.CommandLine.Parse
import Shakedown.CommandLine.Run
import Shakedown.Console.Summary
import Shakedown.Console.Terminal
import Shakedown.Document
import Shakedown.Editor.Read
import Shakedown.Editor.Run
import Shakedown.Editor.Script
import Shakedown.Json.Decode
import Shakedown.Json.Doc
import Shakedown.Json.Encode
import Shakedown.Json.Read
import Shakedown.Json.Token
import Shakedown.Json.Value
import Shakedown.Machine.Basic
import Shakedown.Machine.Change
import Shakedown.Machine.Fault
import Shakedown.Machine.FileTree
import Shakedown.Machine.ModeChange
import Shakedown.Machine.System
import Shakedown.Main
import Shakedown.Number.Binary64
import Shakedown.Number.Quantity
import Shakedown.Number.Shortest
import Shakedown.Path.Basic
import Shakedown.Path.Segments
import Shakedown.Plan.Basic
import Shakedown.Plan.File
import Shakedown.Plan.Module
import Shakedown.Process.Basic
import Shakedown.Process.Launch
import Shakedown.Process.Property
import Shakedown.Process.Runner
import Shakedown.Process.Signal
import Shakedown.Process.World
import Shakedown.Program
import Shakedown.Proofs.Build.Word
import Shakedown.Proofs.CommandLine.Acceptance
import Shakedown.Proofs.CommandLine.Arrangement
import Shakedown.Proofs.CommandLine.Draft
import Shakedown.Proofs.CommandLine.Group
import Shakedown.Proofs.CommandLine.Mistake
import Shakedown.Proofs.CommandLine.Reading
import Shakedown.Proofs.CommandLine.Settling
import Shakedown.Proofs.Editor.Substitution
import Shakedown.Proofs.Json.Lexeme
import Shakedown.Proofs.Json.Reader
import Shakedown.Proofs.Json.RoundTrip
import Shakedown.Proofs.Json.Tree
import Shakedown.Proofs.Path.FileName
import Shakedown.Proofs.Path.Resolution
import Shakedown.Proofs.Path.Route
import Shakedown.Proofs.Path.Segments
import Shakedown.Proofs.Path.Shown
import Shakedown.Proofs.Plan.Check
import Shakedown.Proofs.Plan.Described
import Shakedown.Proofs.Plan.Effective
import Shakedown.Proofs.Plan.Exclusive
import Shakedown.Proofs.Plan.History
import Shakedown.Proofs.Plan.Offender
import Shakedown.Proofs.Plan.Reordered
import Shakedown.Proofs.Process.Search
import Shakedown.Proofs.Process.Tail
import Shakedown.Proofs.Regex.Language
import Shakedown.Proofs.Run.Halting
import Shakedown.Proofs.Run.KeepGoing
import Shakedown.Proofs.Run.Story
import Shakedown.Proofs.Run.Trace
import Shakedown.Proofs.Run.Trial
import Shakedown.Proofs.Run.Verdict
import Shakedown.Proofs.Run.Warning
import Shakedown.Proofs.Session.Options
import Shakedown.Proofs.Session.Status
import Shakedown.Proofs.Session.Verdict
import Shakedown.Proofs.Shell.Field
import Shakedown.Proofs.Shell.Pattern
import Shakedown.Proofs.Stage.Anchoring
import Shakedown.Proofs.Stage.Compiler
import Shakedown.Proofs.Stage.Environment
import Shakedown.Proofs.Stage.Isolation
import Shakedown.Proofs.Stage.Layout
import Shakedown.Proofs.Stage.ObjectFile
import Shakedown.Proofs.Stage.Program
import Shakedown.Proofs.Text.Boundary
import Shakedown.Proofs.Text.Difference
import Shakedown.Proofs.Text.Encoding
import Shakedown.Proofs.Text.Part
import Shakedown.Proofs.Toml.Growth
import Shakedown.Proofs.Toml.Keys
import Shakedown.Proofs.Toml.Named
import Shakedown.Proofs.Toml.RoundTrip
import Shakedown.Proofs.Toml.Statement
import Shakedown.Proofs.Toml.Text
import Shakedown.Proofs.Utility.Checksum
import Shakedown.Proofs.Utility.Line
import Shakedown.Proofs.Utility.Precedence
import Shakedown.Proofs.Utility.Sort
import Shakedown.Regex.Basic
import Shakedown.Regex.Read
import Shakedown.Report
import Shakedown.Run.Event
import Shakedown.Run.Pipeline
import Shakedown.Run.Runner
import Shakedown.Run.Script
import Shakedown.Scan.Read
import Shakedown.Scan.Record
import Shakedown.Scan.Run
import Shakedown.Scan.Script
import Shakedown.Scan.State
import Shakedown.Scan.Table
import Shakedown.Scan.Token
import Shakedown.Scan.Value
import Shakedown.Search.Criterion
import Shakedown.Search.Read
import Shakedown.Session.Basic
import Shakedown.Session.Execute
import Shakedown.Shell.Arithmetic
import Shakedown.Shell.Assignment
import Shakedown.Shell.Builtin
import Shakedown.Shell.Condition
import Shakedown.Shell.Directory
import Shakedown.Shell.Execute
import Shakedown.Shell.Expansion
import Shakedown.Shell.Field
import Shakedown.Shell.Grammar
import Shakedown.Shell.Input
import Shakedown.Shell.Lookup
import Shakedown.Shell.Option
import Shakedown.Shell.Pattern
import Shakedown.Shell.Program
import Shakedown.Shell.Reader
import Shakedown.Shell.Redirection
import Shakedown.Shell.Runner
import Shakedown.Shell.State
import Shakedown.Shell.Syntax
import Shakedown.Shell.Token
import Shakedown.Shell.Trap
import Shakedown.Shell.Word
import Shakedown.Stage.Basic
import Shakedown.Stage.Planning
import Shakedown.Text.CharSet
import Shakedown.Text.Character
import Shakedown.Text.Difference
import Shakedown.Text.Digest
import Shakedown.Text.Directive
import Shakedown.Text.Escape
import Shakedown.Text.Format
import Shakedown.Text.Moment
import Shakedown.Text.Numeral
import Shakedown.Text.Octet
import Shakedown.Text.Utf8
import Shakedown.Toml.Decode
import Shakedown.Toml.Document
import Shakedown.Toml.Encode
import Shakedown.Toml.Statement
import Shakedown.Toml.Text
import Shakedown.Toml.Tree
import Shakedown.Toml.Value
import Shakedown.Utility.Checksum
import Shakedown.Utility.Clock
import Shakedown.Utility.Column
import Shakedown.Utility.Compile
import Shakedown.Utility.Concatenate
import Shakedown.Utility.Condition
import Shakedown.Utility.Copy
import Shakedown.Utility.Count
import Shakedown.Utility.Difference
import Shakedown.Utility.Dump
import Shakedown.Utility.Edit
import Shakedown.Utility.Excerpt
import Shakedown.Utility.Exchange
import Shakedown.Utility.Expression
import Shakedown.Utility.File
import Shakedown.Utility.Find
import Shakedown.Utility.Grep
import Shakedown.Utility.Input
import Shakedown.Utility.Kill
import Shakedown.Utility.Layout
import Shakedown.Utility.Listing
import Shakedown.Utility.Make
import Shakedown.Utility.Name
import Shakedown.Utility.Operation
import Shakedown.Utility.Option
import Shakedown.Utility.Perform
import Shakedown.Utility.Permission
import Shakedown.Utility.Piece
import Shakedown.Utility.Precedence
import Shakedown.Utility.Scan
import Shakedown.Utility.Sort
import Shakedown.Utility.Starter
import Shakedown.Utility.Surroundings
import Shakedown.Utility.Text
