import NativeBuild.Artifact
import NativeBuild.Build.Basic
import NativeBuild.Build.Declare
import NativeBuild.Build.Jobs
import NativeBuild.Cli.Build
import NativeBuild.Cli.Console
import NativeBuild.Cli.Info
import NativeBuild.Cli.Options
import NativeBuild.Cli.Run
import NativeBuild.Command
import NativeBuild.Digest.Sha256
import NativeBuild.Duration
import NativeBuild.Failure
import NativeBuild.Json.Fault
import NativeBuild.Json.Number
import NativeBuild.Json.Reader
import NativeBuild.Json.Record
import NativeBuild.Json.Skip
import NativeBuild.Json.Value
import NativeBuild.Layout
import NativeBuild.Library
import NativeBuild.Machine.Basic
import NativeBuild.Machine.Edit
import NativeBuild.Machine.Files
import NativeBuild.Machine.IoError
import NativeBuild.Machine.Runner
import NativeBuild.Main
import NativeBuild.Manifest.Basic
import NativeBuild.Manifest.Check
import NativeBuild.Manifest.Defines
import NativeBuild.Manifest.Reader
import NativeBuild.Manifest.Writer
import NativeBuild.Number.Binary64
import NativeBuild.Number.Shortest
import NativeBuild.ObjectKey
import NativeBuild.Path.Absolute
import NativeBuild.Path.Basic
import NativeBuild.Platform
import NativeBuild.Pool.Basic
import NativeBuild.Pool.Load
import NativeBuild.Pool.Settle
import NativeBuild.Pool.Task
import NativeBuild.Proofs.Build.Arrive
import NativeBuild.Proofs.Build.Attempts
import NativeBuild.Proofs.Build.Beside
import NativeBuild.Proofs.Build.Blocking
import NativeBuild.Proofs.Build.Commands
import NativeBuild.Proofs.Build.Desk
import NativeBuild.Proofs.Build.Elsewhere
import NativeBuild.Proofs.Build.Errand
import NativeBuild.Proofs.Build.Execution
import NativeBuild.Proofs.Build.Ideal
import NativeBuild.Proofs.Build.Location
import NativeBuild.Proofs.Build.Lockstep
import NativeBuild.Proofs.Build.Makes
import NativeBuild.Proofs.Build.ObjectName
import NativeBuild.Proofs.Build.Once
import NativeBuild.Proofs.Build.Outline
import NativeBuild.Proofs.Build.Planned
import NativeBuild.Proofs.Build.Races
import NativeBuild.Proofs.Build.Refusal
import NativeBuild.Proofs.Build.Resolved
import NativeBuild.Proofs.Build.Scope
import NativeBuild.Proofs.Build.Site
import NativeBuild.Proofs.Build.Trace
import NativeBuild.Proofs.Build.Traceless
import NativeBuild.Proofs.Build.Transparent
import NativeBuild.Proofs.Cli.Calls
import NativeBuild.Proofs.Cli.Conduct
import NativeBuild.Proofs.Cli.Info
import NativeBuild.Proofs.Cli.Outcome
import NativeBuild.Proofs.Cli.Parallelism
import NativeBuild.Proofs.Duration
import NativeBuild.Proofs.Json.Compact
import NativeBuild.Proofs.Json.Reads
import NativeBuild.Proofs.Layout
import NativeBuild.Proofs.Library
import NativeBuild.Proofs.Machine.Moved
import NativeBuild.Proofs.Machine.Program
import NativeBuild.Proofs.Manifest.Compilers
import NativeBuild.Proofs.Manifest.RoundTrip
import NativeBuild.Proofs.Manifest.Tools
import NativeBuild.Proofs.Manifest.Violations
import NativeBuild.Proofs.Number.Rounding
import NativeBuild.Proofs.Path.Absolute
import NativeBuild.Proofs.Path.Components
import NativeBuild.Proofs.Path.Normal
import NativeBuild.Proofs.Pool.Account
import NativeBuild.Proofs.Pool.Beside
import NativeBuild.Proofs.Pool.BestEffort
import NativeBuild.Proofs.Pool.Cause
import NativeBuild.Proofs.Pool.Complete
import NativeBuild.Proofs.Pool.Drop
import NativeBuild.Proofs.Pool.Evaluate
import NativeBuild.Proofs.Pool.Follow
import NativeBuild.Proofs.Pool.Inputs
import NativeBuild.Proofs.Pool.LifeCycle
import NativeBuild.Proofs.Pool.Moves
import NativeBuild.Proofs.Pool.Permits
import NativeBuild.Proofs.Pool.Progress
import NativeBuild.Proofs.Pool.Steady
import NativeBuild.Proofs.Pool.Step
import NativeBuild.Proofs.Shared.Account
import NativeBuild.Proofs.Shared.Alike
import NativeBuild.Proofs.Shared.Backwards
import NativeBuild.Proofs.Shared.Barrier
import NativeBuild.Proofs.Shared.Basic
import NativeBuild.Proofs.Shared.Idle
import NativeBuild.Proofs.Shared.Ledger
import NativeBuild.Proofs.Shared.Moves
import NativeBuild.Proofs.Shared.OneWaiter
import NativeBuild.Proofs.Shared.Outcomes
import NativeBuild.Proofs.Shared.Refused
import NativeBuild.Proofs.Shared.Run
import NativeBuild.Proofs.Shared.Schedule
import NativeBuild.Proofs.Shared.Single
import NativeBuild.Proofs.Shared.Strict
import NativeBuild.Proofs.SourceSet
import NativeBuild.Proofs.Text.Numeral
import NativeBuild.Proofs.Text.Utf8
import NativeBuild.Settings
import NativeBuild.SourceSet
import NativeBuild.Text.Blank
import NativeBuild.Text.Decimal
import NativeBuild.Text.Printable
import NativeBuild.Text.Quoted
import NativeBuild.Text.Utf8
import NativeBuild.Toolchain
import NativeBuild.Userland.Calendar
import NativeBuild.Userland.Condition
import NativeBuild.Userland.Digest
import NativeBuild.Userland.Execute
import NativeBuild.Userland.Fixed
import NativeBuild.Userland.Process
import NativeBuild.Userland.Regex.Basic
import NativeBuild.Userland.Regex.Match
import NativeBuild.Userland.Regex.Parse
import NativeBuild.Userland.Shell.Assign
import NativeBuild.Userland.Shell.Brace
import NativeBuild.Userland.Shell.Bracket
import NativeBuild.Userland.Shell.Builtin.Basic
import NativeBuild.Userland.Shell.Builtin.Directory
import NativeBuild.Userland.Shell.Builtin.Input
import NativeBuild.Userland.Shell.Builtin.Meaning
import NativeBuild.Userland.Shell.Builtin.Run
import NativeBuild.Userland.Shell.Builtin.Signals
import NativeBuild.Userland.Shell.Builtin.Variables
import NativeBuild.Userland.Shell.Fields
import NativeBuild.Userland.Shell.Fill
import NativeBuild.Userland.Shell.Grammar
import NativeBuild.Userland.Shell.Jobs
import NativeBuild.Userland.Shell.Launch
import NativeBuild.Userland.Shell.Nested
import NativeBuild.Userland.Shell.Parse
import NativeBuild.Userland.Shell.Pattern
import NativeBuild.Userland.Shell.Printf
import NativeBuild.Userland.Shell.Program
import NativeBuild.Userland.Shell.Quote
import NativeBuild.Userland.Shell.Quoted
import NativeBuild.Userland.Shell.Raw
import NativeBuild.Userland.Shell.Redirect
import NativeBuild.Userland.Shell.Run
import NativeBuild.Userland.Shell.Script
import NativeBuild.Userland.Shell.Setting
import NativeBuild.Userland.Shell.Simple
import NativeBuild.Userland.Shell.State
import NativeBuild.Userland.Shell.Sum
import NativeBuild.Userland.Tool.Awk.Execute
import NativeBuild.Userland.Tool.Awk.Operation
import NativeBuild.Userland.Tool.Awk.Parse
import NativeBuild.Userland.Tool.Awk.Program
import NativeBuild.Userland.Tool.Awk.Run
import NativeBuild.Userland.Tool.Awk.State
import NativeBuild.Userland.Tool.Awk.Stream
import NativeBuild.Userland.Tool.Awk.Token
import NativeBuild.Userland.Tool.Awk.Value
import NativeBuild.Userland.Tool.Basic
import NativeBuild.Userland.Tool.Columns
import NativeBuild.Userland.Tool.Compare
import NativeBuild.Userland.Tool.Copy
import NativeBuild.Userland.Tool.Dump
import NativeBuild.Userland.Tool.Files
import NativeBuild.Userland.Tool.Find
import NativeBuild.Userland.Tool.Grep
import NativeBuild.Userland.Tool.List
import NativeBuild.Userland.Tool.Mode
import NativeBuild.Userland.Tool.Print
import NativeBuild.Userland.Tool.Run
import NativeBuild.Userland.Tool.Sed
import NativeBuild.Userland.Tool.SedRun
import NativeBuild.Userland.Tool.Show
import NativeBuild.Userland.Tool.Sort
import NativeBuild.Userland.Tool.Split
import NativeBuild.Userland.Tool.Start
import NativeBuild.Userland.Tool.TimeWords
import NativeBuild.Userland.Tool.Translate
