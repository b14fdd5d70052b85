import CrossGen.Checkout
import CrossGen.Combine.Directive
import CrossGen.Combine.Inlining
import CrossGen.Combine.Method
import CrossGen.Combine.Plan
import CrossGen.CommandLine.Level
import CrossGen.CommandLine.Misuse
import CrossGen.CommandLine.Parse
import CrossGen.CommandLine.Run
import CrossGen.CommandLine.Styled
import CrossGen.CompilerCall
import CrossGen.Configuration
import CrossGen.Diagnosis
import CrossGen.Digest.Sha256
import CrossGen.Environment
import CrossGen.Failure
import CrossGen.Generation
import CrossGen.Host.Basic
import CrossGen.Host.Command
import CrossGen.Host.FileSystem
import CrossGen.Host.IoError
import CrossGen.Host.Storage
import CrossGen.Host.Temporary
import CrossGen.Host.Tool
import CrossGen.Host.Walk
import CrossGen.Json
import CrossGen.Main
import CrossGen.Path
import CrossGen.Preview
import CrossGen.Program
import CrossGen.Report
import CrossGen.Shell.Arithmetic
import CrossGen.Shell.Builtin.Control
import CrossGen.Shell.Builtin.Directory
import CrossGen.Shell.Builtin.Printing
import CrossGen.Shell.Builtin.Scripts
import CrossGen.Shell.Builtin.Variables
import CrossGen.Shell.Condition
import CrossGen.Shell.Descriptor
import CrossGen.Shell.Escape
import CrossGen.Shell.Expansion
import CrossGen.Shell.Expression.Basic
import CrossGen.Shell.Expression.Reading
import CrossGen.Shell.Format
import CrossGen.Shell.Image
import CrossGen.Shell.Interpreter
import CrossGen.Shell.Interpreter.Compound
import CrossGen.Shell.Interpreter.Simple
import CrossGen.Shell.Interpreter.Start
import CrossGen.Shell.Job
import CrossGen.Shell.Lookup
import CrossGen.Shell.Machine
import CrossGen.Shell.Matching
import CrossGen.Shell.Message
import CrossGen.Shell.Pattern
import CrossGen.Shell.Reader.Basic
import CrossGen.Shell.Reader.Command
import CrossGen.Shell.Reader.Document
import CrossGen.Shell.Reader.Token
import CrossGen.Shell.Reader.Word
import CrossGen.Shell.Redirecting
import CrossGen.Shell.Run
import CrossGen.Shell.Schedule
import CrossGen.Shell.Session
import CrossGen.Shell.Starting
import CrossGen.Shell.Syntax
import CrossGen.Shell.Utility.Arranging
import CrossGen.Shell.Utility.Basic
import CrossGen.Shell.Utility.Editing
import CrossGen.Shell.Utility.Files
import CrossGen.Shell.Utility.Filtering
import CrossGen.Shell.Utility.Launching
import CrossGen.Shell.Utility.Listing
import CrossGen.Shell.Utility.Printing
import CrossGen.Shell.Utility.Searching
import CrossGen.Shell.Utility.Table
import CrossGen.Shell.World
import CrossGen.Target.Basic
import CrossGen.Target.Encoding
import CrossGen.Target.Matrix
import CrossGen.Target.Shape
import CrossGen.Text.Fields
import CrossGen.Text.Likeness
import CrossGen.Text.Lines
import CrossGen.Text.Quoted
import CrossGen.Text.Utf8
import CrossGen.Toml
import CrossGen.Transpiler.Invocation
import CrossGen.Transpiler.Relay
import CrossGen.Transpiler.Task
import CrossGen.Proofs.Combine.Listing
import CrossGen.Proofs.Combine.Playing
import CrossGen.Proofs.Combine.FirstVisit
import CrossGen.Proofs.Combine.Exclusion
import CrossGen.Proofs.Transpiler.Accounting
import CrossGen.Proofs.Transpiler.Alarm
import CrossGen.Proofs.Transpiler.Delivery
import CrossGen.Proofs.Transpiler.Relaying
import CrossGen.Proofs.Transpiler.Pumping
import CrossGen.Proofs.Transpiler.Past
import CrossGen.Proofs.Transpiler.PassingOn
import CrossGen.Proofs.Transpiler.Schedule
import CrossGen.Proofs.Generation.Course
import CrossGen.Proofs.Generation.FirstFailure
import CrossGen.Proofs.Generation.Leftover
import CrossGen.Proofs.Generation.Stored
import CrossGen.Proofs.Host.Launching
import CrossGen.Proofs.Host.Walking
import CrossGen.Proofs.Host.Naming
import CrossGen.Proofs.Host.Writing
import CrossGen.Proofs.Checkout.PatchPath
import CrossGen.Proofs.Text.Fields
import CrossGen.Proofs.Target.Key
import CrossGen.Proofs.Target.Resolution
import CrossGen.Proofs.Target.Lists
import CrossGen.Proofs.Combine.Entering
import CrossGen.Proofs.Combine.Recombining
import CrossGen.Proofs.Combine.DepthFirst
import CrossGen.Proofs.Combine.NativeRun
import CrossGen.Proofs.Host.Storing
import CrossGen.Proofs.Generation.Validation
import CrossGen.Proofs.Text.Lines
import CrossGen.Proofs.Environment
import CrossGen.Proofs.Transpiler.Variables
import CrossGen.Proofs.CompilerCall.Installed
import CrossGen.Proofs.Host.Trying
import CrossGen.Proofs.Transpiler.Forwarding
import CrossGen.Proofs.Generation.Ending
import CrossGen.Proofs.Generation.Jobs
import CrossGen.Proofs.Generation.Processes
import CrossGen.Proofs.Generation.Culprit
import CrossGen.Proofs.Generation.Attribution
import CrossGen.Proofs.Generation.Previewing
import CrossGen.Proofs.Target.Influence
import CrossGen.Proofs.EmptyValues
import CrossGen.Proofs.Combine.Asking
import CrossGen.Proofs.Combine.Directive
import CrossGen.Proofs.Combine.Rows
import CrossGen.Proofs.Combine.Toggling
import CrossGen.Proofs.Combine.Alignment
import CrossGen.Proofs.Target.Refusal
import CrossGen.Proofs.Target.Encoding
import CrossGen.Proofs.Target.WellFormed
import CrossGen.Proofs.Transpiler.OutputName
import CrossGen.Proofs.Transpiler.Options
import CrossGen.Proofs.CompilerCall.Splitting
import CrossGen.Proofs.Environment.History
import CrossGen.Proofs.Combine.Grammar
import CrossGen.Proofs.Target.Reading
import CrossGen.Proofs.CompilerCall.Calling
