import Ensemble.Binding
import Ensemble.CommandLine
import Ensemble.Component
import Ensemble.Console
import Ensemble.Descriptor
import Ensemble.Directive
import Ensemble.Dispatch
import Ensemble.Event
import Ensemble.Fault
import Ensemble.FileStore
import Ensemble.Invocation
import Ensemble.Labeller
import Ensemble.LogRecord
import Ensemble.Machine.Basic
import Ensemble.Machine.Call
import Ensemble.Machine.Change
import Ensemble.Machine.Fault
import Ensemble.Machine.Furniture
import Ensemble.Machine.Perform
import Ensemble.Machine.Program
import Ensemble.Machine.Run
import Ensemble.Machine.Tree
import Ensemble.Main
import Ensemble.Path
import Ensemble.Phase
import Ensemble.Program
import Ensemble.Project
import Ensemble.Reading
import Ensemble.RunPhase
import Ensemble.Runner
import Ensemble.ScriptedRunner
import Ensemble.Sequence
import Ensemble.Session
import Ensemble.Settings.Basic
import Ensemble.Settings.Document
import Ensemble.Shell.Apart
import Ensemble.Shell.Arithmetic
import Ensemble.Shell.Builtin.Basic
import Ensemble.Shell.Builtin.Directory
import Ensemble.Shell.Builtin.Flow
import Ensemble.Shell.Builtin.Jobs
import Ensemble.Shell.Builtin.Names
import Ensemble.Shell.Builtin.Variables
import Ensemble.Shell.Condition
import Ensemble.Shell.Cursor
import Ensemble.Shell.Elements
import Ensemble.Shell.Eval
import Ensemble.Shell.Expansion
import Ensemble.Shell.Extended.Arithmetic
import Ensemble.Shell.Extended.Brace
import Ensemble.Shell.Extended.Builtin.Basic
import Ensemble.Shell.Extended.Builtin.Flow
import Ensemble.Shell.Extended.Builtin.Jobs
import Ensemble.Shell.Extended.Builtin.Names
import Ensemble.Shell.Extended.Builtin.Places
import Ensemble.Shell.Extended.Builtin.Reading
import Ensemble.Shell.Extended.Builtin.Variables
import Ensemble.Shell.Extended.Compound
import Ensemble.Shell.Extended.Condition
import Ensemble.Shell.Extended.Format
import Ensemble.Shell.Extended.Listing
import Ensemble.Shell.Extended.Pattern
import Ensemble.Shell.Extended.Quoting
import Ensemble.Shell.Extended.Reach
import Ensemble.Shell.Extended.Reader
import Ensemble.Shell.Extended.Simple
import Ensemble.Shell.Extended.Start
import Ensemble.Shell.Extended.Value
import Ensemble.Shell.Extended.Word
import Ensemble.Shell.Field
import Ensemble.Shell.Format
import Ensemble.Shell.Inside
import Ensemble.Shell.Layout
import Ensemble.Shell.Lookup
import Ensemble.Shell.Modes
import Ensemble.Shell.Numeral
import Ensemble.Shell.Pattern
import Ensemble.Shell.Process
import Ensemble.Shell.Reader
import Ensemble.Shell.Real
import Ensemble.Shell.Redirection
import Ensemble.Shell.Signal
import Ensemble.Shell.Simple
import Ensemble.Shell.State
import Ensemble.Shell.Syntax
import Ensemble.Shell.WordReader
import Ensemble.ShellRunner
import Ensemble.Text.Blank
import Ensemble.Text.Calendar
import Ensemble.Text.Difference
import Ensemble.Text.Digest
import Ensemble.Text.Lines
import Ensemble.Text.Octets
import Ensemble.Text.Quoted
import Ensemble.Text.Regex.Basic
import Ensemble.Text.Regex.Reader
import Ensemble.Text.Search
import Ensemble.Text.Utf8
import Ensemble.Transcript
import Ensemble.Utility.Amount
import Ensemble.Utility.Basic
import Ensemble.Utility.Batching
import Ensemble.Utility.Characters
import Ensemble.Utility.Comparing
import Ensemble.Utility.Compiling
import Ensemble.Utility.Concatenation
import Ensemble.Utility.Copying
import Ensemble.Utility.Counting
import Ensemble.Utility.Creation
import Ensemble.Utility.Dating
import Ensemble.Utility.Describing
import Ensemble.Utility.Destination
import Ensemble.Utility.Differing
import Ensemble.Utility.Differing.Hunk
import Ensemble.Utility.Dumping
import Ensemble.Utility.Editing
import Ensemble.Utility.Editing.Escape
import Ensemble.Utility.Editing.Reader
import Ensemble.Utility.Editing.Run
import Ensemble.Utility.Editing.Script
import Ensemble.Utility.Editing.Work
import Ensemble.Utility.Encoding
import Ensemble.Utility.Ends
import Ensemble.Utility.Expression
import Ensemble.Utility.Factoring
import Ensemble.Utility.Finding
import Ensemble.Utility.Finding.Condition
import Ensemble.Utility.Folding
import Ensemble.Utility.Identity
import Ensemble.Utility.Input
import Ensemble.Utility.Joining
import Ensemble.Utility.Listing
import Ensemble.Utility.Making
import Ensemble.Utility.Making.Assignment
import Ensemble.Utility.Making.Book
import Ensemble.Utility.Making.Command
import Ensemble.Utility.Making.Expansion
import Ensemble.Utility.Making.Places
import Ensemble.Utility.Making.Preparation
import Ensemble.Utility.Making.Reader
import Ensemble.Utility.Making.Rule
import Ensemble.Utility.Making.Running
import Ensemble.Utility.Making.Search
import Ensemble.Utility.Making.Text
import Ensemble.Utility.Making.Update
import Ensemble.Utility.Mode
import Ensemble.Utility.Moving
import Ensemble.Utility.Names
import Ensemble.Utility.Numbering
import Ensemble.Utility.Options
import Ensemble.Utility.Ordering
import Ensemble.Utility.Permission
import Ensemble.Utility.Printing
import Ensemble.Utility.Question
import Ensemble.Utility.Quotation
import Ensemble.Utility.Removal
import Ensemble.Utility.Selection
import Ensemble.Utility.Sorting
import Ensemble.Utility.Starting
import Ensemble.Utility.Succession
import Ensemble.Utility.Summing
import Ensemble.Utility.Table
import Ensemble.Utility.Testing
import Ensemble.Utility.Transfer
import Ensemble.World
import Ensemble.Proofs.Labelling
import Ensemble.Proofs.Grammar
import Ensemble.Proofs.RunRecord
import Ensemble.Proofs.Isolation
import Ensemble.Proofs.Gating
import Ensemble.Proofs.Attribution
import Ensemble.Proofs.Continuation
import Ensemble.Proofs.Refusal
import Ensemble.Proofs.Timing
import Ensemble.Proofs.Encoding
import Ensemble.Proofs.Rendering
import Ensemble.Proofs.RunCalls
import Ensemble.Proofs.Overriding
import Ensemble.Proofs.Environment
import Ensemble.Proofs.Mirroring
import Ensemble.Proofs.Agreement
import Ensemble.Proofs.Declarations
import Ensemble.Proofs.Breakdown
import Ensemble.Proofs.Segments
import Ensemble.Proofs.Destinations
import Ensemble.Proofs.BrokenPairs
import Ensemble.Proofs.Loading
import Ensemble.Proofs.Freshness
import Ensemble.Proofs.Stages
import Ensemble.Proofs.FaultOrder
import Ensemble.Proofs.Layout
import Ensemble.Proofs.BindingTexts
import Ensemble.Proofs.StoreHistory
import Ensemble.Proofs.Validation
import Ensemble.Proofs.Purposes
import Ensemble.Proofs.Blame
import Ensemble.Proofs.NormalForms
import Ensemble.Proofs.Words
import Ensemble.Proofs.Commands
