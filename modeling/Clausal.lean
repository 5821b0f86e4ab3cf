import Clausal.Answer
import Clausal.Batch.Row
import Clausal.Batch.Run
import Clausal.Changes
import Clausal.Clause
import Clausal.Coloring
import Clausal.CommandLine.Arguments
import Clausal.CommandLine.Request
import Clausal.CommandLine.Run
import Clausal.Discovery
import Clausal.Encoding.Basic
import Clausal.Encoding.Error
import Clausal.Family.Basic
import Clausal.Family.Cube
import Clausal.Family.Grid
import Clausal.Family.Open
import Clausal.FileSystem
import Clausal.FileSystem.Edit
import Clausal.FileSystem.Mode
import Clausal.Format
import Clausal.Formula.Basic
import Clausal.Formula.Dimacs
import Clausal.Formula.Evaluation
import Clausal.Graph
import Clausal.Index
import Clausal.Launch
import Clausal.Literal
import Clausal.Machine.Files
import Clausal.Machine.Program
import Clausal.Machine.Run
import Clausal.Machine.State
import Clausal.Machine.Task
import Clausal.Main
import Clausal.Numbering
import Clausal.Path
import Clausal.Proofs.Answer.Lookup
import Clausal.Proofs.Answer.Printing
import Clausal.Proofs.Answer.Protocol
import Clausal.Proofs.Batch.Records
import Clausal.Proofs.Batch.Report
import Clausal.Proofs.Coloring.Correctness
import Clausal.Proofs.Coloring.Existence
import Clausal.Proofs.Coloring.Layout
import Clausal.Proofs.Coloring.Numbers
import Clausal.Proofs.Coloring.Optimum
import Clausal.Proofs.Coloring.Semantics
import Clausal.Proofs.Discovery
import Clausal.Proofs.Encoding.Extension
import Clausal.Proofs.Encoding.Growth
import Clausal.Proofs.Encoding.History
import Clausal.Proofs.Encoding.InPlace
import Clausal.Proofs.Encoding.Operation
import Clausal.Proofs.Encoding.Registration
import Clausal.Proofs.Family.Any
import Clausal.Proofs.Family.Fixed
import Clausal.Proofs.Family.Inverse
import Clausal.Proofs.Family.Label
import Clausal.Proofs.Family.Placement
import Clausal.Proofs.Family.Requests
import Clausal.Proofs.Family.Row
import Clausal.Proofs.Family.Seen
import Clausal.Proofs.FileSystem.Following
import Clausal.Proofs.FileSystem.Joining
import Clausal.Proofs.FileSystem.Removing
import Clausal.Proofs.FileSystem.Writing
import Clausal.Proofs.Formula.Complete
import Clausal.Proofs.Formula.Count
import Clausal.Proofs.Formula.Coverage
import Clausal.Proofs.Formula.Lines
import Clausal.Proofs.Formula.Meaning
import Clausal.Proofs.Formula.Output
import Clausal.Proofs.Formula.Partial
import Clausal.Proofs.Formula.Printing
import Clausal.Proofs.Formula.Renumbering
import Clausal.Proofs.Formula.Solving
import Clausal.Proofs.Formula.Top
import Clausal.Proofs.Formula.Translation
import Clausal.Proofs.Formula.Weights
import Clausal.Proofs.Formula.WellFormed
import Clausal.Proofs.Graph
import Clausal.Proofs.LineEnding
import Clausal.Proofs.Numbering.Bijection
import Clausal.Proofs.Numbering.Complete
import Clausal.Proofs.Numbering.Counting
import Clausal.Proofs.Numbering.Lookup
import Clausal.Proofs.Outcome
import Clausal.Proofs.Path
import Clausal.Proofs.Repetition
import Clausal.Proofs.Replay
import Clausal.Proofs.Search.Procedure
import Clausal.Proofs.Solver.Deadline
import Clausal.Proofs.Solver.Guarding
import Clausal.Proofs.Solver.Input
import Clausal.Proofs.Solver.Polling
import Clausal.Proofs.Solver.Report
import Clausal.Proofs.Solver.Timing
import Clausal.Proofs.Text.Numeral
import Clausal.Proofs.Text.Words
import Clausal.Proofs.Times
import Clausal.Proofs.Valuation
import Clausal.Proofs.World.Ownership
import Clausal.Proofs.World.Refusal
import Clausal.Proofs.World.Run
import Clausal.Proofs.World.Sound
import Clausal.Proofs.Writer
import Clausal.Random.Stream
import Clausal.Search
import Clausal.Search.Board
import Clausal.Search.Choice
import Clausal.Search.Learning
import Clausal.Search.Lesson
import Clausal.Search.Refutation
import Clausal.Search.Splitting
import Clausal.Shell.Arithmetic
import Clausal.Shell.Builtin.Basic
import Clausal.Shell.Builtin.Bounds
import Clausal.Shell.Builtin.Folder
import Clausal.Shell.Builtin.Signals
import Clausal.Shell.Builtin.Test
import Clausal.Shell.Builtin.Variables
import Clausal.Shell.Connection
import Clausal.Shell.Evaluation
import Clausal.Shell.Execution
import Clausal.Shell.Expansion
import Clausal.Shell.Field
import Clausal.Shell.Grammar
import Clausal.Shell.Jobs
import Clausal.Shell.Lookup
import Clausal.Shell.Pattern
import Clausal.Shell.Printf
import Clausal.Shell.Session
import Clausal.Shell.Start
import Clausal.Shell.Token
import Clausal.Shell.Word
import Clausal.Solver.Config
import Clausal.Solver.Host
import Clausal.Solver.Result
import Clausal.Solver.Run
import Clausal.Text.ByteClass
import Clausal.Text.Difference
import Clausal.Text.Digest
import Clausal.Text.Floating
import Clausal.Text.Numeral
import Clausal.Text.Quoted
import Clausal.Text.Regex.Basic
import Clausal.Text.Regex.Parse
import Clausal.Text.Regex.Search
import Clausal.Text.Split
import Clausal.Text.Utf8
import Clausal.Times
import Clausal.Utility.Armoring
import Clausal.Utility.Basic
import Clausal.Utility.Blocks
import Clausal.Utility.Calculation
import Clausal.Utility.Calendar
import Clausal.Utility.Checksum
import Clausal.Utility.Columns
import Clausal.Utility.Comparing
import Clausal.Utility.Dump
import Clausal.Utility.Editing.Run
import Clausal.Utility.Editing.Script
import Clausal.Utility.Filtering
import Clausal.Utility.Finding
import Clausal.Utility.Keyword
import Clausal.Utility.Listing
import Clausal.Utility.Making
import Clausal.Utility.Merge
import Clausal.Utility.Order
import Clausal.Utility.Portion
import Clausal.Utility.Properties
import Clausal.Utility.Records.Memory
import Clausal.Utility.Records.Program
import Clausal.Utility.Records.Reading
import Clausal.Utility.Records.Run
import Clausal.Utility.Records.Table
import Clausal.Utility.Records.Token
import Clausal.Utility.Records.Value
import Clausal.Utility.Running
import Clausal.Utility.Sequence
import Clausal.Utility.Switch
import Clausal.Utility.Transfer.Aim
import Clausal.Utility.Transfer.Commands
import Clausal.Utility.Transfer.Copying
import Clausal.Utility.Transfer.Linking
import Clausal.Utility.Transfer.Replacing
import Clausal.Utility.Translate
import Clausal.Utility.Tree
import Clausal.Utility.Whole
import Clausal.Utility.Words
import Clausal.Word
import Clausal.Writer
