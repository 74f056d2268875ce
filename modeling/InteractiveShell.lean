import InteractiveShell.Text.Basic
import InteractiveShell.Text.Blank
import InteractiveShell.Text.CommonPrefix
import InteractiveShell.Text.Integer
import InteractiveShell.Text.Order
import InteractiveShell.Text.Utf8
import InteractiveShell.Command
import InteractiveShell.Editor.Cycle
import InteractiveShell.FileSystem.Tree
import InteractiveShell.Execution
import InteractiveShell.Completion
import InteractiveShell.Session
import InteractiveShell.Script.Name
import InteractiveShell.Script.Statement
import InteractiveShell.Script.Phrase
import InteractiveShell.Script.Reader.Basic
import InteractiveShell.Script.Reader.Word
import InteractiveShell.Script.Reader.Token
import InteractiveShell.Script.Reader.Grammar
import InteractiveShell.Script.Setting
import InteractiveShell.Script.Number
import InteractiveShell.Script.Signal
import InteractiveShell.Script.Job
import InteractiveShell.Script.Limit
import InteractiveShell.Script.Process
import InteractiveShell.Script.Source
import InteractiveShell.Script.Pattern
import InteractiveShell.Script.Field
import InteractiveShell.Script.Arithmetic
import InteractiveShell.Script.Fraction
import InteractiveShell.Script.Format
import InteractiveShell.Script.Condition
import InteractiveShell.Script.Input
import InteractiveShell.Script.Utility.Basic
import InteractiveShell.Script.Utility.Course
import InteractiveShell.Script.Utility.Directory
import InteractiveShell.Script.Utility.Job
import InteractiveShell.Script.Utility.Limit
import InteractiveShell.Script.Utility.Option
import InteractiveShell.Script.Utility.Output
import InteractiveShell.Script.Utility.Signal
import InteractiveShell.Script.Utility.Variable
import InteractiveShell.Script.Utility
import InteractiveShell.Script.Connection
import InteractiveShell.Script.Child
import InteractiveShell.Script.Lookup
import InteractiveShell.Script.Course
import InteractiveShell.Script.Tilde
import InteractiveShell.Script.Run
import InteractiveShell.Script.Launch
import InteractiveShell.Main
import InteractiveShell.Proofs.Command.Rendering
import InteractiveShell.Proofs.Editor.Handled
import InteractiveShell.Proofs.Editor.TypedAhead
import InteractiveShell.Proofs.Outlet.Steady
import InteractiveShell.Proofs.Editor.Submission
import InteractiveShell.Proofs.Text.Encoding
import InteractiveShell.Proofs.Editor.Screen
import InteractiveShell.Proofs.Execution.Frame
import InteractiveShell.Proofs.Session.Course
import InteractiveShell.Proofs.Execution.Stages
import InteractiveShell.Proofs.Execution.Sending
import InteractiveShell.Proofs.Execution.Accumulation
import InteractiveShell.Proofs.Text.Numeral
import InteractiveShell.Proofs.Dispatch.Meaning
import InteractiveShell.Proofs.Session.Ending
import InteractiveShell.Proofs.Session.BlankLine
import InteractiveShell.Proofs.Path.Part
import InteractiveShell.Proofs.SearchPath.Lookup
import InteractiveShell.Proofs.Dispatch.Report
import InteractiveShell.Proofs.FileSystem.Naming
import InteractiveShell.Proofs.Completion.Candidate
import InteractiveShell.Proofs.Completion.Entering
import InteractiveShell.Proofs.Execution.Naming
import InteractiveShell.Proofs.Editor.Failure
import InteractiveShell.Proofs.Text.Chunk
import InteractiveShell.Proofs.Editor.Listing
import InteractiveShell.Proofs.FileSystem.Walking
import InteractiveShell.Proofs.SearchPath.Agreement
import InteractiveShell.Proofs.Text.Cutting
import InteractiveShell.Proofs.Completion.Sorting
import InteractiveShell.Proofs.Completion.Extension
import InteractiveShell.Proofs.Command.FirstOperator
import InteractiveShell.Proofs.Command.Quotation
import InteractiveShell.Proofs.SearchPath.Composition
import InteractiveShell.Proofs.FileSystem.Relisting
import InteractiveShell.Proofs.Completion.Canonical
import InteractiveShell.Proofs.Text.Unfinished
import InteractiveShell.Proofs.Editor.Reading
import InteractiveShell.Proofs.FileSystem.Opening
import InteractiveShell.Proofs.Execution.WorkingDirectory
import InteractiveShell.Proofs.Execution.Delivering
