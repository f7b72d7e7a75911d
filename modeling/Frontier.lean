import Frontier.Bench.Basic
import Frontier.Bench.Feed
import Frontier.Bench.World
import Frontier.Counter
import Frontier.Desk
import Frontier.Dialogue
import Frontier.Engine.Basic
import Frontier.Engine.Motion
import Frontier.Engine.Perform
import Frontier.Engine.Submit
import Frontier.Exchange
import Frontier.Fault
import Frontier.Framer
import Frontier.Json.Record
import Frontier.Json.Report
import Frontier.Json.Value
import Frontier.Machine.Basic
import Frontier.Machine.Bytes
import Frontier.Machine.Errno
import Frontier.Machine.Files
import Frontier.Machine.Launch
import Frontier.Machine.Routine
import Frontier.Machine.Serve
import Frontier.Machine.Signal
import Frontier.Machine.Step
import Frontier.Marker
import Frontier.Outline
import Frontier.Pattern.Basic
import Frontier.Pattern.Parser
import Frontier.Process.Basic
import Frontier.Process.Program
import Frontier.Proofs.Contract
import Frontier.Proofs.Passage
import Frontier.Proofs.Course
import Frontier.Proofs.Statement
import Frontier.Proofs.Outline
import Frontier.Proofs.Marker
import Frontier.Proofs.ErrorPattern
import Frontier.Proofs.Custody
import Frontier.Prover.Basic
import Frontier.Prover.Cued
import Frontier.Prover.Echo
import Frontier.Regex.Basic
import Frontier.Regex.Parser
import Frontier.Report
import Frontier.Search
import Frontier.Session
import Frontier.Settings
import Frontier.Shell.Arithmetic
import Frontier.Shell.Builtin.Flow
import Frontier.Shell.Builtin.Names
import Frontier.Shell.Builtin.Place
import Frontier.Shell.Builtin.Print
import Frontier.Shell.Builtin.Read
import Frontier.Shell.Builtin.Signals
import Frontier.Shell.Builtin.Test
import Frontier.Shell.Builtin.Variables
import Frontier.Shell.Command
import Frontier.Shell.Eval
import Frontier.Shell.Expand
import Frontier.Shell.Field
import Frontier.Shell.Glob
import Frontier.Shell.Job
import Frontier.Shell.Number
import Frontier.Shell.Parser
import Frontier.Shell.Redirect
import Frontier.Shell.Script
import Frontier.Shell.Start
import Frontier.Shell.State
import Frontier.Shell.Syntax
import Frontier.Shell.Token
import Frontier.Shell.Word
import Frontier.Statement
import Frontier.Text.Blank
import Frontier.Text.CaseFold
import Frontier.Text.Category
import Frontier.Text.Digit
import Frontier.Text.Measure
import Frontier.Text.Number
import Frontier.Text.Occurs
import Frontier.Text.Quoted
import Frontier.Text.Ranges
import Frontier.Text.Unprintable
import Frontier.Text.Utf8
import Frontier.Timestamp
import Frontier.Tool.Basic
import Frontier.Tool.Decimal
import Frontier.Tool.Fields
import Frontier.Tool.Files
import Frontier.Tool.Grep
import Frontier.Tool.Numbers
import Frontier.Tool.Order
import Frontier.Tool.Running
import Frontier.Tool.Sed.Run
import Frontier.Tool.Sed.Script
import Frontier.Tool.Simple
import Frontier.Tool.Streams
import Frontier.Tool.Table
import Frontier.Transaction
import Frontier.UndoLog
import Frontier.Uuid
import Frontier.Proofs.Ledger
import Frontier.Proofs.Answers
import Frontier.Proofs.Command
import Frontier.Proofs.Listening
import Frontier.Proofs.Submission
import Frontier.Proofs.Position
import Frontier.Proofs.Forward
import Frontier.Proofs.Backward
import Frontier.Proofs.Motion
import Frontier.Proofs.Bench
import Frontier.Proofs.Synchrony
import Frontier.Proofs.Stepping
import Frontier.Proofs.Edited
import Frontier.Proofs.Retraction
import Frontier.Proofs.Erasure
import Frontier.Proofs.AnyProver
import Frontier.Proofs.Region
import Frontier.Proofs.UndoLog
import Frontier.Proofs.Replies
import Frontier.Proofs.Bookkeeping
import Frontier.Proofs.Margin
import Frontier.Proofs.Undoing
import Frontier.Proofs.Arrival
import Frontier.Proofs.Story
import Frontier.Proofs.Withdrawal
import Frontier.Proofs.Interleaving
import Frontier.Proofs.StateStack
import Frontier.Proofs.Pieces
import Frontier.Proofs.Counting
import Frontier.Proofs.Utf8
import Frontier.Proofs.Framing
import Frontier.Proofs.Delivery
import Frontier.Proofs.Frame
import Frontier.Proofs.Coalescing
import Frontier.Proofs.Encoding
import Frontier.Proofs.Grammar
import Frontier.Proofs.Batch
import Frontier.Proofs.Recording
import Frontier.Proofs.Completion
import Frontier.Proofs.Settling
import Frontier.Proofs.Rising
import Frontier.Proofs.Prompt
import Frontier.Proofs.Relay
import Frontier.Proofs.Likeness
import Frontier.Proofs.Lockstep
import Frontier.Proofs.Rejection
import Frontier.Proofs.Lookup
import Frontier.Proofs.Scan
import Frontier.Proofs.Economy
import Frontier.Proofs.Stream
import Frontier.Proofs.Published
import Frontier.Proofs.Guarded
import Frontier.Proofs.JsonText
import Frontier.Proofs.Uuid
import Frontier.Proofs.Timestamp
import Frontier.Proofs.JsonForm
import Frontier.Proofs.ReadBack
import Frontier.Proofs.Lifetime
import Frontier.Proofs.Exits
