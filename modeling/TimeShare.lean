import TimeShare.Main
import TimeShare.Preemption.FlagPool
import TimeShare.Proofs.Processor.Straight
import TimeShare.Record.Config
import TimeShare.Record.Error
import TimeShare.Trace.Sink
import TimeShare.Proofs.Task.Lifecycle
import TimeShare.Proofs.Scheduler.Effects
import TimeShare.Proofs.Scheduler.Steps
import TimeShare.Proofs.Scheduler.Dispatches
import TimeShare.Proofs.Scheduler.Transparency
import TimeShare.Proofs.Scheduler.Lifecycle
import TimeShare.Proofs.Processor.Records
import TimeShare.Proofs.Scheduler.Accounts
import TimeShare.Proofs.Scheduler.Termination
import TimeShare.Proofs.Scheduler.Books
import TimeShare.Proofs.Processor.Transcript
import TimeShare.Proofs.Scheduler.Transcripts
import TimeShare.Proofs.Scheduler.Grammar
import TimeShare.Proofs.Scheduler.Chronicle
import TimeShare.Proofs.Scheduler.Iteration
import TimeShare.Proofs.Scheduler.Fairness
import TimeShare.Proofs.Processor.Polling
import TimeShare.Proofs.Scheduler.Progress
import TimeShare.Proofs.Scheduler.Blockade
import TimeShare.Proofs.Processor.Refinement
import TimeShare.Proofs.Scheduler.Observer
import TimeShare.Proofs.Processor.Control
import TimeShare.Proofs.Scheduler.Control
import TimeShare.Proofs.Scheduler.Admission
import TimeShare.Proofs.Scheduler.Priority
import TimeShare.Proofs.Text.Blank
import TimeShare.Proofs.Text.Decimal
import TimeShare.Proofs.Text.Words
import TimeShare.Proofs.Instruction.Grammar
import TimeShare.Proofs.Instruction.Notation
import TimeShare.Proofs.Text.Lines
import TimeShare.Proofs.Program.Loading
import TimeShare.Proofs.Program.Notation
import TimeShare.Proofs.Processor.Replay
import TimeShare.Proofs.Processor.Latency
import TimeShare.Proofs.Processor.Exact
import TimeShare.Proofs.Scheduler.Flags
import TimeShare.Proofs.Scheduler.Forecast
import TimeShare.Proofs.Json.Quoted
import TimeShare.Proofs.Json.Scan
import TimeShare.Proofs.Json.Reader
import TimeShare.Proofs.Record.Event
import TimeShare.Proofs.Trace.Event
import TimeShare.Proofs.Trace.Sink
import TimeShare.Proofs.Json.Fields
import TimeShare.Proofs.Record.Error
import TimeShare.Proofs.Record.Report
import TimeShare.Proofs.Config.TimeSlice
import TimeShare.Proofs.Record.Config
import TimeShare.Proofs.Config.Environment
import TimeShare.Proofs.Processor.StackOrder
import TimeShare.Proofs.Preemption.Sharing
import TimeShare.Proofs.Scheduler.Outcome
import TimeShare.Proofs.Session.Loading
import TimeShare.Proofs.Session.Stages
import TimeShare.Proofs.Json.Layout
import TimeShare.Proofs.Record.Summary
import TimeShare.Proofs.CommandLine
import TimeShare.Proofs.Session.Printing
