import CpuPinning.Host.Affinity
import CpuPinning.Main
import CpuPinning.Pass.Snapshot
import CpuPinning.Proc.Directory
import CpuPinning.Proofs.Pass.Course
import CpuPinning.Proofs.Pass.Log
import CpuPinning.Proofs.Pass.Steps
import CpuPinning.Proofs.Pass.Plan
import CpuPinning.Proofs.Pass.Justification
import CpuPinning.Proofs.Pass.Bookkeeping
import CpuPinning.Proofs.Pass.Ending
import CpuPinning.Proofs.Pass.Failure
import CpuPinning.Proofs.Pass.FinalMask
import CpuPinning.Proofs.Pass.Isolation
import CpuPinning.Proofs.Pass.Policies
import CpuPinning.Proofs.Rule.Schema
import CpuPinning.Proofs.Rule.Compilation
import CpuPinning.Proofs.Relation.Chain
import CpuPinning.Proofs.Pattern.Span
import CpuPinning.Proofs.Pattern.Match
import CpuPinning.Proofs.Pattern.Occurrence
import CpuPinning.Proofs.Pattern.Continuation.Basic
import CpuPinning.Proofs.Pattern.Continuation.Atom
import CpuPinning.Proofs.Pattern.Continuation.Bracket
import CpuPinning.Proofs.Pattern.Continuation.Step
import CpuPinning.Proofs.Pattern.Nested
import CpuPinning.Proofs.Pattern.Anchors
import CpuPinning.Proofs.Pattern.EarlyClose
import CpuPinning.Proofs.Rule.WholeName
import CpuPinning.Proofs.Proc.Search
import CpuPinning.Proofs.Proc.Descendants
import CpuPinning.Proofs.Rule.Matching
import CpuPinning.Proofs.Mask.Reading
import CpuPinning.Proofs.Mask.Grammar
import CpuPinning.Proofs.Mask.Display
import CpuPinning.Proofs.Host.Affinity
import CpuPinning.Proofs.Pass.Questions
import CpuPinning.Proofs.Pass.Submission
import CpuPinning.Proofs.Proc.Likeness
import CpuPinning.Proofs.Text.Utf8
import CpuPinning.Proofs.Proc.CommandName
import CpuPinning.Proofs.Proc.ThreadNames
import CpuPinning.Proofs.Program.ExitCode
import CpuPinning.Proofs.Rule.FileOrder
import CpuPinning.Proofs.Pass.Repetition
import CpuPinning.Proofs.Pass.ProcessOrder
import CpuPinning.Proofs.Pass.RuleOrder
import CpuPinning.Proofs.Pass.Composition
import CpuPinning.Proofs.Mask.Notations
import CpuPinning.Proofs.Proc.CommandLine
import CpuPinning.Proofs.Proc.ExecutableName
import CpuPinning.Proofs.Proc.EntryOrder
import CpuPinning.Proofs.Host.Cores
import CpuPinning.Proofs.Proc.Connections
import CpuPinning.Proofs.Proc.StatusLine
import CpuPinning.Proofs.Host.MemoryStatus
