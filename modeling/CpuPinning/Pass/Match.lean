import CpuPinning.Proc.Process
import CpuPinning.Rule.Basic
import CpuPinning.Text.Search

/-!
# Matches

A process matches a fragment if rules for its executable name have the fragment and it occurs in its
command line.  A process may match several fragments, and every match counts.
-/

namespace CpuPinning

/-- A process with a rule that is for it. -/
structure Match where
  process : ProcessInfo
  fragment : String
  rule : CommandRule

/-- The fragments of an executable that occur in the command line of a process. -/
def matchesOf (process : ProcessInfo) (rules : ProcessRule) : List Match :=
  let cmdline := process.joined.toList
  (rules.filter fun (fragment, _) => Text.occurs fragment.toList cmdline).map
    fun (fragment, rule) => ⟨process, fragment, rule⟩

/-- All matches, by the order of the processes and then by the order of the file. -/
def matchProcesses (rules : RuleSet) (processes : List ProcessInfo) : List Match :=
  processes.flatMap fun process =>
    match rules.get? process.name with
    | some fragments => matchesOf process fragments
    | none => []

end CpuPinning
