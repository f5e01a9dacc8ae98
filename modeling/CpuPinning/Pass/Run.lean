import CpuPinning.Pass.Apply

/-!
# A whole pass

All processes are listed once and matched against the rules; then every match is announced
and applied, in order.  An error ends the pass at once, and what was set before stays set.
-/

namespace CpuPinning

/-- What became of a match. -/
structure MatchReport where
  pid : Nat
  name : String
  fragment : String
  outcomes : List Outcome
deriving DecidableEq

/-- What became of a whole pass. -/
structure RunReport where
  scanned : Nat
  reports : List MatchReport
deriving DecidableEq

namespace RunReport

def outcomes (r : RunReport) : List Outcome := r.reports.flatMap (·.outcomes)

def appliedCount (r : RunReport) : Nat := r.outcomes.countP (·.isApplied)

def warningCount (r : RunReport) : Nat := r.outcomes.countP (·.isWarning)

def vanishedCount (r : RunReport) : Nat := r.outcomes.countP (·.isVanished)

end RunReport

/-- Announces a match and applies it. -/
def runMatch (opts : Options) (m : Match) : Pass MatchReport :=
  .ask (.announce m) fun _ => do
    let outcomes ← apply opts m.process m.rule
    return ⟨m.process.pid, m.process.name, m.fragment, outcomes⟩

/-- Runs through some matches, in order. -/
def runMatches (opts : Options) : List Match → Pass (List MatchReport)
  | [] => pure []
  | m :: ms => do
      let report ← runMatch opts m
      return report :: (← runMatches opts ms)

/-- The pass that a rule set asks for. -/
def run (rules : RuleSet) (opts : Options) : Pass RunReport :=
  .ask .processes fun
    | .ok processes => do
        let reports ← runMatches opts (matchProcesses rules processes)
        return ⟨processes.length, reports⟩
    | .error e => .fail (.task e)

end CpuPinning
