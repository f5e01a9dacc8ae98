import CpuPinning.Decimal.Fixed
import CpuPinning.Pass.Run
import CpuPinning.Proc.Memory
import CpuPinning.Text.Quoted

/-!
# Reports

What is printed about matches, about a whole pass, and about the rules of a pin file, line by line.
-/

namespace CpuPinning

/-- Lines as they are printed, each with a line feed behind it. -/
def printed (lines : List String) : String := String.join (lines.map (· ++ "\n"))

/-- What is known of a matched process beyond its command line. -/
structure ProcessDetails where
  memory : Option Proc.MemoryUse
  connections : Option Nat
  children : Nat
  threads : Nat
deriving DecidableEq, Repr

/-- What is shown of a process that has gone. -/
def ProcessDetails.unknown : ProcessDetails := ⟨none, none, 0, 0⟩

namespace Report

/-- An amount of memory: two places, and a half goes to the even digit. -/
def amount (bytes : Nat) : String := Decimal.writeFixed 2 (megabytes bytes) ++ " [MB]"

private def memoryLine : Option Proc.MemoryUse → String
  | some m =>
      "      + Memory info: Resident Set Size (RSS): " ++ amount m.resident ++
        " | Virtual Memory Size (VMS): " ++ amount m.virtual
  | none => "      + Memory info: unavailable"

private def connectionLine : Option Nat → String
  | some n => "      + Network connection count: " ++ Text.showNat n
  | none => "      + Network connection count: unavailable"

/-- The block for a match, before its rule is applied. -/
def ofMatch (details : ProcessDetails) (m : Match) : List String :=
  let parentLines := match m.rule.parent with
    | some mask =>
        ["      + Parent mask specified! Applying mask for every children and thread!",
          "        - mask: " ++ mask.text]
    | none => []
  let threadLines := match m.rule.threads with
    | some _ => ["      + Thread masks specified! Applying thread specific masks!"]
    | none => []
  ["   -> Found process to mask!",
    "      + Command line: " ++ m.process.joined,
    "      + Matched fragment: '" ++ m.fragment ++ "'",
    "      + Process ID (PID): " ++ Text.showNat m.process.pid,
    memoryLine details.memory,
    connectionLine details.connections,
    "      + Children count: " ++ Text.showNat details.children,
    "      + Thread count: " ++ Text.showNat details.threads] ++ parentLines ++ threadLines

/-- The warning that an outcome gives cause for. -/
def warning? (pid : Nat) : Outcome → Option String
  | .outOfRange target mask _ count =>
      let whom := match target with
        | some t => " / " ++ t.text
        | none => ""
      some ("WARNING! CPU mask " ++ mask.text ++ " for pid " ++ Text.showNat pid ++ whom ++
        " contains higher CPU IDs than logical CPU count (" ++ Text.showNat count ++
        ") visible by the kernel!")
  | .ambiguous _ thread rules =>
      some ("WARNING! Thread " ++ thread ++ " of pid " ++ Text.showNat pid ++
        " matches multiple masks " ++ Text.quoteList rules ++ ", left untouched")
  | _ => none

/-- The warnings of a pass, and its figures. -/
def ofRun (r : RunReport) : List String :=
  let warnings := r.reports.flatMap fun m => m.outcomes.filterMap (warning? m.pid)
  warnings ++
    ["  -> " ++ Text.showNat r.scanned ++ " processes scanned, " ++
      Text.showNat r.reports.length ++ " matches, " ++
      Text.showNat r.appliedCount ++ " masks applied, " ++
      Text.showNat r.warningCount ++ " warnings, " ++
      Text.showNat r.vanishedCount ++ " targets vanished"]

private def ofFragment (fragment : String) (rule : CommandRule) : List String :=
  let parentLines := match rule.parent with
    | some mask => ["        - parent: " ++ mask.text]
    | none => []
  let threadLines := match rule.threads with
    | some rules => rules.map fun r =>
        "        - thread '" ++ r.pattern ++ "': " ++ r.mask.text
    | none => []
  ("      + Command line fragment: '" ++ fragment ++ "'") :: parentLines ++ threadLines ++
    (if rule.isEmpty then ["        - (no masks)"] else [])

/-- The rules of a pin file, the executables sorted by name. -/
def ofRules (rules : RuleSet) : List String :=
  rules.names.flatMap fun name =>
    ("  -> " ++ name) ::
      ((rules.get? name).getD []).flatMap fun (fragment, rule) => ofFragment fragment rule

end Report

end CpuPinning
