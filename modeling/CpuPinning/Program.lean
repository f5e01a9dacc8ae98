import CpuPinning.Arguments
import CpuPinning.Host.Inventory
import CpuPinning.PinFile
import CpuPinning.Proc.Table
import CpuPinning.Text.Quoted
import CpuPinning.Usage

/-!
# The program

A run from its arguments to its exit code: the arguments are read, the host is described,
the pin file is loaded, and its rules are shown or applied.  What is printed is a list of
lines.
-/

namespace CpuPinning

/-- What a run finds around it. -/
structure Environment (σ : Type) where
  /-- The text of a file. -/
  fileText : String → Except IoFailure (List Char)
  /-- How many CPUs the program may run on. -/
  cpuCount : Except TaskError Nat
  /-- The processes, and what sets their masks. -/
  table : Table σ
  /-- The block that is printed for a match. -/
  reportMatch : Match → List String

/-- What a run printed, its exit code, and the state it left. -/
structure Finish (σ : Type) where
  lines : List String
  exitCode : Nat
  state : σ

namespace Program

/-- The exit code for an error, if exit codes are strict. -/
def fatalCode : Nat := 1

/-- The exit code for a run with warnings, if exit codes are strict. -/
def warningCode : Nat := 2

/-- An exit code that is kept only if exit codes are strict. -/
def exitCode (args : Arguments) (code : Nat) : Nat := if args.strictExitCodes then code else 0

/-- What is printed when no pass follows; misuse gets the help in short, with an empty line. -/
def refuse : Refusal → List String
  | .help full => if full then Usage.full else Usage.short
  | .version => Usage.version
  | .misuse _ => Usage.short ++ [""]

/-- The last lines of a pass that stopped. -/
def failureLines (e : PinError) : List String :=
  e.message :: match e with
    | .ambiguous .. => ["Use --ambiguous-threads skip to leave such threads untouched."]
    | _ => []

/-- The last lines of a pass that went through. -/
def successLines (r : RunReport) : List String :=
  "" :: Report.ofRun r ++ ["### CPU affinity applied!"]

/-- Applies the rules to all processes. -/
def applyRules (env : Environment σ) (args : Arguments) (cpuCount : Nat) (rules : RuleSet) (s : σ) :
    Finish σ :=
  let e := (run rules ⟨cpuCount, args.policy⟩).exec env.table s
  let heading := "### Attempt to find and apply cpu mask for the following processes: " ++
    Text.quoteList rules.names
  let before := heading :: (Proc.ProcFs.announced e.events).flatMap env.reportMatch
  match e.result with
  | .ok report =>
      let warnings := report.warningCount + rules.warnings.length
      ⟨before ++ successLines report, if warnings = 0 then 0 else exitCode args warningCode,
        e.state⟩
  | .error err => ⟨before ++ failureLines err, exitCode args fatalCode, e.state⟩

/-- Shows the rules instead of applying them. -/
def showRules (rules : RuleSet) : List String :=
  Report.ofRules rules ++
    ["✅ Pin file is valid (" ++ Text.showNat rules.processes.length ++ " processes)"]

/-- Goes on when the rules are loaded. -/
def withRules (env : Environment σ) (args : Arguments) (cpuCount : Nat) (rules : RuleSet) (s : σ) :
    Finish σ :=
  let rest :=
    if args.checkConfig then ⟨showRules rules, 0, s⟩ else applyRules env args cpuCount rules s
  { rest with lines := rules.warnings.map (·.message) ++ "" :: rest.lines }

/-- Goes on with a pin file. -/
def withPinFile (env : Environment σ) (args : Arguments) (path : String) (cpuCount : Nat) (s : σ) :
    Finish σ :=
  let rest := match PinFile.load path (env.fileText path) with
    | .ok (_, rules) => withRules env args cpuCount rules s
    | .error e => ⟨[e.message], exitCode args fatalCode, s⟩
  { rest with lines := "### Parsing CPU mask file..." :: rest.lines }

/-- Goes on with arguments that name a pin file. -/
def withArguments (env : Environment σ) (args : Arguments) (path : String) (s : σ) : Finish σ :=
  match env.cpuCount with
  | .error e =>
      ⟨[Host.inventoryHeading, "Failed to read own CPU affinity: " ++ e.message],
        exitCode args fatalCode, s⟩
  | .ok cpuCount =>
      let rest := withPinFile env args path cpuCount s
      let inventory :=
        Host.inventory cpuCount (env.fileText Host.processorPath) (env.fileText Host.memoryPath)
      { rest with lines := Host.inventoryHeading :: inventory ++ rest.lines }

/-- A whole run. -/
def execute (env : Environment σ) (words : List String) (s : σ) : Finish σ :=
  match Arguments.read words with
  | .error r => ⟨refuse r, 0, s⟩
  | .ok args =>
      match args.pinFile with
      | none => ⟨Usage.short ++ [""], 0, s⟩
      | some path => withArguments env args path s

end Program

/-- The place of the process directories. -/
def procRoot : String := "/proc"

/-- What a run finds in a file system, where `set` sets masks. -/
def Environment.ofFiles (t : Proc.FileTree) (cpuCount : Except TaskError Nat)
    (set : σ → Nat → CpuMask → Except TaskError Unit × σ) : Environment σ :=
  let fs : Proc.ProcFs := ⟨t, procRoot⟩
  ⟨t.readText, cpuCount, fs.table set, fs.reportMatch⟩

end CpuPinning
