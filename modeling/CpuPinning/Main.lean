import CpuPinning.Program

/-!
# The command

Gathers what a run needs to know of the host, carries the run out and prints its lines.  The
processes are read once, before the run.  There is no way from here to the call that sets an
affinity, so that each attempt fails as a call that the system has not.
-/

namespace CpuPinning.Main

/-- Why a file could not be read. -/
def ioFailure : IO.Error → IoFailure
  | .noFileOrDirectory _ code _ => .errno code.toNat
  | .permissionDenied _ code _ => .errno code.toNat
  | .inappropriateType _ code _ => .errno code.toNat
  | .noSuchThing _ code _ => .errno code.toNat
  | .otherError code _ => .errno code.toNat
  | e => .described .other (toString e)

/-- The bytes of a file. -/
def readBytes (path : String) : IO (Except IoFailure (List UInt8)) := do
  try
    let bytes ← IO.FS.readBinFile path
    return .ok bytes.toList
  catch e => return .error (ioFailure e)

/-- The text of a file. -/
def readText (path : String) : IO (Except IoFailure (List Char)) := do
  match ← readBytes path with
  | .error e => return .error e
  | .ok bytes =>
      match Text.decode? bytes with
      | some cs => return .ok cs
      | none => return .error .notText

/-- The value of a key in a status file. -/
def statusValue? (key : String) (text : List Char) : Option (List Char) :=
  (Text.lines text).findSome? fun line =>
    match Text.splitOnce ':' line with
    | some (k, value) => if k = key.toList then some (Text.trim value) else none
    | none => none

/-- How many CPUs the program may run on. -/
def cpuCount : IO (Except TaskError Nat) := do
  match ← readText "/proc/self/status" with
  | .error e => return .error (.ofIo 0 e)
  | .ok text =>
      let allowed := statusValue? "Cpus_allowed_list" text
      match allowed.map fun cs => readMask (.str (String.ofList cs)) with
      | some (.ok mask) => return .ok mask.size
      | _ => return .error (.failed 0 (.bare .invalidData))

/-- Copies a file of a process or thread, if it is there. -/
def copyFile (source target : String) (t : Proc.FileTree) : IO Proc.FileTree := do
  match ← readBytes source with
  | .ok bytes => return t.put target (.file bytes)
  | .error _ => return t

/-- Copies what is known of the process or thread with a number, if there is one. -/
def copyTask (t : Proc.FileTree) (id : Nat) : IO Proc.FileTree := do
  let source := procRoot ++ "/" ++ Text.showNat id
  match ← readText (source ++ "/status") with
  | .error _ => return t
  | .ok status =>
      let group := String.ofList ((statusValue? "Tgid" status).getD [])
      let path := "proc/" ++ group
      let mut t ← copyFile (source ++ "/comm") (path ++ "/task/" ++ Text.showNat id ++ "/comm") t
      if group = Text.showNat id then
        for name in ["comm", "cmdline", "stat", "statm"] do
          t ← copyFile (source ++ "/" ++ name) (path ++ "/" ++ name) t
      return t

/-- The process directories of the host; every number is tried that a process may have. -/
def processTree : IO Proc.FileTree := do
  let limit := ((← readText "/proc/sys/kernel/pid_max").toOption.bind fun cs =>
    Text.readDigits? (Text.trim cs)).getD 32768
  let mut t : Proc.FileTree := ⟨.dir [("proc", .dir [])], []⟩
  for id in [1:limit] do
    t ← copyTask t id
  return t

/-- A call that the system has not. -/
def noSuchCall : IoFailure := .errno 38

/-- What a run finds around it. -/
def environment (words : List String) : IO (Environment Unit) := do
  let (paths, live) := match Arguments.read words with
    | .ok args => (args.pinFile.toList ++ [Host.processorPath, Host.memoryPath],
        args.pinFile.isSome && !args.checkConfig)
    | .error _ => ([], false)
  let texts ← paths.mapM fun path => do return (path, ← readText path)
  let tree ← if live then processTree else pure ⟨.dir [], []⟩
  let fs : Proc.ProcFs := ⟨tree, procRoot⟩
  return {
    fileText := fun path => (texts.lookup path).getD (.error Proc.noEntry)
    cpuCount := ← cpuCount
    table := fs.table fun s id _ => (.error (.ofIo id noSuchCall), s)
    reportMatch := fs.reportMatch }

end CpuPinning.Main

/-- Carries out a run and ends with its exit code. -/
def main (words : List String) : IO UInt32 := do
  let env ← CpuPinning.Main.environment words
  let finish := CpuPinning.Program.execute env words ()
  for line in finish.lines do
    IO.println line
  return UInt32.ofNat finish.exitCode
