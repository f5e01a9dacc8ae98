import CpuPinning.Proc.Entry
import CpuPinning.Proc.Family
import CpuPinning.Report

/-!
# Processes from the process directories

The processes, their threads and their descendants, as the process directories show them.  What
vanishes while it is read is left out.
-/

namespace CpuPinning.Proc

/-- The process directories below a root. -/
structure ProcFs where
  tree : FileTree
  root : String

namespace ProcFs

/-- The directory of a process. -/
def pathOf (fs : ProcFs) (pid : Nat) : String := inside fs.root (Text.showNat pid)

/-- What is known of a process. -/
def readProcess (fs : ProcFs) (entry : Entry) : Except IoFailure ProcessInfo := do
  let comm ← readName fs.tree entry.path
  let cmdline ← readCommandLine fs.tree entry.path
  return ⟨entry.pid, processName comm cmdline, cmdline⟩

/-- All processes whose directory can be read. -/
def processes (fs : ProcFs) : Except TaskError (List ProcessInfo) :=
  match entries fs.tree fs.root with
  | .ok es => .ok (es.filterMap fun e => (fs.readProcess e).toOption)
  | .error e => .error (.failed 0 e)

/-- The processes whose parent is known, with their parents. -/
def parents (fs : ProcFs) (es : List Entry) : Parents :=
  es.filterMap fun e => (readParent fs.tree e.path).toOption.map fun parent => (e.pid, parent)

/-- The descendants of a process that is there. -/
def children (fs : ProcFs) (pid : Nat) : Except TaskError (List Nat) :=
  if !fs.tree.exists? (fs.pathOf pid) then .error (.vanished pid)
  else match entries fs.tree fs.root with
    | .ok es => .ok (descendants (fs.parents es) pid [pid] [])
    | .error e => .error (.failed pid e)

/-- The threads with some ids; those that vanished are left out. -/
def namedThreads (fs : ProcFs) (pid : Nat) : List Nat → Except TaskError (List ThreadInfo)
  | [] => .ok []
  | tid :: tids =>
      match readName fs.tree (inside (inside (fs.pathOf pid) "task") (Text.showNat tid)) with
      | .ok name => (fs.namedThreads pid tids).map (⟨tid, name⟩ :: ·)
      | .error e =>
          match TaskError.ofIo tid e with
          | .vanished _ => fs.namedThreads pid tids
          | e => .error e

/-- The threads of a process, by id. -/
def threads (fs : ProcFs) (pid : Nat) : Except TaskError (List ThreadInfo) :=
  match readTaskIds fs.tree (fs.pathOf pid) with
  | .ok tids => fs.namedThreads pid tids
  | .error e => .error (.ofIo pid e)

/-- What reports show of a process; memory and connections are left open if they cannot be read. -/
def details (fs : ProcFs) (pid : Nat) : Except TaskError ProcessDetails := do
  let children ← fs.children pid
  let threads ← fs.threads pid
  return ⟨(readMemory fs.tree (fs.pathOf pid)).toOption,
    (countConnections fs.tree (fs.pathOf pid)).toOption, children.length, threads.length⟩

/-- The block for a match, with the details at the time. -/
def reportMatch (fs : ProcFs) (m : Match) : List String :=
  Report.ofMatch ((fs.details m.process.pid).toOption.getD .unknown) m

/-- The system that the process directories show, with masks set by `set`, which keeps a
state of its own.  The directories do not change. -/
def table (fs : ProcFs) (set : σ → Nat → CpuMask → Except TaskError Unit × σ) : Table σ where
  answer s q :=
    match q with
    | .processes => (fs.processes, s)
    | .children pid => (fs.children pid, s)
    | .threads pid => (fs.threads pid, s)
    | .setAffinity id mask => set s id mask
    | .announce _ => ((), s)

/-- The matches that were announced, in order. -/
def announced (events : List Event) : List Match :=
  events.filterMap fun
    | ⟨.announce m, _⟩ => some m
    | _ => none

/-- The blocks for the matches of a pass, in order. -/
def reportMatches (fs : ProcFs) (events : List Event) : List String :=
  (announced events).flatMap fs.reportMatch

end ProcFs

/-- Why the process directories are of no use. -/
inductive StartupError where
  | notMounted (root : String)
  | noPermission (path : String) (cause : IoFailure)
deriving DecidableEq, Repr

def StartupError.message : StartupError → String
  | notMounted root => "proc filesystem not mounted at " ++ root
  | noPermission path cause => "Insufficient permissions: " ++ path ++ ": " ++ cause.message

/-- Whether the process directories can be used; only a lack of permission for the first one
counts. -/
def checkStartup (t : FileTree) (root : String) : Except StartupError Unit :=
  if !t.exists? root then .error (.notMounted root)
  else
    let path := inside (inside root "1") "task"
    match t.list path with
    | .error e => if e.kind = .permissionDenied then .error (.noPermission path e) else .ok ()
    | .ok _ => .ok ()

end CpuPinning.Proc
