import CpuPinning.Proc.Entry

/-!
# Writing process directories

The directory of a process, as the kernel shows it, for a process with a single thread that
has no network connection.
-/

namespace CpuPinning.Proc

/-- A process with a single thread. -/
structure Task where
  pid : Nat
  parent : Nat
  /-- Its name, of which the kernel keeps no more than the first bytes. -/
  name : List UInt8
  arguments : List (List UInt8)
deriving DecidableEq

namespace Task

def keptName (t : Task) : List UInt8 := t.name.take nameLimit

/-- The file with the name. -/
def commFile (t : Task) : List UInt8 := t.keptName ++ Text.encode ['\n']

/-- The file with the arguments, each with a null byte behind it. -/
def cmdlineFile (t : Task) : List UInt8 := t.arguments.flatMap (· ++ [0])

/-- The file with the status line. -/
def statFile (t : Task) : List UInt8 :=
  Text.encode (Text.showNat t.pid ++ " (").toList ++ t.keptName ++
    Text.encode (") S " ++ Text.showNat t.parent ++ " 1 1 0\n").toList

/-- The file with the memory, in pages. -/
def statmFile : List UInt8 := Text.encode "1 1 1 1 0 1 0\n".toList

/-- Puts the directory of a process below a root. -/
def putInto (root : String) (tree : FileTree) (t : Task) : FileTree :=
  let path := inside root (Text.showNat t.pid)
  let thread := inside (inside path "task") (Text.showNat t.pid)
  (tree.makeDirectory (inside path "fd"))
    |>.put (inside path "comm") (.file t.commFile)
    |>.put (inside path "cmdline") (.file t.cmdlineFile)
    |>.put (inside path "stat") (.file t.statFile)
    |>.put (inside path "statm") (.file statmFile)
    |>.put (inside thread "comm") (.file t.commFile)

end Task

end CpuPinning.Proc
