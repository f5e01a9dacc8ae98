/-!
# Processes and threads

What is known of a running process and of a thread at the moment when they are listed.
-/

namespace CpuPinning

/-- A process that was running when the processes were listed. -/
structure ProcessInfo where
  pid : Nat
  /-- The name of the executable. -/
  name : String
  cmdline : List String
deriving DecidableEq, Repr

/-- The arguments with single spaces between them; fragments are looked for in this text. -/
def ProcessInfo.joined (p : ProcessInfo) : String := String.intercalate " " p.cmdline

/-- A thread of a process. -/
structure ThreadInfo where
  tid : Nat
  name : String
deriving DecidableEq, Repr

end CpuPinning
