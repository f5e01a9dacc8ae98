import CpuPinning.Decimal.Fixed
import CpuPinning.Fault.Basic
import CpuPinning.Host.Core
import CpuPinning.Host.Memory

/-!
# Inventory of the host

What is shown of the host before anything else: its CPUs and its memory.
-/

namespace CpuPinning.Host

/-- Where the kernel describes the processors. -/
def processorPath : String := "/proc/cpuinfo"

/-- Where the kernel tells the memory status. -/
def memoryPath : String := "/proc/meminfo"

/-- The text of a file, or why it cannot be read. -/
private def textOf (path : String) (content : Except IoFailure (List Char)) :
    Except String (List Char) :=
  content.mapError fun e => "Failed to read " ++ path ++ ": " ++ e.message

private def coresLine (processors : Except IoFailure (List Char)) : String :=
  let cores := textOf processorPath processors >>= fun text =>
    match physicalCores? text with
    | some n => .ok n
    | none => .error ("No core topology found in " ++ processorPath)
  match cores with
  | .ok n => "  -> Physical CPU count: " ++ Text.showNat n
  | .error e => "  -> Physical CPU count: unknown (" ++ e ++ ")"

private def amount (bytes : Nat) : String := Decimal.writeFixed 2 (megabytes bytes)

private def memoryLine (memory : Except IoFailure (List Char)) : String :=
  let status := textOf memoryPath memory >>= fun text =>
    match memoryStatus? text with
    | some m => .ok m
    | none => .error memoryStatusMissing
  match status with
  | .ok m =>
      "  -> Memory status: total=" ++ amount m.total ++ " [MB] available=" ++ amount m.available ++
        " [MB] used=" ++ Decimal.writeFixed 1 m.usedPercent ++ "% cached=" ++ amount m.cached ++
        " [MB] buffers=" ++ amount m.buffers ++ " [MB] swap=" ++ amount m.swapFree ++ "/" ++
        amount m.swapTotal ++ " [MB] free"
  | .error e => "  -> Memory status: unknown (" ++ e ++ ")"

/-- The heading of the inventory. -/
def inventoryHeading : String := "### Basic information..."

/-- The inventory below its heading. -/
def inventory (cpuCount : Nat) (processors memory : Except IoFailure (List Char)) : List String :=
  ["  -> Logical CPU count: " ++ Text.showNat cpuCount, coresLine processors, memoryLine memory, ""]

end CpuPinning.Host
