import CpuPinning.Text.Path
import CpuPinning.Text.Utf8

/-!
# Command lines and names

The kernel keeps the arguments of a process with a null byte after each, and only the first fifteen
bytes of its name.  A longer name is taken from the first argument, if that fits.
-/

namespace CpuPinning.Proc

/-- The bytes without one null byte at their end. -/
def dropTerminator (bytes : List UInt8) : List UInt8 :=
  if bytes.getLast? = some 0 then bytes.dropLast else bytes

/-- The arguments of a command line; nothing but a terminator means that there are none. -/
def splitCommandLine (bytes : List UInt8) : List String :=
  let bytes := dropTerminator bytes
  if bytes.isEmpty then []
  else (Text.splitBy (· == 0) bytes).map fun arg => String.ofList (Text.decodeLossy arg)

/-- The longest name that the kernel keeps, in bytes. -/
def nameLimit : Nat := 15

/-- The name of an executable: the kernel's, or the longer one that the first argument shows. -/
def processName (comm : String) (cmdline : List String) : String :=
  if comm.utf8ByteSize < nameLimit then comm
  else match cmdline.head?.bind (Text.fileName? ·.toList) with
    | some base => if comm.toList.isPrefixOf base then String.ofList base else comm
    | none => comm

/-- A name without the line feeds at its end. -/
def trimName (cs : List Char) : List Char := (cs.reverse.dropWhile (· == '\n')).reverse

theorem trimName_concat (cs : List Char) : trimName (cs ++ ['\n']) = trimName cs := by
  simp [trimName]

/-- Nothing but line feeds is lost. -/
theorem exists_eq_trimName_append (cs : List Char) :
    ∃ n, cs = trimName cs ++ List.replicate n '\n' := by
  have hsplit : cs.reverse.takeWhile (· == '\n') ++ cs.reverse.dropWhile (· == '\n') =
      cs.reverse := List.takeWhile_append_dropWhile
  have hfeeds : ∀ c ∈ (cs.reverse.takeWhile (· == '\n')).reverse, c = '\n' := by
    intro c hc
    simpa using List.all_eq_true.1 List.all_takeWhile c (List.mem_reverse.1 hc)
  refine ⟨(cs.reverse.takeWhile (· == '\n')).reverse.length, ?_⟩
  rw [trimName, ← List.eq_replicate_of_mem hfeeds, ← List.reverse_append, hsplit,
    List.reverse_reverse]

theorem getLast?_trimName (cs : List Char) : (trimName cs).getLast? ≠ some '\n' := by
  intro hlast
  have hhead := List.head?_dropWhile_not (· == '\n') cs.reverse
  rw [trimName, List.getLast?_reverse] at hlast
  rw [hlast] at hhead
  simp at hhead

end CpuPinning.Proc
