import CpuPinning.Text.Blank

/-!
# Physical cores

The processor description has a block of lines for each logical processor, with blank lines
between them.  It is read line by line: the lines of a block say what package and what core
the processor is on, and the end of the block settles it.  Two processors share a core if
they name the same core of the same package.
-/

namespace CpuPinning.Host

/-- A core is named by its package and by its own name. -/
abbrev CoreName := List Char × List Char

/-- The key of the package. -/
def packageKey : List Char := "physical id".toList

/-- The key of the core. -/
def coreKey : List Char := "core id".toList

theorem packageKey_ne_coreKey : packageKey ≠ coreKey := by decide

/-- What is known after some lines: the cores of the blocks that have ended, each once, and what the
current block says of package and core. -/
structure CoreScan where
  cores : List CoreName
  package : Option (List Char)
  core : Option (List Char)
deriving DecidableEq, Repr

namespace CoreScan

def start : CoreScan := ⟨[], none, none⟩

/-- Ends the current block; the package is `0` if it is not named. -/
def endBlock (s : CoreScan) : CoreScan where
  cores :=
    match s.core with
    | some core => s.cores.insert (s.package.getD ['0'], core)
    | none => s.cores
  package := none
  core := none

/-- Takes note of the value of a key. -/
def note (s : CoreScan) (key value : List Char) : CoreScan :=
  if key = packageKey then { s with package := some value }
  else if key = coreKey then { s with core := some value }
  else s

/-- Reads a line; a blank one ends the block. -/
def readLine (s : CoreScan) (line : List Char) : CoreScan :=
  if (Text.trim line).isEmpty then s.endBlock
  else match Text.splitOnce ':' line with
    | some (key, value) => s.note (Text.trim key) (Text.trim value)
    | none => s

variable {s : CoreScan}

theorem note_package (value : List Char) :
    s.note packageKey value = { s with package := some value } := if_pos rfl

theorem note_core (value : List Char) : s.note coreKey value = { s with core := some value } := by
  rw [note, if_neg packageKey_ne_coreKey.symm, if_pos rfl]

theorem note_other {key : List Char} (hpackage : key ≠ packageKey) (hcore : key ≠ coreKey)
    (value : List Char) : s.note key value = s := by
  rw [note, if_neg hpackage, if_neg hcore]

theorem endBlock_endBlock : s.endBlock.endBlock = s.endBlock := rfl

theorem readLine_of_blank {line : List Char} (h : ∀ c ∈ line, Text.isBlank c = true) :
    s.readLine line = s.endBlock := by
  rw [readLine, Text.trim_eq_nil_iff.2 h]
  rfl

theorem readLine_nil : s.readLine [] = s.endBlock := rfl

theorem isEmpty_trim_of_seen {line : List Char} (h : ∃ c ∈ line, Text.isBlank c = false) :
    ¬(Text.trim line).isEmpty = true := by
  rw [List.isEmpty_iff, Text.trim_eq_nil_iff]
  intro hblank
  obtain ⟨c, hc, hseen⟩ := h
  rw [hblank c hc] at hseen
  cases hseen

theorem readLine_of_remark {line : List Char} (hseen : ∃ c ∈ line, Text.isBlank c = false)
    (hcolon : ':' ∉ line) : s.readLine line = s := by
  rw [readLine, if_neg (isEmpty_trim_of_seen hseen), Text.splitOnce_of_not_mem hcolon]

theorem readLine_of_entry {before : List Char} (hcolon : ':' ∉ before) (after : List Char) :
    s.readLine (before ++ ':' :: after) = s.note (Text.trim before) (Text.trim after) := by
  have hseen : ∃ c ∈ before ++ ':' :: after, Text.isBlank c = false :=
    ⟨':', by simp, by decide⟩
  rw [readLine, if_neg (isEmpty_trim_of_seen hseen), Text.splitOnce_append_cons hcolon]

end CoreScan

/-- The number of cores, if any processor names one.  The end of the text ends a block, as a
blank line does. -/
def physicalCores? (text : List Char) : Option Nat :=
  let cores := ((Text.lines text ++ [[]]).foldl CoreScan.readLine .start).cores
  if cores.isEmpty then none else some cores.length

end CpuPinning.Host
