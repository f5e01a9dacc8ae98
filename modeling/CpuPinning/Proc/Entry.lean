import CpuPinning.Proc.CommandLine
import CpuPinning.Proc.FileTree
import CpuPinning.Proc.Memory
import CpuPinning.Proc.Socket
import CpuPinning.Proc.Stat

/-!
# Process directories

The kernel shows each process as a directory that is named by its number.  Here the files of such a
directory are read.
-/

namespace CpuPinning.Proc

/-- A path inside a directory. -/
def inside (path name : String) : String := path ++ "/" ++ name

/-- A process directory. -/
structure Entry where
  pid : Nat
  path : String
deriving DecidableEq, Repr

/-! ## Sorting by numbers -/

section Sorting

variable {α : Type} (number : α → Nat) {as as' : List α}

theorem pairwise_le_mergeSort (as : List α) :
    (as.mergeSort fun a b => number a ≤ number b).Pairwise fun a b => number a ≤ number b := by
  have hsorted : (as.mergeSort fun a b => number a ≤ number b).Pairwise fun a b =>
      decide (number a ≤ number b) = true := by
    apply List.pairwise_mergeSort
    · intro a b c hab hbc
      exact decide_eq_true (Nat.le_trans (of_decide_eq_true hab) (of_decide_eq_true hbc))
    · intro a b
      simpa using Nat.le_total (number a) (number b)
  exact hsorted.imp of_decide_eq_true

/-- What has different numbers is sorted strictly by them. -/
theorem pairwise_lt_mergeSort (hdistinct : (as.map number).Nodup) :
    (as.mergeSort fun a b => number a ≤ number b).Pairwise fun a b => number a < number b := by
  have hapart := List.pairwise_map.1
    (((List.mergeSort_perm as fun a b => number a ≤ number b).map number).nodup_iff.2 hdistinct)
  exact ((pairwise_le_mergeSort number as).and hapart).imp fun hle =>
    Nat.lt_of_le_of_ne hle.1 hle.2

/-- Where a number stands for one thing only, sorting by the numbers forgets the order
before. -/
theorem mergeSort_eq_of_perm (hperm : as.Perm as')
    (hone : ∀ a ∈ as, ∀ b ∈ as, number a = number b → a = b) :
    (as.mergeSort fun a b => number a ≤ number b) =
      as'.mergeSort fun a b => number a ≤ number b := by
  refine List.Perm.eq_of_pairwise ?_ (pairwise_le_mergeSort number as)
    (pairwise_le_mergeSort number as') ?_
  · intro a b ha hb hab hba
    have hb' : b ∈ as := hperm.mem_iff.2 (List.mem_mergeSort.1 hb)
    exact hone a (List.mem_mergeSort.1 ha) b hb' (Nat.le_antisymm hab hba)
  · exact (List.mergeSort_perm as _).trans (hperm.trans (List.mergeSort_perm as' _).symm)

end Sorting

/-! ## Reading -/

/-- The number that a directory name denotes; only digits count. -/
def pidOfName? (name : String) : Option Nat :=
  (Text.readDigits? name.toList).filter (· < Text.word32)

/-- The process directories below a root, by number. -/
def entries (t : FileTree) (root : String) : Except IoFailure (List Entry) :=
  (t.list root).map fun names =>
    (names.filterMap fun name => (pidOfName? name).map fun pid => ⟨pid, inside root name⟩).mergeSort
      fun a b => a.pid ≤ b.pid

/-- The name of a process or thread. -/
def readName (t : FileTree) (path : String) : Except IoFailure String :=
  (t.readText (inside path "comm")).map fun cs => String.ofList (trimName cs)

/-- The arguments of a process. -/
def readCommandLine (t : FileTree) (path : String) : Except IoFailure (List String) :=
  (t.readBytes (inside path "cmdline")).map splitCommandLine

private def malformed (what : String) : IoFailure :=
  .described .other ("Invalid " ++ what ++ " format")

/-- The parent of a process. -/
def readParent (t : FileTree) (path : String) : Except IoFailure Nat := do
  match parentPid? (← t.readText (inside path "stat")) with
  | some pid => .ok pid
  | none => .error (malformed "stat")

/-- The thread ids of a process, ascending. -/
def readTaskIds (t : FileTree) (path : String) : Except IoFailure (List Nat) :=
  (t.list (inside path "task")).map fun names =>
    (names.filterMap fun name => Text.readNat? Text.word32 name.toList).mergeSort (· ≤ ·)

/-- The page size of the system. -/
def pageSize : Nat := 4096

/-- The memory of a process. -/
def readMemory (t : FileTree) (path : String) : Except IoFailure MemoryUse := do
  match memoryOfPages? (← t.readText (inside path "statm")) pageSize with
  | some m => .ok m
  | none => .error (malformed "statm")

/-- The tables of network sockets. -/
def socketTables : List String := ["tcp", "tcp6", "udp", "udp6"]

/-- The sockets of some tables; a table that does not exist has none. -/
def listedSockets (t : FileTree) (path : String) : List String → Except IoFailure (List Nat)
  | [] => .ok []
  | table :: tables =>
      match t.readText (inside (inside path "net") table) with
      | .ok text => (listedSockets t path tables).map (socketNumbers text ++ ·)
      | .error e => if e.kind = .notFound then listedSockets t path tables else .error e

/-- The number of descriptors that lead to a network socket. -/
def countConnections (t : FileTree) (path : String) : Except IoFailure Nat := do
  let sockets ← listedSockets t path socketTables
  let descriptors ← t.list (inside path "fd")
  return descriptors.countP fun fd =>
    match t.readLink (inside (inside path "fd") fd) with
    | .ok target =>
        match socketOfLink? target.toList with
        | some n => sockets.contains n
        | none => false
    | .error _ => false

end CpuPinning.Proc
