import CpuPinning.Pass.Basic

/-!
# Snapshots

A system in memory that stays as it is, apart from the masks that are set on it.  Single
calls can be made to fail.
-/

namespace CpuPinning

/-- The calls that can be made to fail. -/
inductive Call where
  | processes
  | children (pid : Nat)
  | threads (pid : Nat)
  | setAffinity (id : Nat)
deriving DecidableEq, Repr

/-- The call that a query makes, if it makes one. -/
def Query.call? : Query → Option Call
  | processes => some .processes
  | children pid => some (.children pid)
  | threads pid => some (.threads pid)
  | setAffinity id _ => some (.setAffinity id)
  | announce _ => none

/-- The values of keys, of which each has at most one. -/
abbrev Assignment (κ α : Type) := List (κ × α)

namespace Assignment

variable {κ α : Type} [BEq κ]

def get? (m : Assignment κ α) (key : κ) : Option α := m.lookup key

def erase (m : Assignment κ α) (key : κ) : Assignment κ α := m.filter fun (k, _) => !(k == key)

def set (m : Assignment κ α) (key : κ) (value : α) : Assignment κ α :=
  (key, value) :: m.erase key

end Assignment

/-- A system that stays as it is. -/
structure Snapshot where
  processes : List ProcessInfo
  children : Assignment Nat (List Nat)
  threads : Assignment Nat (List ThreadInfo)
  faults : Assignment Call TaskError
  masks : Assignment Nat CpuMask

namespace Snapshot

def empty : Snapshot := ⟨[], [], [], [], []⟩

/-- Adds a process with its threads and descendants. -/
def addProcess (s : Snapshot) (p : ProcessInfo) (threads : List ThreadInfo) (children : List Nat) :
    Snapshot :=
  { s with
    processes := s.processes ++ [p]
    threads := s.threads.set p.pid threads
    children := s.children.set p.pid children }

/-- Takes a process off the list; its threads stay. -/
def unlist (s : Snapshot) (pid : Nat) : Snapshot :=
  { s with processes := s.processes.filter (·.pid ≠ pid) }

/-- Lets a process exit that stays on the list. -/
def exit (s : Snapshot) (pid : Nat) : Snapshot :=
  { s with threads := s.threads.erase pid, children := s.children.erase pid }

/-- Answers a query: a fault if there is one for the call, and else what the snapshot holds. -/
def answer (s : Snapshot) (q : Query) : q.Answer × Snapshot :=
  let fault := q.call?.bind s.faults.get?
  match q, fault with
  | .processes, none => (.ok s.processes, s)
  | .processes, some e => (.error e, s)
  | .children pid, none => (.ok ((s.children.get? pid).getD []), s)
  | .children _, some e => (.error e, s)
  | .threads pid, none =>
      match s.threads.get? pid with
      | some threads => (.ok threads, s)
      | none => (.error (.vanished pid), s)
  | .threads _, some e => (.error e, s)
  | .setAffinity id mask, none => (.ok (), { s with masks := s.masks.set id mask })
  | .setAffinity .., some e => (.error e, s)
  | .announce _, _ => ((), s)

def table : Table Snapshot := ⟨answer⟩

end Snapshot

end CpuPinning
