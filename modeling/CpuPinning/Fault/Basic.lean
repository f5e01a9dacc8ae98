import CpuPinning.Fault.Errno
import CpuPinning.Mask.Reading

/-!
# Faults

What can go wrong: a file or task call fails, a task has gone, a pin file is not what it
should be, or a thread is claimed by several rules.  Each cause is a constructor, and its
wording is one function.
-/

namespace CpuPinning

/-- Why a file or task call failed. -/
inductive IoFailure where
  /-- The kernel refused with an error number. -/
  | errno (code : Int)
  /-- A failure of which only the sort is known. -/
  | bare (kind : FailureKind)
  /-- A failure with words of its own. -/
  | described (kind : FailureKind) (text : String)
deriving DecidableEq, Repr

namespace IoFailure

def kind : IoFailure → FailureKind
  | errno code => .ofErrno code
  | bare kind => kind
  | described kind _ => kind

/-- The words for a sort of failure alone. -/
private def bareText : FailureKind → String
  | .notFound => "entity not found"
  | .permissionDenied => "permission denied"
  | .alreadyExists => "entity already exists"
  | .wouldBlock => "operation would block"
  | .notADirectory => "not a directory"
  | .isADirectory => "is a directory"
  | .filesystemLoop => "filesystem loop or indirection limit (e.g. symlink loop)"
  | .invalidName => "invalid filename"
  | .invalidInput => "invalid input parameter"
  | .invalidData => "invalid data"
  | .timedOut => "timed out"
  | .interrupted => "operation interrupted"
  | .storageFull => "no storage space"
  | .outOfMemory => "out of memory"
  | .busy => "resource busy"
  | .unsupported => "unsupported"
  | .other => "other error"
  | .uncategorized => "uncategorized error"

def message : IoFailure → String
  | errno code => describeErrno code ++ " (os error " ++ Text.showInt code ++ ")"
  | bare kind => bareText kind
  | described _ text => text

/-- A text file that holds bytes which are no text. -/
def notText : IoFailure := .described .invalidData "stream did not contain valid UTF-8"

end IoFailure

/-- Why a call on a process or thread failed. -/
inductive TaskError where
  /-- The task exited between being listed and being used. -/
  | vanished (id : Nat)
  | failed (id : Nat) (cause : IoFailure)
deriving DecidableEq, Repr

namespace TaskError

/-- The error number for a task that does not exist. -/
def noSuchTask : Int := 3

/-- A failed call on a task: a missing file or task means that the task is gone. -/
def ofIo (id : Nat) (cause : IoFailure) : TaskError :=
  if cause.kind = .notFound ∨ cause = .errno noSuchTask then .vanished id else .failed id cause

def isVanished : TaskError → Bool
  | vanished _ => true
  | failed .. => false

def target : TaskError → Nat
  | vanished id => id
  | failed id _ => id

def message : TaskError → String
  | vanished id => "target " ++ Text.showNat id ++ " no longer exists"
  | failed id cause => "OS call on " ++ Text.showNat id ++ " failed: " ++ cause.message

end TaskError

/-- Why a pin file was refused or a pass over the processes stopped. -/
inductive PinError where
  | mask (e : MaskError)
  /-- A thread pattern that is not well formed. -/
  | pattern (text : String)
  /-- Something in the pin file that must be an object is none. -/
  | notObject (what : String)
  /-- Several rules claim one thread. -/
  | ambiguous (thread : String) (tid : Nat) (rules : List String)
  | task (e : TaskError)
deriving DecidableEq, Repr

def PinError.message : PinError → String
  | mask e => e.message
  | pattern text => "invalid thread name pattern '" ++ text ++ "'"
  | notObject what => "invalid pin file: " ++ what ++ " must be an object"
  | ambiguous thread tid rules =>
      "thread '" ++ thread ++ "' (tid " ++ Text.showNat tid ++ ") matches multiple masks: " ++
        String.intercalate ", " rules
  | task e => e.message

/-- What goes through has gone through step by step. -/
theorem exists_of_bind_eq_ok {ε α β : Type} {x : Except ε α} {f : α → Except ε β} {b : β}
    (h : (x >>= f) = .ok b) : ∃ a, x = .ok a ∧ f a = .ok b := by
  cases x with
  | ok a => exact ⟨a, rfl, h⟩
  | error e => cases h

end CpuPinning
