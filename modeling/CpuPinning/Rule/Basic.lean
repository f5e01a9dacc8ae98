import CpuPinning.Fault.Basic
import CpuPinning.Pattern.FullMatch

/-!
# Rules

What a pin file asks for: for each executable name some command line fragments, and for each
fragment a mask for the family of the process and masks for its threads by name.
-/

namespace CpuPinning

/-- A mask for the threads whose whole name matches a pattern. -/
structure ThreadRule where
  pattern : String
  regex : Pattern.Regex
  mask : CpuMask
  compiled : Pattern.compileAnchored? pattern.toList = some regex

namespace ThreadRule

/-- The rule of a pattern; a pattern that is not acceptable is the error. -/
def make (pattern : String) (mask : CpuMask) : Except PinError ThreadRule :=
  match h : Pattern.compileAnchored? pattern.toList with
  | none => .error (.pattern pattern)
  | some regex => .ok ⟨pattern, regex, mask, h⟩

/-- Whether a rule is for threads of this name. -/
def applies (rule : ThreadRule) (name : String) : Bool :=
  Pattern.occursIn rule.regex name.toList

/-- A rule as it is shown where several compete. -/
def text (rule : ThreadRule) : String := rule.pattern ++ " => " ++ rule.mask.text

end ThreadRule

/-- What is to be done with a process whose command line has a certain fragment. -/
structure CommandRule where
  /-- The mask for descendants and threads. -/
  parent : Option CpuMask
  /-- The rules for threads, in the order of the file. -/
  threads : Option (List ThreadRule)

namespace CommandRule

def none : CommandRule := ⟨.none, .none⟩

/-- Whether a rule asks for nothing. -/
def isEmpty (rule : CommandRule) : Bool := rule.parent.isNone && rule.threads.isNone

end CommandRule

/-- The rules of one executable by fragment, in the order of the file. -/
abbrev ProcessRule := List (String × CommandRule)

/-- A field of a fragment that has no meaning. -/
structure UnknownField where
  process : String
  fragment : String
  field : String
deriving DecidableEq, Repr

def UnknownField.message (w : UnknownField) : String :=
  "expected affinity fields are 'parent' or 'threads', ignoring field '" ++ w.field ++ "' (" ++
    w.process ++ " / '" ++ w.fragment ++ "')"

/-- A pin file in force. -/
structure RuleSet where
  /-- The rules by executable name, in the order of the file. -/
  processes : List (String × ProcessRule)
  warnings : List UnknownField

namespace RuleSet

def empty : RuleSet := ⟨[], []⟩

/-- The rules of an executable. -/
def get? (rules : RuleSet) (name : String) : Option ProcessRule := member? name rules.processes

/-- The names of the executables, in the order of their characters. -/
def names (rules : RuleSet) : List String :=
  (rules.processes.map (·.1)).mergeSort fun a b => decide (a ≤ b)

end RuleSet

end CpuPinning
