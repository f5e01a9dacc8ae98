import CpuPinning.Mask.Region

/-!
# Outcomes

What became of each step of applying a rule.
-/

namespace CpuPinning

/-- What a mask was meant for. -/
inductive Target where
  | process (pid : Nat)
  | child (pid : Nat)
  | thread (tid : Nat) (name : String)
deriving DecidableEq, Repr

namespace Target

/-- The process or thread id. -/
def id : Target → Nat
  | process pid => pid
  | child pid => pid
  | thread tid _ => tid

def text : Target → String
  | process pid => "process " ++ Text.showNat pid
  | child pid => "child " ++ Text.showNat pid
  | thread tid name => "thread " ++ name ++ " (" ++ Text.showNat tid ++ ")"

end Target

/-- Where a mask comes from. -/
inductive MaskSource where
  | parent
  | threadRule (pattern : String)
deriving DecidableEq, Repr

def MaskSource.text : MaskSource → String
  | parent => "parent mask"
  | threadRule pattern => "thread rule '" ++ pattern ++ "'"

/-- What became of a step. -/
inductive Outcome where
  | applied (target : Target) (mask : CpuMask) (source : MaskSource)
  /-- The mask names a CPU that the system has not; without a target nothing of a family was set. -/
  | outOfRange (target : Option Target) (mask : CpuMask) (source : MaskSource) (count : Nat)
  /-- The target exited before it could be changed. -/
  | vanished (target : Target)
  /-- Several rules claim a thread, and it was left alone. -/
  | ambiguous (tid : Nat) (thread : String) (rules : List String)
deriving DecidableEq

namespace Outcome

def isApplied : Outcome → Bool
  | applied .. => true
  | _ => false

def isVanished : Outcome → Bool
  | vanished _ => true
  | _ => false

def isWarning : Outcome → Bool
  | outOfRange .. => true
  | ambiguous .. => true
  | _ => false

end Outcome

end CpuPinning
