import CpuPinning.Pass.Basic
import CpuPinning.Pass.Outcome

/-!
# Applying a rule

A rule is applied to a process in two steps.  The parent mask goes to the descendants of the
process and to its threads; then each thread whose name exactly one thread rule claims gets
the mask of that rule.  Tasks that vanish are passed over, and any other failure ends the
pass.
-/

namespace CpuPinning

/-- What to do about a thread that several rules claim. -/
inductive AmbiguityPolicy where
  | abort
  | skipThread
deriving DecidableEq, Repr

/-- The choices of a pass. -/
structure Options where
  /-- The number of CPUs; a mask that names an id above it is not used. -/
  cpuCount : Nat
  policy : AmbiguityPolicy
deriving DecidableEq, Repr

/-- Sets one mask. -/
def setMask (id : Nat) (target : Target) (mask : CpuMask) (source : MaskSource) : Pass Outcome :=
  .ask (.setAffinity id mask) fun
    | .ok () => .done (.ok (.applied target mask source))
    | .error (.vanished _) => .done (.ok (.vanished target))
    | .error e => .fail (.task e)

/-- Sets the parent mask for some targets, in order. -/
def setAll (mask : CpuMask) : List Target → Pass (List Outcome)
  | [] => pure []
  | target :: targets => do
      let outcome ← setMask target.id target mask .parent
      return outcome :: (← setAll mask targets)

/-- What the parent mask is for: the descendants, then the threads. -/
def cascadeTargets (children : List Nat) (threads : List ThreadInfo) : List Target :=
  children.map .child ++ threads.map fun t => .thread t.tid t.name

/-- Hands the parent mask down. -/
def cascade (opts : Options) (process : ProcessInfo) (threads : List ThreadInfo) (mask : CpuMask) :
    Pass (List Outcome) :=
  if mask.exceeds opts.cpuCount then
    pure [.outOfRange none mask .parent opts.cpuCount]
  else .ask (.children process.pid) fun
    | .ok children => setAll mask (cascadeTargets children threads)
    | .error (.vanished _) => pure [.vanished (.process process.pid)]
    | .error e => .fail (.task e)

/-- The rules that claim a thread. -/
def claiming (rules : List ThreadRule) (thread : ThreadInfo) : List ThreadRule :=
  rules.filter (·.applies thread.name)

/-- Applies the thread rules to one thread. -/
def applyToThread (opts : Options) (rules : List ThreadRule) (thread : ThreadInfo) :
    Pass (List Outcome) :=
  match claiming rules thread with
  | [] => pure []
  | [rule] =>
      let target : Target := .thread thread.tid thread.name
      let source : MaskSource := .threadRule rule.pattern
      if rule.mask.exceeds opts.cpuCount then
        pure [.outOfRange (some target) rule.mask source opts.cpuCount]
      else do
        let outcome ← setMask thread.tid target rule.mask source
        return [outcome]
  | many =>
      let texts := many.map ThreadRule.text
      match opts.policy with
      | .abort => .fail (.ambiguous thread.name thread.tid texts)
      | .skipThread => pure [.ambiguous thread.tid thread.name texts]

/-- Applies the thread rules to some threads, in order. -/
def applyToThreads (opts : Options) (rules : List ThreadRule) :
    List ThreadInfo → Pass (List Outcome)
  | [] => pure []
  | thread :: threads => do
      let outcomes ← applyToThread opts rules thread
      return outcomes ++ (← applyToThreads opts rules threads)

/-- The first step: the parent mask, if the rule has one. -/
def applyParent (opts : Options) (process : ProcessInfo) (rule : CommandRule)
    (threads : List ThreadInfo) : Pass (List Outcome) :=
  match rule.parent with
  | some mask => cascade opts process threads mask
  | none => pure []

/-- The second step: the thread rules, if there are any. -/
def applyThreadRules (opts : Options) (rule : CommandRule) (threads : List ThreadInfo) :
    Pass (List Outcome) :=
  match rule.threads with
  | some rules => applyToThreads opts rules threads
  | none => pure []

/-- Applies a rule to a process.  A rule that asks for nothing asks nothing of the system either. -/
def apply (opts : Options) (process : ProcessInfo) (rule : CommandRule) : Pass (List Outcome) :=
  if rule.isEmpty then pure []
  else .ask (.threads process.pid) fun
    | .ok threads => do
        let inherited ← applyParent opts process rule threads
        let own ← applyThreadRules opts rule threads
        return inherited ++ own
    | .error (.vanished _) => pure [.vanished (.process process.pid)]
    | .error e => .fail (.task e)

end CpuPinning
