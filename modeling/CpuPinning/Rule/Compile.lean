import CpuPinning.Rule.Basic

/-!
# Compiling pin files

A document becomes a rule set if every part of it has the right form.  The first part in the order
of the file that has not decides the error, and nothing is kept then.
-/

namespace CpuPinning

/-- The key at the top of a pin file whose value is a remark. -/
def commentKey : String := "_comment"

/-- The members of an object; `what` names the value if it is none. -/
def asObject (v : Value) (what : String) : Except PinError (List (String × Value)) :=
  match v with
  | .obj members => .ok members
  | _ => .error (.notObject what)

/-- The mask of a value. -/
def asMask (v : Value) : Except PinError CpuMask := (readMask v).mapError .mask

/-- The thread rules of an object, each a pattern and its mask; the mask is read first. -/
def compileThreads : List (String × Value) → Except PinError (List ThreadRule)
  | [] => .ok []
  | (pattern, value) :: rest => do
      let rule ← ThreadRule.make pattern (← asMask value)
      return rule :: (← compileThreads rest)

/-- How messages name a fragment. -/
def place (process fragment : String) : String :=
  "process '" ++ process ++ "' / fragment '" ++ fragment ++ "'"

/-- Adds the fields of a fragment to a rule, and the fields without a meaning to the warnings. -/
def compileFields (process fragment : String) :
    CommandRule → List (String × Value) → Except PinError (CommandRule × List UnknownField)
  | rule, [] => .ok (rule, [])
  | rule, ("parent", value) :: rest => do
      let mask ← asMask value
      compileFields process fragment { rule with parent := some mask } rest
  | rule, ("threads", value) :: rest => do
      let members ← asObject value ("threads of " ++ place process fragment)
      let threads ← compileThreads members
      compileFields process fragment { rule with threads := some threads } rest
  | rule, (field, _) :: rest => do
      let (rule, warnings) ← compileFields process fragment rule rest
      return (rule, ⟨process, fragment, field⟩ :: warnings)

/-- The rules of the fragments of one executable. -/
def compileFragments (process : String) :
    List (String × Value) → Except PinError (ProcessRule × List UnknownField)
  | [] => .ok ([], [])
  | (fragment, value) :: rest => do
      let fields ← asObject value (place process fragment)
      let (rule, warnings) ← compileFields process fragment .none fields
      let (rules, more) ← compileFragments process rest
      return ((fragment, rule) :: rules, warnings ++ more)

/-- The rules of all executables; the remark is left out. -/
def compileProcesses :
    List (String × Value) → Except PinError (List (String × ProcessRule) × List UnknownField)
  | [] => .ok ([], [])
  | (process, value) :: rest =>
      if process = commentKey then compileProcesses rest
      else do
        let fragments ← asObject value ("process '" ++ process ++ "'")
        let (rule, warnings) ← compileFragments process fragments
        let (rules, more) ← compileProcesses rest
        return ((process, rule) :: rules, warnings ++ more)

/-- The rule set that a document denotes. -/
def compile (raw : Value) : Except PinError RuleSet := do
  let members ← asObject raw "pin file root"
  let (processes, warnings) ← compileProcesses members
  return ⟨processes, warnings⟩

end CpuPinning
