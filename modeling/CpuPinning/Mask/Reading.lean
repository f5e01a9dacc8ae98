import CpuPinning.Json.Printer
import CpuPinning.Mask.Region
import CpuPinning.Text.Blank

/-!
# Reading masks

A pin file writes a mask as a list of CPU ids, or as a text of ids and inclusive ranges
between commas. Both forms denote a set; blanks in a text do not count, not even inside a
number.
-/

namespace CpuPinning

/-- Why a value is no mask. -/
inductive MaskError where
  /-- The part `token` of the notation `spec` names no CPUs. -/
  | malformed (token spec : String)
  /-- The value is neither a list nor a text. -/
  | wrongType (value : String)
  /-- The notation names no CPUs at all. -/
  | empty (spec : String)
deriving DecidableEq, Repr

def MaskError.message : MaskError → String
  | malformed token spec =>
      "corrupt CPU mask region '" ++ token ++ "' in mask '" ++ spec ++ "'"
  | wrongType value => "CPU mask needs to be a string or a list, got: " ++ value
  | empty spec => "CPU mask '" ++ spec ++ "' selects no CPUs"

/-- A mask as it is written. -/
inductive MaskForm where
  | ids (ns : List Int)
  | text (s : String)
deriving DecidableEq, Repr

namespace MaskForm

/-- The numbers of a list of values; the first value that is none is blamed. -/
def wholeNumbers : List Value → Except Value (List Int)
  | [] => .ok []
  | v :: vs =>
      match v.toInt64? with
      | none => .error v
      | some n => (wholeNumbers vs).map (n :: ·)

/-- The form of a document value. -/
def ofValue : Value → Except MaskError MaskForm
  | .str s => .ok (.text s)
  | .arr items =>
      match wholeNumbers items with
      | .ok ns => .ok (.ids ns)
      | .error item => .error (.malformed (Json.render item) (Json.render (.arr items)))
  | v => .error (.wrongType (Json.render v))

/-- The text of a list of ids. -/
def showIds (ns : List Int) : String :=
  "[" ++ String.intercalate ", " (ns.map Text.showInt) ++ "]"

/-- The id that a digit string denotes; signs are not allowed. -/
def cpuId? (cs : List Char) : Option Nat := (Text.readDigits? cs).filter (· ≤ maxCpuId)

/-- The region that a part between commas denotes: an id, or two with a dash between them. -/
def region? (part : List Char) : Option Region :=
  match Text.splitBy (· == '-') (part.filter (!Text.isBlank ·)) with
  | [single] => (cpuId? single).map fun id => ⟨id, id⟩
  | [lo, hi] => do
      let lo ← cpuId? lo
      let hi ← cpuId? hi
      if lo ≤ hi then some ⟨lo, hi⟩ else none
  | _ => none

/-- The regions of the parts; the first part that is none is blamed. -/
def regionsOf : List (List Char) → Except (List Char) (List Region)
  | [] => .ok []
  | part :: parts =>
      match region? part with
      | none => .error part
      | some r => (regionsOf parts).map (r :: ·)

/-- The mask that a form denotes. -/
def mask : MaskForm → Except MaskError CpuMask
  | ids ns =>
      match ns.find? fun n => n < 0 || (maxCpuId : Int) < n with
      | some n => .error (.malformed (Text.showInt n) (showIds ns))
      | none =>
          match CpuMask.ofPred? fun id => ns.contains (id : Int) with
          | some mask => .ok mask
          | none => .error (.empty (showIds ns))
  | text s =>
      match regionsOf (Text.splitBy (· == ',') s.toList) with
      | .error part => .error (.malformed (String.ofList part) s)
      | .ok rs =>
          match CpuMask.ofPred? fun id => rs.any (·.contains id) with
          | some mask => .ok mask
          | none => .error (.empty s)

end MaskForm

/-- The mask that a document value denotes. -/
def readMask (v : Value) : Except MaskError CpuMask := MaskForm.ofValue v >>= MaskForm.mask

end CpuPinning
