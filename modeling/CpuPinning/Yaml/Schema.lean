import CpuPinning.Decimal.Literal
import CpuPinning.Yaml.Tag
import CpuPinning.Json.Token
import CpuPinning.Value

/-!
# Values of scalars

What a scalar stands for.  A plain one is a null, a Boolean or a number if it has the form
of one; a quoted one is a text.  A tag of the standard types asks for one of them, and a tag
of a type of one's own has no value.
-/

namespace CpuPinning.Yaml

/-- The number that digits of a base denote, of which there has to be one. -/
private def readBase? (base : Nat) (cs : List Char) : Option Nat :=
  if cs.isEmpty then none
  else
    cs.foldlM (fun n c => (Json.hexValue? c).bind fun d =>
      if d < base then some (base * n + d) else none) 0

/-- The magnitude of a whole number: in base 16, 8 or 2, or in base 10 without needless zeros. -/
private def magnitude? : List Char → Option Nat
  | '0' :: 'x' :: cs => readBase? 16 cs
  | '0' :: 'o' :: cs => readBase? 8 cs
  | '0' :: 'b' :: cs => readBase? 2 cs
  | ['0'] => some 0
  | '0' :: _ => none
  | cs => readBase? 10 cs

/-- The whole number that a text has the form of. -/
def wholeNumber? : List Char → Option Int
  | '-' :: cs => (magnitude? cs).map fun n => -(n : Int)
  | '+' :: cs => (magnitude? cs).map Int.ofNat
  | cs => (magnitude? cs).map Int.ofNat

/-- Whether a text is a digit string with needless zeros, which is not taken as a number. -/
private def hasNeedlessZero (cs : List Char) : Bool :=
  let digits := match cs with
    | '-' :: rest => rest
    | '+' :: rest => rest
    | _ => cs
  1 < digits.length && digits.head? = some '0' && digits.all Text.isDigit

/-- The words for numbers that are not finite. -/
private def isSpecialNumber (cs : List Char) : Bool :=
  [".inf", ".Inf", ".INF", "+.inf", "+.Inf", "+.INF", "-.inf", "-.Inf", "-.INF", ".nan", ".NaN",
    ".NAN"].contains (String.ofList cs)

/-- The number that a text has the form of; one that is not finite is a null. -/
def decimalNumber? (cs : List Char) : Option Value :=
  if isSpecialNumber cs then some .null
  else ((Decimal.read? cs).filter (·.isFinite)).map .float

def isNullWord (cs : List Char) : Bool := ["null", "Null", "NULL", "~"].contains (String.ofList cs)

def booleanWord? (cs : List Char) : Option Bool :=
  match String.ofList cs with
  | "true" | "True" | "TRUE" => some true
  | "false" | "False" | "FALSE" => some false
  | _ => none

/-- Whether a whole number fits in 128 bits; one that fits there but not in 64 bits has no value. -/
private def isWideRange (n : Int) : Bool :=
  -0x80000000000000000000000000000000 ≤ n && n < 0x100000000000000000000000000000000

/-- The value of a whole number: `none` if its text is to be taken otherwise. -/
private def wholeValue? (cs : List Char) : Option (Option Value) :=
  match wholeNumber? cs with
  | none => none
  | some n =>
      if Value.isWholeRange n then some (some (.int n))
      else if isWideRange n then some none
      else none

/-- The value of a plain scalar without a tag. -/
def plainValue? (cs : List Char) : Option Value :=
  let text : Value := .str (String.ofList cs)
  if cs.isEmpty || isNullWord cs then some .null
  else match booleanWord? cs with
    | some b => some (.bool b)
    | none =>
        (wholeValue? cs).getD
          (if hasNeedlessZero cs then some text else some ((decimalNumber? cs).getD text))

/-- The tag of a standard type. -/
private def standardTag (name : String) : List UInt8 :=
  Text.encode ("tag:yaml.org,2002:" ++ name).toList

/-- Whether a tag is that of a type of one's own. -/
def isOwnType (tag : List UInt8) : Bool :=
  tag.head? = some 0x21 && (Text.decode? tag).isSome

/-- The value of a scalar. -/
def scalarValue? (tag : Option (List UInt8)) (plain : Bool) (cs : List Char) : Option Value :=
  let text : Value := .str (String.ofList cs)
  match tag with
  | none => if plain then plainValue? cs else some text
  | some tag =>
      if isOwnType tag then none
      else if tag = standardTag "bool" then (booleanWord? cs).map .bool
      else if tag = standardTag "int" then (wholeValue? cs).getD none
      else if tag = standardTag "float" then decimalNumber? cs
      else if tag = standardTag "null" then if isNullWord cs then some .null else none
      else if tag.head? = some 0x21 && plain then plainValue? cs
      else some text

end CpuPinning.Yaml
