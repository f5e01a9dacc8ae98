import CpuPinning.Decimal.Shortest
import CpuPinning.Text.Numeral
import CpuPinning.Value

/-!
# Compact JSON

The text of a document without any blanks, as it is quoted in messages.  Numbers have the
fewest digits that read back, and always a point or an exponent when they are not whole
numbers of the document.
-/

namespace CpuPinning.Json

open Decimal (Binary64 NumberStyle)

private def hexDigit (n : Nat) : Char := "0123456789abcdef".toList.getD n '0'

/-- A character inside a quoted text; only quotes, backslashes and control characters are
escaped. -/
def escape (c : Char) : List Char :=
  match c with
  | '"' => ['\\', '"']
  | '\\' => ['\\', '\\']
  | '\x08' => ['\\', 'b']
  | '\t' => ['\\', 't']
  | '\n' => ['\\', 'n']
  | '\x0c' => ['\\', 'f']
  | '\r' => ['\\', 'r']
  | c =>
      if c.toNat < 0x20 then
        ['\\', 'u', '0', '0', hexDigit (c.toNat / 16), hexDigit (c.toNat % 16)]
      else [c]

/-- A text between quotation marks. -/
def quote (s : String) : String :=
  String.ofList ('"' :: s.toList.flatMap escape ++ ['"'])

/-- Numbers from 1e-5 up to, but not including, 1e16 are positional; an exponent has a sign. -/
def numberStyle : NumberStyle where
  leastPositional := -5
  greatestPositional := 15
  exponentMark e := if e < 0 then "e" ++ Text.showInt e else "e+" ++ Text.showInt e

/-- A number that is not finite has no text of its own. -/
def writeFloat (x : Binary64) : String :=
  if x.isFinite then numberStyle.write x else "null"

mutual

/-- The compact text of a document. -/
def render : Value → String
  | .null => "null"
  | .bool true => "true"
  | .bool false => "false"
  | .int n => Text.showInt n
  | .float x => writeFloat x
  | .str s => quote s
  | .arr [] => "[]"
  | .arr (item :: items) => "[" ++ render item ++ renderItems items ++ "]"
  | .obj [] => "\x7b\x7d"
  | .obj ((key, value) :: members) =>
      "\x7b" ++ quote key ++ ":" ++ render value ++ renderMembers members ++ "\x7d"

/-- The items after the first, each behind a comma. -/
def renderItems : List Value → String
  | [] => ""
  | item :: items => "," ++ render item ++ renderItems items

/-- The members after the first, each behind a comma. -/
def renderMembers : List (String × Value) → String
  | [] => ""
  | (key, value) :: members =>
      "," ++ quote key ++ ":" ++ render value ++ renderMembers members

end

end CpuPinning.Json
