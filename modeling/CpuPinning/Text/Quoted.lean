import CpuPinning.Text.Numeral
import CpuPinning.Unicode.Property

/-!
# Quoted texts

A text between quotation marks in which every character can be seen: controls, blanks other than the
space, marks that combine with what is before them, and code points without a character are written
by number.
-/

namespace CpuPinning.Text

open Unicode (CharSet)

private def combining : CharSet := Unicode.graphemeExtend

private def unseen : CharSet :=
  (Unicode.categories ["Cc", "Cf", "Cs", "Co", "Cn", "Zl", "Zp", "Zs"]).diff (.single 0x20)

/-- A character by its number, in hexadecimal. -/
def byNumber (c : Char) : List Char :=
  ['\\', 'u', '\x7b'] ++ Nat.toDigits 16 c.toNat ++ ['\x7d']

/-- A character inside quotation marks. -/
def quoteChar (c : Char) : List Char :=
  match c with
  | '\x00' => ['\\', '0']
  | '\t' => ['\\', 't']
  | '\r' => ['\\', 'r']
  | '\n' => ['\\', 'n']
  | '"' => ['\\', '"']
  | '\\' => ['\\', '\\']
  | c =>
      if c.toNat < 0x7F && 0x20 ≤ c.toNat then [c]
      else if combining.contains c.toNat || unseen.contains c.toNat then byNumber c
      else [c]

/-- A text between quotation marks. -/
def quote (s : String) : String := String.ofList ('"' :: s.toList.flatMap quoteChar ++ ['"'])

/-- Texts between brackets, each quoted. -/
def quoteList (ss : List String) : String :=
  "[" ++ String.intercalate ", " (ss.map quote) ++ "]"

end CpuPinning.Text
