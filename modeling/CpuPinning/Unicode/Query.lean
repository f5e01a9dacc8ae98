import CpuPinning.Unicode.Age
import CpuPinning.Unicode.Property
import CpuPinning.Unicode.Script
import CpuPinning.Unicode.Segmentation

/-!
# Sets by name

Finding a set of characters by the name of a property, or of a property and a value.  Names
are compared without case, blanks, hyphens and underscores, and without a leading "is".
-/

namespace CpuPinning.Unicode

private def lower (c : Char) : Char :=
  if 'A' ≤ c && c ≤ 'Z' then Char.ofNat (c.toNat + 32) else c

/-- A name in the form in which names are compared. -/
def looseName (cs : List Char) : String :=
  let kept (cs : List Char) : List Char :=
    (cs.filter fun c => c ≠ ' ' && c ≠ '_' && c ≠ '-' && c.toNat < 128).map lower
  let rest := match cs with
    | i :: s :: rest => if lower i = 'i' && lower s = 's' then some rest else none
    | _ => none
  match rest with
  | some rest =>
      let name := kept rest
      -- "isc" is a name of its own and no other name for "c"
      String.ofList (if name = ['c'] then ['i', 's', 'c'] else name)
  | none => String.ofList (kept cs)

/-- Abbreviations that name a category although a property that is not binary has the same one. -/
private def namesCategoryOnly (name : String) : Bool := name = "cf" || name = "sc" || name = "lc"

/-- The set with a name: a binary property, a category or a script, tried in this order. -/
def named? (cs : List Char) : Option CharSet :=
  let name := looseName cs
  let property := if namesCategoryOnly name then none else property? name
  property <|> category? name <|> script? name

/-- The set of the characters that have a value of a property. -/
def valued? (property value : List Char) : Option CharSet :=
  let value := looseName value
  match looseName property with
  | "gc" | "generalcategory" => category? value
  | "sc" | "script" => script? value
  | "scx" | "scriptextensions" => scriptExtension? value
  | "age" => age? value
  | "gcb" | "graphemeclusterbreak" => graphemeClass? value
  | "wb" | "wordbreak" => wordClass? value
  | "sb" | "sentencebreak" => sentenceClass? value
  | _ => none

end CpuPinning.Unicode
