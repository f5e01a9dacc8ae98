import CpuPinning.Yaml.Block
import CpuPinning.Yaml.Scalar
import CpuPinning.Yaml.Tag

/-!
# YAML tokens

The pieces that a text is cut into.  Besides what is written there are tokens for what only
the layout shows: where a list or an object begins and ends by indentation, and where a key
begins.
-/

namespace CpuPinning.Yaml

/-- A piece of YAML text. -/
inductive Token where
  /-- The directive that tells the version. -/
  | version (major minor : Nat)
  /-- The directive that tells what a handle stands for. -/
  | tagHandle (handle : List Char) (stem : List UInt8)
  | documentStart
  | documentEnd
  /-- A list begins by indentation. -/
  | indentSeq
  /-- An object begins by indentation. -/
  | indentMap
  /-- The indentation of a list or an object ends. -/
  | dedent
  | openSeq
  | closeSeq
  | openMap
  | closeMap
  | comma
  /-- The dash before an item. -/
  | dash
  /-- A key begins. -/
  | key
  /-- The colon before a value. -/
  | colon
  | alias (name : List Char)
  | anchor (name : List Char)
  | tag (t : Tag)
  | scalar (plain : Bool) (text : List Char)
  /-- The end of the text. -/
  | finish
deriving DecidableEq, Repr

/-- A name behind `*` or `&`, and what follows it. -/
def name? (gs : List Glyph) : Option (List Char × List Glyph) :=
  let (name, gs) := takeChars isNameChar gs
  if !name.isEmpty && (endsWord gs || startsWith "?:,]\x7d%@\x60".toList.contains gs) then
    some (name, gs)
  else none

/-- A part of a version: at most nine digits. -/
private def versionPart? (gs : List Glyph) : Option (Nat × List Glyph) :=
  let (digits, gs) := takeChars Text.isDigit gs
  if digits.length ≤ 9 then (Text.readDigits? digits).map (·, gs) else none

/-- A directive behind its percent sign, up to the end of its line. -/
def directive? (gs : List Glyph) : Option (Token × List Glyph) := do
  let (name, gs) := takeChars isNameChar gs
  guard (endsWord gs)
  let gs := gs.dropWhile (isBlank ·.char)
  match String.ofList name with
  | "YAML" =>
      let (major, gs) ← versionPart? gs
      guard (startsWith (· = '.') gs)
      let (minor, gs) ← versionPart? gs.tail
      return (.version major minor, ← finishLine? gs)
  | "TAG" =>
      let ((handle, stem), gs) ← handleDirective? gs
      return (.tagHandle handle stem, ← finishLine? gs)
  | _ => none

end CpuPinning.Yaml
