import CpuPinning.Json.Token
import CpuPinning.Text.Utf8
import CpuPinning.Yaml.Glyph

/-!
# Tags

A tag names the type of a node.  It is written in full between angle brackets, or as a
handle and a suffix; directives at the head of a document say what a handle stands for.
Tags are compared byte by byte, because a tag may hold escaped bytes.
-/

namespace CpuPinning.Yaml

/-- A tag as written; the empty handle stands for nothing. -/
structure Tag where
  handle : List Char
  suffix : List UInt8
deriving DecidableEq, Repr

/-- What the handles stand for; the first entry of a handle counts. -/
abbrev Handles := List (List Char × List UInt8)

/-- The tag of no type in particular. -/
def bareTag : List UInt8 := Text.encode ['!']

/-- The handles that need no directive. -/
def standardHandles : Handles :=
  [(['!'], bareTag), (['!', '!'], Text.encode "tag:yaml.org,2002:".toList)]

/-- The full tag; `none` if its handle stands for nothing. -/
def Tag.resolve? (handles : Handles) (t : Tag) : Option (List UInt8) :=
  if t.handle.isEmpty then some t.suffix
  else (handles.lookup t.handle).map (· ++ t.suffix)

private def isUriChar (c : Char) : Bool := isNameChar c || ";/?:@&=+$.!~*'()".toList.contains c

/-- The marks that only a tag between angle brackets may hold. -/
private def isVerbatimChar (c : Char) : Bool := c = ',' || c = '[' || c = ']'

/-- How many bytes follow a first byte of a character. -/
private def bytesAfter? (b : Nat) : Option Nat :=
  if b < 0x80 then some 0
  else if b / 32 = 6 then some 1
  else if b / 16 = 14 then some 2
  else if b / 8 = 30 then some 3
  else none

/-- How many bytes of a character are still to come after an escaped byte, if `pending` are
due with it. -/
private def pendingAfter? (pending : Nat) (b : Nat) : Option Nat :=
  match pending with
  | 0 => bytesAfter? b
  | n + 1 => if b / 64 = 2 then some n else none

/-- The bytes of a tag, and what follows it.  A byte may be escaped by its two hexadecimal
digits behind a percent sign; all bytes of a character that is not ASCII are. -/
def uri? (verbatim : Bool) (pending : Nat) : List Glyph → Option (List UInt8 × List Glyph)
  | [] => if pending = 0 then some ([], []) else none
  | g :: rest =>
      if g.char = '%' then
        match rest with
        | a :: b :: rest =>
            match Json.hexValue? a.char, Json.hexValue? b.char with
            | some high, some low =>
                match pendingAfter? pending (16 * high + low) with
                | none => none
                | some pending =>
                    (uri? verbatim pending rest).map fun (bs, r) =>
                      (UInt8.ofNat (16 * high + low) :: bs, r)
            | _, _ => none
        | _ => none
      else if pending ≠ 0 then none
      else if isUriChar g.char || (verbatim && isVerbatimChar g.char) then
        (uri? verbatim 0 rest).map fun (bs, r) => (Text.encode [g.char] ++ bs, r)
      else some ([], g :: rest)

/-- The bytes of a tag that may not be empty. -/
private def someUri? (verbatim : Bool) (gs : List Glyph) : Option (List UInt8 × List Glyph) :=
  (uri? verbatim 0 gs).filter (!·.1.isEmpty)

/-- Whether a handle has exclamation marks at both ends. -/
private def isNamedHandle (handle : List Char) : Bool :=
  2 ≤ handle.length && handle.getLast? = some '!'

/-- The longest start of a text that has the form of a handle, behind its first exclamation mark. -/
private def handle (gs : List Glyph) : List Char × List Glyph :=
  let (name, gs) := takeChars isNameChar gs
  match gs with
  | g :: rest => if g.char = '!' then ('!' :: name ++ ['!'], rest) else ('!' :: name, gs)
  | [] => ('!' :: name, [])

/-- A tag behind its first exclamation mark, without regard to what follows it. -/
private def tagBody? (gs : List Glyph) : Option (Tag × List Glyph) :=
  if startsWith (· = '<') gs then do
    let (suffix, gs) ← someUri? true gs.tail
    guard (startsWith (· = '>') gs)
    return (⟨[], suffix⟩, gs.tail)
  else
    let (h, gs) := handle gs
    if isNamedHandle h then do
      let (suffix, gs) ← someUri? false gs
      return (⟨h, suffix⟩, gs)
    else do
      let (bytes, gs) ← uri? false 0 gs
      let suffix := Text.encode h.tail ++ bytes
      return (if suffix.isEmpty then ⟨[], bareTag⟩ else ⟨['!'], suffix⟩, gs)

/-- A tag behind its first exclamation mark; a blank has to follow, or inside brackets a comma. -/
def Tag.read? (flow : Bool) (gs : List Glyph) : Option (Tag × List Glyph) := do
  let (tag, gs) ← tagBody? gs
  guard (endsWord gs || (flow && startsWith (· = ',') gs))
  return (tag, gs)

/-- The handle and what it stands for that a directive gives, behind the blanks after its name. -/
def handleDirective? (gs : List Glyph) : Option ((List Char × List UInt8) × List Glyph) := do
  guard (startsWith (· = '!') gs)
  let (h, gs) := handle gs.tail
  guard (h = ['!'] || isNamedHandle h)
  guard (startsWith isBlank gs)
  let (stem, gs) ← someUri? true (gs.dropWhile (isBlank ·.char))
  guard (endsWord gs)
  return ((h, stem), gs)

end CpuPinning.Yaml
