/-!
# Placed characters

In YAML it matters where a character stands: indentation is a column, and a key has to be on
one line with its colon.  A text is therefore read as a list of characters that carry their
places.  Line breaks are made uniform on the way.
-/

namespace CpuPinning.Yaml

/-- A character and where it stands; `index` counts the characters before it. -/
structure Glyph where
  char : Char
  index : Nat
  line : Nat
  column : Nat
deriving DecidableEq, Repr, Inhabited

/-- The characters that may occur in a text: no control characters but tabs and line breaks. -/
def isAllowed (c : Char) : Bool :=
  let n := c.toNat
  c = '\t' || c = '\n' || c = '\r' || (0x20 ≤ n && n ≤ 0x7E) || n = 0x85 ||
    (0xA0 ≤ n && n ≤ 0xD7FF) || (0xE000 ≤ n && n ≤ 0xFFFD) || 0x10000 ≤ n

/-- The characters that end a line, once line breaks are uniform. -/
def isBreak (c : Char) : Bool := c = '\n' || c = '\u2028' || c = '\u2029'

def isBlank (c : Char) : Bool := c = ' ' || c = '\t'

/-- The mark that may stand at the start of a line to tell the byte order. -/
def byteOrderMark : Char := '\uFEFF'

/-- Letters of names: of anchors, of directives, and of the handles of tags. -/
def isNameChar (c : Char) : Bool :=
  ('0' ≤ c && c ≤ '9') || ('A' ≤ c && c ≤ 'Z') || ('a' ≤ c && c ≤ 'z') || c = '_' || c = '-'

/-- A text with the places of its characters.  A carriage return, a line feed, the two
together and a next-line character are each one line feed; the separators U+2028 and U+2029
end a line and stay. -/
def place (index line column : Nat) : List Char → List Glyph
  | [] => []
  | '\r' :: '\n' :: rest => ⟨'\n', index, line, column⟩ :: place (index + 2) (line + 1) 0 rest
  | c :: rest =>
      let c := if c = '\r' || c = '\u0085' then '\n' else c
      ⟨c, index, line, column⟩ ::
        if isBreak c then place (index + 1) (line + 1) 0 rest
        else place (index + 1) line (column + 1) rest

/-- Whether nothing but a blank, a line break or the end comes next. -/
def endsWord : List Glyph → Bool
  | [] => true
  | g :: _ => isBlank g.char || isBreak g.char

/-- Whether one of the given characters comes next. -/
def startsWith (p : Char → Bool) : List Glyph → Bool
  | [] => false
  | g :: _ => p g.char

/-- The mark of the start or the end of a document: three equal characters alone at the
start of a line. -/
def documentMark? : List Glyph → Option (Char × List Glyph)
  | a :: b :: c :: rest =>
      if a.column = 0 && (a.char = '-' || a.char = '.') && b.char = a.char && c.char = a.char &&
          endsWord rest then some (a.char, rest)
      else none
  | _ => none

/-- The characters of a stretch of text. -/
def chars (gs : List Glyph) : List Char := gs.map (·.char)

/-- Takes characters while they satisfy `p`. -/
def takeChars (p : Char → Bool) (gs : List Glyph) : List Char × List Glyph :=
  (chars (gs.takeWhile (p ·.char)), gs.dropWhile (p ·.char))

end CpuPinning.Yaml
