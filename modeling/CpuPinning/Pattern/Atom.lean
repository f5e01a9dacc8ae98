import CpuPinning.Pattern.Mode
import CpuPinning.Pattern.Regex
import CpuPinning.Text.Numeral
import CpuPinning.Unicode.Folding
import CpuPinning.Unicode.Query

/-!
# Atoms of a pattern

The smallest parts of a pattern: single characters, the dot, assertions and named sets,
plain or behind a backslash.
-/

namespace CpuPinning.Pattern

open Unicode (CharSet)

/-- The sets that have a letter of their own. -/
inductive ShortSet where
  | digits
  | spaces
  | wordChars
deriving DecidableEq, Repr

/-- An atom of a pattern. -/
inductive Atom where
  /-- A character; `asByte` if it was written as two hexadecimal digits. -/
  | char (c : Char) (asByte : Bool)
  | dot
  /-- A circumflex or a dollar sign, which depend on the mode. -/
  | lineStart
  | lineEnd
  | look (l : Look)
  | short (set : ShortSet) (negated : Bool)
  | property (chars : CharSet) (negated : Bool)

namespace Atom

def isHexDigit (c : Char) : Bool :=
  ('0' ≤ c && c ≤ '9') || ('a' ≤ c && c ≤ 'f') || ('A' ≤ c && c ≤ 'F')

private def hexDigitValue (c : Char) : Nat :=
  if c ≤ '9' then c.toNat - '0'.toNat
  else if c ≤ 'F' then c.toNat - 'A'.toNat + 10
  else c.toNat - 'a'.toNat + 10

/-- The character whose number the digits denote. -/
def charOfHex? (digits : List Char) : Option Char :=
  let n := digits.foldl (fun n c => 16 * n + hexDigitValue c) 0
  if digits.isEmpty || 0x110000 ≤ n || (0xD800 ≤ n && n < 0xE000) then none else some (Char.ofNat n)

/-- Takes `count` hexadecimal digits, with blanks between them in verbose mode. -/
def hexDigits? (mode : Mode) : Nat → List Char → Option (List Char × List Char)
  | 0, cs => some ([], cs)
  | count + 1, cs =>
      match cs with
      | [] => none
      | c :: rest =>
          if isHexDigit c then
            (hexDigits? mode count (mode.skip rest)).map fun (ds, r) => (c :: ds, r)
          else none

/-- Takes what stands up to a closing brace, with blanks left out in verbose mode. -/
def braced? (mode : Mode) : Nat → List Char → Option (List Char × List Char)
  | 0, _ => none
  | fuel + 1, cs =>
      match mode.skip cs with
      | [] => none
      | c :: rest =>
          if c = '\x7d' then some ([], rest)
          else (braced? mode fuel rest).map fun (text, r) => (c :: text, r)

/-- A character by its number, which stands in braces or has `count` digits. -/
def hexChar? (mode : Mode) (count : Nat) (cs : List Char) : Option (Atom × List Char) :=
  match mode.skip cs with
  | [] => none
  | '\x7b' :: rest =>
      match braced? mode (rest.length + 1) rest with
      | none => none
      | some (digits, rest) =>
          if digits.all isHexDigit then
            (charOfHex? digits).map fun c => (char c false, mode.skip rest)
          else none
  | rest =>
      match hexDigits? mode count rest with
      | none => none
      | some (digits, rest) => (charOfHex? digits).map fun c => (char c (count = 2), rest)

/-- Splits a query at the first of its marks between property and value. -/
private def splitQuery (cs : List Char) : Option (List Char × List Char) :=
  let rec atUnequal : List Char → Option (List Char × List Char)
    | [] => none
    | '!' :: '=' :: rest => some ([], rest)
    | c :: rest => (atUnequal rest).map fun (k, v) => (c :: k, v)
  atUnequal cs <|> Text.splitOnce ':' cs <|> Text.splitOnce '=' cs

/-- A set by the name of a property: one letter, or a name or query in braces. -/
def property? (mode : Mode) (negated : Bool) (cs : List Char) : Option (Atom × List Char) :=
  match mode.skip cs with
  | [] => none
  | '\x7b' :: rest =>
      match braced? mode (rest.length + 1) rest with
      | none => none
      | some (query, rest) =>
          let chars := match splitQuery query with
            | some (name, value) => Unicode.valued? name value
            | none => Unicode.named? query
          chars.map fun set => (property set negated, rest)
  | '\\' :: _ => none
  | c :: rest => (Unicode.named? [c]).map fun set => (property set negated, mode.skip rest)

/-- The characters that have a meaning in patterns. -/
private def isMeta (c : Char) : Bool := "\\.+*?()|[]\x7b\x7d^$#&-~".toList.contains c

/-- Characters that may stand behind a backslash and then mean themselves. -/
private def isEscapable (c : Char) : Bool :=
  isMeta c || (c.toNat < 128 && !c.isAlphanum && c ≠ '<' && c ≠ '>')

def isBoundaryChar (c : Char) : Bool :=
  ('a' ≤ c && c ≤ 'z') || ('A' ≤ c && c ≤ 'Z') || c = '-'

/-- A word boundary, and the name in braces that may say which one. -/
def boundary? (mode : Mode) (rule : WordRule) (cs : List Char) :
    Option (Atom × List Char) :=
  match cs with
  | '\x7b' :: rest =>
      match mode.skip rest with
      | [] => none
      | c :: inner =>
          -- anything but a name is the start of a count
          if !isBoundaryChar c then some (look (.wordBoundary rule), cs)
          else
            let (name, after) := mode.take isBoundaryChar (inner.length + 1) (c :: inner)
            match after with
            | '\x7d' :: after =>
                match String.ofList name with
                | "start" => some (look (.wordStart rule), after)
                | "end" => some (look (.wordEnd rule), after)
                | "start-half" => some (look (.wordStartHalf rule), after)
                | "end-half" => some (look (.wordEndHalf rule), after)
                | _ => none
            | _ => none
  | _ => some (look (.wordBoundary rule), cs)

/-- The atom behind a backslash. -/
def escaped? (mode : Mode) (cs : List Char) : Option (Atom × List Char) :=
  let rule : WordRule := if mode.unicode then .unicode else .ascii
  match cs with
  | [] => none
  | c :: rest =>
      match c with
      | 'x' => hexChar? mode 2 rest
      | 'u' => hexChar? mode 4 rest
      | 'U' => hexChar? mode 8 rest
      | 'p' => property? mode false rest
      | 'P' => property? mode true rest
      | 'd' => some (short .digits false, rest)
      | 'D' => some (short .digits true, rest)
      | 's' => some (short .spaces false, rest)
      | 'S' => some (short .spaces true, rest)
      | 'w' => some (short .wordChars false, rest)
      | 'W' => some (short .wordChars true, rest)
      | 'a' => some (char '\x07' false, rest)
      | 'f' => some (char '\x0c' false, rest)
      | 't' => some (char '\t' false, rest)
      | 'n' => some (char '\n' false, rest)
      | 'r' => some (char '\r' false, rest)
      | 'v' => some (char '\x0b' false, rest)
      | 'A' => some (look .textStart, rest)
      | 'z' => some (look .textEnd, rest)
      | 'b' => boundary? mode rule rest
      | 'B' => some (look (.noWordBoundary rule), rest)
      | '<' => some (look (.wordStart rule), rest)
      | '>' => some (look (.wordEnd rule), rest)
      | c => if isEscapable c then some (char c false, rest) else none

/-- The atom at the start of a text. -/
def read? (mode : Mode) (cs : List Char) : Option (Atom × List Char) :=
  match cs with
  | [] => none
  | '\\' :: rest => escaped? mode rest
  | '.' :: rest => some (dot, rest)
  | '^' :: rest => some (lineStart, rest)
  | '$' :: rest => some (lineEnd, rest)
  | c :: rest => some (char c false, rest)

end Atom

/-! ### Meaning -/

private def asciiLetters : CharSet := ⟨[⟨65, 90⟩, ⟨97, 122⟩]⟩

/-- A set with the ASCII letters that are equal up to case to one of its own. -/
private def foldAscii (s : CharSet) : CharSet :=
  let letters := s.inter asciiLetters
  s.union (.unions (letters.ranges.map fun r =>
    if r.lo < 97 then ⟨[⟨r.lo + 32, r.hi + 32⟩]⟩ else ⟨[⟨r.lo - 32, r.hi - 32⟩]⟩))

namespace Mode

/-- A set with its other cases, where case is ignored. -/
def foldSet (mode : Mode) (s : CharSet) : CharSet :=
  if !mode.ignoreCase then s else if mode.unicode then s.foldCase else foldAscii s

/-- A set, folded and then negated.  Without Unicode rules a set is one of bytes, and only
ASCII bytes are characters by themselves. -/
def closeSet? (mode : Mode) (negated : Bool) (s : CharSet) : Option CharSet :=
  let s := mode.foldSet s
  let s := if negated then s.complement else s
  if mode.unicode || s.isAscii then some s else none

end Mode

/-- The characters of a set with a letter of its own; these sets ignore case by themselves. -/
def ShortSet.chars? (mode : Mode) (set : ShortSet) (negated : Bool) : Option CharSet :=
  let s : CharSet :=
    match set, mode.unicode with
    | digits, true => Unicode.digitChars
    | spaces, true => Unicode.spaceChars
    | wordChars, true => Unicode.wordChars
    | digits, false => ⟨[⟨48, 57⟩]⟩
    | spaces, false => ⟨[⟨9, 13⟩, ⟨32, 32⟩]⟩
    | wordChars, false => WordRule.ascii.chars
  if !negated then some s else if mode.unicode then some s.complement else none

/-- The set of a property; properties need Unicode rules. -/
def Mode.propertySet? (mode : Mode) (chars : CharSet) (negated : Bool) : Option CharSet :=
  if mode.unicode then mode.closeSet? negated chars else none

/-- A character written by number stands for a byte without Unicode rules, which must be ASCII. -/
def Mode.admitsChar (mode : Mode) (c : Char) (asByte : Bool) : Bool :=
  mode.unicode || !asByte || c.toNat < 128

/-- The set of a character with its other cases. -/
def Mode.charSet (mode : Mode) (c : Char) : CharSet :=
  if !mode.ignoreCase then .ofChar c
  else if mode.unicode then
    match Unicode.caseGroup? c.toNat with
    | some group => .ofList group
    | none => .ofChar c
  else foldAscii (.ofChar c)

/-- The characters that a dot stands for. -/
def Mode.dotSet? (mode : Mode) : Option CharSet :=
  if !mode.unicode then none
  else if mode.dotMatchesAll then some .all
  else if mode.anyLineEnd then some (CharSet.complement ⟨[⟨10, 10⟩, ⟨13, 13⟩]⟩)
  else some (CharSet.single 10).complement

/-- The expression that an atom stands for in a mode. -/
def Atom.regex? (mode : Mode) : Atom → Option Regex
  | char c asByte => if mode.admitsChar c asByte then some (.set (mode.charSet c)) else none
  | dot => mode.dotSet?.map .set
  | lineStart =>
      some (.look (if !mode.multiLine then .textStart
        else if mode.anyLineEnd then .anyLineStart else .lineStart))
  | lineEnd =>
      some (.look (if !mode.multiLine then .textEnd
        else if mode.anyLineEnd then .anyLineEnd else .lineEnd))
  | look l => some (.look l)
  | short set negated => (set.chars? mode negated).map .set
  | property chars negated => (mode.propertySet? chars negated).map .set

end CpuPinning.Pattern
