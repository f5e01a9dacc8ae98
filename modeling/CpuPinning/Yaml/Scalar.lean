import CpuPinning.Json.Token
import CpuPinning.Yaml.Glyph

/-!
# Plain and quoted scalars

A scalar without quotes, and one in single or double quotes, may run over several lines.
What separates two of its words is a gap, and the rule by which gaps are folded is the same
for all three.
-/

namespace CpuPinning.Yaml

/-- What separates two words of a scalar. -/
inductive Gap where
  /-- Blanks on one line. -/
  | blanks (cs : List Char)
  /-- A line break, absent if it was escaped, and the breaks of the empty lines after it. -/
  | breaks (first : Option Char) (more : List Char)
deriving DecidableEq, Repr

namespace Gap

/-- The gap between characters that adjoin. -/
def nothing : Gap := .blanks []

def spansLines : Gap → Bool
  | .blanks _ => false
  | .breaks .. => true

/-- A gap that one more blank or line break belongs to; blanks around line breaks do not count. -/
def extend (c : Char) : Gap → Gap
  | .blanks cs => if isBreak c then .breaks (some c) [] else .blanks (cs ++ [c])
  | .breaks first more => if isBreak c then .breaks first (more ++ [c]) else .breaks first more

/-- The text that a gap stands for.  A line feed is folded: into a space if it is alone, and
into nothing if empty lines follow it. -/
def text : Gap → List Char
  | .blanks cs => cs
  | .breaks (some '\n') [] => [' ']
  | .breaks (some '\n') more => more
  | .breaks first more => first.toList ++ more

end Gap

/-- What is left of a text behind a scalar, and whether a line ended on the way. -/
structure Remainder where
  newLine : Bool
  rest : List Glyph

private def isFlowMark (c : Char) : Bool :=
  c = ',' || c = '[' || c = ']' || c = '\x7b' || c = '\x7d'

/-- Whether a plain scalar is over where the next word would start. -/
private def stopsAtWord (flow : Bool) (indent : Nat) (gap : Gap) (g : Glyph)
    (rest : List Glyph) : Bool :=
  (!flow && gap.spansLines && g.column < indent) || (documentMark? (g :: rest)).isSome ||
    (g.char = '#' && gap != .nothing)

/-- Whether a plain scalar is over at a character, wherever it stands. -/
private def stopsAt (flow : Bool) (g : Glyph) (rest : List Glyph) : Bool :=
  (g.char = ':' && endsWord rest) || (flow && isFlowMark g.char)

/-- A plain scalar, read up to a mark that ends it; a colon ends it if a blank follows.
Inside brackets a colon may not stand before another mark.  On a line after the first, the
scalar has to be indented by at least `indent` columns, unless it is inside brackets, and a
tab may not stand in the indentation. -/
def plain? (flow : Bool) (indent : Nat) (gap : Gap) : List Glyph → Option (List Char × Remainder)
  | [] => some ([], ⟨gap.spansLines, []⟩)
  | g :: rest =>
      if isBlank g.char || isBreak g.char then
        if gap.spansLines && g.char = '\t' && g.column < indent then none
        else plain? flow indent (gap.extend g.char) rest
      else if stopsAtWord flow indent gap g rest then some ([], ⟨gap.spansLines, g :: rest⟩)
      else if flow && g.char = ':' && startsWith (fun c => isFlowMark c || c = '?') rest then none
      else if stopsAt flow g rest then some ([], ⟨gap.spansLines, g :: rest⟩)
      else (plain? flow indent .nothing rest).map fun (cs, r) => (gap.text ++ g.char :: cs, r)

/-- The text of a scalar in single quotes, where two quotes stand for one, and what follows it. -/
def singleQuoted? (gap : Gap) : List Glyph → Option (List Char × List Glyph)
  | [] => none
  | g :: rest =>
      if isBlank g.char || isBreak g.char then singleQuoted? (gap.extend g.char) rest
      else if (documentMark? (g :: rest)).isSome then none
      else if g.char = '\'' then
        match rest with
        | h :: more =>
            if h.char = '\'' then
              (singleQuoted? .nothing more).map fun (cs, r) => (gap.text ++ '\'' :: cs, r)
            else some (gap.text, rest)
        | [] => some (gap.text, [])
      else (singleQuoted? .nothing rest).map fun (cs, r) => (gap.text ++ g.char :: cs, r)

/-- What a character behind a backslash stands for: a character, or a code of so many digits. -/
def escape? (c : Char) : Option (Char ⊕ Nat) :=
  match c with
  | '0' => some (.inl '\x00')
  | 'a' => some (.inl '\x07')
  | 'b' => some (.inl '\x08')
  | 't' => some (.inl '\t')
  | '\t' => some (.inl '\t')
  | 'n' => some (.inl '\n')
  | 'v' => some (.inl '\x0b')
  | 'f' => some (.inl '\x0c')
  | 'r' => some (.inl '\r')
  | 'e' => some (.inl '\x1b')
  | ' ' => some (.inl ' ')
  | '"' => some (.inl '"')
  | '/' => some (.inl '/')
  | '\\' => some (.inl '\\')
  | 'N' => some (.inl '\u0085')
  | '_' => some (.inl '\u00a0')
  | 'L' => some (.inl '\u2028')
  | 'P' => some (.inl '\u2029')
  | 'x' => some (.inr 2)
  | 'u' => some (.inr 4)
  | 'U' => some (.inr 8)
  | _ => none

/-- The character with a given code. -/
def charOfCode? (n : Nat) : Option Char :=
  if n.isValidChar then some (Char.ofNat n) else none

/-- How the next character in double quotes is to be taken. -/
inductive Taking where
  | asIs
  /-- It stands behind a backslash. -/
  | escaped
  /-- It is a digit of a code, with so many digits after it, and this value of the digits
  before it. -/
  | digit (after : Nat) (value : Nat)

/-- The text of a scalar in double quotes, and what follows it. -/
def doubleQuoted? (taking : Taking) (gap : Gap) : List Glyph → Option (List Char × List Glyph)
  | [] => none
  | g :: rest =>
      match taking with
      | .asIs =>
          if isBlank g.char || isBreak g.char then doubleQuoted? .asIs (gap.extend g.char) rest
          else if (documentMark? (g :: rest)).isSome then none
          else if g.char = '"' then some (gap.text, rest)
          else if g.char = '\\' then
            (doubleQuoted? .escaped .nothing rest).map fun (cs, r) => (gap.text ++ cs, r)
          else (doubleQuoted? .asIs .nothing rest).map fun (cs, r) => (gap.text ++ g.char :: cs, r)
      | .escaped =>
          if isBreak g.char then doubleQuoted? .asIs (.breaks none []) rest
          else match escape? g.char with
            | none => none
            | some (.inl c) => (doubleQuoted? .asIs .nothing rest).map fun (cs, r) => (c :: cs, r)
            | some (.inr digits) => doubleQuoted? (.digit (digits - 1) 0) .nothing rest
      | .digit after value =>
          match Json.hexValue? g.char with
          | none => none
          | some d =>
              match after with
              | n + 1 => doubleQuoted? (.digit n (16 * value + d)) .nothing rest
              | 0 =>
                  match charOfCode? (16 * value + d) with
                  | none => none
                  | some c => (doubleQuoted? .asIs .nothing rest).map fun (cs, r) => (c :: cs, r)

end CpuPinning.Yaml
