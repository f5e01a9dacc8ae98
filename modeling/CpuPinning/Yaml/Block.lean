import CpuPinning.Text.Numeral
import CpuPinning.Yaml.Glyph

/-!
# Block scalars

A block scalar is a run of indented lines.  Its heading tells whether line breaks are kept
or folded, what becomes of the breaks at its end and, if that is not to be seen from the
lines, how far they are indented.
-/

namespace CpuPinning.Yaml

/-- What becomes of the line breaks at the end of a block scalar. -/
inductive Chomping where
  /-- All are dropped. -/
  | strip
  /-- The first is kept. -/
  | clip
  /-- All are kept. -/
  | keep
deriving DecidableEq, Repr

/-- What the heading of a block scalar says. -/
structure Heading where
  chomping : Chomping
  /-- By how much the lines are indented more than what the scalar belongs to. -/
  increment : Option Nat
deriving DecidableEq, Repr

/-- The sign of a chomping. -/
private def chomping? : List Glyph → Option (Chomping × List Glyph)
  | g :: rest =>
      if g.char = '+' then some (.keep, rest)
      else if g.char = '-' then some (.strip, rest)
      else none
  | [] => none

/-- A digit, if one comes next; the outer result is `none` if it is a zero. -/
private def increment? : List Glyph → Option (Option Nat × List Glyph)
  | g :: rest =>
      if g.char = '0' then none
      else if Text.isDigit g.char then some (some (Text.digitValue g.char), rest)
      else some (none, g :: rest)
  | [] => some (none, [])

/-- The rest of a line that holds no more than blanks and a comment; the line break goes with it. -/
def finishLine? (gs : List Glyph) : Option (List Glyph) :=
  let gs := gs.dropWhile (isBlank ·.char)
  let gs := if startsWith (· = '#') gs then gs.dropWhile (!isBreak ·.char) else gs
  match gs with
  | [] => some []
  | g :: rest => if isBreak g.char then some rest else none

/-- A heading up to the end of its line; its two parts may stand in either order. -/
def Heading.read? (gs : List Glyph) : Option (Heading × List Glyph) :=
  match chomping? gs with
  | some (chomping, gs) => do
      let (increment, gs) ← increment? gs
      return (⟨chomping, increment⟩, ← finishLine? gs)
  | none => do
      let (increment, gs) ← increment? gs
      let (chomping, gs) :=
        if increment.isSome then (chomping? gs).getD (.clip, gs) else (.clip, gs)
      return (⟨chomping, increment⟩, ← finishLine? gs)

/-- How the lines of a block scalar are put together. -/
structure BlockStyle where
  folded : Bool
  chomping : Chomping
  /-- The least indentation of the lines, if it is to be seen from them. -/
  least : Nat

/-- Where the reading of a block scalar is. -/
structure BlockState where
  /-- The indentation of the lines, once it is known. -/
  indent : Option Nat
  /-- The widest indentation seen so far. -/
  widest : Nat
  /-- Whether a line has begun. -/
  within : Bool
  /-- Whether the last line began with a blank. -/
  afterBlank : Bool
  /-- The line break that ended the last line. -/
  first : List Char
  /-- The breaks of the empty lines after it. -/
  more : List Char

namespace BlockState

/-- Before the first line. -/
def start (indent : Option Nat) : BlockState := ⟨indent, 0, false, false, [], []⟩

/-- The text between the last line and the next one, which begins with `c`. -/
def joint (style : BlockStyle) (s : BlockState) (c : Char) : List Char :=
  if style.folded && s.first = ['\n'] && !s.afterBlank && !isBlank c then
    (if s.more.isEmpty then [' '] else []) ++ s.more
  else s.first ++ s.more

/-- The line breaks at the end that are kept. -/
def tail (style : BlockStyle) (s : BlockState) : List Char :=
  match style.chomping with
  | .strip => []
  | .clip => s.first
  | .keep => s.first ++ s.more

/-- Whether a character in the margin belongs to the indentation. -/
def inMargin (s : BlockState) (g : Glyph) : Bool := s.indent.all (g.column < ·)

end BlockState

/-- The text of a block scalar, and what follows it.  The lines up to the first one that is
not empty show the indentation if the heading does not tell it.  A tab may not stand where a
line is to be indented. -/
def blockText? (style : BlockStyle) (s : BlockState) : List Glyph → Option (List Char × List Glyph)
  | [] => some (s.tail style, [])
  | g :: rest =>
      if s.within then
        if isBreak g.char then
          blockText? style { s with within := false, first := [g.char], more := [] } rest
        else (blockText? style s rest).map fun (cs, r) => (g.char :: cs, r)
      else if g.char = ' ' && s.inMargin g then
        blockText? style { s with widest := max s.widest (g.column + 1) } rest
      else if g.char = '\t' && s.inMargin g then none
      else if isBreak g.char then blockText? style { s with more := s.more ++ [g.char] } rest
      else
        let indent := s.indent.getD (max s.widest style.least)
        if g.column = indent then
          let next : BlockState := ⟨some indent, s.widest, true, isBlank g.char, [], []⟩
          (blockText? style next rest).map fun (cs, r) => (s.joint style g.char ++ g.char :: cs, r)
        else some (s.tail style, g :: rest)

/-- A block scalar behind its mark, and what follows it.  `outer` is the indentation of what
it belongs to, and `least` is the least that its own lines may have. -/
def blockScalar? (folded : Bool) (outer least : Nat) (gs : List Glyph) :
    Option (List Char × List Glyph) := do
  let (heading, gs) ← Heading.read? gs
  blockText? ⟨folded, heading.chomping, max least 1⟩ (.start (heading.increment.map (outer + ·))) gs

end CpuPinning.Yaml
