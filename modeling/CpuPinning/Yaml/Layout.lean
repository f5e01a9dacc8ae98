import CpuPinning.Yaml.Token

/-!
# Layout

How a text is cut into tokens.  Three things are kept on the way: the columns of the lists
and objects that began by indentation, on each level of brackets the place where a key may
have begun, and whether a key may begin at all.  That a place was the start of a key is
known only at the colon, at most one line and 1024 characters later; the tokens for it are
then put in at that place.
-/

namespace CpuPinning.Yaml

/-- The place where a key may have begun. -/
structure KeyStart where
  /-- How many tokens stand before it. -/
  position : Nat
  /-- Whether the indentation leaves nothing else to begin there. -/
  required : Bool
  index : Nat
  line : Nat
  column : Nat
deriving Repr

/-- Whether the colon of a key may stand at a glyph. -/
def KeyStart.reaches (g : Glyph) (k : KeyStart) : Bool :=
  g.line ≤ k.line && g.index ≤ k.index + 1024

/-- What is known of the text that has been read. -/
structure Layout where
  /-- The tokens so far, the last one first. -/
  tokens : List Token
  /-- The columns of the lists and objects that are open by indentation, the innermost first. -/
  columns : List Nat
  /-- Where a key may have begun on the innermost level of brackets. -/
  start : Option KeyStart
  /-- The same for the levels around it, one for each open bracket. -/
  outer : List (Option KeyStart)
  /-- Whether a key may begin here. -/
  keyAllowed : Bool

namespace Layout

/-- Before a text. -/
def initial : Layout := ⟨[], [], none, [], true⟩

/-- Whether a bracket is open. -/
def flow (s : Layout) : Bool := !s.outer.isEmpty

/-- The least column of what belongs to the innermost list or object. -/
def least (s : Layout) : Nat :=
  match s.columns with
  | [] => 0
  | column :: _ => column + 1

def emit (t : Token) (s : Layout) : Layout := { s with tokens := t :: s.tokens }

def allowKey (allowed : Bool) (s : Layout) : Layout := { s with keyAllowed := allowed }

/-- Puts in a token behind the first `position` ones. -/
def insertAt (position : Nat) (t : Token) (s : Layout) : Layout :=
  { s with tokens := s.tokens.insertIdx (s.tokens.length - position) t }

/-- Ends the lists and objects that are indented beyond a column; brackets disregard indentation. -/
def dedentTo (keeps : Nat → Bool) (s : Layout) : Layout :=
  if s.flow then s
  else
    { s with
      tokens := (s.columns.takeWhile (!keeps ·)).map (fun _ => .dedent) ++ s.tokens
      columns := s.columns.dropWhile (!keeps ·) }

/-- Begins a list or an object at a column, if it is indented more than what is around it. -/
def indentTo (column position : Nat) (t : Token) (s : Layout) : Layout :=
  if s.flow || column < s.least then s
  else { s.insertAt position t with columns := column :: s.columns }

/-- Forgets where a key may have begun on this level; it is an error if there had to be one. -/
def dropStart? (s : Layout) : Option Layout :=
  if s.start.any (·.required) then none else some { s with start := none }

/-- Keeps the place of a glyph as one where a key may begin. -/
def keepStart? (g : Glyph) (s : Layout) : Option Layout :=
  if s.keyAllowed then do
    let s ← s.dropStart?
    let required := !s.flow && s.columns.head? = some g.column
    return { s with start := some ⟨s.tokens.length, required, g.index, g.line, g.column⟩ }
  else some s

/-- Forgets the places that are too far back; it is an error if there had to be a key at one. -/
def dropFar? (g : Glyph) (s : Layout) : Option Layout :=
  if (s.start :: s.outer).any (·.any fun k => k.required && !k.reaches g) then none
  else
    some { s with
      start := s.start.filter (·.reaches g)
      outer := s.outer.map (·.filter (·.reaches g)) }

/-- Opens a bracket. -/
def openBracket? (g : Glyph) (t : Token) (s : Layout) : Option Layout := do
  let s ← s.keepStart? g
  return { s with
    tokens := t :: s.tokens
    start := none
    outer := s.start :: s.outer
    keyAllowed := true }

/-- Closes a bracket. -/
def closeBracket? (t : Token) (s : Layout) : Option Layout := do
  let s ← s.dropStart?
  let s := match s.outer with
    | [] => s
    | start :: outer => { s with start, outer }
  return (s.emit t).allowKey false

/-- The dash before an item. -/
def dash? (g : Glyph) (s : Layout) : Option Layout := do
  guard (s.flow || s.keyAllowed)
  let s ← (s.indentTo g.column s.tokens.length .indentSeq).dropStart?
  return (s.emit .dash).allowKey true

/-- A question mark, which begins a key of any form. -/
def question? (g : Glyph) (s : Layout) : Option Layout := do
  guard (s.flow || s.keyAllowed)
  let s ← (s.indentTo g.column s.tokens.length .indentMap).dropStart?
  return (s.emit .key).allowKey (!s.flow)

/-- A colon; if a key may have begun on this line, it did. -/
def colon? (g : Glyph) (s : Layout) : Option Layout :=
  match s.start with
  | some k =>
      let s := (s.insertAt k.position .key).indentTo k.column k.position .indentMap
      some (({ s with start := none }.emit .colon).allowKey false)
  | none => do
      guard (s.flow || s.keyAllowed)
      let s := s.indentTo g.column s.tokens.length .indentMap
      return (s.emit .colon).allowKey (!s.flow)

/-- A token that belongs to a node and may begin a key. -/
def nodePart? (g : Glyph) (t : Token) (s : Layout) : Option Layout := do
  let s ← s.keepStart? g
  return (s.emit t).allowKey false

/-- A token that stands outside all lists and objects that began by indentation. -/
def outermost? (t : Token) (s : Layout) : Option Layout := do
  let s ← (s.dedentTo fun _ => false).dropStart?
  return (s.emit t).allowKey false

/-- Ends a text. -/
def finish? (s : Layout) : Option (List Token) :=
  (s.outermost? .finish).map (·.tokens.reverse)

/-- Skips blanks, comments and line breaks; a key may begin on a new line, unless a bracket
is open.  A tab does not count as a blank where a key may begin outside brackets. -/
def skip (flow : Bool) (comment keyAllowed : Bool) : List Glyph → Bool × List Glyph
  | [] => (keyAllowed, [])
  | g :: rest =>
      if isBreak g.char then skip flow false (keyAllowed || !flow) rest
      else if comment then skip flow true keyAllowed rest
      else if g.char = ' ' || (g.char = '\t' && (flow || !keyAllowed)) ||
          (g.char = byteOrderMark && g.column = 0) then skip flow false keyAllowed rest
      else if g.char = '#' then skip flow true keyAllowed rest
      else (keyAllowed, g :: rest)

/-- Marks that cannot begin a plain scalar. -/
private def isIndicator (c : Char) : Bool := "-?:,[]\x7b\x7d#&*!|>'\"%@\x60".toList.contains c

/-- Whether a plain scalar may begin with a character, given what follows it. -/
private def beginsPlain (flow : Bool) (c : Char) (rest : List Glyph) : Bool :=
  (!isIndicator c && !isBlank c) || c = '-' ||
    (!flow && (c = '?' || c = ':') && !endsWord rest)

/-- The innermost indentation, or zero if there is none. -/
private def outerIndent (s : Layout) : Nat := s.columns.head?.getD 0

/-- The next token, which begins with the character of `g`. -/
def next? (g : Glyph) (rest : List Glyph) (s : Layout) : Option (Layout × List Glyph) :=
  if g.column = 0 && g.char = '%' then do
    let (t, rest) ← directive? rest
    return (← s.outermost? t, rest)
  else match documentMark? (g :: rest) with
  | some (c, rest) => do
      return (← s.outermost? (if c = '-' then .documentStart else .documentEnd), rest)
  | none =>
      match g.char with
      | '[' => (s.openBracket? g .openSeq).map (·, rest)
      | '\x7b' => (s.openBracket? g .openMap).map (·, rest)
      | ']' => (s.closeBracket? .closeSeq).map (·, rest)
      | '\x7d' => (s.closeBracket? .closeMap).map (·, rest)
      | ',' => s.dropStart?.map fun s => ((s.emit .comma).allowKey true, rest)
      | '*' => do
          let (name, rest) ← name? rest
          return (← s.nodePart? g (.alias name), rest)
      | '&' => do
          let (name, rest) ← name? rest
          return (← s.nodePart? g (.anchor name), rest)
      | '!' => do
          let (t, rest) ← Tag.read? s.flow rest
          return (← s.nodePart? g (.tag t), rest)
      | '\'' => do
          let (text, rest) ← singleQuoted? .nothing rest
          return (← s.nodePart? g (.scalar false text), rest)
      | '"' => do
          let (text, rest) ← doubleQuoted? .asIs .nothing rest
          return (← s.nodePart? g (.scalar false text), rest)
      | c =>
          if c = '-' && endsWord rest then (s.dash? g).map (·, rest)
          else if c = '?' && (s.flow || endsWord rest) then (s.question? g).map (·, rest)
          else if c = ':' && (s.flow || endsWord rest) then (s.colon? g).map (·, rest)
          else if (c = '|' || c = '>') && !s.flow then do
            let (text, rest) ← blockScalar? (c = '>') s.outerIndent s.least rest
            return (((← s.dropStart?).emit (.scalar false text)).allowKey true, rest)
          else if beginsPlain s.flow c rest then do
            let (text, r) ← plain? s.flow s.least .nothing (g :: rest)
            let s ← s.nodePart? g (.scalar true text)
            return (s.allowKey r.newLine, r.rest)
          else none

/-- Reads tokens to the end of a text; each takes at least one character. -/
def run? (s : Layout) (gs : List Glyph) : Option (List Token) :=
  match skip s.flow false s.keyAllowed gs with
  | (_, []) => s.finish?
  | (keyAllowed, g :: rest) =>
      match (s.allowKey keyAllowed).dropFar? g with
      | none => none
      | some s =>
          match (s.dedentTo (· ≤ g.column)).next? g rest with
          | none => none
          | some (s, after) => if _h : after.length < gs.length then run? s after else none
termination_by gs.length

end Layout

/-- The tokens of a text. -/
def tokens? (cs : List Char) : Option (List Token) :=
  if cs.all isAllowed then Layout.initial.run? (place 0 0 0 cs) else none

end CpuPinning.Yaml
