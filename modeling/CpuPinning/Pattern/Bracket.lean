import CpuPinning.Pattern.Atom

/-!
# Bracketed sets

A set between brackets is a union of characters, ranges, named sets and further sets in
brackets.  Two of the signs `&`, `-` and `~` in a row stand for intersection, difference and
symmetric difference with what follows; all three bind equally and to the left.
-/

namespace CpuPinning.Pattern

open Unicode (CharSet)

/-- The operations between sets. -/
inductive SetOp where
  | inter
  | diff
  | symmDiff
deriving DecidableEq, Repr

def SetOp.apply : SetOp → CharSet → CharSet → CharSet
  | inter => CharSet.inter
  | diff => CharSet.diff
  | symmDiff => CharSet.symmDiff

/-- A set that has been read, and how deeply it is nested. -/
structure NestedSet where
  chars : CharSet
  depth : Nat

/-- The items that have been read since the last bracket or operation. -/
structure Items where
  chars : CharSet
  count : Nat
  deepest : Nat

namespace Items

def none : Items := ⟨.empty, 0, 0⟩

def add (items : Items) (s : NestedSet) : Items :=
  ⟨items.chars.union s.chars, items.count + 1, max items.deepest s.depth⟩

def addFlat (items : Items) (s : CharSet) : Items := items.add ⟨s, 0⟩

/-- Two items or more are one level deeper than the deepest of them. -/
def toSet (items : Items) : NestedSet :=
  ⟨items.chars, if items.count ≤ 1 then items.deepest else items.deepest + 1⟩

end Items

/-- What is still open around the items: brackets, with the items before them, and left operands. -/
inductive SetFrame where
  | bracket (before : Items) (negated : Bool)
  | operand (op : SetOp) (left : NestedSet)

/-- Applies a pending operation to what stands on its right. -/
def closeOperand (mode : Mode) (right : NestedSet) : List SetFrame → NestedSet × List SetFrame
  | .operand op left :: frames =>
      (⟨op.apply (mode.foldSet left.chars) (mode.foldSet right.chars),
        max left.depth right.depth + 1⟩, frames)
  | frames => (right, frames)

/-- The classes that POSIX names, with their ASCII ranges. -/
def posixSet? (name : String) : Option CharSet :=
  match name with
  | "alnum" => some ⟨[⟨48, 57⟩, ⟨65, 90⟩, ⟨97, 122⟩]⟩
  | "alpha" => some ⟨[⟨65, 90⟩, ⟨97, 122⟩]⟩
  | "ascii" => some ⟨[⟨0, 127⟩]⟩
  | "blank" => some ⟨[⟨9, 9⟩, ⟨32, 32⟩]⟩
  | "cntrl" => some ⟨[⟨0, 31⟩, ⟨127, 127⟩]⟩
  | "digit" => some ⟨[⟨48, 57⟩]⟩
  | "graph" => some ⟨[⟨33, 126⟩]⟩
  | "lower" => some ⟨[⟨97, 122⟩]⟩
  | "print" => some ⟨[⟨32, 126⟩]⟩
  | "punct" => some ⟨[⟨33, 47⟩, ⟨58, 64⟩, ⟨91, 96⟩, ⟨123, 126⟩]⟩
  | "space" => some ⟨[⟨9, 13⟩, ⟨32, 32⟩]⟩
  | "upper" => some ⟨[⟨65, 90⟩]⟩
  | "word" => some ⟨[⟨48, 57⟩, ⟨65, 90⟩, ⟨95, 95⟩, ⟨97, 122⟩]⟩
  | "xdigit" => some ⟨[⟨48, 57⟩, ⟨65, 70⟩, ⟨97, 102⟩]⟩
  | _ => none

/-- A named class between colons and brackets, given what follows the first bracket. -/
def posixClass? (cs : List Char) : Option (CharSet × Bool × List Char) :=
  match cs with
  | ':' :: rest =>
      let (negated, rest) := match rest with
        | '^' :: rest => (true, rest)
        | _ => (false, rest)
      let name := rest.takeWhile (· ≠ ':')
      match rest.dropWhile (· ≠ ':') with
      | ':' :: ']' :: after => (posixSet? (String.ofList name)).map fun s => (s, negated, after)
      | _ => none
  | _ => none

/-- A character as one end of a range, or alone; without Unicode rules it must be ASCII. -/
def rangeEnd? (mode : Mode) : Atom → Option Nat
  | .char c _ => if mode.unicode || c.toNat < 128 then some c.toNat else none
  | _ => none

/-- The set of an atom that stands alone. -/
def atomSet? (mode : Mode) : Atom → Option CharSet
  | .char c b => (rangeEnd? mode (.char c b)).map .single
  | .short set negated => set.chars? mode negated
  | .property chars negated => mode.propertySet? chars negated
  | _ => none

/-- In brackets only a backslash gives a character a meaning. -/
def atom? (mode : Mode) : List Char → Option (Atom × List Char)
  | '\\' :: rest => Atom.escaped? mode rest
  | c :: rest => some (.char c false, rest)
  | [] => none

/-- The character after the next one, blanks and comments skipped in verbose mode.  Behind a
number sign the first character that is no blank counts, even on the same line. -/
def peekPast (mode : Mode) (cs : List Char) : Option Char :=
  if !mode.verbose then cs.head?
  else
    let rec visible (inComment : Bool) : List Char → Option Char
      | [] => none
      | c :: rest =>
          if Text.isBlank c then visible inComment rest
          else if !inComment && c = '#' then visible true rest
          else some c
    visible false cs <|> cs.head?

/-- An item: a character, a range, or a named set. -/
def classMember? (mode : Mode) (cs : List Char) : Option (CharSet × List Char) :=
  match atom? mode cs with
  | none => none
  | some (first, rest) =>
      match mode.skip rest with
      | [] => none
      | c :: after =>
          let alone := (atomSet? mode first).map fun s => (s, c :: after)
          if c ≠ '-' then alone
          else
            let following := peekPast mode after
            if following = some ']' || following = some '-' then alone
            else match mode.skip after with
              | [] => none
              | after =>
                  match atom? mode after with
                  | none => none
                  | some (second, rest) =>
                      match rangeEnd? mode first, rangeEnd? mode second with
                      | some lo, some hi => if lo ≤ hi then some (.range lo hi, rest) else none
                      | _, _ => none

/-- Takes the hyphens that stand for themselves at the start of a set. -/
def leadingHyphens (mode : Mode) : Nat → Items → List Char → Items × List Char
  | 0, items, cs => (items, cs)
  | fuel + 1, items, cs =>
      match cs with
      | '-' :: rest => leadingHyphens mode fuel (items.addFlat (.single 45)) (mode.skip rest)
      | _ => (items, cs)

/-- Whether a circumflex comes first, and what comes behind it. -/
def circumflex (mode : Mode) (cs : List Char) : Bool × List Char :=
  match mode.skip cs with
  | '^' :: rest => (true, mode.skip rest)
  | cs => (false, cs)

/-- Opens a bracket, given what follows it: a circumflex negates, hyphens stand for
themselves, and so does a closing bracket that comes first. -/
def openBracket? (mode : Mode) (cs : List Char) : Option (Bool × Items × List Char) :=
  let (negated, cs) := circumflex mode cs
  let (items, cs) := leadingHyphens mode cs.length .none cs
  match cs with
  | [] => none
  | ']' :: rest =>
      if items.count = 0 then
        match mode.skip rest with
        | [] => none
        | rest => some (negated, items.addFlat (.single 93), rest)
      else some (negated, items, cs)
  | _ => some (negated, items, cs)

/-- What a step inside brackets leads to: further reading, or the complete set. -/
inductive BracketStep where
  | more (items : Items) (frames : List SetFrame) (rest : List Char)
  | complete (s : NestedSet) (rest : List Char)

/-- Closes the innermost bracket. -/
def closeBracket? (mode : Mode) (items : Items) (frames : List SetFrame)
    (rest : List Char) : Option BracketStep :=
  let (s, frames) := closeOperand mode items.toSet frames
  match frames with
  | .bracket before negated :: frames =>
      match mode.closeSet? negated s.chars with
      | none => none
      | some chars =>
          let whole : NestedSet := ⟨chars, s.depth + 1⟩
          if frames.isEmpty then some (.complete whole rest)
          else some (.more (before.add whole) frames rest)
  | _ => none

def operator (mode : Mode) (op : SetOp) (items : Items) (frames : List SetFrame)
    (rest : List Char) : BracketStep :=
  let (left, frames) := closeOperand mode items.toSet frames
  .more .none (.operand op left :: frames) rest

/-- One step inside brackets, at the character `c`. -/
def bracketStep? (mode : Mode) (items : Items) (frames : List SetFrame) (c : Char)
    (rest : List Char) : Option BracketStep :=
  match c, rest with
  | '[', _ =>
      match posixClass? rest with
      | some (s, negated, after) =>
          (mode.closeSet? negated s).map fun s => .more (items.addFlat s) frames after
      | none =>
          (openBracket? mode rest).map fun (negated, inner, after) =>
            .more inner (.bracket items negated :: frames) after
  | ']', _ => closeBracket? mode items frames rest
  | '&', '&' :: after => some (operator mode .inter items frames after)
  | '-', '-' :: after => some (operator mode .diff items frames after)
  | '~', '~' :: after => some (operator mode .symmDiff items frames after)
  | _, _ =>
      (classMember? mode (c :: rest)).map fun (s, after) =>
        .more (items.addFlat s) frames after

/-- Reads on until the outermost bracket closes; each step takes at least one character. -/
def readBracket? (mode : Mode) (items : Items) (frames : List SetFrame) (cs : List Char) :
    Option (NestedSet × List Char) :=
  match _h : mode.skip cs with
  | [] => none
  | c :: rest =>
      match bracketStep? mode items frames c rest with
      | none => none
      | some (.complete s after) => some (s, after)
      | some (.more items frames after) =>
          if _shorter : after.length ≤ rest.length then readBracket? mode items frames after
          else none
termination_by cs.length
decreasing_by
  have := mode.length_skip_le cs
  rw [_h] at this
  simp only [List.length_cons] at this
  omega

/-- The set between brackets, given what follows the first bracket. -/
def bracket? (mode : Mode) (cs : List Char) : Option (NestedSet × List Char) :=
  match openBracket? mode cs with
  | none => none
  | some (negated, items, rest) => readBracket? mode items [.bracket .none negated] rest

end CpuPinning.Pattern
