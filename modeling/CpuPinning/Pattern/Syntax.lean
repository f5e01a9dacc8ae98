import CpuPinning.Pattern.Bracket

/-!
# Reading patterns

A pattern is read from left to right.  For each group that is still open there is a level,
which holds the alternatives that are complete and the items of the one being read.
-/

namespace CpuPinning.Pattern

open Unicode (CharSet)

/-- An item of a concatenation, and how deeply it is nested. -/
structure Item where
  regex : Regex
  depth : Nat
  /-- A group that only sets modes; nothing can repeat it. -/
  directive : Bool

/-- A group that is open, or the whole pattern. -/
structure Level where
  /-- The modes outside the group. -/
  outside : Mode
  capturing : Bool
  /-- The complete alternatives, last one first. -/
  branches : List Item
  /-- The items of the current alternative, last one first. -/
  items : List Item

namespace Level

def opened (outside : Mode) (capturing : Bool) : Level := ⟨outside, capturing, [], []⟩

def push (level : Level) (item : Item) : Level := { level with items := item :: level.items }

private def deepest (items : List Item) : Nat := items.foldl (fun d item => max d item.depth) 0

/-- The concatenation of items that stand in reverse. -/
def concatenation (items : List Item) : Item :=
  match items with
  | [] => ⟨.empty, 0, false⟩
  | [item] => { item with directive := false }
  | last :: before =>
      ⟨before.foldl (fun r item => .cat item.regex r) last.regex, deepest items + 1, false⟩

/-- The alternatives, which stand in reverse, one of them if there is no other. -/
def alternation (branches : List Item) : Item :=
  match branches with
  | [] => ⟨.empty, 0, false⟩
  | [branch] => branch
  | last :: before =>
      ⟨before.foldl (fun r branch => .alt branch.regex r) last.regex, deepest branches + 1, false⟩

/-- Ends the current alternative. -/
def branch (level : Level) : Level :=
  { level with branches := concatenation level.items :: level.branches, items := [] }

/-- All that a level holds. -/
def content (level : Level) : Item := alternation level.branch.branches

end Level

/-- What has been read: the innermost level, the levels around it, the modes and the group names. -/
structure Reading where
  level : Level
  around : List Level
  mode : Mode
  names : List (List Char)

namespace Reading

def start : Reading := ⟨.opened .initial false, [], .initial, []⟩

def push (st : Reading) (item : Item) : Reading := { st with level := st.level.push item }

/-- Opens a group whose content is read in `mode`. -/
def openGroup (st : Reading) (mode : Mode) (capturing : Bool) : Reading :=
  { st with level := .opened st.mode capturing, around := st.level :: st.around, mode := mode }

/-- Closes the innermost group. -/
def closeGroup? (st : Reading) : Option Reading :=
  match st.around with
  | [] => none
  | outer :: around =>
      let content := st.level.content
      let regex := if st.level.capturing then .group content.regex else content.regex
      some { st with
        level := outer.push ⟨regex, content.depth + 1, false⟩
        around := around
        mode := st.level.outside }

/-- Takes the last item, which must be one that can be repeated. -/
def popItem? (st : Reading) : Option (Item × Reading) :=
  match st.level.items with
  | [] => none
  | item :: items =>
      if item.directive then none
      else some (item, { st with level := { st.level with items := items } })

/-- Repeats the last item. -/
def repeatLast? (st : Reading) (least : Nat) (most : Option Nat) : Option Reading :=
  st.popItem?.map fun (item, st) =>
    st.push ⟨.times item.regex least most, item.depth + 1, false⟩

end Reading

/-! ### Groups -/

private def isNameChar (first : Bool) (c : Char) : Bool :=
  c = '_' ||
    (if first then Unicode.alphabetic.contains c.toNat
    else c = '.' || c = '[' || c = ']' || Unicode.alphanumeric.contains c.toNat)

/-- The name of a group, up to its closing angle bracket. -/
def groupName? (cs : List Char) : Option (List Char × List Char) :=
  let name := cs.takeWhile (· ≠ '>')
  match name, cs.dropWhile (· ≠ '>') with
  | first :: others, '>' :: rest =>
      if isNameChar true first && others.all (isNameChar false) then some (name, rest) else none
  | _, _ => none

def namedGroup? (st : Reading) (cs : List Char) : Option (Reading × List Char) :=
  match groupName? cs with
  | none => none
  | some (name, rest) =>
      if st.names.contains name then none
      else some ({ st.openGroup st.mode true with names := name :: st.names }, rest)

/-- Opens a group, or sets modes, given what follows the parenthesis.  There is no looking
around. -/
def group? (st : Reading) (cs : List Char) : Option (Reading × List Char) :=
  match st.mode.skip cs with
  | '?' :: '=' :: _ => none
  | '?' :: '!' :: _ => none
  | '?' :: '<' :: '=' :: _ => none
  | '?' :: '<' :: '!' :: _ => none
  | '?' :: 'P' :: '<' :: rest => namedGroup? st rest
  | '?' :: '<' :: rest => namedGroup? st rest
  | '?' :: rest =>
      match st.mode.read? rest with
      | none => none
      | some (mode, stop, rest) =>
          if stop = ')' then some ({ st.push ⟨.empty, 0, true⟩ with mode := mode }, rest)
          else some (st.openGroup mode false, rest)
  | rest => some (st.openGroup st.mode true, rest)

/-! ### Repetition -/

/-- The bound of counts. -/
private def countBound : Nat := 0x100000000

/-- A count, with blanks on both sides in any mode. -/
def count? (mode : Mode) (cs : List Char) : Option (Nat × List Char) :=
  let (ds, rest) := mode.take Text.isDigit cs.length (cs.dropWhile Text.isBlank)
  let rest := match rest with
    | [] => []
    | c :: after => if Text.isBlank c then mode.skip (after.dropWhile Text.isBlank) else rest
  ((Text.readDigits? ds).filter (· < countBound)).map fun n => (n, rest)

/-- The bounds of a counted repetition, given what follows the opening brace. -/
def bounds? (mode : Mode) (cs : List Char) : Option (Nat × Option Nat × List Char) :=
  match count? mode (mode.skip cs) with
  | none => none
  | some (least, ',' :: rest) =>
      match mode.skip rest with
      | '\x7d' :: rest => some (least, none, rest)
      | rest =>
          match count? mode rest with
          | some (most, '\x7d' :: rest) =>
              if least ≤ most then some (least, some most, rest) else none
          | _ => none
  | some (count, '\x7d' :: rest) => some (count, some count, rest)
  | some _ => none

/-- A question mark after a repetition makes it lazy. -/
def dropLazy : List Char → List Char
  | '?' :: rest => rest
  | cs => cs

/-! ### The pattern -/

/-- One step, at the character `c`. -/
def step? (st : Reading) (c : Char) (rest : List Char) : Option (Reading × List Char) :=
  match c with
  | '(' => group? st rest
  | ')' => st.closeGroup?.map fun st => (st, rest)
  | '|' => some ({ st with level := st.level.branch }, rest)
  | '[' =>
      (bracket? st.mode rest).map fun (s, rest) => (st.push ⟨.set s.chars, s.depth, false⟩, rest)
  | '?' => (st.repeatLast? 0 (some 1)).map fun st => (st, dropLazy rest)
  | '*' => (st.repeatLast? 0 none).map fun st => (st, dropLazy rest)
  | '+' => (st.repeatLast? 1 none).map fun st => (st, dropLazy rest)
  | '\x7b' =>
      match bounds? st.mode rest with
      | none => none
      | some (least, most, rest) =>
          (st.repeatLast? least most).map fun next => (next, dropLazy (st.mode.skip rest))
  | _ =>
      match Atom.read? st.mode (c :: rest) with
      | none => none
      | some (atom, rest) => (atom.regex? st.mode).map fun r => (st.push ⟨r, 0, false⟩, rest)

/-- Reads to the end of a pattern; each step takes at least one character. -/
def readOn? (st : Reading) (cs : List Char) : Option Reading :=
  match _h : st.mode.skip cs with
  | [] => some st
  | c :: rest =>
      match step? st c rest with
      | none => none
      | some (next, after) =>
          if _shorter : after.length ≤ rest.length then readOn? next after else none
termination_by cs.length
decreasing_by
  have := st.mode.length_skip_le cs
  rw [_h] at this
  simp only [List.length_cons] at this
  omega

/-- How deeply the parts of a pattern may be nested. -/
def nestLimit : Nat := 250

/-- The content of a pattern whose groups are all closed. -/
def Reading.finish? (st : Reading) : Option Item :=
  if st.around.isEmpty then some st.level.content else none

/-- The expression that a pattern denotes, whatever its depth. -/
def item? (cs : List Char) : Option Item := readOn? .start cs >>= Reading.finish?

/-- Whether a text is a pattern, leaving aside how deep and how large it is. -/
def wellFormed (cs : List Char) : Bool := (item? cs).isSome

/-- The expression that a pattern denotes, if it is not nested too deeply. -/
def parse? (cs : List Char) : Option Regex :=
  match item? cs with
  | some item => if item.depth ≤ nestLimit then some item.regex else none
  | none => none

end CpuPinning.Pattern
