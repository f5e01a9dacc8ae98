import CpuPinning.Text.Blank

/-!
# Modes

How the parts of a pattern are read: each mode is set by a letter in a group that starts
with a question mark, until the group around it ends.
-/

namespace CpuPinning.Pattern

/-- The modes in force at a place of a pattern. -/
structure Mode where
  ignoreCase : Bool
  multiLine : Bool
  dotMatchesAll : Bool
  lazyFirst : Bool
  unicode : Bool
  anyLineEnd : Bool
  verbose : Bool
deriving DecidableEq, Repr

namespace Mode

/-- Unicode rules, and nothing else. -/
def initial : Mode := ⟨false, false, false, false, true, false, false⟩

/-- A mode with the setting of a letter changed; `none` if the letter names no setting. -/
def set? (mode : Mode) (letter : Char) (on : Bool) : Option Mode :=
  match letter with
  | 'i' => some { mode with ignoreCase := on }
  | 'm' => some { mode with multiLine := on }
  | 's' => some { mode with dotMatchesAll := on }
  | 'U' => some { mode with lazyFirst := on }
  | 'u' => some { mode with unicode := on }
  | 'R' => some { mode with anyLineEnd := on }
  | 'x' => some { mode with verbose := on }
  | _ => none

/-- Letters that have been read, whether a hyphen has, and whether the last one was a hyphen. -/
structure Letters where
  mode : Mode
  seen : List Char
  negated : Bool
  afterHyphen : Bool

def readLetters (l : Letters) : List Char → Option (Letters × Char × List Char)
  | [] => none
  | c :: cs =>
      if c = ':' || c = ')' then if l.afterHyphen then none else some (l, c, cs)
      else if c = '-' then
        if l.negated then none
        else readLetters { l with negated := true, afterHyphen := true } cs
      else if l.seen.contains c then none
      else match l.mode.set? c !l.negated with
        | none => none
        | some mode => readLetters ⟨mode, c :: l.seen, l.negated, false⟩ cs

/-- Reads the letters after a question mark up to a colon or a closing parenthesis.  No
letter may come twice, letters after a hyphen switch off, and a hyphen needs a letter behind
it.  A closing parenthesis needs a letter before it. -/
def read? (mode : Mode) (cs : List Char) : Option (Mode × Char × List Char) :=
  match readLetters ⟨mode, [], false, false⟩ cs with
  | none => none
  | some (l, stop, rest) =>
      if stop = ')' && l.seen.isEmpty then none else some (l.mode, stop, rest)

end Mode

/-- Skips blanks and comments; a comment goes from a number sign to the end of the line. -/
def skipBlanks (inComment : Bool) : List Char → List Char
  | [] => []
  | c :: cs =>
      if inComment then skipBlanks (c ≠ '\n') cs
      else if Text.isBlank c then skipBlanks false cs
      else if c = '#' then skipBlanks true cs
      else c :: cs

/-- Skips blanks and comments in verbose mode, and nothing otherwise. -/
def Mode.skip (mode : Mode) (cs : List Char) : List Char :=
  if mode.verbose then skipBlanks false cs else cs

/-- Takes characters of a kind, and in verbose mode what may be skipped behind each of them. -/
def Mode.take (mode : Mode) (kind : Char → Bool) : Nat → List Char → List Char × List Char
  | 0, cs => ([], cs)
  | fuel + 1, cs =>
      match cs with
      | [] => ([], [])
      | c :: rest =>
          if kind c then
            let (taken, r) := mode.take kind fuel (mode.skip rest)
            (c :: taken, r)
          else ([], cs)

theorem length_skipBlanks_le (inComment : Bool) (cs : List Char) :
    (skipBlanks inComment cs).length ≤ cs.length := by
  induction cs generalizing inComment with
  | nil => simp [skipBlanks]
  | cons c cs ih =>
      simp only [skipBlanks, List.length_cons]
      split
      · exact Nat.le_succ_of_le (ih _)
      · split
        · exact Nat.le_succ_of_le (ih _)
        · split
          · exact Nat.le_succ_of_le (ih _)
          · simp

theorem Mode.length_skip_le (mode : Mode) (cs : List Char) :
    (mode.skip cs).length ≤ cs.length := by
  unfold Mode.skip
  split
  · exact length_skipBlanks_le _ _
  · exact Nat.le_refl _

end CpuPinning.Pattern
