import CpuPinning.Toml.Table

/-!
# Reading TOML

The lines of a text are headings and entries.  A list may run over several lines, an object
between braces may not.
-/

namespace CpuPinning.Toml

private def Token.isBlank : Token → Bool
  | .blank _ => true
  | _ => false

/-- Whether a token is no more than layout where lines do not count. -/
private def Token.isLayout : Token → Bool
  | .blank _ | .newline | .comment => true
  | _ => false

private def skipBlank (ts : List Token) : List Token := ts.dropWhile Token.isBlank

private def skipLines (ts : List Token) : List Token := ts.dropWhile Token.isLayout

private theorem length_skipLines_le (ts : List Token) : (skipLines ts).length ≤ ts.length :=
  (List.dropWhile_suffix Token.isLayout).length_le

/-- The names of a path with periods between them, and what follows it; `due` tells whether
a name is next. -/
def path? (due : Bool) : List Token → Option (List String × List Token)
  | .blank _ :: ts => path? due ts
  | .word cs :: ts =>
      if due then (path? false ts).map fun (path, r) => (String.ofList cs :: path, r)
      else some ([], .word cs :: ts)
  | .text long cs :: ts =>
      if !due then some ([], .text long cs :: ts)
      else if long then none
      else (path? false ts).map fun (path, r) => (String.ofList cs :: path, r)
  | .period :: ts => if due then none else path? true ts
  | ts => if due then none else some ([], ts)

/-- The path of an entry, and what follows its equals sign. -/
private def entryPath? (ts : List Token) : Option (List String × List Token) := do
  match ← path? true ts with
  | (path, .equals :: ts) => some (path, skipBlank ts)
  | _ => none

mutual

/-- A value, and what follows it. -/
def value? (ts : List Token) : Option (Value × List Token) :=
  match ts with
  | .openBracket :: rest => items? [] rest
  | .openBrace :: rest =>
      match skipBlank rest with
      | .closeBrace :: rest => some (.obj [], rest)
      | _ => entries? [] rest
  | ts => scalar? ts
termination_by (ts.length, 0)

/-- The list of which `done` are the first items in reverse; a comma may stand behind the
last one. -/
def items? (done : List Value) (ts : List Token) : Option (Value × List Token) :=
  match skipLines ts with
  | .closeBracket :: rest => some (.arr done.reverse, rest)
  | _ =>
      match value? (skipLines ts) with
      | none => none
      | some (v, rest) =>
          match skipLines rest with
          | .comma :: rest => if rest.length < ts.length then items? (v :: done) rest else none
          | .closeBracket :: rest => some (.arr (v :: done).reverse, rest)
          | _ => none
termination_by (ts.length, 1)
decreasing_by
  · have := length_skipLines_le ts
    simp only [Prod.lex_def]
    omega
  · simp only [Prod.lex_def]
    omega

/-- The object between braces of which `done` are the first entries. -/
def entries? (done : List (String × Item)) (ts : List Token) : Option (Value × List Token) :=
  match entryPath? ts with
  | none => none
  | some (path, rest) =>
      if rest.length < ts.length then
        match value? rest with
        | none => none
        | some (v, rest) =>
            match addPath? v path done, skipBlank rest with
            | some done, .closeBrace :: rest => some (.obj (membersOf [] done), rest)
            | some done, .comma :: rest =>
                if rest.length < ts.length then entries? done rest else none
            | _, _ => none
      else none
termination_by (ts.length, 0)

end

/-- What follows the end of a line, before which there may be a comment. -/
private def endLine? (ts : List Token) : Option (List Token) :=
  match skipBlank ts with
  | [] => some []
  | .newline :: ts => some ts
  | [.comment] => some []
  | .comment :: .newline :: ts => some ts
  | _ => none

/-- A heading behind its first bracket: a second one makes the table an item of a list. -/
private def heading? (ts : List Token) : Option (Section × List Token) := do
  let (isItem, ts) := match ts with
    | .openBracket :: ts => (true, ts)
    | ts => (false, ts)
  match ← path? true ts, isItem with
  | (path, .closeBracket :: ts), false => return (⟨path, false, []⟩, ← endLine? ts)
  | (path, .closeBracket :: .closeBracket :: ts), true => return (⟨path, true, []⟩, ← endLine? ts)
  | _, _ => none

/-- A line with an entry, which goes into a table. -/
private def entryLine? (s : Section) (ts : List Token) : Option (Section × List Token) := do
  let (path, ts) ← entryPath? ts
  let (v, ts) ← value? ts
  return ({ s with entries := ← addPath? v path s.entries }, ← endLine? ts)

/-- The tables of a text, of which `s` is the one that is being read; each line takes at
least one token. -/
private def sections? (s : Section) (ts : List Token) : Option (List Section) :=
  match skipLines ts with
  | [] => some [s]
  | .openBracket :: rest =>
      match heading? rest with
      | none => none
      | some (next, rest) =>
          if rest.length < ts.length then (sections? next rest).map (s :: ·) else none
  | rest =>
      match entryLine? s rest with
      | none => none
      | some (s, rest) => if rest.length < ts.length then sections? s rest else none
termination_by ts.length

/-- The value that a text denotes. -/
def read? (cs : List Char) : Option Value := do
  let ts ← tokens? cs
  let ss ← sections? ⟨[], false, []⟩ ts
  ofSections? ss

end CpuPinning.Toml
