import CpuPinning.Json.Token

/-!
# TOML tokens

A text is cut into marks, words, quoted texts and blanks.  Blanks stay, because they may
stand between some tokens only; a carriage return before a line feed does not count.
-/

namespace CpuPinning.Toml

/-- A piece of TOML text. -/
inductive Token where
  | blank (cs : List Char)
  | newline
  | comment
  | equals
  | period
  | comma
  | colon
  | plus
  | openBrace
  | closeBrace
  | openBracket
  | closeBracket
  /-- Letters, digits, dashes and underscores: a bare key, a number or a truth value. -/
  | word (cs : List Char)
  /-- A quoted text; a long one stands between three quotation marks. -/
  | text (long : Bool) (cs : List Char)
deriving DecidableEq, Repr

def isBlank (c : Char) : Bool := c = ' ' || c = '\t'

def isWordChar (c : Char) : Bool :=
  ('0' ≤ c && c ≤ '9') || ('A' ≤ c && c ≤ 'Z') || ('a' ≤ c && c ≤ 'z') || c = '_' || c = '-'

/-- The characters that a comment may hold. -/
private def isCommentChar (c : Char) : Bool := c = '\t' || 0x20 ≤ c.toNat

/-- The characters that may stand in quotes as they are, apart from line breaks. -/
private def isTextChar (c : Char) : Bool := c = '\t' || (0x20 ≤ c.toNat && c.toNat ≠ 0x7F)

/-- A text in which each line ends with a line feed alone. -/
def uniformLines : List Char → List Char
  | [] => []
  | '\r' :: '\n' :: rest => '\n' :: uniformLines rest
  | c :: rest => c :: uniformLines rest

/-- The character with a code of so many hexadecimal digits. -/
private def codePoint? (digits : Nat) (cs : List Char) : Option (List Char × List Char) := do
  let code := cs.take digits
  guard (code.length = digits)
  let n ← code.foldlM (fun n c => (Json.hexValue? c).map (16 * n + ·)) 0
  if n.isValidChar then some ([Char.ofNat n], cs.drop digits) else none

/-- What an escape stands for, and what follows it; in a long text a line break may be escaped. -/
private def escape? (long : Bool) : List Char → Option (List Char × List Char)
  | [] => none
  | c :: rest =>
      match c with
      | '"' => some (['"'], rest)
      | '\\' => some (['\\'], rest)
      | 'b' => some (['\x08'], rest)
      | 'f' => some (['\x0c'], rest)
      | 'n' => some (['\n'], rest)
      | 'r' => some (['\r'], rest)
      | 't' => some (['\t'], rest)
      | 'u' => codePoint? 4 rest
      | 'U' => codePoint? 8 rest
      | _ =>
          if long && (c = '\n' || isBlank c) then
            match (c :: rest).dropWhile isBlank with
            | '\n' :: rest => some ([], rest.dropWhile fun c => isBlank c || c = '\n')
            | _ => none
          else none

/-- How many quotation marks follow the first one; more than four belong to what comes next. -/
private def marksAfter (mark : Char) (cs : List Char) : Nat :=
  min 4 (cs.takeWhile (· = mark)).length

/-- The text up to the closing quotation mark, and what follows it.  In a long text fewer
than three marks do not close, and up to two marks may stand right before the closing three. -/
def quoted? (mark : Char) (long : Bool) : List Char → Option (List Char × List Char)
  | [] => none
  | c :: rest =>
      if c = mark then
        if !long then some ([], rest)
        else
          let n := marksAfter mark rest
          if 2 ≤ n then some (List.replicate (n - 2) mark, rest.drop n)
          else
            (quoted? mark long (rest.drop n)).map fun (cs, r) =>
              (List.replicate (n + 1) mark ++ cs, r)
      else if c = '\\' && mark = '"' then
        match escape? long rest with
        | none => none
        | some (text, after) =>
            if _h : after.length ≤ rest.length then
              (quoted? mark long after).map fun (cs, r) => (text ++ cs, r)
            else none
      else if isTextChar c || (long && c = '\n') then
        (quoted? mark long rest).map fun (cs, r) => (c :: cs, r)
      else none
termination_by cs => cs.length
decreasing_by
  all_goals simp only [List.length_cons, List.length_drop]
  all_goals omega

/-- A quoted text behind its first mark; a line break right after the marks of a long one
does not count. -/
def text? (mark : Char) (cs : List Char) : Option (Token × List Char) :=
  match marksAfter mark cs, cs with
  | 0, cs => (quoted? mark false cs).map fun (text, r) => (.text false text, r)
  | 1, cs => some (.text false [], cs.tail)
  | _, _ :: _ :: '\n' :: cs => (quoted? mark true cs).map fun (text, r) => (.text true text, r)
  | _, cs => (quoted? mark true (cs.drop 2)).map fun (text, r) => (.text true text, r)

/-- A token of one character. -/
private def mark? : Char → Option Token
  | '\n' => some .newline
  | '=' => some .equals
  | '.' => some .period
  | ',' => some .comma
  | ':' => some .colon
  | '+' => some .plus
  | '\x7b' => some .openBrace
  | '\x7d' => some .closeBrace
  | '[' => some .openBracket
  | ']' => some .closeBracket
  | _ => none

/-- The first token of a text, and what follows it. -/
def next? : List Char → Option (Token × List Char)
  | [] => none
  | c :: rest =>
      match mark? c with
      | some t => some (t, rest)
      | none =>
          if isBlank c then some (.blank (c :: rest.takeWhile isBlank), rest.dropWhile isBlank)
          else if c = '#' then some (.comment, rest.dropWhile isCommentChar)
          else if c = '\'' || c = '"' then text? c rest
          else if isWordChar c then
            some (.word (c :: rest.takeWhile isWordChar), rest.dropWhile isWordChar)
          else none

/-- The tokens of a text with uniform lines; each takes at least one character. -/
private def cut? (cs : List Char) : Option (List Token) :=
  if cs.isEmpty then some []
  else
    match next? cs with
    | none => none
    | some (t, rest) => if _h : rest.length < cs.length then (cut? rest).map (t :: ·) else none
termination_by cs.length

/-- The tokens of a text, without the mark that may stand at its start to tell the byte order. -/
def tokens? (cs : List Char) : Option (List Token) :=
  let cs := uniformLines cs
  cut? (if cs.head? = some '\uFEFF' then cs.tail else cs)

end CpuPinning.Toml
