import CpuPinning.Decimal.Literal
import CpuPinning.Text.Search
import CpuPinning.Toml.Token
import CpuPinning.Value

/-!
# TOML scalars

Numbers, truth values and dates.  A number may be cut into several tokens, because it may
hold a point or a plus sign; a date is kept as it is written.
-/

namespace CpuPinning.Toml

/-- Digits of a base, as far as they go. -/
structure DigitRun where
  base : Nat
  /-- Whether a zero may stand before other digits. -/
  leadingZeros : Bool

private def DigitRun.isDigit (r : DigitRun) (c : Char) : Bool := (Json.hexValue? c).any (· < r.base)

/-- Where the reading of digits is: at the first one, behind a leading zero, behind an
underscore. -/
structure DigitPlace where
  first : Bool
  zero : Bool
  underscore : Bool

/-- The digits without the underscores, each of which stands between two digits, and what
follows them. -/
def DigitRun.take? (r : DigitRun) (p : DigitPlace) : List Char → Option (List Char × List Char)
  | [] => if p.first || p.underscore then none else some ([], [])
  | c :: cs =>
      if c = '0' && p.first then
        (r.take? ⟨false, true, p.underscore⟩ cs).map fun (ds, rest) => (c :: ds, rest)
      else if r.isDigit c then
        if !p.first && p.zero && !r.leadingZeros then none
        else (r.take? ⟨false, p.zero, false⟩ cs).map fun (ds, rest) => (c :: ds, rest)
      else if c = '_' && !p.first && !p.underscore then r.take? ⟨false, p.zero, true⟩ cs
      else if p.first || p.underscore || c = '_' then none
      else some ([], c :: cs)

/-- Digits of base ten. -/
private def digits? (leadingZeros : Bool) (cs : List Char) : Option (List Char × List Char) :=
  DigitRun.take? ⟨10, leadingZeros⟩ ⟨true, false, false⟩ cs

/-- Digits of base ten with an optional minus sign before them. -/
private def signedDigits? (leadingZeros : Bool) : List Char → Option (List Char × List Char)
  | '-' :: cs => (digits? leadingZeros cs).map fun (ds, rest) => ('-' :: ds, rest)
  | cs => digits? leadingZeros cs

/-- The number that all of a text denotes in some base. -/
private def based? (base : Nat) (cs : List Char) : Option Int := do
  let (ds, rest) ← DigitRun.take? ⟨base, true⟩ ⟨true, false, false⟩ cs
  guard rest.isEmpty
  let n ← ds.foldlM (fun n c => (Json.hexValue? c).map (base * n + ·)) 0
  return n

/-- The whole number that a word denotes; it has to fit in a signed 64-bit word. -/
def wholeNumber? (cs : List Char) : Option Int := do
  let n ← match cs with
    | '0' :: 'x' :: cs => based? 16 cs
    | '0' :: 'o' :: cs => based? 8 cs
    | '0' :: 'b' :: cs => based? 2 cs
    | cs => do
        let (ds, rest) ← signedDigits? false cs
        guard rest.isEmpty
        match ds with
        | '-' :: ds => some (-(Text.digitsValue ds : Int))
        | ds => some (Text.digitsValue ds)
  (Value.int n).toInt64?

/-- The exponent that stands behind its mark; a plus sign in it is a token of its own. -/
private def exponent? (cs : List Char) (ts : List Token) : Option (List Char × List Token) := do
  let ((ds, rest), ts) ← match cs, ts with
    | [], .plus :: .word w :: ts => (digits? true w).map (·, ts)
    | [], .word w :: ts => (digits? true w).map (·, ts)
    | [], _ => none
    | cs, ts => (signedDigits? true cs).map (·, ts)
  guard rest.isEmpty
  return (ds, ts)

/-- Whole digits, with decimals behind a point if there are any, and what follows them. -/
private def mantissa? (whole : List Char) (decimals : Option (List Char)) :
    Option (List Char × List Char) := do
  let (ds, rest) ← signedDigits? false whole
  match decimals with
  | none => some (ds, rest)
  | some after =>
      guard rest.isEmpty
      (digits? true after).map fun (fs, rest) => (ds ++ '.' :: fs, rest)

/-- The number with whole digits, decimals and an exponent; it has to be finite. -/
private def decimal? (whole : List Char) (decimals : Option (List Char)) (ts : List Token) :
    Option (Value × List Token) := do
  let (cs, ts) ← match ← mantissa? whole decimals with
    | (ds, []) => some (ds, ts)
    | (ds, c :: rest) =>
        if c = 'e' || c = 'E' then
          (exponent? rest ts).map fun (es, ts) => (ds ++ 'e' :: es, ts)
        else none
  let x ← Decimal.read? cs
  if x.isFinite then some (.float x, ts) else none

private def isRadixWord (w : List Char) : Bool :=
  ["0x", "0o", "0b"].contains (String.ofList (w.take 2))

/-- The words for numbers that are not finite, which have no value. -/
private def isSpecialNumber (w : List Char) : Bool :=
  ["inf", "-inf", "nan", "-nan"].contains (String.ofList w)

/-- The number that begins with a word. -/
def number? (w : List Char) (ts : List Token) : Option (Value × List Token) :=
  if isRadixWord w then (wholeNumber? w).map fun n => (.int n, ts)
  else if w.any fun c => c = 'e' || c = 'E' then decimal? w none ts
  else match ts with
    | .period :: .word after :: ts => decimal? w (some after) ts
    | .period :: _ => none
    | ts =>
        if isSpecialNumber w then some (.null, ts)
        else (wholeNumber? w).map fun n => (.int n, ts)

/-- A part of a time behind its mark, if the mark is there. -/
private def timePart? (mark : Token) (sign : Char) (text : List Char) (ts : List Token) :
    Option (List Char × List Token) :=
  match ts with
  | t :: rest =>
      if t = mark then
        match rest with
        | .word w :: rest => some (text ++ sign :: w, rest)
        | _ => none
      else some (text, ts)
  | [] => some (text, [])

/-- The text of a time behind its first colon: minutes, seconds, a fraction and an offset. -/
private def time? (text : List Char) : List Token → Option (List Char × List Token)
  | .word minutes :: .colon :: .word seconds :: ts => do
      let (text, ts) ← timePart? .period '.' (text ++ minutes ++ ':' :: seconds) ts
      let (text, ts) ← timePart? .plus '+' text ts
      timePart? .colon ':' text ts
  | _ => none

/-- The text of a date that begins with a word, with the time behind it. -/
private def date? (text : List Char) (withTime : Bool) (ts : List Token) :
    Option (List Char × List Token) :=
  let (text, ts) := match ts with
    | .blank [' '] :: .word w :: ts => (text ++ ' ' :: w, ts)
    | _ => (text, ts)
  if withTime then time? text ts
  else match ts with
    | .colon :: ts => time? (text ++ [':']) ts
    | _ => some (text, ts)

/-- The value of a date: its text under a name that no other object has. -/
private def ofDate (text : List Char) : Value :=
  .obj [("$__toml_private_datetime", .str (String.ofList text))]

/-- Whether a word is the start of a date: it holds a dash that is not the sign of an exponent. -/
private def beginsDate (w : List Char) : Bool :=
  w.contains 'T' || w.contains 't' ||
    (w.tail.contains '-' && !Text.occurs ['e', '-'] w && !Text.occurs ['E', '-'] w)

/-- A number or a date that begins with a word. -/
private def numberOrDate? (w : List Char) (ts : List Token) : Option (Value × List Token) :=
  if beginsDate w then (date? w false ts).map fun (text, ts) => (ofDate text, ts)
  else match ts with
    | .colon :: ts => (date? (w ++ [':']) true ts).map fun (text, ts) => (ofDate text, ts)
    | ts => number? w ts

/-- A value that is neither a list nor an object. -/
def scalar? : List Token → Option (Value × List Token)
  | .text _ cs :: ts => some (.str (String.ofList cs), ts)
  | .plus :: .word w :: ts => number? w ts
  | .word w :: ts =>
      match String.ofList w with
      | "true" => some (.bool true, ts)
      | "false" => some (.bool false, ts)
      | "inf" | "nan" => numberOrDate? w ts
      | _ => if startsNumber w then numberOrDate? w ts else none
  | _ => none
where
  startsNumber (w : List Char) : Bool := w.head?.any fun c => c = '-' || Text.isDigit c

end CpuPinning.Toml
