import CpuPinning.Decimal.Binary64
import CpuPinning.Text.Numeral
import CpuPinning.Value

/-!
# JSON numbers

The value of a number literal.  A whole number that fits in a 64-bit word is exact.  Every
other literal is read in one pass: digits go into a significand of 64 bits as long as they
fit, the rest only moves the decimal exponent, and the significand is then scaled by a
single power of ten.  The result can differ from the nearest number in the last place.
-/

namespace CpuPinning.Json

open Text (isDigit digitValue)
open Decimal (Binary64)

/-- A literal cut into its parts: sign, whole digits, decimal digits and exponent, where present. -/
structure Literal where
  negative : Bool
  whole : List Char
  decimals : Option (List Char)
  exponent : Option Int
deriving DecidableEq, Repr

/-- Digits after the mark of an exponent, with an optional sign. -/
private def exponentOf? (cs : List Char) : Option Int :=
  match cs with
  | '-' :: ds => (Text.readDigits? ds).map fun n => -(n : Int)
  | '+' :: ds => (Text.readDigits? ds).map Int.ofNat
  | ds => (Text.readDigits? ds).map Int.ofNat

/-- Cuts a literal; the whole part has no needless zero, and each part that is marked has a
digit. -/
def Literal.ofChars? (cs : List Char) : Option Literal := do
  let (negative, cs) := match cs with
    | '-' :: rest => (true, rest)
    | _ => (false, cs)
  let whole := cs.takeWhile isDigit
  guard (!whole.isEmpty && (whole.length = 1 || whole.head? != some '0'))
  let rest := cs.dropWhile isDigit
  let (decimals, rest) ← match rest with
    | '.' :: rest =>
        let ds := rest.takeWhile isDigit
        if ds.isEmpty then none else some (some ds, rest.dropWhile isDigit)
    | _ => some (none, rest)
  let exponent ← match rest with
    | [] => some none
    | c :: ds => if c = 'e' || c = 'E' then (exponentOf? ds).map some else none
  return ⟨negative, whole, decimals, exponent⟩

/-- Takes digits into a significand while it stays below 2 ^ 64; the rest of the digits,
from the first one that does not fit, is given back. -/
def absorb (significand : Nat) : List Char → Nat × List Char
  | [] => (significand, [])
  | c :: cs =>
      let next := 10 * significand + digitValue c
      if next < Text.word64 then absorb next cs else (significand, c :: cs)

/-- The largest exponent whose power of ten is finite. -/
private def greatestPower : Nat := 308

private def powerOfTen (n : Nat) : Binary64 := .ofDecimal false 1 n

/-- A significand times a power of ten, each rounded before they are multiplied or divided;
`none` if the result is too large.  A divisor beyond 1e308 is applied in two steps, after
which nothing is left. -/
def scale (significand : Nat) (exponent : Int) : Option Binary64 :=
  let f := Binary64.ofNat significand
  match exponent with
  | .ofNat n =>
      if significand = 0 then some f
      else if n ≤ greatestPower then
        let x := f.mul (powerOfTen n)
        if x.isFinite then some x else none
      else none
  | .negSucc n =>
      let n := n + 1
      if n ≤ greatestPower then some (f.div (powerOfTen n))
      else if n ≤ 2 * greatestPower then
        some ((f.div (powerOfTen greatestPower)).div (powerOfTen (n - greatestPower)))
      else some Binary64.zero

/-- The value of a literal; `none` if it is too large for the format. -/
def Literal.value? (lit : Literal) : Option Value :=
  let (significand, dropped) := absorb 0 lit.whole
  let signed (x : Binary64) : Value := .float (if lit.negative then x.neg else x)
  match lit.decimals, lit.exponent, dropped with
  | none, none, [] =>
      if !lit.negative then some (.int significand)
      else if significand = 0 || 0x8000000000000000 < significand then
        some (signed (.ofNat significand))
      else some (.int (-significand))
  | decimals, exponent, _ =>
      let ds := decimals.getD []
      let (significand, ignored) := absorb significand ds
      let places : Int := dropped.length - (ds.length - ignored.length : Nat)
      (scale significand (places + exponent.getD 0)).map signed

/-- The value of a number literal. -/
def number? (cs : List Char) : Option Value := Literal.ofChars? cs >>= Literal.value?

end CpuPinning.Json
