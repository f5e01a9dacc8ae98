import CpuPinning.Decimal.Binary64
import CpuPinning.Text.Numeral

/-!
# Decimal literals

Numbers written with a point or an exponent.  The value is the nearest one of the format,
whatever the number of digits.
-/

namespace CpuPinning.Decimal

open Text (isDigit)

/-- The exponent behind its mark: digits, with an optional sign before them. -/
private def exponent? : List Char → Option Int
  | '-' :: ds => (Text.readDigits? ds).map fun n => -(n : Int)
  | '+' :: ds => (Text.readDigits? ds).map Int.ofNat
  | ds => (Text.readDigits? ds).map Int.ofNat

/-- The number that a literal denotes: digits, a point with digits on at least one side of
it, and an exponent.  The sign, if any, stands before it. -/
def readMagnitude? (negative : Bool) (cs : List Char) : Option Binary64 := do
  let whole := cs.takeWhile isDigit
  let rest := cs.dropWhile isDigit
  let (decimals, rest) := match rest with
    | '.' :: rest => (rest.takeWhile isDigit, rest.dropWhile isDigit)
    | _ => ([], rest)
  guard (!(whole ++ decimals).isEmpty)
  let exponent ← match rest with
    | [] => some 0
    | c :: ds => if c = 'e' || c = 'E' then exponent? ds else none
  return .ofDecimal negative (Text.digitsValue (whole ++ decimals)) (exponent - decimals.length)

/-- The number that a literal with an optional sign denotes. -/
def read? : List Char → Option Binary64
  | '-' :: cs => readMagnitude? true cs
  | '+' :: cs => readMagnitude? false cs
  | cs => readMagnitude? false cs

end CpuPinning.Decimal
