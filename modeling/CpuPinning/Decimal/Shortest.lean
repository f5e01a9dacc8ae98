import CpuPinning.Decimal.Binary64

/-!
# Shortest decimals

The fewest significant digits that read back as a given number, and among those of equal length the
ones nearest to it.  A decimal of `n` digits that reads back exists exactly if one of the two
neighbours of the number on the grid of `n`-digit decimals reads back, so only these two are tried.
-/

namespace CpuPinning.Decimal

/-- The decimal `digits * 10 ^ exponent`, as digits and a scale. -/
structure Scaled where
  digits : Nat
  exponent : Int
deriving DecidableEq, Repr

namespace Scaled

/-- The decimal as a quotient of natural numbers. -/
def ratio (d : Scaled) : Nat × Nat :=
  match d.exponent with
  | .ofNat n => (d.digits * Nat.pow 10 n, 1)
  | .negSucc n => (d.digits, Nat.pow 10 (n + 1))

/-- The code of the number that the decimal reads back as. -/
def code (d : Scaled) : Nat := Binary64.nearestCode d.ratio.1 d.ratio.2

/-- The decimal without trailing zeros, given at least as much fuel as it has digits. -/
def strip : Nat → Scaled → Scaled
  | 0, d => d
  | fuel + 1, d =>
      if d.digits % 10 = 0 && d.digits ≠ 0 then strip fuel ⟨d.digits / 10, d.exponent + 1⟩ else d

end Scaled

private def digitCount (n : Nat) : Nat := (Nat.toDigits 10 n).length

/-- The power of ten of the first significant digit of `num / den`, which is not zero. -/
def leadingExponent (num den : Nat) : Int :=
  if den ≤ num then (digitCount (num / den) : Int) - 1
  else
    let inverse := (den + num - 1) / num
    if inverse ≤ 1 then 0 else -(digitCount (inverse - 1) : Int)

/-- The largest decimal on the grid of `10 ^ exponent` that is at most `num / den`. -/
def below (num den : Nat) (exponent : Int) : Scaled :=
  match exponent with
  | .ofNat n => ⟨num / (den * Nat.pow 10 n), exponent⟩
  | .negSucc n => ⟨num * Nat.pow 10 (n + 1) / den, exponent⟩

/-- Whether `num / den` lies nearer to the lower of two neighbours; a tie goes to the even one. -/
private def lowerIsNearer (num den : Nat) (lower upper : Scaled) : Bool :=
  let (a, b) := lower.ratio
  let (c, d) := upper.ratio
  -- twice the value against the sum of the neighbours
  let twice := 2 * num * (b * d)
  let sum := (a * d + c * b) * den
  twice < sum || (twice == sum && lower.digits % 2 == 0)

/-- The neighbour of `num / den` with `count` digits that reads back as `code`. -/
def readingBack (num den code : Nat) (exponent : Int) (count : Nat) : Option Scaled :=
  let lower := below num den (exponent - count + 1)
  let upper : Scaled := ⟨lower.digits + 1, lower.exponent⟩
  match lower.code == code, upper.code == code with
  | true, true => some (if lowerIsNearer num den lower upper then lower else upper)
  | true, false => some lower
  | false, true => some upper
  | false, false => none

/-- The shortest decimal of a finite magnitude; seventeen digits are always enough. -/
def shortest (x : Binary64) : Scaled :=
  if x.code = 0 then ⟨0, 0⟩ else
  let (num, den) := x.ratio
  let exponent := leadingExponent num den
  let found := (List.range 17).findSome? fun n => readingBack num den x.code exponent (n + 1)
  ((found.getD (below num den (exponent - 16))).strip 20)

/-- How a number is written: where positional notation ends, and the mark of the exponent. -/
structure NumberStyle where
  leastPositional : Int
  greatestPositional : Int
  exponentMark : Int → String

/-- The text of a number in a given style.  The positional form has a digit on both sides of
the point; the other has one digit before the point, and no point when that is the only
digit. -/
def NumberStyle.write (style : NumberStyle) (x : Binary64) : String :=
  let d := shortest x
  let ds := Nat.toDigits 10 d.digits
  let leading : Int := d.exponent + ds.length - 1
  let sign := if x.negative then "-" else ""
  let body : List Char :=
    if style.leastPositional ≤ leading && leading ≤ style.greatestPositional then
      match d.exponent with
      | .ofNat n => ds ++ List.replicate n '0' ++ ['.', '0']
      | .negSucc n =>
          let padded := List.replicate (n + 2 - ds.length) '0' ++ ds
          padded.take (padded.length - (n + 1)) ++ '.' :: padded.drop (padded.length - (n + 1))
    else
      let point := if ds.length ≤ 1 then [] else ['.']
      ds.take 1 ++ point ++ ds.drop 1 ++ (style.exponentMark leading).toList
  sign ++ String.ofList body

end CpuPinning.Decimal
