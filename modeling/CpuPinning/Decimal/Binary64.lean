/-!
# Binary64 numbers

A number of the 64-bit binary format, kept as its sign and the code of its magnitude, so
that it can be compared, printed and reasoned about without machine arithmetic.  The code
counts the magnitudes from zero upwards: its high bits are the exponent field and its low 52
bits the fraction field.

Every result is the exact rational result rounded once, to the nearest number and on a tie
to the one with the even code.
-/

namespace CpuPinning.Decimal

/-- A finite or infinite number of the 64-bit binary format. -/
structure Binary64 where
  negative : Bool
  code : Nat
deriving DecidableEq, Repr

namespace Binary64

/-- How many codes share one exponent. -/
def fractionCount : Nat := 0x10000000000000

/-- The code of infinity, above the codes of all finite numbers. -/
def infinityCode : Nat := 2047 * fractionCount

def isFinite (x : Binary64) : Bool := x.code < infinityCode

def zero : Binary64 := ⟨false, 0⟩

/-- The magnitude of a code as a significand and the number of binary places to the left of
the lowest place of the format, 2 ^ -1074. -/
def parts (code : Nat) : Nat × Nat :=
  let exponent := code / fractionCount
  let fraction := code % fractionCount
  if exponent = 0 then (fraction, 0) else (fractionCount + fraction, exponent - 1)

/-- The magnitude of a finite number as a quotient of natural numbers. -/
def ratio (x : Binary64) : Nat × Nat :=
  let (significand, places) := parts x.code
  if places ≤ 1074 then (significand, 1 <<< (1074 - places))
  else (significand <<< (places - 1074), 1)

/-- A quotient rounded to the nearest whole number, a half to the even one. -/
def roundQuotient (num den : Nat) : Nat :=
  let quotient := num / den
  let rest := num % den
  if 2 * rest > den || (2 * rest == den && quotient % 2 == 1) then quotient + 1 else quotient

/-- The code nearest to `num / den`.  The quotient is scaled so that it has 53 significant
bits, or fewer where the lowest place of the format is reached first, and then rounded to a
whole significand. -/
def nearestCode (num den : Nat) : Nat :=
  if num = 0 then 0 else
  let guess : Int := (Nat.log2 num : Int) - Nat.log2 den - 53
  let scaled (e : Int) : Nat × Nat :=
    match e with
    | .ofNat n => (num, den <<< n)
    | .negSucc n => (num <<< (n + 1), den)
  let wide := scaled guess
  let e := max (-1074) (if wide.1 / wide.2 < 2 * fractionCount then guess else guess + 1)
  let exact := scaled e
  min infinityCode ((e + 1074).toNat * fractionCount + roundQuotient exact.1 exact.2)

/-- The number nearest to a quotient, with the given sign. -/
def ofRatio (negative : Bool) (num den : Nat) : Binary64 := ⟨negative, nearestCode num den⟩

def ofNat (n : Nat) : Binary64 := ofRatio false n 1

def neg (x : Binary64) : Binary64 := ⟨!x.negative, x.code⟩

/-- The product of two finite numbers. -/
def mul (x y : Binary64) : Binary64 :=
  let (a, b) := x.ratio
  let (c, d) := y.ratio
  ofRatio (x.negative != y.negative) (a * c) (b * d)

/-- The quotient of two finite numbers, the second not zero. -/
def div (x y : Binary64) : Binary64 :=
  let (a, b) := x.ratio
  let (c, d) := y.ratio
  ofRatio (x.negative != y.negative) (a * d) (b * c)

/-- Above this power of ten a number is infinite, and below its inverse it is zero. -/
private def decimalLimit : Int := 400

/-- The number nearest to `digits * 10 ^ exponent`. -/
def ofDecimal (negative : Bool) (digits : Nat) (exponent : Int) : Binary64 :=
  let size : Int := (Nat.toDigits 10 digits).length + exponent
  if digits = 0 || size < -decimalLimit then ⟨negative, 0⟩
  else if size > decimalLimit then ⟨negative, infinityCode⟩
  else match exponent with
    | .ofNat n => ofRatio negative (digits * Nat.pow 10 n) 1
    | .negSucc n => ofRatio negative digits (Nat.pow 10 (n + 1))

/-- The interchange form: the sign bit, the exponent field and the fraction field. -/
def toBits (x : Binary64) : Nat := (if x.negative then 0x8000000000000000 else 0) + x.code

end Binary64

end CpuPinning.Decimal
