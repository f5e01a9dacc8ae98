import CpuPinning.Decimal.Binary64
import CpuPinning.Text.Numeral

/-!
# Fixed places

A number written with a given number of places after the point.  The exact value is rounded,
a half to the even digit.
-/

namespace CpuPinning.Decimal

/-- The text of a finite number with `places` digits after the point; `places` is not zero. -/
def writeFixed (places : Nat) (x : Binary64) : String :=
  let (num, den) := x.ratio
  let unit := Nat.pow 10 places
  let scaled := Binary64.roundQuotient (num * unit) den
  let fraction := (Nat.toDigits 10 (scaled % unit))
  let padded := List.replicate (places - fraction.length) '0' ++ fraction
  let sign := if x.negative then "-" else ""
  sign ++ Text.showNat (scaled / unit) ++ "." ++ String.ofList padded

end CpuPinning.Decimal
