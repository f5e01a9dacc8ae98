import CpuPinning.Mask.Basic
import CpuPinning.Text.Numeral

/-!
# Regions of a mask

A mask is shown as its regions: the longest runs of consecutive ids, ascending, between
commas.  A run of one id is shown as that id, a longer one as its ends with a dash between
them.
-/

namespace CpuPinning

/-- The ids from `lo` to `hi`, both included. -/
structure Region where
  lo : Nat
  hi : Nat
deriving DecidableEq, Repr

namespace Region

def contains (r : Region) (id : Nat) : Bool := r.lo ≤ id && id ≤ r.hi

/-- The text of a region. -/
def text (r : Region) : String :=
  if r.lo = r.hi then Text.showNat r.lo else Text.showNat r.lo ++ "-" ++ Text.showNat r.hi

end Region

/-- The longest runs of consecutive numbers in an ascending list. -/
def regions : List Nat → List Region
  | [] => []
  | id :: ids =>
      match regions ids with
      | [] => [⟨id, id⟩]
      | r :: rs => if r.lo = id + 1 then ⟨id, r.hi⟩ :: rs else ⟨id, id⟩ :: r :: rs

/-- The text of a mask. -/
def CpuMask.text (mask : CpuMask) : String :=
  String.intercalate "," ((regions mask.ids).map Region.text)

end CpuPinning
