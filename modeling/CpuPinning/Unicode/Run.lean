import CpuPinning.Text.Blank
import CpuPinning.Unicode.CharSet

/-!
# Packed tables

Character tables are kept as lines of words.  In a partition of the code points each word is
a label of fixed width and the length of a run in hexadecimal; in a set the words are
hexadecimal lengths, by turns of a gap and of a range.
-/

namespace CpuPinning.Unicode

/-- A range of code points with its label. -/
structure Run where
  label : String
  lo : Nat
  hi : Nat
deriving Repr

private def hexDigitValue (c : Char) : Nat :=
  if c ≤ '9' then c.toNat - '0'.toNat else c.toNat - 'a'.toNat + 10

private def hexValue (cs : List Char) : Nat := cs.foldl (fun n c => 16 * n + hexDigitValue c) 0

/-- The words of some lines, which single blanks keep apart. -/
private def words (lines : List String) : List (List Char) :=
  lines.flatMap fun line => Text.splitBy (· == ' ') line.toList

private def runsFrom (width : Nat) : Nat → List (List Char) → List Run
  | _, [] => []
  | next, w :: ws =>
      let after := next + hexValue (w.drop width)
      ⟨String.ofList (w.take width), next, after - 1⟩ :: runsFrom width after ws

/-- The runs of a packed partition whose labels have `width` characters. -/
def unpackRuns (width : Nat) (packed : List String) : List Run := runsFrom width 0 (words packed)

private def rangesFrom : Nat → List (List Char) → List CharRange
  | next, gap :: length :: ws =>
      let lo := next + hexValue gap
      let after := lo + hexValue length
      ⟨lo, after - 1⟩ :: rangesFrom after ws
  | _, _ => []

/-- The ranges of a packed set. -/
def unpackSet (packed : List String) : CharSet := ⟨rangesFrom 0 (words packed)⟩

/-- The code points of the runs whose label satisfies `p`. -/
def runsWhere (p : String → Bool) (runs : List Run) : CharSet :=
  CharSet.union ⟨(runs.filter (p ·.label)).map fun r => ⟨r.lo, r.hi⟩⟩ .empty

end CpuPinning.Unicode
