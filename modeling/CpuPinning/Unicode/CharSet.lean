/-!
# Sets of code points

A set of characters is kept as its ranges of code points, ascending and with a gap between
any two, so that a set has one form.  Surrogate code points may lie in a range; no character
is one of them.
-/

namespace CpuPinning.Unicode

/-- The code points from `lo` to `hi`, both included. -/
structure CharRange where
  lo : Nat
  hi : Nat
deriving DecidableEq, Repr

/-- The highest code point. -/
def maxCodePoint : Nat := 0x10FFFF

/-- A set of code points. -/
structure CharSet where
  ranges : List CharRange
deriving DecidableEq, Repr

namespace CharSet

def empty : CharSet := ⟨[]⟩

def all : CharSet := ⟨[⟨0, maxCodePoint⟩]⟩

def single (n : Nat) : CharSet := ⟨[⟨n, n⟩]⟩

def ofChar (c : Char) : CharSet := single c.toNat

/-- The code points from `lo` to `hi`; none if `hi` is below `lo`. -/
def range (lo hi : Nat) : CharSet := if hi < lo then empty else ⟨[⟨lo, hi⟩]⟩

/-- Whether a code point lies in one of the ranges. -/
private def inRanges (n : Nat) : List CharRange → Bool
  | [] => false
  | r :: rs => if n < r.lo then false else n ≤ r.hi || inRanges n rs

def contains (s : CharSet) (n : Nat) : Bool := inRanges n s.ranges

/-- Puts a range in front of the ranges above it, joining what it reaches. -/
private def join (lo hi : Nat) : List CharRange → List CharRange
  | [] => [⟨lo, hi⟩]
  | r :: rs => if r.lo ≤ hi + 1 then join lo (max hi r.hi) rs else ⟨lo, hi⟩ :: r :: rs

/-- The ranges of two ascending lists by their lower ends. -/
private def mergeRanges : List CharRange → List CharRange → List CharRange
  | [], bs => bs
  | as, [] => as
  | a :: as, b :: bs =>
      if a.lo ≤ b.lo then a :: mergeRanges as (b :: bs) else b :: mergeRanges (a :: as) bs

private def joinAll (rs : List CharRange) : List CharRange :=
  rs.foldr (fun r joined => join r.lo r.hi joined) []

def union (a b : CharSet) : CharSet := ⟨joinAll (mergeRanges a.ranges b.ranges)⟩

/-- The gaps between the ranges, from `next` on. -/
private def gaps (next : Nat) : List CharRange → List CharRange
  | [] => if next ≤ maxCodePoint then [⟨next, maxCodePoint⟩] else []
  | r :: rs =>
      if next < r.lo then ⟨next, r.lo - 1⟩ :: gaps (r.hi + 1) rs else gaps (r.hi + 1) rs

def complement (s : CharSet) : CharSet := ⟨gaps 0 s.ranges⟩

def inter (a b : CharSet) : CharSet := (a.complement.union b.complement).complement

def diff (a b : CharSet) : CharSet := a.inter b.complement

def symmDiff (a b : CharSet) : CharSet := (a.diff b).union (b.diff a)

/-- Any code points, in any order. -/
def ofList (ns : List Nat) : CharSet :=
  ⟨joinAll ((ns.mergeSort (· ≤ ·)).map fun n => ⟨n, n⟩)⟩

def unions (ss : List CharSet) : CharSet :=
  ⟨joinAll ((ss.flatMap ranges).mergeSort fun a b => a.lo ≤ b.lo)⟩

/-- Whether all code points are below 128. -/
def isAscii (s : CharSet) : Bool := s.ranges.all (·.hi < 128)

end CharSet

end CpuPinning.Unicode
