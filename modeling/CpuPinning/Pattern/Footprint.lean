import CpuPinning.Pattern.Regex

/-!
# Size of an expression

How much memory the automata of an expression take.  A pattern is refused when one of its
two automata, which read the bytes of a text forwards and backwards, would be too large.
Counted repetition is what makes them large, since it repeats the states of what it counts.

A state takes 32 bytes.  A state with several transitions takes 8 bytes more for each, and
one with several successors 4 bytes more for each.
-/

namespace CpuPinning.Pattern

open Unicode (CharSet CharRange maxCodePoint)

/-! ### Sets as byte sequences -/

/-- Bytes from `lo` to `hi`. -/
structure ByteRange where
  lo : Nat
  hi : Nat
deriving DecidableEq, Repr

/-- The continuation bytes that carry the given six bits. -/
private def continuation (lo hi : Nat) : ByteRange := ⟨0x80 + lo, 0x80 + hi⟩

/-- The byte sequences for the numbers from `lo` to `hi`, which have `n` continuation bytes;
`first` makes the byte in front of them. -/
def sequences (first : Nat → Nat → ByteRange) : Nat → Nat → Nat → List (List ByteRange)
  | 0, lo, hi => [[first lo hi]]
  | n + 1, lo, hi =>
      let block := Nat.pow 64 (n + 1)
      let (a, b) := (lo / block, hi / block)
      let rest (lo hi : Nat) := sequences continuation n lo hi
      if a = b then (rest (lo % block) (hi % block)).map (first a a :: ·)
      else
        let startsWhole := lo % block == 0
        let endsWhole := hi % block == block - 1
        let head := if startsWhole then [] else
          (rest (lo % block) (block - 1)).map (first a a :: ·)
        let tail := if endsWhole then [] else (rest 0 (hi % block)).map (first b b :: ·)
        let firstWhole := if startsWhole then a else a + 1
        let lastWhole := if endsWhole then b else b - 1
        let whole := if firstWhole ≤ lastWhole then
          [first firstWhole lastWhole :: List.replicate (n + 1) (continuation 0 63)] else []
        head ++ whole ++ tail

/-- The characters with each length of encoding, with the marker bits of the first byte. -/
private def encodings : List (Nat × Nat × Nat × Nat) :=
  [(0, 0x7F, 0, 0), (0x80, 0x7FF, 1, 0xC0), (0x800, 0xD7FF, 2, 0xE0), (0xE000, 0xFFFF, 2, 0xE0),
    (0x10000, maxCodePoint, 3, 0xF0)]

private def rangeSequences (r : CharRange) : List (List ByteRange) :=
  encodings.flatMap fun (lo, hi, n, marker) =>
    let (lo, hi) := (max lo r.lo, min hi r.hi)
    if lo ≤ hi then sequences (fun a b => ⟨marker + a, marker + b⟩) n lo hi else []

/-- The encodings of a set, in order. -/
def setSequences (s : CharSet) : List (List ByteRange) := s.ranges.flatMap rangeSequences

/-! ### Sets as states -/

private def stateSize : Nat := 32

private def transitionSize : Nat := 8

private def successorSize : Nat := 4

/-- Sequences by their first range. -/
private def byFirst : List (List ByteRange) → List (ByteRange × List (List ByteRange))
  | [] => []
  | [] :: seqs => byFirst seqs
  | (r :: rest) :: seqs =>
      match byFirst seqs with
      | (r', rests) :: groups =>
          if r = r' then (r, rest :: rests) :: groups else (r, [rest]) :: (r', rests) :: groups
      | [] => [(r, [rest])]

/-- The states of the smallest automaton for sets of sequences that have up to `n` ranges.
Equal sets share their states, so that only different ones count. -/
private def sharedStates : Nat → List (List (List ByteRange)) → Nat
  | 0, _ => 0
  | n + 1, sets =>
      let groups := sets.eraseDups.map byFirst
      let here := (groups.map fun g => stateSize + transitionSize * g.length).sum
      let next := (groups.flatMap fun g => g.map (·.2)).filter (·.any (!·.isEmpty))
      here + sharedStates n next

/-- How many of the ranges of a sequence the one before it does not share. -/
private def newRanges : List ByteRange → List ByteRange → Nat
  | a :: as, b :: bs => if a = b then newRanges as bs else bs.length + 1
  | _, bs => bs.length

private def newRangesOf : List (List ByteRange) → Nat
  | a :: b :: seqs => newRanges a b + newRangesOf (b :: seqs)
  | _ => 0

/-- The direction in which an automaton reads. -/
inductive Direction where
  | forwards
  | backwards
deriving DecidableEq, Repr

/-- The size of a set. -/
def setSize (direction : Direction) (s : CharSet) : Nat :=
  match setSequences s with
  | [] => stateSize
  | [seq] => if s.ranges.all (fun r => r.lo = r.hi) then stateSize * seq.length
      else 2 * stateSize + transitionSize * seq.length
  | seqs@(first :: _) =>
      if s.isAscii then 2 * stateSize + transitionSize * s.ranges.length
      else match direction with
        | .forwards => stateSize + sharedStates 4 [seqs]
        | .backwards =>
            2 * stateSize + stateSize * (first.length + newRangesOf seqs) +
              successorSize * seqs.length

/-! ### Expressions -/

/-- Whether an expression matches nothing but the empty text. -/
def onlyEmpty : Regex → Bool
  | .empty => true
  | .look _ => true
  | .set _ => false
  | .group r => onlyEmpty r
  | .cat r s => onlyEmpty r && onlyEmpty s
  | .alt r s => onlyEmpty r && onlyEmpty s
  | .times r _ most => most == some 0 || onlyEmpty r

/-- Whether an expression may match the empty text at some place. -/
def mayBeEmpty : Regex → Bool
  | .empty => true
  | .look _ => true
  | .set _ => false
  | .group r => mayBeEmpty r
  | .cat r s => mayBeEmpty r && mayBeEmpty s
  | .alt r s => mayBeEmpty r || mayBeEmpty s
  | .times r least _ => least == 0 || mayBeEmpty r

/-- The set that alternatives amount to if each is a set. -/
private def unionOfSets? : Regex → Option CharSet
  | .set s => some s
  | .alt r s =>
      match unionOfSets? r, unionOfSets? s with
      | some a, some b => some (a.union b)
      | _, _ => none
  | _ => none

private def isAlternative : Regex → Bool
  | .alt .. => true
  | _ => false

/-- The size of counted or open repetition of something of the given size. -/
private def repeatedSize (inner : Nat) (canBeEmpty : Bool) (least : Nat) : Option Nat → Nat
  | none =>
      if least = 0 then
        inner + (if canBeEmpty then 3 * stateSize + 5 * successorSize
          else stateSize + 2 * successorSize)
      else inner * least + stateSize + 2 * successorSize
  | some most =>
      if most = 0 then stateSize
      else if least = most then inner * least
      else inner * most + stateSize + (most - least) * (stateSize + 2 * successorSize)

/-- The size of the states of an expression.  Repetition of what is always empty is cut to
one, and alternatives that are all sets are one set. -/
def footprint (direction : Direction) : Regex → Nat
  | .empty => stateSize
  | .look _ => stateSize
  | .set s => setSize direction s
  | .group r =>
      match direction with
      | .forwards => 2 * stateSize + footprint direction r
      | .backwards => footprint direction r
  | .cat .empty s => footprint direction s
  | .cat r s => footprint direction r + footprint direction s
  | .alt r s =>
      match unionOfSets? (.alt r s) with
      | some set => setSize direction set
      | none =>
          let joint := if isAlternative s then 0 else 2 * stateSize + successorSize
          footprint direction r + footprint direction s + joint + successorSize
  | .times r least most =>
      if onlyEmpty r then
        repeatedSize (footprint direction r) true (min least 1) (some (min 1 (most.getD 1)))
      else repeatedSize (footprint direction r) (mayBeEmpty r) least most

/-- The largest size of an automaton, ten binary megabytes. -/
def sizeLimit : Nat := 10 * 1024 * 1024

/-- Whether both automata of an expression are small enough. -/
def fits (r : Regex) : Bool :=
  footprint .forwards r ≤ sizeLimit && footprint .backwards r ≤ sizeLimit

end CpuPinning.Pattern
