import CpuPinning.Pattern.Regex

/-!
# Spans

The spans of a text that an expression matches, found for all places of the text at once.
They form a relation between places, kept as one row of bits for each start: bit `j` of row
`i` says that the expression matches from place `i` to place `j`.  Expressions become
operations on relations: concatenation composes them, alternatives join them, and repetition
takes powers.
-/

namespace CpuPinning.Pattern

/-- A place in a text: the characters on both sides, absent at the ends. -/
structure Place where
  prev : Option Char
  next : Option Char
deriving DecidableEq, Repr

def placesAfter (prev : Option Char) : List Char → List Place
  | [] => [⟨prev, none⟩]
  | c :: cs => ⟨prev, some c⟩ :: placesAfter (some c) cs

/-- The places of a text, one more than it has characters. -/
def places (text : List Char) : List Place := placesAfter none text

/-- A relation between the places of a text, by rows of bits. -/
abbrev Spans := List Nat

namespace Spans

/-- The rows of the start places, given which end each start has. -/
def rowsFrom (row : Nat → Place → Nat) : Nat → List Place → Spans
  | _, [] => []
  | i, p :: ps => row i p :: rowsFrom row (i + 1) ps

/-- Every place to itself where `p` holds. -/
def stay (p : Place → Bool) (ps : List Place) : Spans :=
  rowsFrom (fun i place => if p place then 1 <<< i else 0) 0 ps

/-- Every place to the one after it where `p` holds of the character between them. -/
def step (p : Char → Bool) (ps : List Place) : Spans :=
  rowsFrom (fun i place =>
    match place.next with
    | some c => if p c then 1 <<< (i + 1) else 0
    | none => 0) 0 ps

def union (a b : Spans) : Spans := List.zipWith (· ||| ·) a b

/-- The rows that a row selects, joined. -/
def select (row : Nat) : Spans → Nat
  | [] => 0
  | b :: bs =>
      if row = 0 then 0
      else if row % 2 = 1 then b ||| select (row / 2) bs else select (row / 2) bs

/-- First `a`, then `b`. -/
def compose (a b : Spans) : Spans := a.map (select · b)

/-- `a` as often as `n` says, by halving `n`; `one` is the relation of every place to itself. -/
def power (one a : Spans) (n : Nat) : Spans :=
  if n = 0 then one
  else
    let half := power one a (n / 2)
    let even := compose half half
    if n % 2 = 1 then compose even a else even
termination_by n
decreasing_by omega

end Spans

/-- The spans of an expression between the places of a text. -/
def spans (ps : List Place) : Regex → Spans
  | .empty => Spans.stay (fun _ => true) ps
  | .set chars => Spans.step (fun c => chars.contains c.toNat) ps
  | .look l => Spans.stay (fun p => l.holds p.prev p.next) ps
  | .group r => spans ps r
  | .cat r s => Spans.compose (spans ps r) (spans ps s)
  | .alt r s => Spans.union (spans ps r) (spans ps s)
  | .times r least most =>
      let one := Spans.stay (fun _ => true) ps
      let once := spans ps r
      let atMostOnce := Spans.union one once
      let rest := match most with
        | some most => most - least
        -- no text has room for more repetitions that are not empty
        | none => ps.length
      Spans.compose (Spans.power one once least) (Spans.power one atMostOnce rest)

/-- Whether an expression matches some span of a text. -/
def occursIn (r : Regex) (text : List Char) : Bool := (spans (places text) r).any (· ≠ 0)

end CpuPinning.Pattern
