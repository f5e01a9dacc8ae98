import CpuPinning.Unicode.Property

/-!
# Regular expressions

Expressions over characters, with assertions about the place where they stand, and the spans
of a text that they match.  Which of several matches is preferred does not matter here, so
greedy and lazy repetition are the same, and a group that captures differs from one that
does not in its size only.
-/

namespace CpuPinning.Pattern

open Unicode (CharSet)

/-- Whether a character is part of a word, by the Unicode rule or among ASCII characters only. -/
inductive WordRule where
  | unicode
  | ascii
deriving DecidableEq, Repr

private def unicodeWordChars : CharSet := Unicode.wordChars

private def asciiWordChars : CharSet := ⟨[⟨48, 57⟩, ⟨65, 90⟩, ⟨95, 95⟩, ⟨97, 122⟩]⟩

/-- The characters of words. -/
def WordRule.chars : WordRule → CharSet
  | unicode => unicodeWordChars
  | ascii => asciiWordChars

/-- Whether there is a character and it is part of a word. -/
def WordRule.holds (rule : WordRule) : Option Char → Bool
  | some c => rule.chars.contains c.toNat
  | none => false

/-- Assertions about a place between two characters. -/
inductive Look where
  | textStart
  | textEnd
  /-- The start of the text, or after a line feed. -/
  | lineStart
  /-- The end of the text, or before a line feed. -/
  | lineEnd
  /-- The start of a line that any of the three customary line ends closes. -/
  | anyLineStart
  /-- The end of a line that any of the three customary line ends closes. -/
  | anyLineEnd
  | wordBoundary (rule : WordRule)
  | noWordBoundary (rule : WordRule)
  | wordStart (rule : WordRule)
  | wordEnd (rule : WordRule)
  /-- No word character before. -/
  | wordStartHalf (rule : WordRule)
  /-- No word character after. -/
  | wordEndHalf (rule : WordRule)
deriving DecidableEq, Repr

/-- Whether an assertion holds between the characters `prev` and `next`, absent at the ends. -/
def Look.holds (look : Look) (prev next : Option Char) : Bool :=
  match look with
  | textStart => prev.isNone
  | textEnd => next.isNone
  | lineStart => prev.isNone || prev == some '\n'
  | lineEnd => next.isNone || next == some '\n'
  | anyLineStart =>
      prev.isNone || prev == some '\n' || (prev == some '\r' && next != some '\n')
  | anyLineEnd =>
      next.isNone || next == some '\r' || (next == some '\n' && prev != some '\r')
  | wordBoundary rule => rule.holds prev != rule.holds next
  | noWordBoundary rule => rule.holds prev == rule.holds next
  | wordStart rule => !rule.holds prev && rule.holds next
  | wordEnd rule => rule.holds prev && !rule.holds next
  | wordStartHalf rule => !rule.holds prev
  | wordEndHalf rule => !rule.holds next

/-- A regular expression. -/
inductive Regex where
  | empty
  | set (chars : CharSet)
  | look (l : Look)
  /-- A group that captures. -/
  | group (r : Regex)
  | cat (r s : Regex)
  | alt (r s : Regex)
  /-- At least `least` repetitions, and at most `most` if that is given. -/
  | times (r : Regex) (least : Nat) (most : Option Nat)
deriving DecidableEq, Repr

/-- `Matches r before mid after`: in the text made of the three parts, `r` matches the
middle one. -/
inductive Matches : Regex → List Char → List Char → List Char → Prop where
  | empty {before after} : Matches .empty before [] after
  | set {chars before c after} : chars.contains c.toNat = true →
      Matches (.set chars) before [c] after
  | look {l before after} : l.holds before.getLast? after.head? = true →
      Matches (.look l) before [] after
  | group {r before mid after} : Matches r before mid after →
      Matches (.group r) before mid after
  | cat {r s before mid mid' after} : Matches r before mid (mid' ++ after) →
      Matches s (before ++ mid) mid' after → Matches (.cat r s) before (mid ++ mid') after
  | altLeft {r s before mid after} : Matches r before mid after →
      Matches (.alt r s) before mid after
  | altRight {r s before mid after} : Matches s before mid after →
      Matches (.alt r s) before mid after
  | timesDone {r most before after} : Matches (.times r 0 most) before [] after
  | timesMore {r least most before mid mid' after} : most ≠ some 0 →
      Matches r before mid (mid' ++ after) →
      Matches (.times r (least - 1) (most.map (· - 1))) (before ++ mid) mid' after →
      Matches (.times r least most) before (mid ++ mid') after

end CpuPinning.Pattern
