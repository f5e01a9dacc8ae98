import CpuPinning.Pattern.Footprint
import CpuPinning.Pattern.Span
import CpuPinning.Pattern.Syntax

/-!
# Patterns for whole names

A pattern for names is put between anchors, as a group of its own, and the anchored text is
read as a pattern.  Since the anchors belong to the text, a pattern that closes the group
early escapes them.
-/

namespace CpuPinning.Pattern

/-- A pattern between anchors. -/
def anchored (pattern : List Char) : List Char :=
  '^' :: '(' :: '?' :: ':' :: pattern ++ [')', '$']

/-- The expression of an anchored pattern, if it is well formed and neither too deep nor too
large. -/
def compileAnchored? (pattern : List Char) : Option Regex :=
  (parse? (anchored pattern)).filter fits

end CpuPinning.Pattern
