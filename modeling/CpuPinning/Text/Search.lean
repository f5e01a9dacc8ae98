/-!
# Occurrence

Whether one text occurs in another without a gap.
-/

namespace CpuPinning.Text

/-- Whether `needle` is a contiguous part of a text; the empty text is part of every text. -/
def occurs [BEq α] (needle : List α) : List α → Bool
  | [] => needle.isEmpty
  | a :: as => needle.isPrefixOf (a :: as) || occurs needle as

theorem occurs_iff [BEq α] [LawfulBEq α] {needle as : List α} :
    occurs needle as = true ↔ needle <:+: as := by
  induction as with
  | nil => simp [occurs, List.isEmpty_iff]
  | cons a as ih => simp [occurs, ih, List.infix_cons_iff]

end CpuPinning.Text
