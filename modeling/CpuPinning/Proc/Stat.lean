import CpuPinning.Text.Blank
import CpuPinning.Text.Numeral

/-!
# Process status

The status line of a process has its name in parentheses as the second field.  The name may hold
blanks and parentheses, so the fields after it are counted from the last closing parenthesis.
-/

namespace CpuPinning.Proc

/-- What stands after the last closing parenthesis, if there is one. -/
def afterName? (cs : List Char) : Option (List Char) :=
  if cs.contains ')' then some (cs.reverse.takeWhile (· ≠ ')')).reverse else none

/-- The parent of a process: the second field after its name. -/
def parentPid? (stat : List Char) : Option Nat :=
  match (afterName? stat).map Text.fields with
  | some (_ :: parent :: _) => Text.readNat? Text.word32 parent
  | _ => none

/-- Nothing before the last closing parenthesis counts. -/
theorem afterName?_append {after : List Char} (h : ')' ∉ after) (before : List Char) :
    afterName? (before ++ ')' :: after) = some after := by
  have hcontains : (before ++ ')' :: after).contains ')' = true := by simp
  have hreverse : (before ++ ')' :: after).reverse =
      after.reverse ++ ')' :: before.reverse := by simp
  have hafter : ∀ c ∈ after.reverse, decide (c ≠ ')') = true := by
    intro c hc
    simp only [decide_eq_true_eq]
    rintro rfl
    exact h (List.mem_reverse.1 hc)
  rw [afterName?, if_pos hcontains, hreverse, List.takeWhile_append_of_pos hafter,
    List.takeWhile_cons_of_neg (by simp), List.append_nil, List.reverse_reverse]

theorem parentPid?_append {after : List Char} (h : ')' ∉ after) (before before' : List Char) :
    parentPid? (before ++ ')' :: after) = parentPid? (before' ++ ')' :: after) := by
  rw [parentPid?, parentPid?, afterName?_append h, afterName?_append h]

theorem afterName?_of_not_mem {stat : List Char} (h : ')' ∉ stat) : afterName? stat = none := by
  rw [afterName?, if_neg (by simpa using h)]

theorem parentPid?_of_not_mem {stat : List Char} (h : ')' ∉ stat) : parentPid? stat = none := by
  rw [parentPid?, afterName?_of_not_mem h, Option.map_none]

/-- The parent is the number in the second field behind the last closing parenthesis. -/
theorem parentPid?_append_eq_some_iff {before after : List Char} {pid : Nat} (h : ')' ∉ after) :
    parentPid? (before ++ ')' :: after) = some pid ↔
      ∃ parent, Text.SecondField after parent ∧ Text.Written Text.word32 parent pid := by
  simp only [parentPid?, afterName?_append h, Option.map_some, Text.secondField_iff]
  constructor
  · intro hpid
    split at hpid
    · next state parent more hfields =>
      exact ⟨parent, ⟨state, more, Option.some.inj hfields⟩, Text.readNat?_eq_some_iff.1 hpid⟩
    · cases hpid
  · rintro ⟨parent, ⟨state, more, hfields⟩, hwritten⟩
    rw [hfields]
    exact Text.readNat?_eq_some_iff.2 hwritten

end CpuPinning.Proc
