import CpuPinning.Proc.Stat

/-!
# The parent in a status line

In the status line of a process its name stands in parentheses before its state and its
parent.  The name is any text; it may itself look like the end of a name with a state and a
parent behind it.  The parent is found all the same, because nothing behind the name
closes a parenthesis.  A text has no parent exactly if no parenthesis closes in it, or if
the second field behind the last one is missing or no number.
-/

namespace CpuPinning.Proc

open Text (FirstField SecondField Written isBlank word32)

/-- A status line: something before the name, the name, the state, the parent and what
follows it.  The state is a single field, and what follows is kept apart from the
parent. -/
structure StatusLine where
  before : List Char
  name : List Char
  state : List Char
  parent : Nat
  rest : List Char
  state_ne_nil : state ≠ []
  state_seen : ∀ c ∈ state, isBlank c = false
  state_open : ')' ∉ state
  parent_lt : parent < word32
  rest_apart : ∀ c ∈ rest.head?, isBlank c = true
  rest_open : ')' ∉ rest

namespace StatusLine

variable (l : StatusLine)

/-- What stands behind the name and its parenthesis. -/
def after : List Char := ' ' :: (l.state ++ ' ' :: (Nat.toDigits 10 l.parent ++ l.rest))

def text : List Char := l.before ++ '(' :: (l.name ++ ')' :: l.after)

theorem isDigit_of_mem_parent {c : Char} (h : c ∈ Nat.toDigits 10 l.parent) :
    c.isDigit = true := (Text.numeral_toDigits l.parent).digits c h

/-- No parenthesis closes behind the name. -/
theorem not_mem_after : ')' ∉ l.after := by
  have hparent : ')' ∉ Nat.toDigits 10 l.parent := by
    intro hmem
    have hdigit : ')'.isDigit = true := l.isDigit_of_mem_parent hmem
    exact absurd hdigit (by decide)
  simp only [after, List.mem_cons, List.mem_append, not_or]
  exact ⟨by decide, l.state_open, by decide, hparent, l.rest_open⟩

/-- The parent is the second field behind the name. -/
theorem secondField_after : SecondField l.after (Nat.toDigits 10 l.parent) := by
  have hblank : ∀ c ∈ [' '], isBlank c = true := List.all_eq_true.1 (by decide)
  have hseen : ∀ c ∈ Nat.toDigits 10 l.parent, isBlank c = false := fun c hc =>
    Text.isBlank_of_isDigit (l.isDigit_of_mem_parent hc)
  have hbehind : ∀ c ∈ (' ' :: (Nat.toDigits 10 l.parent ++ l.rest)).head?,
      isBlank c = true := by
    rintro c ⟨⟩
    decide
  exact ⟨l.state, ' ' :: (Nat.toDigits 10 l.parent ++ l.rest), l.rest,
    .intro hblank l.state_ne_nil l.state_seen hbehind,
    .intro hblank Nat.toDigits_ne_nil hseen l.rest_apart⟩

theorem written_parent : Written word32 (Nat.toDigits 10 l.parent) l.parent :=
  .plain (Text.numeral_toDigits l.parent) l.parent_lt

theorem parentPid?_text : parentPid? l.text = some l.parent := by
  have htext : l.text = (l.before ++ '(' :: l.name) ++ ')' :: l.after := by
    rw [text, List.append_assoc, List.cons_append]
  rw [htext, parentPid?_append_eq_some_iff l.not_mem_after]
  exact ⟨_, l.secondField_after, l.written_parent⟩

end StatusLine

/-- There is no parent if the second field is missing or no number. -/
theorem parentPid?_append_eq_none_iff {before after : List Char} (h : ')' ∉ after) :
    parentPid? (before ++ ')' :: after) = none ↔
      (¬∃ parent, SecondField after parent) ∨
        ∃ parent, SecondField after parent ∧ ∀ pid, ¬Written word32 parent pid := by
  have hsome : ∀ pid, parentPid? (before ++ ')' :: after) = some pid ↔
      ∃ parent, SecondField after parent ∧ Written word32 parent pid := fun _ =>
    parentPid?_append_eq_some_iff h
  rw [Option.eq_none_iff_forall_ne_some]
  simp only [ne_eq, hsome, not_exists, not_and]
  constructor
  · intro hnone
    by_cases hfield : ∃ parent, SecondField after parent
    · obtain ⟨parent, hparent⟩ := hfield
      exact .inr ⟨parent, hparent, fun pid => hnone pid parent hparent⟩
    · exact .inl (not_exists.1 hfield)
  · rintro (hmissing | ⟨parent, hparent, hunread⟩) pid parent' hparent'
    · exact absurd hparent' (hmissing parent')
    · rw [← hparent.unique hparent']
      exact hunread pid

/-- The parent is found in every status line, whatever the name of the process.  There is
none in a text where no parenthesis closes, and in one that has less than two fields behind
the last closing parenthesis, or whose second field there is no process id. -/
theorem parent_of_status :
    (∀ l : StatusLine, parentPid? l.text = some l.parent) ∧
    (∀ stat, ')' ∉ stat → parentPid? stat = none) ∧
    ∀ before after, ')' ∉ after →
      (parentPid? (before ++ ')' :: after) = none ↔
        (¬∃ parent, SecondField after parent) ∨
          ∃ parent, SecondField after parent ∧ ∀ pid, ¬Written word32 parent pid) := by
  refine ⟨StatusLine.parentPid?_text, ?_, ?_⟩
  · intro stat hopen
    exact parentPid?_of_not_mem hopen
  · intro before after hopen
    exact parentPid?_append_eq_none_iff hopen

namespace Sample

/-- The status line of a process whose name looks like the end of a name with the parent 7
behind it. -/
def misleadingLine : StatusLine where
  before := "12 ".toList
  name := ") S 7 (".toList
  state := ['R']
  parent := 42
  rest := " 12".toList
  state_ne_nil := by decide
  state_seen := List.forall_mem_singleton.2 (by decide)
  state_open := by decide
  parent_lt := by decide
  rest_apart := by
    rintro c ⟨⟩
    decide
  rest_open := by decide

end Sample

open Proc.Sample (misleadingLine)

theorem parent_of_status_sample :
    misleadingLine.text = "12 () S 7 () R 42 12".toList ∧
      parentPid? "12 () S 7 () R 42 12".toList = some 42 ∧
      parentPid? "12 (x S 7".toList = none ∧
      parentPid? "12 (x) S".toList = none ∧
      parentPid? "12 (x) S -7 8".toList = none := by
  obtain ⟨hlines, hopen, hbehind⟩ := parent_of_status
  have htext : misleadingLine.text = "12 () S 7 () R 42 12".toList := by decide
  have hmissing : ¬∃ parent, SecondField " S".toList parent := by
    rintro ⟨parent, hparent⟩
    obtain ⟨first, more, hfields⟩ := Text.secondField_iff.1 hparent
    have hone : Text.fields " S".toList = [['S']] := by decide
    cases hone.symm.trans hfields
  have hsecond : SecondField " S -7 8".toList "-7".toList :=
    Text.secondField_iff.2 ⟨['S'], [['8']], by decide⟩
  have hunread : ∀ pid, ¬Written word32 "-7".toList pid := by
    intro pid hpid
    have hnone : Text.readNat? word32 "-7".toList = none := by decide
    cases hnone.symm.trans (Text.readNat?_eq_some_iff.2 hpid)
  refine ⟨htext, ?_, hopen _ (by decide), ?_, ?_⟩
  · rw [← htext]
    exact hlines misleadingLine
  · exact (hbehind "12 (x".toList " S".toList (by decide)).2 (.inl hmissing)
  · exact (hbehind "12 (x".toList " S -7 8".toList (by decide)).2 (.inr ⟨_, hsecond, hunread⟩)

end CpuPinning.Proc
