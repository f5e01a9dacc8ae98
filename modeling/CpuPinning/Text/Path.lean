import CpuPinning.Text.Blank

/-!
# Paths

The last name of a path, and its extension.
-/

namespace CpuPinning.Text

/-- The last part of a path, unless it leads upwards; empty parts and single dots do not count. -/
def fileName? (path : List Char) : Option (List Char) :=
  let parts := (splitBy (· == '/') path).filter fun p => !p.isEmpty && p ≠ ['.']
  match parts.getLast? with
  | some part => if part = ['.', '.'] then none else some part
  | none => none

/-- A name in a folder is the last name of its path, unless it only leads along the path. -/
theorem fileName?_append {folder name : List Char}
    (hfolder : folder = [] ∨ folder.getLast? = some '/') (hslash : '/' ∉ name)
    (hempty : name ≠ []) (hhere : name ≠ ['.']) (hup : name ≠ ['.', '.']) :
    fileName? (folder ++ name) = some name := by
  have hends : folder = [] ∨ ∃ before s, (s == '/') = true ∧ folder = before ++ [s] := by
    apply hfolder.imp_right
    intro hlast
    obtain ⟨before, rfl⟩ := List.getLast?_eq_some_iff.1 hlast
    exact ⟨before, '/', rfl, rfl⟩
  obtain ⟨pieces, hpieces⟩ := exists_splitBy_append hends (beq_eq_false_of_not_mem hslash)
  have hkept : [name].filter (fun p => !p.isEmpty && p ≠ ['.']) = [name] := by
    simp [hempty, hhere]
  rw [fileName?, hpieces, List.filter_append, hkept, List.getLast?_append]
  exact if_neg hup

/-- What stands behind the last dot of a name, unless that is its first character. -/
def extension? (name : List Char) : Option (List Char) :=
  match splitOnce '.' name.reverse with
  | some (ext, stem) => if stem.isEmpty then none else some ext.reverse
  | none => none

end CpuPinning.Text
