import CpuPinning.Text.Blank
import CpuPinning.Text.Numeral

/-!
# Sockets

The kernel's tables of network sockets have a header and then a line for each socket; the
tenth field is the number of the socket.  The descriptors of a process name the sockets that
it holds.
-/

namespace CpuPinning.Proc

/-- The socket numbers of a table; zero stands for a socket that nobody holds. -/
def socketNumbers (table : List Char) : List Nat :=
  ((Text.lines table).drop 1).filterMap fun line =>
    match (Text.fields line)[9]? with
    | some field => (Text.readNat? Text.word64 field).filter (· ≠ 0)
    | none => none

/-- A line of a table names the socket that it is about, in its tenth field. -/
def NamesSocket (line : List Char) (n : Nat) : Prop :=
  ∃ field, (Text.fields line)[9]? = some field ∧ Text.Written Text.word64 field n ∧ n ≠ 0

theorem mem_socketNumbers {table : List Char} {n : Nat} :
    n ∈ socketNumbers table ↔ ∃ line ∈ (Text.lines table).drop 1, NamesSocket line n := by
  unfold socketNumbers
  rw [List.mem_filterMap]
  refine exists_congr fun line => and_congr_right fun _ => ?_
  cases hfield : (Text.fields line)[9]? with
  | none => simp [NamesSocket, hfield]
  | some field =>
      simp only [NamesSocket, hfield, Option.some.injEq, exists_eq_left', Option.filter_eq_some_iff,
        Text.readNat?_eq_some_iff, decide_eq_true_iff]

/-- The socket that a descriptor leads to. -/
def socketOfLink? (target : List Char) : Option Nat :=
  match target with
  | 's' :: 'o' :: 'c' :: 'k' :: 'e' :: 't' :: ':' :: '[' :: rest =>
      if rest.getLast? = some ']' then Text.readNat? Text.word64 rest.dropLast else none
  | _ => none

theorem socketOfLink?_eq_some_iff {target : List Char} {n : Nat} :
    socketOfLink? target = some n ↔
      ∃ number, target = "socket:[".toList ++ number ++ "]".toList ∧
        Text.Written Text.word64 number n := by
  constructor
  · intro h
    unfold socketOfLink? at h
    split at h
    · next rest =>
      split at h
      · next hlast =>
        obtain ⟨number, rfl⟩ := List.getLast?_eq_some_iff.1 hlast
        rw [List.dropLast_concat] at h
        exact ⟨number, rfl, Text.readNat?_eq_some_iff.1 h⟩
      · cases h
    · cases h
  · rintro ⟨number, rfl, hnumber⟩
    have hlast : (number ++ [']']).getLast? = some ']' := by simp
    have hdrop : (number ++ [']']).dropLast = number := List.dropLast_concat
    change (if (number ++ [']']).getLast? = some ']' then
      Text.readNat? Text.word64 (number ++ [']']).dropLast else none) = some n
    rw [if_pos hlast, hdrop]
    exact Text.readNat?_eq_some_iff.2 hnumber

end CpuPinning.Proc
