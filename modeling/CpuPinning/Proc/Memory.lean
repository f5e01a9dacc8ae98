import CpuPinning.Decimal.Binary64
import CpuPinning.Text.Blank
import CpuPinning.Text.Numeral

/-!
# Memory of a process

The kernel counts the memory of a process in pages; reports show megabytes.
-/

namespace CpuPinning

open Decimal (Binary64)

/-- A number of bytes in binary megabytes. -/
def megabytes (bytes : Nat) : Binary64 :=
  let kilo := Binary64.ofNat 1024
  ((Binary64.ofNat bytes).div kilo).div kilo

/-- A product in a word of 64 bits; what the word does not hold is lost. -/
def wordProduct (a b : Nat) : Nat := a * b % Text.word64

theorem wordProduct_of_lt {a b : Nat} (h : a * b < Text.word64) : wordProduct a b = a * b :=
  Nat.mod_eq_of_lt h

namespace Proc

/-- The memory of a process, in bytes. -/
structure MemoryUse where
  resident : Nat
  virtual : Nat
deriving DecidableEq, Repr

/-- The first word of a text as a number. -/
def firstNumber? (cs : List Char) : Option Nat :=
  (Text.fields cs).head?.bind (Text.readNat? Text.word64)

theorem firstNumber?_eq_some_iff {cs : List Char} {n : Nat} :
    firstNumber? cs = some n ↔
      ∃ field rest, Text.FirstField cs field rest ∧ Text.Written Text.word64 field n := by
  simp only [firstNumber?, Option.bind_eq_some_iff, Text.readNat?_eq_some_iff]
  constructor
  · rintro ⟨field, hhead, hwritten⟩
    obtain ⟨more, hfields⟩ := List.head?_eq_some_iff.1 hhead
    obtain ⟨rest, hfirst, -⟩ := Text.fields_eq_cons_iff.1 hfields
    exact ⟨field, rest, hfirst, hwritten⟩
  · rintro ⟨field, rest, hfirst, hwritten⟩
    refine ⟨field, ?_, hwritten⟩
    rw [hfirst.fields_eq, List.head?_cons]

/-- The memory of a process: the whole size and the resident part, both in pages. -/
def memoryOfPages? (statm : List Char) (pageSize : Nat) : Option MemoryUse :=
  match Text.fields statm with
  | size :: resident :: _ => do
      let size ← Text.readNat? Text.word64 size
      let resident ← Text.readNat? Text.word64 resident
      return ⟨wordProduct resident pageSize, wordProduct size pageSize⟩
  | _ => none

end Proc

end CpuPinning
