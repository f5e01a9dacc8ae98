import CpuPinning.Decimal.Binary64

/-!
# Document values

The tree that a pin file denotes, whatever format it is written in.  The members of an
object keep the order in which their keys first appear in the file, because the order of
fragments and of thread rules is the order in which they are tried.
-/

namespace CpuPinning

open Decimal (Binary64)

/-- A document: scalars, lists, and objects with named members. -/
inductive Value where
  | null
  | bool (b : Bool)
  | int (n : Int)
  | float (x : Binary64)
  | str (s : String)
  | arr (items : List Value)
  | obj (members : List (String × Value))
deriving Repr, Inhabited

namespace Value

/-- The whole numbers that a document can hold exactly: those of a signed or unsigned 64-bit
word. -/
def isWholeRange (n : Int) : Bool := -0x8000000000000000 ≤ n && n < 0x10000000000000000

/-- The whole number that a value is, if it fits in a signed 64-bit word. -/
def toInt64? : Value → Option Int
  | int n => if -0x8000000000000000 ≤ n && n < 0x8000000000000000 then some n else none
  | _ => none

theorem eq_int_of_toInt64? {v : Value} {n : Int} (h : v.toInt64? = some n) : v = int n := by
  cases v with
  | int m =>
      rw [toInt64?] at h
      split at h
      · rw [Option.some.inj h]
      · cases h
  | null => cases h
  | bool b => cases h
  | float x => cases h
  | str s => cases h
  | arr items => cases h
  | obj members => cases h

end Value

/-- Members with the value of `key` set: a key that is there keeps its place, a new one goes
last. -/
def setMember (key : String) (value : α) : List (String × α) → List (String × α)
  | [] => [(key, value)]
  | (k, v) :: rest => if k = key then (key, value) :: rest else (k, v) :: setMember key value rest

/-- The value of a key. -/
def member? (key : String) : List (String × α) → Option α
  | [] => none
  | (k, v) :: rest => if k = key then some v else member? key rest

theorem member?_setMember_self (key : String) (value : α) (ms : List (String × α)) :
    member? key (setMember key value ms) = some value := by
  induction ms with
  | nil => simp [setMember, member?]
  | cons m ms ih =>
      simp only [setMember]
      split <;> simp_all [member?]

theorem member?_setMember_of_ne {key other : String} (h : key ≠ other) (value : α)
    (ms : List (String × α)) : member? other (setMember key value ms) = member? other ms := by
  induction ms with
  | nil => simp [setMember, member?, h]
  | cons m ms ih =>
      simp only [setMember]
      split
      · next hk =>
        have : m.1 ≠ other := by rw [hk]; exact h
        simp [member?, h, this]
      · simp [member?, ih]

theorem mem_of_member? {key : String} {value : α} {ms : List (String × α)}
    (h : member? key ms = some value) : (key, value) ∈ ms := by
  induction ms with
  | nil => cases h
  | cons m ms ih =>
      rw [member?] at h
      split at h
      · next hkey =>
        obtain rfl : m.2 = value := Option.some.inj h
        rw [← hkey]
        exact List.mem_cons_self
      · exact List.mem_cons_of_mem _ (ih h)

/-- Where keys are not used twice, the value of a key is the one that stands beside it. -/
theorem member?_eq_some_iff {key : String} {value : α} {ms : List (String × α)}
    (h : (ms.map (·.1)).Nodup) : member? key ms = some value ↔ (key, value) ∈ ms := by
  refine ⟨mem_of_member?, fun hmem => ?_⟩
  induction ms with
  | nil => cases hmem
  | cons m ms ih =>
      obtain ⟨hnew, hrest⟩ := List.nodup_cons.1 h
      rw [member?]
      cases hmem with
      | head => rw [if_pos rfl]
      | tail _ hmem =>
          have hne : m.1 ≠ key := fun hkey => hnew (List.mem_map.2 ⟨_, hmem, hkey.symm⟩)
          rw [if_neg hne]
          exact ih hrest hmem

/-- Where keys are not used twice, the value of a key does not depend on the order of the
members. -/
theorem member?_perm {ms ms' : List (String × α)} (hperm : ms.Perm ms') (h : (ms.map (·.1)).Nodup)
    (key : String) : member? key ms = member? key ms' := by
  have h' : (ms'.map (·.1)).Nodup := (hperm.map _).nodup_iff.1 h
  apply Option.ext
  intro value
  rw [member?_eq_some_iff h, member?_eq_some_iff h', hperm.mem_iff]

end CpuPinning
