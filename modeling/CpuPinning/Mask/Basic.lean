/-!
# CPU masks

A mask is a non-empty set of CPU ids that the kernel can hold, kept as its ascending list,
so that two masks are equal exactly if they have the same ids.
-/

namespace CpuPinning

/-- The highest CPU id of a mask: a kernel set has 1024 places. -/
def maxCpuId : Nat := 1023

/-- A non-empty set of CPU ids, in ascending order. -/
structure CpuMask where
  ids : List Nat
  ascending : ids.Pairwise (· < ·)
  nonempty : ids ≠ []
  bounded : ∀ id ∈ ids, id ≤ maxCpuId
deriving DecidableEq

namespace CpuMask

instance : Membership Nat CpuMask := ⟨fun mask id => id ∈ mask.ids⟩

theorem mem_iff {id : Nat} {mask : CpuMask} : id ∈ mask ↔ id ∈ mask.ids := Iff.rfl

instance (id : Nat) (mask : CpuMask) : Decidable (id ∈ mask) :=
  inferInstanceAs (Decidable (id ∈ mask.ids))

/-- The ids up to the highest that satisfy `p`. -/
def idsWhere (p : Nat → Bool) : List Nat := (List.range (maxCpuId + 1)).filter p

theorem mem_idsWhere {p : Nat → Bool} {id : Nat} :
    id ∈ idsWhere p ↔ id ≤ maxCpuId ∧ p id = true := by
  rw [idsWhere, List.mem_filter, List.mem_range, Nat.lt_succ_iff]

/-- The mask of the ids that satisfy `p`, if there are any. -/
def ofPred? (p : Nat → Bool) : Option CpuMask :=
  if h : idsWhere p = [] then none
  else some {
    ids := idsWhere p
    ascending := List.pairwise_lt_range.filter p
    nonempty := h
    bounded := fun _ hid => (mem_idsWhere.1 hid).1 }

/-- How many CPUs a mask has. -/
def size (mask : CpuMask) : Nat := mask.ids.length

def contains (mask : CpuMask) (id : Nat) : Bool := mask.ids.contains id

/-- The highest CPU id of a mask. -/
def max (mask : CpuMask) : Nat := mask.ids.getLast mask.nonempty

/-- Whether a mask names a CPU above `count`; the id that equals the count does not. -/
def exceeds (mask : CpuMask) (count : Nat) : Bool := count < mask.max

/-- The mask made from a predicate has the bounded ids that satisfy it. -/
theorem mem_ofPred? {p : Nat → Bool} {mask : CpuMask} (h : ofPred? p = some mask) {id : Nat} :
    id ∈ mask ↔ id ≤ maxCpuId ∧ p id = true := by
  unfold ofPred? at h
  split at h
  · exact absurd h (by simp)
  · simp only [Option.some.injEq] at h
    subst h
    simp only [mem_iff, mem_idsWhere]

theorem exists_ofPred? {p : Nat → Bool} {id : Nat} (hid : id ≤ maxCpuId) (hp : p id = true) :
    ∃ mask, ofPred? p = some mask := by
  have hne : idsWhere p ≠ [] := List.ne_nil_of_mem (mem_idsWhere.2 ⟨hid, hp⟩)
  simp [ofPred?, hne]

end CpuMask

end CpuPinning
