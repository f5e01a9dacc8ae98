/-!
# Families of processes

The processes below a process, found level by level from the parents that are known.  The
parents are read one after the other while processes come and go, so they need not make a
tree; no process is looked at twice.
-/

namespace CpuPinning.Proc

/-- The processes whose parent is known, each with that parent. -/
abbrev Parents := List (Nat × Nat)

/-- The children of a process, in order. -/
def childrenOf (parents : Parents) (pid : Nat) : List Nat :=
  (parents.filter (·.2 = pid)).map (·.1)

/-- What is new among some processes, once each: neither `pid` itself nor found before. -/
def newOnes (pid : Nat) (found : List Nat) : List Nat → List Nat
  | [] => []
  | c :: cs =>
      if c = pid ∨ c ∈ found then newOnes pid found cs else c :: newOnes pid (found ++ [c]) cs

/-- The children of a process that are new. -/
def newChildren (parents : Parents) (pid : Nat) (found : List Nat) (current : Nat) : List Nat :=
  newOnes pid found (childrenOf parents current)

/-- How many of the processes are still to be found. -/
def unseen (parents : Parents) (found : List Nat) : Nat := parents.countP fun p => p.1 ∉ found

theorem mem_childrenOf {parents : Parents} {pid child : Nat} :
    child ∈ childrenOf parents pid ↔ (child, pid) ∈ parents := by
  simp [childrenOf]

theorem unseen_append_le (parents : Parents) (found new : List Nat) :
    unseen parents (found ++ new) ≤ unseen parents found := by
  refine List.countP_mono_left fun p _ hp => ?_
  simp only [List.mem_append, not_or, decide_eq_true_eq] at hp ⊢
  exact hp.1

/-- To find a process leaves fewer to be found. -/
theorem unseen_append_lt {parents : Parents} {found : List Nat} {c : Nat}
    (hmem : ∃ p, (c, p) ∈ parents) (hnew : c ∉ found) :
    unseen parents (found ++ [c]) < unseen parents found := by
  obtain ⟨p, hp⟩ := hmem
  obtain ⟨before, after, rfl⟩ := List.append_of_mem hp
  have hbefore := unseen_append_le before found [c]
  have hafter := unseen_append_le after found [c]
  simp only [unseen, List.countP_append, List.countP_cons] at hbefore hafter ⊢
  simp only [List.mem_append, List.mem_singleton, hnew, false_or, not_true_eq_false,
    not_false_eq_true, decide_true, decide_false] at hbefore hafter ⊢
  simp only [if_true, Bool.false_eq_true, if_false]
  omega

/-- What is new makes up for what is left to be found. -/
theorem unseen_newOnes {parents : Parents} {cs : List Nat} (pid : Nat) (found : List Nat)
    (h : ∀ c ∈ cs, ∃ p, (c, p) ∈ parents) :
    (newOnes pid found cs).length + unseen parents (found ++ newOnes pid found cs) ≤
      unseen parents found := by
  induction cs generalizing found with
  | nil => simp [newOnes]
  | cons c cs ih =>
      obtain ⟨hc, hcs⟩ := List.forall_mem_cons.1 h
      unfold newOnes
      split
      · exact ih found hcs
      · next hnew =>
        have hrest := ih (found ++ [c]) hcs
        have hlt := unseen_append_lt hc fun hmem => hnew (.inr hmem)
        rw [List.append_assoc, List.singleton_append] at hrest
        rw [List.length_cons]
        omega

/-- The processes below `pid`, children before grandchildren.  `queue` holds those whose
children are still to be looked for, and what was found before goes on. -/
def descendants (parents : Parents) (pid : Nat) (queue found : List Nat) : List Nat :=
  match queue with
  | [] => found
  | current :: queue =>
      let new := newChildren parents pid found current
      descendants parents pid (queue ++ new) (found ++ new)
-- a step takes one process off the queue, and puts on it only such as were still to be found
termination_by queue.length + unseen parents found
decreasing_by
  have hnew := unseen_newOnes pid found fun c (hc : c ∈ childrenOf parents current) =>
    ⟨current, mem_childrenOf.1 hc⟩
  simp only [newChildren, List.length_append, List.length_cons]
  omega

end CpuPinning.Proc
