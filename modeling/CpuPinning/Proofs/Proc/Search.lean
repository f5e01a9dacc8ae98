import Mathlib.Data.List.Nodup
import Mathlib.Data.Set.Defs
import CpuPinning.Proc.Family
import CpuPinning.Proofs.Relation.Chain

/-!
# The search for descendants

The search goes through a queue of processes.  What it has found so far is kept
apart from duplicates, parents first, and in the order of the distance from the
process where it began; everything below a process that has left the queue has
been found.  These facts hold at the start and are kept by every step, so that
they hold of the whole search.
-/

namespace CpuPinning.Proc

variable {parents : Parents} {pid current j k x y : Nat}
  {queue found : List Nat}

/-! ## What is new -/

theorem mem_newOnes {cs : List Nat} :
    k ∈ newOnes pid found cs ↔ k ∈ cs ∧ k ≠ pid ∧ k ∉ found := by
  induction cs generalizing found with
  | nil => simp [newOnes]
  | cons c cs ih =>
      unfold newOnes
      split
      · next hold =>
          rw [ih, List.mem_cons]
          constructor
          · rintro ⟨hk, hnew⟩
            exact ⟨.inr hk, hnew⟩
          · rintro ⟨rfl | hk, hnew⟩
            · exact absurd hold (not_or.2 hnew)
            · exact ⟨hk, hnew⟩
      · next hnew =>
          rw [List.mem_cons, ih, List.mem_cons, List.mem_append,
            List.mem_singleton]
          by_cases hk : k = c
          · subst hk
            simpa using not_or.1 hnew
          · simp [hk]

theorem nodup_newOnes (pid : Nat) (found cs : List Nat) :
    (newOnes pid found cs).Nodup := by
  induction cs generalizing found with
  | nil => exact List.nodup_nil
  | cons c cs ih =>
      unfold newOnes
      split
      · exact ih found
      · refine List.nodup_cons.2 ⟨?_, ih _⟩
        intro hc
        exact (mem_newOnes.1 hc).2.2 (by simp)

theorem mem_newChildren :
    k ∈ newChildren parents pid found current ↔
      (k, current) ∈ parents ∧ k ≠ pid ∧ k ∉ found := by
  rw [newChildren, mem_newOnes, mem_childrenOf]

/-! ## Distances -/

/-- `x` is at most `d` steps further below `pid` than `y` is. -/
def Within (parents : Parents) (pid d x y : Nat) : Prop :=
  ∀ n, Chain (fun k j => (k, j) ∈ parents) n y pid →
    ∃ m ≤ n + d, Chain (fun k j => (k, j) ∈ parents) m x pid

/-- Nobody has two parents. -/
def OneParent (parents : Parents) : Prop :=
  ∀ k j j', (k, j) ∈ parents → (k, j') ∈ parents → j = j'

namespace Within

theorem refl (x : Nat) : Within parents pid 0 x x :=
  fun n h => ⟨n, Nat.le_refl n, h⟩

theorem succ (h : Within parents pid 0 x y) : Within parents pid 1 x y := by
  intro n hn
  obtain ⟨m, hm, hx⟩ := h n hn
  exact ⟨m, Nat.le_succ_of_le hm, hx⟩

/-- A child is one step further down than its parent. -/
theorem child_left (hk : (k, j) ∈ parents) (h : Within parents pid 0 j y) :
    Within parents pid 1 k y := by
  intro n hn
  obtain ⟨m, hm, hj⟩ := h n hn
  exact ⟨m + 1, Nat.succ_le_succ hm, j, hk, hj⟩

/-- The way up from a child leads through its parent. -/
theorem child_right (hone : OneParent parents) (hk : (k, j) ∈ parents)
    (hne : k ≠ pid) (h : Within parents pid 1 x j) :
    Within parents pid 0 x k := by
  intro n hn
  cases n with
  | zero => exact absurd hn hne
  | succ n =>
      obtain ⟨j', hj', hrest⟩ := hn
      obtain rfl : j = j' := hone k j j' hk hj'
      exact h n hrest

/-- Children of one process are equally far down. -/
theorem siblings (hone : OneParent parents) {k k' : Nat}
    (hk : k ∈ newChildren parents pid found current)
    (hk' : k' ∈ newChildren parents pid found current) :
    Within parents pid 0 k k' := by
  obtain ⟨hchild', hne', -⟩ := mem_newChildren.1 hk'
  have hbelow : Within parents pid 1 k current :=
    .child_left (mem_newChildren.1 hk).1 (.refl current)
  exact hbelow.child_right hone hchild' hne'

end Within

/-! ## One step -/

/-- A set of processes that holds the children of `pid` and of its own members,
with the exception of `pid` itself. -/
def Closed (parents : Parents) (pid : Nat) (D : Set Nat) : Prop :=
  ∀ k j, (k, j) ∈ parents → k ≠ pid → (j = pid ∨ j ∈ D) → k ∈ D

/-- The state of a search that was begun at `pid`. -/
structure Search (parents : Parents) (pid : Nat) (queue found : List Nat) :
    Prop where
  nodup : (pid :: found).Nodup
  queued : queue <:+ pid :: found
  /-- Who has left the queue has no children that are still to be found. -/
  covered : ∀ j ∈ pid :: found,
    j ∈ queue ∨ ∀ k, (k, j) ∈ parents → k ≠ pid → k ∈ found
  least : ∀ D, Closed parents pid D → ∀ k ∈ found, k ∈ D
  parent_first : ∀ k ∈ found, ∀ j, (k, j) ∈ parents →
    j = pid ∨ [j, k].Sublist found
  ordered : (pid :: found).Pairwise (Within parents pid 0)
  /-- Who is in the queue is one step at most above the deepest that were found. -/
  near : ∀ x ∈ pid :: found, ∀ y ∈ queue, Within parents pid 1 x y

namespace Search

theorem start (parents : Parents) (pid : Nat) : Search parents pid [pid] [] where
  nodup := List.nodup_singleton pid
  queued := List.suffix_refl _
  covered j hj := .inl hj
  least _ _ k hk := absurd hk List.not_mem_nil
  parent_first k hk := absurd hk List.not_mem_nil
  ordered := List.pairwise_singleton _ pid
  near x hx y hy := by
    rw [List.mem_singleton.1 hx, List.mem_singleton.1 hy]
    exact (Within.refl pid).succ

section Step

variable (hone : OneParent parents)
  (h : Search parents pid (current :: queue) found)

include h

theorem current_mem : current = pid ∨ current ∈ found :=
  List.mem_cons.1 (h.queued.subset List.mem_cons_self)

/-- Those who are queued behind a process are not nearer than it. -/
theorem within_of_queued (hy : y ∈ queue) : Within parents pid 0 current y :=
  (List.pairwise_cons.1 (h.ordered.sublist h.queued.sublist)).1 y hy

theorem nodup_step :
    (pid :: (found ++ newChildren parents pid found current)).Nodup := by
  rw [← List.cons_append]
  refine List.nodup_append.2 ⟨h.nodup, nodup_newOnes _ _ _, ?_⟩
  rintro x hx k hk rfl
  obtain ⟨-, hne, hnotin⟩ := mem_newChildren.1 hk
  exact (List.mem_cons.1 hx).elim hne hnotin

/-- With its new children, everything below a process has been found. -/
theorem covered_step {j : Nat}
    (hj : j ∈ pid :: (found ++ newChildren parents pid found current)) :
    j ∈ queue ++ newChildren parents pid found current ∨
      ∀ k, (k, j) ∈ parents → k ≠ pid →
        k ∈ found ++ newChildren parents pid found current := by
  rw [← List.cons_append] at hj
  rcases List.mem_append.1 hj with hj | hj
  · rcases h.covered j hj with hqueued | hall
    · rcases List.mem_cons.1 hqueued with rfl | hqueued
      · right
        intro k hk hne
        by_cases hin : k ∈ found
        · exact List.mem_append_left _ hin
        · exact List.mem_append_right _ (mem_newChildren.2 ⟨hk, hne, hin⟩)
      · exact .inl (List.mem_append_left _ hqueued)
    · exact .inr fun k hk hne => List.mem_append_left _ (hall k hk hne)
  · exact .inl (List.mem_append_right _ hj)

theorem least_step {D : Set Nat} (hD : Closed parents pid D)
    (hk : k ∈ found ++ newChildren parents pid found current) : k ∈ D := by
  rcases List.mem_append.1 hk with hk | hk
  · exact h.least D hD k hk
  · obtain ⟨hchild, hne, -⟩ := mem_newChildren.1 hk
    exact hD k current hchild hne (h.current_mem.imp_right (h.least D hD current))

include hone

theorem parent_first_step
    (hk : k ∈ found ++ newChildren parents pid found current)
    (hj : (k, j) ∈ parents) :
    j = pid ∨ [j, k].Sublist (found ++ newChildren parents pid found current) := by
  rcases List.mem_append.1 hk with hk | hk
  · refine (h.parent_first k hk j hj).imp_right fun hfirst => ?_
    exact hfirst.trans (List.sublist_append_left found _)
  · obtain rfl : j = current := hone k j current hj (mem_newChildren.1 hk).1
    refine h.current_mem.imp_right fun hj => ?_
    exact (List.singleton_sublist.2 hj).append (List.singleton_sublist.2 hk)

/-- A new process is not nearer than any other that was found. -/
theorem within_newChildren (hx : x ∈ pid :: found)
    (hk : k ∈ newChildren parents pid found current) :
    Within parents pid 0 x k := by
  obtain ⟨hchild, hne, -⟩ := mem_newChildren.1 hk
  exact (h.near x hx current List.mem_cons_self).child_right hone hchild hne

theorem ordered_step :
    (pid :: (found ++ newChildren parents pid found current)).Pairwise
      (Within parents pid 0) := by
  rw [← List.cons_append]
  refine List.pairwise_append.2
    ⟨h.ordered, ?_, fun x hx k hk => h.within_newChildren hone hx hk⟩
  exact List.pairwise_of_forall_mem_list fun k hk k' hk' =>
    Within.siblings hone hk hk'

theorem near_step
    (hx : x ∈ pid :: (found ++ newChildren parents pid found current))
    (hy : y ∈ queue ++ newChildren parents pid found current) :
    Within parents pid 1 x y := by
  rw [← List.cons_append] at hx
  rcases List.mem_append.1 hx with hx | hx <;>
    rcases List.mem_append.1 hy with hy | hy
  · exact h.near x hx y (List.mem_cons_of_mem _ hy)
  · exact (h.within_newChildren hone hx hy).succ
  · exact .child_left (mem_newChildren.1 hx).1 (h.within_of_queued hy)
  · exact (Within.siblings hone hx hy).succ

/-- One process is taken off the queue, and its new children are put on it. -/
theorem step :
    Search parents pid (queue ++ newChildren parents pid found current)
      (found ++ newChildren parents pid found current) where
  nodup := h.nodup_step
  queued := by
    obtain ⟨done, hdone⟩ := h.queued
    refine ⟨done ++ [current], ?_⟩
    rw [← List.cons_append, ← hdone]
    simp
  covered _ hj := h.covered_step hj
  least _ hD _ hk := h.least_step hD hk
  parent_first _ hk _ hj := h.parent_first_step hone hk hj
  ordered := h.ordered_step hone
  near _ hx _ hy := h.near_step hone hx hy

end Step

/-- The search ends, and then nobody is left in the queue. -/
theorem descendants (hone : OneParent parents)
    (h : Search parents pid queue found) :
    Search parents pid [] (Proc.descendants parents pid queue found) := by
  fun_induction Proc.descendants parents pid queue found with
  | case1 found => exact h
  | case2 found current queue new ih => exact ih (h.step hone)

theorem closed (h : Search parents pid [] found) :
    Closed parents pid {k | k ∈ found} := by
  intro k j hk hne hj
  rcases h.covered j (List.mem_cons.2 hj) with hqueued | hall
  · exact absurd hqueued List.not_mem_nil
  · exact hall k hk hne

/-- Whoever is found is below the process where the search began. -/
theorem exists_chain (h : Search parents pid queue found) (hk : k ∈ found) :
    ∃ n, Chain (fun k j => (k, j) ∈ parents) n k pid := by
  refine h.least {k | ∃ n, Chain _ n k pid} ?_ k hk
  rintro k j hchild - (rfl | ⟨n, hn⟩)
  · exact ⟨1, j, hchild, rfl⟩
  · exact ⟨n + 1, j, hchild, hn⟩

end Search

end CpuPinning.Proc
