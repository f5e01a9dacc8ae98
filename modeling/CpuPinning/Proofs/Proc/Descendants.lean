import Mathlib.Data.List.Pairwise
import Mathlib.Order.Lattice.Nat
import CpuPinning.Proc.Table
import CpuPinning.Proofs.Proc.Search

/-!
# Descendants of a process

What is asked for as the descendants of a process is the least set that holds
its children and theirs, whatever the directories say of parents: also where the
parents run in circles or lead nowhere.  They come without duplicates, each
behind its own parent, and ordered by their distance from the process.
-/

namespace CpuPinning.Proc

/-- Where no number stands for two entries, an entry is known by its number. -/
theorem eq_of_pidOfName? {names : List String} {name name' : String} {pid : Nat}
    (hnodup : (names.filterMap pidOfName?).Nodup) (hname : name ∈ names)
    (hname' : name' ∈ names) (hpid : pidOfName? name = some pid)
    (hpid' : pidOfName? name' = some pid) : name = name' := by
  have hapart := List.pairwise_filterMap.1 hnodup
  by_contra hne
  have : Std.Symm fun a a' : String => ∀ b, pidOfName? a = some b →
      ∀ b', pidOfName? a' = some b' → b ≠ b' :=
    ⟨fun _ _ hne b hb b' hb' => (hne b' hb' b hb).symm⟩
  exact hapart.forall hname hname' hne pid hpid pid hpid' rfl

namespace ProcFs

/-- `child` is the number of an entry of the directory whose status can be read
and names `parent`. -/
def HasParent (fs : ProcFs) (child parent : Nat) : Prop :=
  ∃ names, fs.tree.list fs.root = .ok names ∧
    ∃ name ∈ names, pidOfName? name = some child ∧
      readParent fs.tree (inside fs.root name) = .ok parent

/-- A set of processes that holds every other process whose parent is `pid` or
one of its members. -/
def ClosedBelow (fs : ProcFs) (pid : Nat) (D : Set Nat) : Prop :=
  ∀ k j, fs.HasParent k j → k ≠ pid → (j = pid ∨ j ∈ D) → k ∈ D

variable {fs : ProcFs} {names : List String}

/-- The parents that the search goes by are those in the directories. -/
theorem exists_entries (h : fs.tree.list fs.root = .ok names) :
    ∃ es, entries fs.tree fs.root = .ok es ∧
      ∀ k j, (k, j) ∈ fs.parents es ↔ fs.HasParent k j := by
  refine ⟨_, by rw [entries, h]; rfl, fun k j => ?_⟩
  simp only [parents, List.mem_filterMap, List.mem_mergeSort,
    Option.map_eq_some_iff, toOption_eq_some_iff]
  constructor
  · rintro ⟨e, ⟨name, hname, pid, hpid, rfl⟩, parent, hparent, hpair⟩
    obtain ⟨rfl, rfl⟩ := Prod.mk.inj hpair
    exact ⟨names, h, name, hname, hpid, hparent⟩
  · rintro ⟨names', h', name, hname, hpid, hparent⟩
    obtain rfl : names = names' := Except.ok.inj (h.symm.trans h')
    exact ⟨_, ⟨name, hname, k, hpid, rfl⟩, j, hparent, rfl⟩

/-- What is answered for a process that is there. -/
theorem children_of_entries (fs : ProcFs) {es : List Entry} (pid : Nat)
    (hthere : fs.tree.exists? (fs.pathOf pid) = true)
    (hentries : entries fs.tree fs.root = .ok es) :
    fs.children pid = .ok (descendants (fs.parents es) pid [pid] []) := by
  simp [children, hthere, hentries]

/-- Where no number stands for two entries, nobody has two parents. -/
theorem HasParent.unique (h : fs.tree.list fs.root = .ok names)
    (hnodup : (names.filterMap pidOfName?).Nodup) {k j j' : Nat}
    (hj : fs.HasParent k j) (hj' : fs.HasParent k j') : j = j' := by
  obtain ⟨_, h₁, name, hname, hk, hread⟩ := hj
  obtain ⟨_, h₂, name', hname', hk', hread'⟩ := hj'
  obtain rfl := Except.ok.inj (h.symm.trans h₁)
  obtain rfl := Except.ok.inj (h.symm.trans h₂)
  obtain rfl := eq_of_pidOfName? hnodup hname hname' hk hk'
  exact Except.ok.inj (hread.symm.trans hread')

/-- What is answered for the descendants of `pid`: whoever belongs to the least
family below it, once each, parents first, and by distance. -/
structure Lists (fs : ProcFs) (pid : Nat) (found : List Nat) : Prop where
  nodup : found.Nodup
  apart : pid ∉ found
  least : IsLeast {D | fs.ClosedBelow pid D} {k | k ∈ found}
  parent_first : ∀ k ∈ found, ∀ j, fs.HasParent k j →
    j = pid ∨ [j, k].Sublist found
  by_distance : ∃ distance : Nat → Nat,
    (∀ k ∈ found, IsLeast {n | Chain fs.HasParent n k pid} (distance k)) ∧
      found.Pairwise fun j k => distance j ≤ distance k

/-- What a search ends with, when its parents are those in the directories. -/
theorem Lists.of_search {parents : Parents} {pid : Nat} {found : List Nat}
    (hparents : ∀ k j, (k, j) ∈ parents ↔ fs.HasParent k j)
    (h : Search parents pid [] found) : fs.Lists pid found where
  nodup := (List.nodup_cons.1 h.nodup).2
  apart := (List.nodup_cons.1 h.nodup).1
  least := by
    have hclosed : ∀ D, Closed parents pid D ↔ fs.ClosedBelow pid D := fun D => by
      simp only [Closed, ClosedBelow, hparents]
    exact ⟨(hclosed _).1 h.closed, fun D hD => h.least D ((hclosed D).2 hD)⟩
  parent_first k hk j hj := h.parent_first k hk j ((hparents k j).2 hj)
  by_distance := by
    have hsteps : (fun k j => (k, j) ∈ parents) = fs.HasParent := by
      funext k j
      exact propext (hparents k j)
    have hchain : ∀ k ∈ found, {n | Chain fs.HasParent n k pid}.Nonempty :=
      fun k hk => hsteps ▸ h.exists_chain hk
    refine ⟨fun k => sInf {n | Chain fs.HasParent n k pid}, fun k hk =>
      ⟨Nat.sInf_mem (hchain k hk), fun n hn => Nat.sInf_le hn⟩, ?_⟩
    refine (List.pairwise_cons.1 h.ordered).2.imp_of_mem fun {j k} _ hk hwithin => ?_
    rw [Within, hsteps] at hwithin
    obtain ⟨m, hm, hj⟩ := hwithin _ (Nat.sInf_mem (hchain k hk))
    exact Nat.le_trans (Nat.sInf_le hj) hm

/-- The descendants of a process that is there are listed to the last, and a
process that is not there has vanished. -/
theorem children_lists (fs : ProcFs) (pid : Nat) :
    (fs.tree.exists? (fs.pathOf pid) = false →
      fs.children pid = .error (.vanished pid)) ∧
    ∀ names, fs.tree.exists? (fs.pathOf pid) = true →
      fs.tree.list fs.root = .ok names → (names.filterMap pidOfName?).Nodup →
      ∃ found, fs.children pid = .ok found ∧ fs.Lists pid found := by
  constructor
  · intro hgone
    simp [children, hgone]
  · intro names hthere hlist hnodup
    obtain ⟨es, hes, hparents⟩ := exists_entries hlist
    have hone : OneParent (fs.parents es) := fun k j j' hj hj' =>
      ((hparents k j).1 hj).unique hlist hnodup ((hparents k j').1 hj')
    have hsearch := (Search.start (fs.parents es) pid).descendants hone
    exact ⟨_, children_of_entries fs pid hthere hes, .of_search hparents hsearch⟩

end ProcFs

namespace Sample

/-- A directory with a process whose parent is its own descendant, and another
one that is its own parent. -/
def circle : ProcFs where
  tree := {
    root := .dir [("proc", .dir [entry "40" 40, entry "30" 20, entry "20" 10, entry "10" 30])]
    here := [] }
  root := "proc"
where
  entry (name : String) (parent : Nat) : String × Node :=
    let status := name ++ " (io) S " ++ Text.showNat parent
    (name, .dir [("stat", .file (Text.encode status.toList))])

end Sample

open Proc.Sample (circle)

theorem ProcFs.children_lists_sample :
    circle.children 50 = .error (.vanished 50) ∧
      ∃ found, circle.children 10 = .ok found ∧ circle.Lists 10 found := by
  have hgone : circle.tree.exists? (circle.pathOf 50) = false := by decide +kernel
  have hthere : circle.tree.exists? (circle.pathOf 10) = true := by decide +kernel
  have hlist : circle.tree.list circle.root = .ok ["40", "30", "20", "10"] :=
    toOption_eq_some_iff.1 (by decide +kernel)
  exact ⟨(children_lists circle 50).1 hgone,
    (children_lists circle 10).2 _ hthere hlist (by decide)⟩

end CpuPinning.Proc
