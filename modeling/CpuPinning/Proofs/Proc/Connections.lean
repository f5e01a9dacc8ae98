import Mathlib.Algebra.BigOperators.Group.Finset.Piecewise
import Mathlib.Algebra.Order.BigOperators.Group.Finset
import CpuPinning.Proc.Entry
import CpuPinning.Proofs.Proc.Descendants

/-!
# Connections of a process

The connections of a process are the sockets that its descriptors lead to, as far as
they stand in a table of network sockets.  They are counted by descriptors: a socket with
several descriptors, as they come from duplicating or inheriting one, counts once for
each.  So the count is the number of connections exactly if no connection has two
descriptors.
-/

namespace CpuPinning.Proc

open Text (Written word64)

/-! ## Sums over numbers that are counted -/

/-- Counting those with an admissible number is counting by numbers. -/
theorem countP_any_eq_sum {α : Type} (number : α → Option Nat) (admissible : Nat → Bool)
    (S : Finset Nat) (as : List α)
    (h : ∀ a ∈ as, ∀ n, number a = some n → (n ∈ S ↔ admissible n = true)) :
    as.countP (fun a => (number a).any admissible) =
      ∑ n ∈ S, as.countP (fun a => decide (number a = some n)) := by
  induction as with
  | nil => simp
  | cons a as ih =>
      obtain ⟨ha, hrest⟩ := List.forall_mem_cons.1 h
      have hone : (if (number a).any admissible = true then 1 else 0) =
          ∑ n ∈ S, if decide (number a = some n) = true then 1 else 0 := by
        cases hnumber : number a with
        | none => simp
        | some m =>
            have hm := ha m hnumber
            simp only [Option.any_some, Option.some.injEq, decide_eq_true_eq, Finset.sum_ite_eq, hm]
      simp only [List.countP_cons, Finset.sum_add_distrib, ih hrest, hone]

/-! ## Tables -/

section Connections

variable {t : FileTree} {path : String}

/-- The file with a table of sockets. -/
def tablePath (path table : String) : String := inside (inside path "net") table

/-- A table that is there but cannot be read. -/
def Unreadable (t : FileTree) (path table : String) : Prop :=
  ∃ e, t.readText (tablePath path table) = .error e ∧ e.kind ≠ .notFound

/-- A line of some table, behind its header, is about the socket `n`. -/
def IsListed (t : FileTree) (path : String) (tables : List String) (n : Nat) : Prop :=
  ∃ table ∈ tables, ∃ text, t.readText (tablePath path table) = .ok text ∧
    ∃ line ∈ (Text.lines text).drop 1, NamesSocket line n

theorem isListed_cons {table : String} {tables : List String} {n : Nat} :
    IsListed t path (table :: tables) n ↔
      (∃ text, t.readText (tablePath path table) = .ok text ∧ n ∈ socketNumbers text) ∨
        IsListed t path tables n := by
  simp only [IsListed, List.exists_mem_cons_iff, mem_socketNumbers]

/-- What can come of reading some tables: the sockets in them, if each can be read or is
absent, and otherwise a failure. -/
inductive TablesRead (t : FileTree) (path : String) (tables : List String) :
    Except IoFailure (List Nat) → Prop
  | ok {sockets : List Nat} : (∀ table ∈ tables, ¬Unreadable t path table) →
      (∀ n, n ∈ sockets ↔ IsListed t path tables n) → TablesRead t path tables (.ok sockets)
  | error {table : String} (e : IoFailure) : table ∈ tables → Unreadable t path table →
      TablesRead t path tables (.error e)

section Step

variable {table : String} {tables : List String} {text : List Char} {e : IoFailure}
  {x : Except IoFailure (List Nat)}

theorem listedSockets_of_text (hread : t.readText (tablePath path table) = .ok text) :
    listedSockets t path (table :: tables) =
      (listedSockets t path tables).map (socketNumbers text ++ ·) := by
  unfold tablePath at hread
  rw [listedSockets, hread]

theorem listedSockets_of_absent (hread : t.readText (tablePath path table) = .error e)
    (habsent : e.kind = .notFound) :
    listedSockets t path (table :: tables) = listedSockets t path tables := by
  unfold tablePath at hread
  rw [listedSockets, hread]
  exact if_pos habsent

theorem listedSockets_of_unreadable (hread : t.readText (tablePath path table) = .error e)
    (hkind : e.kind ≠ .notFound) : listedSockets t path (table :: tables) = .error e := by
  unfold tablePath at hread
  rw [listedSockets, hread]
  exact if_neg hkind

/-- A table that can be read adds its sockets. -/
theorem TablesRead.cons_of_text (h : TablesRead t path tables x)
    (hread : t.readText (tablePath path table) = .ok text) :
    TablesRead t path (table :: tables) (x.map (socketNumbers text ++ ·)) := by
  cases h with
  | error e hmem hunreadable => exact .error e (List.mem_cons_of_mem _ hmem) hunreadable
  | ok hreadable hsockets =>
      refine .ok (List.forall_mem_cons.2 ⟨?_, hreadable⟩) ?_
      · rintro ⟨e, he, -⟩
        rw [hread] at he
        cases he
      · intro n
        rw [List.mem_append, hsockets, isListed_cons, hread]
        simp

/-- A table that is absent adds nothing. -/
theorem TablesRead.cons_of_absent (h : TablesRead t path tables x)
    (hread : t.readText (tablePath path table) = .error e) (habsent : e.kind = .notFound) :
    TablesRead t path (table :: tables) x := by
  cases h with
  | error e hmem hunreadable => exact .error e (List.mem_cons_of_mem _ hmem) hunreadable
  | ok hreadable hsockets =>
      refine .ok (List.forall_mem_cons.2 ⟨?_, hreadable⟩) ?_
      · rintro ⟨e', he, hkind⟩
        rw [hread] at he
        obtain rfl := Except.error.inj he
        exact hkind habsent
      · intro n
        rw [hsockets, isListed_cons, hread]
        simp

end Step

theorem tablesRead (t : FileTree) (path : String) (tables : List String) :
    TablesRead t path tables (listedSockets t path tables) := by
  induction tables with
  | nil => exact .ok (fun table hmem => absurd hmem List.not_mem_nil) (by simp [IsListed])
  | cons table tables ih =>
      cases hread : t.readText (tablePath path table) with
      | ok text =>
          rw [listedSockets_of_text hread]
          exact ih.cons_of_text hread
      | error e =>
          by_cases habsent : e.kind = .notFound
          · rw [listedSockets_of_absent hread habsent]
            exact ih.cons_of_absent hread habsent
          · rw [listedSockets_of_unreadable hread habsent]
            exact .error e List.mem_cons_self ⟨e, hread, habsent⟩

theorem mem_iff_isListed {tables : List String} {sockets : List Nat} {n : Nat}
    (h : listedSockets t path tables = .ok sockets) : n ∈ sockets ↔ IsListed t path tables n := by
  have hread := tablesRead t path tables
  rw [h] at hread
  cases hread with
  | ok _ hsockets => exact hsockets n

/-! ## Descriptors -/

/-- A descriptor of a process leads to the socket `n`. -/
def LeadsTo (t : FileTree) (path descriptor : String) (n : Nat) : Prop :=
  ∃ target number, t.readLink (inside (inside path "fd") descriptor) = .ok target ∧
    target.toList = "socket:[".toList ++ number ++ "]".toList ∧ Written word64 number n

/-- The socket that a descriptor leads to, if it does. -/
def socketOf? (t : FileTree) (path descriptor : String) : Option Nat :=
  (t.readLink (inside (inside path "fd") descriptor)).toOption.bind fun target =>
    socketOfLink? target.toList

theorem socketOf?_eq_some_iff {descriptor : String} {n : Nat} :
    socketOf? t path descriptor = some n ↔ LeadsTo t path descriptor n := by
  simp only [socketOf?, LeadsTo, Option.bind_eq_some_iff, toOption_eq_some_iff,
    socketOfLink?_eq_some_iff]
  constructor
  · rintro ⟨target, htarget, number, hnumber, hwritten⟩
    exact ⟨target, number, htarget, hnumber, hwritten⟩
  · rintro ⟨target, number, htarget, hnumber, hwritten⟩
    exact ⟨target, htarget, number, hnumber, hwritten⟩

instance (t : FileTree) (path descriptor : String) (n : Nat) :
    Decidable (LeadsTo t path descriptor n) :=
  decidable_of_iff _ socketOf?_eq_some_iff

/-- How many of some descriptors lead to the socket `n`. -/
def descriptorCount (t : FileTree) (path : String) (descriptors : List String) (n : Nat) : Nat :=
  descriptors.countP fun descriptor => LeadsTo t path descriptor n

/-- A socket in a table of network sockets to which one of some descriptors leads. -/
def IsConnection (t : FileTree) (path : String) (descriptors : List String) (n : Nat) : Prop :=
  IsListed t path socketTables n ∧ ∃ descriptor ∈ descriptors, LeadsTo t path descriptor n

theorem descriptorCount_pos {descriptors : List String} {n : Nat}
    (h : IsConnection t path descriptors n) : 0 < descriptorCount t path descriptors n := by
  obtain ⟨-, descriptor, hmem, hleads⟩ := h
  exact List.countP_pos_iff.2 ⟨descriptor, hmem, decide_eq_true hleads⟩

/-! ## The count -/

theorem countConnections_of_ok {sockets : List Nat} {descriptors : List String}
    (hsockets : listedSockets t path socketTables = .ok sockets)
    (hlist : t.list (inside path "fd") = .ok descriptors) :
    countConnections t path = .ok (descriptors.countP fun descriptor =>
      (socketOf? t path descriptor).any sockets.contains) := by
  rw [countConnections, hsockets, hlist]
  refine congrArg Except.ok (List.countP_congr fun descriptor _ => ?_)
  unfold socketOf?
  cases t.readLink (inside (inside path "fd") descriptor) with
  | error e => rfl
  | ok target =>
      change _ ↔ (socketOfLink? target.toList).any sockets.contains = true
      dsimp only
      cases socketOfLink? target.toList <;> rfl

/-- The connections of a process cannot be counted only if a table is there but cannot be
read, or the descriptors cannot be listed. -/
theorem exists_countConnections_error_iff :
    (∃ e, countConnections t path = .error e) ↔
      (∃ table ∈ socketTables, Unreadable t path table) ∨
        ∃ e, t.list (inside path "fd") = .error e := by
  have hread := tablesRead t path socketTables
  cases hsockets : listedSockets t path socketTables with
  | error e =>
      have hfails : countConnections t path = .error e := by
        rw [countConnections, hsockets]
        rfl
      rw [hsockets] at hread
      cases hread with
      | @error table _ hmem hunreadable =>
          exact ⟨fun _ => .inl ⟨table, hmem, hunreadable⟩, fun _ => ⟨e, hfails⟩⟩
  | ok sockets =>
      rw [hsockets] at hread
      cases hread with
      | ok hreadable _ =>
          cases hlist : t.list (inside path "fd") with
          | ok descriptors =>
              rw [countConnections_of_ok hsockets hlist]
              constructor
              · rintro ⟨e, he⟩
                cases he
              · rintro (⟨table, htable, hunreadable⟩ | ⟨e, he⟩)
                · exact absurd hunreadable (hreadable table htable)
                · cases he
          | error e =>
              have hfails : countConnections t path = .error e := by
                rw [countConnections, hsockets, hlist]
                rfl
              exact ⟨fun _ => .inr ⟨e, rfl⟩, fun _ => ⟨e, hfails⟩⟩

/-- Every connection counts as often as descriptors lead to it. -/
theorem exists_connections_of_ok {descriptors : List String} {count : Nat}
    (hlist : t.list (inside path "fd") = .ok descriptors)
    (hcount : countConnections t path = .ok count) :
    ∃ connections : Finset Nat,
      (∀ n, n ∈ connections ↔ IsConnection t path descriptors n) ∧
      count = ∑ n ∈ connections, descriptorCount t path descriptors n := by
  cases hsockets : listedSockets t path socketTables with
  | error e =>
      rw [countConnections, hsockets] at hcount
      cases hcount
  | ok sockets =>
      rw [countConnections_of_ok hsockets hlist] at hcount
      obtain rfl := Except.ok.inj hcount
      let held := (descriptors.filterMap (socketOf? t path)).toFinset.filter (· ∈ sockets)
      have hheld : ∀ n, n ∈ held ↔ IsConnection t path descriptors n := by
        intro n
        simp only [held, Finset.mem_filter, List.mem_toFinset, List.mem_filterMap,
          socketOf?_eq_some_iff, mem_iff_isListed hsockets, IsConnection, and_comm]
      refine ⟨held, hheld, ?_⟩
      have hsum := countP_any_eq_sum (socketOf? t path) sockets.contains held descriptors ?_
      · rw [hsum]
        simp only [descriptorCount, socketOf?_eq_some_iff]
      · intro descriptor hdescriptor n hn
        rw [hheld, IsConnection, List.contains_iff_mem, mem_iff_isListed hsockets]
        exact and_iff_left ⟨descriptor, hdescriptor, socketOf?_eq_some_iff.1 hn⟩

/-- The connections of a process are counted by descriptors, unless a table is there but
cannot be read or the descriptors cannot be listed.  The count is never below the number
of connections, and it is that number exactly if no connection has two descriptors. -/
theorem connections_by_descriptors (t : FileTree) (path : String) :
    ((∃ e, countConnections t path = .error e) ↔
      (∃ table ∈ socketTables, Unreadable t path table) ∨
        ∃ e, t.list (inside path "fd") = .error e) ∧
    ∀ descriptors count, t.list (inside path "fd") = .ok descriptors →
      countConnections t path = .ok count →
      ∃ connections : Finset Nat,
        (∀ n, n ∈ connections ↔ IsConnection t path descriptors n) ∧
        count = ∑ n ∈ connections, descriptorCount t path descriptors n ∧
        connections.card ≤ count ∧
        (count = connections.card ↔
          ∀ n ∈ connections, descriptorCount t path descriptors n = 1) := by
  refine ⟨exists_countConnections_error_iff, ?_⟩
  intro descriptors count hlist hcount
  obtain ⟨connections, hconnections, hsum⟩ := exists_connections_of_ok hlist hcount
  have hpos : ∀ n ∈ connections, 1 ≤ descriptorCount t path descriptors n := by
    intro n hn
    exact descriptorCount_pos ((hconnections n).1 hn)
  refine ⟨connections, hconnections, hsum, ?_, ?_⟩
  · rw [hsum, Finset.card_eq_sum_ones]
    exact Finset.sum_le_sum hpos
  · rw [hsum, Finset.card_eq_sum_ones, eq_comm, Finset.sum_eq_sum_iff_of_le hpos]
    exact forall₂_congr fun n _ => eq_comm

end Connections

namespace Sample

/-- A process whose first two descriptors lead to one connection, as inherited ones do, and
the others to a socket in no table and to a file. -/
def inherited : FileTree where
  root := .dir [("10", .dir [("net", .dir [("tcp", .file table)]), ("fd", .dir
    [("0", .link "socket:[41]"), ("1", .link "socket:[41]"),
      ("2", .link "socket:[50]"), ("3", .link "/dev/null")])])]
  here := []
where
  table : List UInt8 := Text.encode "sl\n0: 1 2 A 0 0 0 0 0 41\n1: 1 2\n".toList

end Sample

open Proc.Sample (inherited)

theorem connections_by_descriptors_sample :
    countConnections inherited "/10" = .ok 2 ∧
      ∃ connections : Finset Nat, (∀ n, n ∈ connections ↔
        IsConnection inherited "/10" ["0", "1", "2", "3"] n) ∧ connections.card = 1 := by
  have hlist : inherited.list (inside "/10" "fd") = .ok ["0", "1", "2", "3"] :=
    toOption_eq_some_iff.1 (by decide +kernel)
  have hcount : countConnections inherited "/10" = .ok 2 :=
    toOption_eq_some_iff.1 (by decide +kernel)
  have hsockets : listedSockets inherited "/10" socketTables = .ok [41] :=
    toOption_eq_some_iff.1 (by decide +kernel)
  obtain ⟨connections, hconnections, hsum, -, -⟩ :=
    (connections_by_descriptors inherited "/10").2 _ _ hlist hcount
  refine ⟨hcount, connections, hconnections, ?_⟩
  have hlisted : ∀ n ∈ connections, n = 41 := by
    intro n hn
    exact List.mem_singleton.1 ((mem_iff_isListed hsockets).2 ((hconnections n).1 hn).1)
  have hsome : connections.Nonempty := by
    rw [Finset.nonempty_iff_ne_empty]
    rintro rfl
    rw [Finset.sum_empty] at hsum
    cases hsum
  rw [Finset.card_eq_one]
  exact ⟨41, Finset.eq_singleton_iff_nonempty_unique_mem.2 ⟨hsome, hlisted⟩⟩

end CpuPinning.Proc
