import CpuPinning.Proc.Table
import CpuPinning.Proofs.Text.Utf8

/-!
# Names of threads

The file with the name of a thread holds the name and a line feed.  Where all names
are text the threads of a process are listed by their ids, once each, and a name
loses nothing but the line feeds at its own end.  One name that is no text keeps all
threads of the process from being listed.
-/

namespace CpuPinning.Proc

open Text (IsText decode? encode)

variable {t : FileTree} {fs : ProcFs} {path : String} {bytes : List UInt8}
  {cs : List Char} {pid : Nat} {ids : List Nat} {name : Nat → List UInt8}

/-! ## One name -/

/-- The line feed behind a name is text, whatever the name is. -/
theorem decode?_concat_feed (bytes : List UInt8) :
    decode? (bytes ++ [0x0A]) = (decode? bytes).map (· ++ ['\n']) := by
  rw [Text.decode?_append_cons (by decide), Text.decode?_nil]
  cases decode? bytes <;> rfl

/-- What is shown of a name. -/
def shownName (bytes : List UInt8) : String :=
  String.ofList (trimName ((decode? bytes).getD []))

theorem encode_feeds (n : Nat) : encode (List.replicate n '\n') = List.replicate n 0x0A := by
  induction n with
  | zero => rfl
  | succ n ih =>
      rw [List.replicate_succ, List.replicate_succ, ← ih]
      rfl

theorem getLast?_shownName (bytes : List UInt8) :
    (shownName bytes).toList.getLast? ≠ some '\n' := by
  rw [shownName, String.toList_ofList]
  exact getLast?_trimName _

/-- A name that is text is shown without the line feeds at its end. -/
theorem exists_eq_shownName_append (htext : IsText bytes) :
    ∃ n, bytes = encode (shownName bytes).toList ++ List.replicate n 0x0A := by
  obtain ⟨cs, hcs⟩ := Text.isText_iff.1 htext
  obtain ⟨n, hn⟩ := exists_eq_trimName_append cs
  refine ⟨n, ?_⟩
  have hshown : (shownName bytes).toList = trimName cs := by
    rw [shownName, hcs, Option.getD_some, String.toList_ofList]
  rw [hshown, ← encode_feeds, ← Text.encode_append, ← hn]
  exact Text.eq_encode_of_decode? hcs

/-- A name that is text and does not end in a line feed is shown as it is. -/
theorem encode_shownName (htext : IsText bytes) (hend : bytes.getLast? ≠ some 0x0A) :
    encode (shownName bytes).toList = bytes := by
  obtain ⟨n, hn⟩ := exists_eq_shownName_append htext
  cases n with
  | zero => simpa using hn.symm
  | succ n =>
      rw [hn, List.replicate_succ'] at hend
      simp at hend

theorem readName_of_text (hfile : t.readBytes (inside path "comm") = .ok (bytes ++ [0x0A]))
    (htext : IsText bytes) : readName t path = .ok (shownName bytes) := by
  obtain ⟨cs, hcs⟩ := Text.isText_iff.1 htext
  have hread : t.readText (inside path "comm") = .ok (cs ++ ['\n']) := by
    rw [FileTree.readText, hfile]
    simp only [decode?_concat_feed, hcs, Option.map_some]
  rw [readName, hread, shownName, hcs, Option.getD_some]
  change Except.ok (String.ofList (trimName (cs ++ ['\n']))) = _
  rw [trimName_concat]

theorem readName_of_no_text
    (hfile : t.readBytes (inside path "comm") = .ok (bytes ++ [0x0A])) (hno : ¬IsText bytes) :
    readName t path = .error .notText := by
  have hread : t.readText (inside path "comm") = .error .notText := by
    rw [FileTree.readText, hfile]
    simp only [decode?_concat_feed, Text.decode?_eq_none_iff.2 hno, Option.map_none]
  rw [readName, hread]
  rfl

/-! ## All names -/

namespace ProcFs

/-- The directory of a thread. -/
def threadPath (fs : ProcFs) (pid tid : Nat) : String :=
  inside (inside (fs.pathOf pid) "task") (Text.showNat tid)

/-- The entries of the task directory of a process denote `ids`, once each, and the
file with the name of a thread holds the name and a line feed. -/
structure ShowsThreads (fs : ProcFs) (pid : Nat) (ids : List Nat)
    (name : Nat → List UInt8) : Prop where
  listed : ∃ entries, fs.tree.list (inside (fs.pathOf pid) "task") = .ok entries ∧
    entries.filterMap (fun entry => Text.readNat? Text.word32 entry.toList) = ids
  distinct : ids.Nodup
  named : ∀ tid ∈ ids, fs.tree.readBytes (inside (fs.threadPath pid tid) "comm") =
    .ok (name tid ++ [0x0A])

/-- What is listed of threads that have the names that `name` gives them: each thread
once, ascending by its id, with its name but for line feeds at the end. -/
structure ListsThreads (ids : List Nat) (name : Nat → List UInt8)
    (threads : List ThreadInfo) : Prop where
  ascending : (threads.map (·.tid)).Pairwise (· < ·)
  complete : ∀ tid, tid ∈ threads.map (·.tid) ↔ tid ∈ ids
  exact : ∀ thread ∈ threads, (name thread.tid).getLast? ≠ some 0x0A →
    encode thread.name.toList = name thread.tid
  trimmed : ∀ thread ∈ threads, thread.name.toList.getLast? ≠ some '\n' ∧
    ∃ n, name thread.tid = encode thread.name.toList ++ List.replicate n 0x0A

theorem namedThreads_append {before : List Nat} {word : Nat → String} (after : List Nat)
    (h : ∀ tid ∈ before, readName fs.tree (fs.threadPath pid tid) = .ok (word tid)) :
    fs.namedThreads pid (before ++ after) =
      (fs.namedThreads pid after).map (before.map (fun tid => ⟨tid, word tid⟩) ++ ·) := by
  induction before with
  | nil => cases hafter : fs.namedThreads pid after <;> simp [Except.map, hafter]
  | cons tid before ih =>
      obtain ⟨htid, hbefore⟩ := List.forall_mem_cons.1 h
      rw [List.cons_append, namedThreads]
      unfold threadPath at htid
      rw [htid, ih hbefore]
      cases fs.namedThreads pid after <;> rfl

variable (h : fs.ShowsThreads pid ids name)

include h

theorem ShowsThreads.readTaskIds_eq :
    readTaskIds fs.tree (fs.pathOf pid) = .ok (ids.mergeSort (· ≤ ·)) := by
  obtain ⟨entries, hlist, hids⟩ := h.listed
  rw [readTaskIds, hlist, ← hids]
  rfl

theorem ShowsThreads.ascending : (ids.mergeSort (· ≤ ·)).Pairwise (· < ·) :=
  pairwise_lt_mergeSort id ((List.map_id ids).symm ▸ h.distinct)

theorem ShowsThreads.threads_of_text (htext : ∀ tid ∈ ids, IsText (name tid)) :
    ∃ threads, fs.threads pid = .ok threads ∧ ListsThreads ids name threads := by
  have hread : ∀ tid ∈ ids.mergeSort (· ≤ ·),
      readName fs.tree (fs.threadPath pid tid) = .ok (shownName (name tid)) := by
    intro tid htid
    rw [List.mem_mergeSort] at htid
    exact readName_of_text (h.named tid htid) (htext tid htid)
  have hnamed := namedThreads_append [] hread
  rw [List.append_nil] at hnamed
  refine ⟨(ids.mergeSort (· ≤ ·)).map fun tid => ⟨tid, shownName (name tid)⟩, ?_, ?_⟩
  · rw [threads, h.readTaskIds_eq]
    simpa [namedThreads, Except.map] using hnamed
  · have hids : ((ids.mergeSort (· ≤ ·)).map fun tid =>
        (⟨tid, shownName (name tid)⟩ : ThreadInfo)).map (·.tid) = ids.mergeSort (· ≤ ·) := by
      rw [List.map_map]
      exact List.map_id _
    constructor
    · rw [hids]
      exact h.ascending
    · intro tid
      rw [hids, List.mem_mergeSort]
    · intro thread hthread hend
      obtain ⟨tid, htid, rfl⟩ := List.mem_map.1 hthread
      exact encode_shownName (htext tid (List.mem_mergeSort.1 htid)) hend
    · intro thread hthread
      obtain ⟨tid, htid, rfl⟩ := List.mem_map.1 hthread
      exact ⟨getLast?_shownName _,
        exists_eq_shownName_append (htext tid (List.mem_mergeSort.1 htid))⟩

theorem ShowsThreads.threads_of_no_text {tid : Nat} (htid : tid ∈ ids)
    (hno : ¬IsText (name tid)) (hbefore : ∀ other ∈ ids, other < tid → IsText (name other)) :
    fs.threads pid = .error (.failed tid .notText) := by
  obtain ⟨before, after, hsplit⟩ := List.append_of_mem (List.mem_mergeSort.2 htid)
  have hread : ∀ other ∈ before,
      readName fs.tree (fs.threadPath pid other) = .ok (shownName (name other)) := by
    intro other hmem
    have hother : other ∈ ids := by
      rw [← List.mem_mergeSort, hsplit]
      exact List.mem_append_left _ hmem
    have hascending := h.ascending
    rw [hsplit] at hascending
    have hlt : other < tid :=
      (List.pairwise_append.1 hascending).2.2 other hmem tid List.mem_cons_self
    exact readName_of_text (h.named other hother) (hbefore other hother hlt)
  have hfirst := readName_of_no_text (h.named tid htid) hno
  unfold threadPath at hfirst
  rw [threads, h.readTaskIds_eq, hsplit]
  change fs.namedThreads pid (before ++ tid :: after) = _
  rw [namedThreads_append _ hread, namedThreads, hfirst]
  rfl

omit h

/-- Where the names of all threads of a process are text, all threads are listed, each
with its name, but for line feeds at the end of the name.  Otherwise no thread is
listed, and the first one by its id whose name is no text is the one that failed. -/
theorem threads_by_names (h : fs.ShowsThreads pid ids name) :
    ((∀ tid ∈ ids, IsText (name tid)) →
      ∃ threads, fs.threads pid = .ok threads ∧ ListsThreads ids name threads) ∧
    ∀ tid ∈ ids, ¬IsText (name tid) →
      (∀ other ∈ ids, other < tid → IsText (name other)) →
      fs.threads pid = .error (.failed tid .notText) := by
  constructor
  · intro htext
    exact h.threads_of_text htext
  · intro tid htid hno hbefore
    exact h.threads_of_no_text htid hno hbefore

end ProcFs

namespace Sample

/-- The directory of the process 10 with two threads, of which the second one has some
name. -/
def twoThreads (second : List UInt8) : ProcFs where
  tree := {
    root := .dir [("proc", .dir [("10", .dir [("task", .dir
      [entry "11" second, entry "10" [0x61]])])])]
    here := [] }
  root := "/proc"
where
  entry (tid : String) (name : List UInt8) : String × Node :=
    (tid, .dir [("comm", .file (name ++ [0x0A]))])

/-- The second thread is called `b` and a line feed, or by what is no text. -/
theorem twoThreads_shows {second : List UInt8} (h : second = [0x62, 0x0A] ∨ second = [0xC3]) :
    (twoThreads second).ShowsThreads 10 [11, 10]
      (fun tid => if tid = 11 then second else [0x61]) where
  listed := by
    refine ⟨["11", "10"], ?_, by decide +kernel⟩
    rcases h with rfl | rfl <;> exact toOption_eq_some_iff.1 (by decide +kernel)
  distinct := by decide
  named := by
    rw [List.forall_mem_cons, List.forall_mem_singleton]
    rcases h with rfl | rfl <;>
      exact ⟨toOption_eq_some_iff.1 (by decide +kernel),
        toOption_eq_some_iff.1 (by decide +kernel)⟩

end Sample

open Proc.Sample (twoThreads twoThreads_shows)

theorem ProcFs.threads_by_names_sample :
    (∃ threads, (twoThreads [0x62, 0x0A]).threads 10 = .ok threads ∧
      ListsThreads [11, 10] (fun tid => if tid = 11 then [0x62, 0x0A] else [0x61])
        threads) ∧
    (twoThreads [0xC3]).threads 10 = .error (.failed 11 .notText) := by
  have hfirst : IsText [0x61] := ⟨['a'], by decide⟩
  have hfeed : IsText [0x62, 0x0A] := ⟨['b', '\n'], by decide⟩
  have hnone : decode? [0xC3] = none := by decide +kernel
  have hno : ¬IsText [0xC3] := Text.decode?_eq_none_iff.1 hnone
  constructor
  · refine (threads_by_names (twoThreads_shows (.inl rfl))).1 ?_
    rw [List.forall_mem_cons, List.forall_mem_singleton]
    exact ⟨hfeed, hfirst⟩
  · refine (threads_by_names (twoThreads_shows (.inr rfl))).2 11 (by decide) hno ?_
    rw [List.forall_mem_cons, List.forall_mem_singleton]
    exact ⟨fun hlt => absurd hlt (by decide), fun _ => hfirst⟩

end CpuPinning.Proc
