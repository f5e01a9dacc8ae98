import Mathlib.Data.List.Forall2
import Mathlib.Data.List.Nodup
import CpuPinning.Proc.Table
import CpuPinning.Proofs.Proc.ExecutableName
import CpuPinning.Proofs.Proc.Likeness

/-!
# The order of directory entries

A file system lists the entries of a directory in any order.  Where no two entries of
a directory stand for one number, nothing that is read of the process directories
depends on that order: processes and threads are listed by their numbers, and the
search for descendants goes by the processes as they are listed.  A pass is therefore
the same, even if the order changes while it goes on.
-/

namespace CpuPinning.Proc

/-- A file holds the same bytes, whatever its name. -/
abbrev SameBytes (_name : String) (bytes bytes' : List UInt8) : Prop := bytes = bytes'

/-- Two file trees that differ only in the order in which directories list their
entries. -/
def FileTree.Reordered : FileTree → FileTree → Prop := FileTree.Like List.Perm SameBytes

theorem sameNames_perm : SameNames List.Perm := by
  intro names names' hperm name
  exact hperm.mem_iff

/-- Two directories are the same but for the order of entries, if their entries can be put
in one order and are then the same one by one, as far as names are not used twice. -/
theorem Node.Alike.of_perm {content : String → List UInt8 → List UInt8 → Prop} {name : String}
    {es mid es' : List (String × Node)} (hnodup : (es.map (·.1)).Nodup) (hperm : es.Perm mid)
    (hentries : List.Forall₂
      (fun e e' => e.1 = e'.1 ∧ Node.Alike List.Perm content e.1 e.2 e'.2) mid es') :
    Node.Alike List.Perm content name (.dir es) (.dir es') := by
  have hnames : mid.map (·.1) = es'.map (·.1) := by
    rw [← List.forall₂_eq_eq_eq, List.forall₂_map_left_iff, List.forall₂_map_right_iff]
    exact hentries.imp fun _ _ hentry => hentry.1
  refine .dir (hnames ▸ hperm.map _) ?_
  intro key node node' hnode hnode'
  rw [member?_perm hperm hnodup] at hnode
  have hmid : Node.Alike List.Perm content name (.dir mid) (.dir es') :=
    .of_entries (hnames ▸ List.Perm.refl _) hentries
  cases hmid with
  | dir _ hmembers => exact hmembers key node node' hnode hnode'

theorem Node.Alike.refl_perm (node : Node) (name : String) :
    Node.Alike List.Perm SameBytes name node node := by
  match node with
  | .file bytes => exact .file rfl
  | .link target => exact .link target
  | .dir es =>
      refine .dir (List.Perm.refl _) ?_
      intro key node node' hnode hnode'
      obtain rfl : node = node' := Option.some.inj (hnode.symm.trans hnode')
      have hsize := List.sizeOf_lt_of_mem (mem_of_member? hnode)
      exact Node.Alike.refl_perm node key
termination_by node
decreasing_by
  simp only [Prod.mk.sizeOf_spec] at hsize
  simp only [Node.dir.sizeOf_spec]
  omega

/-! ## Reading files -/

namespace FileTree.Reordered

variable {t t' : FileTree} (h : t.Reordered t') (path : String)

include h

theorem readBytes_eq : t.readBytes path = t'.readBytes path := by
  have hagree := FileTree.readBytes_like sameNames_perm h path
  refine Agree.eq (hagree.imp ?_)
  rintro bytes bytes' ⟨name, hbytes⟩
  exact hbytes

theorem readText_eq : t.readText path = t'.readText path := by
  rw [FileTree.readText, FileTree.readText, h.readBytes_eq]

theorem readName_eq : readName t path = readName t' path := by
  rw [readName, readName, h.readText_eq]

theorem readCommandLine_eq : readCommandLine t path = readCommandLine t' path := by
  rw [readCommandLine, readCommandLine, h.readBytes_eq]

theorem readParent_eq : readParent t path = readParent t' path := by
  rw [readParent, readParent, h.readText_eq]

theorem readMemory_eq : readMemory t path = readMemory t' path := by
  rw [readMemory, readMemory, h.readText_eq]

theorem listedSockets_eq (tables : List String) :
    listedSockets t path tables = listedSockets t' path tables := by
  induction tables with
  | nil => rfl
  | cons table tables ih => rw [listedSockets, listedSockets, h.readText_eq, ih]

theorem list_agree : Agree List.Perm (t.list path) (t'.list path) :=
  FileTree.list_like sameNames_perm h path

/-- All descriptors are counted, in whatever order. -/
theorem countConnections_eq : countConnections t path = countConnections t' path := by
  have hlist := h.list_agree (inside path "fd")
  have hlink : ∀ path, t.readLink path = t'.readLink path := FileTree.readLink_like sameNames_perm h
  rw [countConnections, countConnections, h.listedSockets_eq]
  generalize t.list (inside path "fd") = x at hlist ⊢
  generalize t'.list (inside path "fd") = x' at hlist ⊢
  cases hlist with
  | error e => rfl
  | ok hperm =>
      congr 1
      funext sockets
      simp only [hlink]
      exact congrArg Except.ok (hperm.countP_eq _)

end FileTree.Reordered

/-! ## Listing processes and threads -/

namespace ProcFs

variable {fs fs' : ProcFs}

/-- The same process directories, but for the order in which they list their entries. -/
structure Reordered (fs fs' : ProcFs) : Prop where
  root : fs.root = fs'.root
  tree : fs.tree.Reordered fs'.tree

theorem Reordered.pathOf_eq (h : fs.Reordered fs') (pid : Nat) :
    fs.pathOf pid = fs'.pathOf pid := by
  rw [pathOf, pathOf, h.root]

/-- No two entries of a directory stand for one number: neither for one process, nor
for one thread of a process. -/
structure NumbersOnce (fs : ProcFs) : Prop where
  processes : ∀ names, fs.tree.list fs.root = .ok names → (names.filterMap pidOfName?).Nodup
  threads : ∀ pid names, fs.tree.list (inside (fs.pathOf pid) "task") = .ok names →
    (names.filterMap fun name => Text.readNat? Text.word32 name.toList).Nodup

/-- Listings without two entries for one number, be it of a process or of a thread. -/
def NumberedOnce (names names' : List String) : Prop :=
  names = names' ∧ (names.filterMap pidOfName?).Nodup ∧
    (names.filterMap fun name => Text.readNat? Text.word32 name.toList).Nodup

instance (names names' : List String) : Decidable (NumberedOnce names names') :=
  inferInstanceAs (Decidable (_ ∧ _ ∧ _))

/-- If no directory of the whole tree has two entries for one number, the process
directories have not. -/
theorem NumbersOnce.of_tree {content : String → List UInt8 → List UInt8 → Prop}
    (h : fs.tree.Like NumberedOnce content fs.tree) : fs.NumbersOnce := by
  have hsame : SameNames NumberedOnce := by
    rintro names names' ⟨rfl, -⟩ name
    exact Iff.rfl
  have hlisted : ∀ path names, fs.tree.list path = .ok names → NumberedOnce names names := by
    intro path names hnames
    have hlist := FileTree.list_like hsame h path
    rw [hnames] at hlist
    cases hlist with
    | ok hnumbered => exact hnumbered
  constructor
  · intro names hnames
    exact (hlisted _ names hnames).2.1
  · intro pid names hnames
    exact (hlisted _ names hnames).2.2

/-- The numbers of the entries of a directory. -/
theorem map_pid_filterMap (root : String) (names : List String) :
    (names.filterMap fun name =>
      (pidOfName? name).map fun pid => Entry.mk pid (inside root name)).map (·.pid) =
      names.filterMap pidOfName? := by
  rw [List.map_filterMap]
  congr 1
  funext name
  rw [Option.map_map]
  exact Option.map_id'

/-- Process directories in another order are put in the same order by their numbers. -/
theorem Reordered.entries_eq (h : fs.Reordered fs') (hnumbers : fs.NumbersOnce) :
    entries fs.tree fs.root = entries fs'.tree fs'.root := by
  have hlist := h.tree.list_agree fs.root
  have honce := hnumbers.processes
  rw [entries, entries, ← h.root]
  generalize fs.tree.list fs.root = x at hlist honce ⊢
  generalize fs'.tree.list fs.root = x' at hlist ⊢
  cases hlist with
  | error e => rfl
  | @ok names names' hperm =>
      refine congrArg Except.ok (mergeSort_eq_of_perm Entry.pid (hperm.filterMap _) ?_)
      have hnodup := honce names rfl
      rw [← map_pid_filterMap fs.root] at hnodup
      intro e he e' he' hpid
      exact List.inj_on_of_nodup_map hnodup he he' hpid

theorem Reordered.processes_eq (h : fs.Reordered fs') (hnumbers : fs.NumbersOnce) :
    fs.processes = fs'.processes := by
  have hread : fs.readProcess = fs'.readProcess := by
    funext entry
    rw [readProcess, readProcess, h.tree.readName_eq, h.tree.readCommandLine_eq]
  rw [processes, processes, h.entries_eq hnumbers, hread]

theorem Reordered.children_eq (h : fs.Reordered fs') (hnumbers : fs.NumbersOnce) (pid : Nat) :
    fs.children pid = fs'.children pid := by
  have hthere : fs.tree.exists? (fs.pathOf pid) = fs'.tree.exists? (fs'.pathOf pid) := by
    rw [h.pathOf_eq]
    exact FileTree.exists?_like sameNames_perm h.tree _
  have hparents : fs.parents = fs'.parents := by
    funext es
    simp only [parents, h.tree.readParent_eq]
  rw [children, children, hthere, h.entries_eq hnumbers, hparents]

theorem Reordered.readTaskIds_eq (h : fs.Reordered fs') (path : String) :
    readTaskIds fs.tree path = readTaskIds fs'.tree path := by
  have hlist := h.tree.list_agree (inside path "task")
  rw [readTaskIds, readTaskIds]
  generalize fs.tree.list (inside path "task") = x at hlist ⊢
  generalize fs'.tree.list (inside path "task") = x' at hlist ⊢
  cases hlist with
  | error e => rfl
  | ok hperm =>
      refine congrArg Except.ok (mergeSort_eq_of_perm id (hperm.filterMap _) ?_)
      intro a _ b _ hab
      exact hab

theorem Reordered.namedThreads_eq (h : fs.Reordered fs') (pid : Nat) (tids : List Nat) :
    fs.namedThreads pid tids = fs'.namedThreads pid tids := by
  induction tids with
  | nil => rfl
  | cons tid tids ih => rw [namedThreads, namedThreads, h.pathOf_eq, h.tree.readName_eq, ih]

theorem Reordered.threads_eq (h : fs.Reordered fs') (pid : Nat) :
    fs.threads pid = fs'.threads pid := by
  have hnamed : fs.namedThreads pid = fs'.namedThreads pid := by
    funext tids
    exact h.namedThreads_eq pid tids
  rw [threads, threads, h.pathOf_eq, h.readTaskIds_eq, hnamed]

theorem Reordered.details_eq (h : fs.Reordered fs') (hnumbers : fs.NumbersOnce) (pid : Nat) :
    fs.details pid = fs'.details pid := by
  rw [details, details, h.children_eq hnumbers, h.threads_eq, h.pathOf_eq,
    h.tree.readMemory_eq, h.tree.countConnections_eq]

/-! ## Order of the answers -/

/-- Processes are listed strictly by their numbers. -/
theorem NumbersOnce.processes_ascending (hnumbers : fs.NumbersOnce) {ps : List ProcessInfo}
    (hps : fs.processes = .ok ps) : (ps.map (·.pid)).Pairwise (· < ·) := by
  cases hlist : fs.tree.list fs.root with
  | error e =>
      rw [ProcFs.processes, entries, hlist] at hps
      cases hps
  | ok names =>
      have hnodup := hnumbers.processes names hlist
      rw [← map_pid_filterMap fs.root] at hnodup
      have hsorted := pairwise_lt_mergeSort Entry.pid hnodup
      rw [ProcFs.processes, entries, hlist] at hps
      obtain rfl := Except.ok.inj hps
      rw [List.pairwise_map, List.pairwise_filterMap]
      refine hsorted.imp ?_
      intro e e' hlt p hp p' hp'
      obtain ⟨_, _, -, -, rfl⟩ := readProcess_eq_ok_iff.1 (toOption_eq_some_iff.1 hp)
      obtain ⟨_, _, -, -, rfl⟩ := readProcess_eq_ok_iff.1 (toOption_eq_some_iff.1 hp')
      exact hlt

/-- Threads that vanished are left out, and the others keep their places. -/
theorem sublist_of_namedThreads {pid : Nat} {tids : List Nat} {threads : List ThreadInfo}
    (h : fs.namedThreads pid tids = .ok threads) : (threads.map (·.tid)).Sublist tids := by
  induction tids generalizing threads with
  | nil =>
      obtain rfl := Except.ok.inj h
      exact List.nil_sublist _
  | cons tid tids ih =>
      rw [namedThreads] at h
      split at h
      · cases hrest : fs.namedThreads pid tids with
        | error e =>
            rw [hrest] at h
            cases h
        | ok rest =>
            rw [hrest] at h
            obtain rfl := Except.ok.inj h
            exact (ih hrest).cons_cons tid
      · split at h
        · exact (ih h).cons tid
        · cases h

/-- Threads are listed strictly by their numbers. -/
theorem NumbersOnce.threads_ascending (hnumbers : fs.NumbersOnce) {pid : Nat}
    {threads : List ThreadInfo} (hthreads : fs.threads pid = .ok threads) :
    (threads.map (·.tid)).Pairwise (· < ·) := by
  cases hlist : fs.tree.list (inside (fs.pathOf pid) "task") with
  | error e =>
      rw [ProcFs.threads, readTaskIds, hlist] at hthreads
      cases hthreads
  | ok names =>
      have hnodup := hnumbers.threads pid names hlist
      rw [← List.map_id (names.filterMap _)] at hnodup
      have hsorted := pairwise_lt_mergeSort id hnodup
      rw [ProcFs.threads, readTaskIds, hlist] at hthreads
      exact hsorted.sublist (sublist_of_namedThreads hthreads)

/-! ## Whole passes -/

variable {σ α : Type}

/-- A system whose process directories may list their entries in another order at every
question: `views n` shows them when question number `n` is asked. -/
def changingTable (views : Nat → ProcFs) (set : σ → Nat → CpuMask → Except TaskError Unit × σ) :
    Table (Nat × σ) where
  answer s q :=
    let (a, state) := ((views s.1).table set).answer s.2 q
    (a, s.1 + 1, state)

theorem Reordered.answer_eq (h : fs.Reordered fs') (hnumbers : fs.NumbersOnce)
    (set : σ → Nat → CpuMask → Except TaskError Unit × σ) (s : σ) (q : Query) :
    (fs'.table set).answer s q = (fs.table set).answer s q := by
  cases q with
  | processes => exact congrArg (·, s) (h.processes_eq hnumbers).symm
  | children pid => exact congrArg (·, s) (h.children_eq hnumbers pid).symm
  | threads pid => exact congrArg (·, s) (h.threads_eq pid).symm
  | setAffinity id mask => rfl
  | announce m => rfl

/-- A pass does not notice in which order the entries are listed. -/
theorem exec_changingTable {views : Nat → ProcFs} (h : ∀ n, fs.Reordered (views n))
    (hnumbers : fs.NumbersOnce) (set : σ → Nat → CpuMask → Except TaskError Unit × σ)
    (p : Pass α) (n : Nat) (s : σ) :
    (p.exec (changingTable views set) (n, s)).result = (p.exec (fs.table set) s).result ∧
      (p.exec (changingTable views set) (n, s)).events = (p.exec (fs.table set) s).events ∧
      (p.exec (changingTable views set) (n, s)).state.2 = (p.exec (fs.table set) s).state := by
  induction p generalizing n s with
  | done result => exact ⟨rfl, rfl, rfl⟩
  | ask q next ih =>
      have hanswer := (h n).answer_eq hnumbers set s q
      obtain ⟨hresult, hevents, hstate⟩ := ih ((fs.table set).answer s q).1 (n + 1)
        ((fs.table set).answer s q).2
      simp only [Pass.exec, changingTable, hanswer]
      exact ⟨hresult, congrArg _ hevents, hstate⟩

/-- Two sets of process directories of which nobody can tell one from the other. -/
structure SameAnswers (fs fs' : ProcFs) : Prop where
  processes : fs'.processes = fs.processes
  children : ∀ pid, fs'.children pid = fs.children pid
  threads : ∀ pid, fs'.threads pid = fs.threads pid
  details : ∀ pid, fs'.details pid = fs.details pid
  run : ∀ {σ : Type} (set : σ → Nat → CpuMask → Except TaskError Unit × σ) (rules : RuleSet)
    (opts : Options) (s : σ),
    (run rules opts).exec (fs'.table set) s = (run rules opts).exec (fs.table set) s

theorem Reordered.sameAnswers (h : fs.Reordered fs') (hnumbers : fs.NumbersOnce) :
    fs.SameAnswers fs' where
  processes := (h.processes_eq hnumbers).symm
  children pid := (h.children_eq hnumbers pid).symm
  threads pid := (h.threads_eq pid).symm
  details pid := (h.details_eq hnumbers pid).symm
  run set rules opts s := by
    have hanswer : (fs'.table set).answer = (fs.table set).answer := by
      funext s q
      exact h.answer_eq hnumbers set s q
    have htable : fs'.table set = fs.table set := congrArg Table.mk hanswer
    rw [htable]

/-- The order in which directories list their entries never shows, as long as no two
entries of a directory stand for one number.  All questions are answered the same, with
processes and threads strictly by their numbers, and a whole pass asks, sets and reports
the same, even if the order is another one at every question. -/
theorem entry_order_hidden (hnumbers : fs.NumbersOnce) :
    (∀ fs', fs.Reordered fs' → fs.SameAnswers fs') ∧
    (∀ ps, fs.processes = .ok ps → (ps.map (·.pid)).Pairwise (· < ·)) ∧
    (∀ pid threads, fs.threads pid = .ok threads → (threads.map (·.tid)).Pairwise (· < ·)) ∧
    ∀ views : Nat → ProcFs, (∀ n, fs.Reordered (views n)) →
      ∀ {σ : Type} (set : σ → Nat → CpuMask → Except TaskError Unit × σ) (rules : RuleSet)
        (opts : Options) (n : Nat) (s : σ),
        let changing := (run rules opts).exec (changingTable views set) (n, s)
        let still := (run rules opts).exec (fs.table set) s
        changing.result = still.result ∧ changing.events = still.events ∧
          changing.state.2 = still.state := by
  refine ⟨?_, ?_, ?_, ?_⟩
  · intro fs' h
    exact h.sameAnswers hnumbers
  · intro ps hps
    exact hnumbers.processes_ascending hps
  · intro pid threads hthreads
    exact hnumbers.threads_ascending hthreads
  · intro views h σ set rules opts n s
    exact exec_changingTable h hnumbers set (run rules opts) n s

end ProcFs

namespace Sample

open ProcFs (NumberedOnce)

/-- Three processes, one below the other, of which the one in the middle has two
threads.  The entries of two directories are listed as `arrange` says. -/
def crowd (arrange : List (String × Node) → List (String × Node)) : ProcFs where
  tree := {
    root := .dir [("proc", .dir (arrange (listed arrange)))]
    here := [] }
  root := "/proc"
where
  comm : String × Node := ("comm", .file (Text.encode ['a', '\n']))
  stat (parent : String) : String × Node :=
    ("stat", .file (Text.encode ("0 (a) S " ++ parent).toList))
  /-- The directory of a process. -/
  entry (name parent : String) (tasks : List (String × Node)) : String × Node :=
    (name, .dir [comm, stat parent, ("cmdline", .file []), ("task", .dir tasks)])
  /-- The directory of a thread. -/
  task (name : String) : String × Node := (name, .dir [comm])
  listed (arrange : List (String × Node) → List (String × Node)) : List (String × Node) :=
    [entry "30" "20" [task "30"], ("self", .link "10"),
      entry "20" "10" (arrange [task "21", task "20"]), entry "10" "1" [task "10"]]

theorem crowd_reordered : (crowd id).Reordered (crowd List.reverse) := by
  have hsame : ∀ es : List (String × Node), List.Forall₂ (fun e e' => e.1 = e'.1 ∧
      Node.Alike List.Perm SameBytes e.1 e.2 e'.2) es es := by
    intro es
    exact List.forall₂_same.2 fun e _ => ⟨rfl, .refl_perm e.2 e.1⟩
  refine ⟨rfl, rfl, .of_entries (.refl _) (.cons ⟨rfl, ?_⟩ .nil)⟩
  refine .of_perm (by decide) (List.reverse_perm _).symm ?_
  refine .cons ⟨rfl, .refl_perm _ _⟩ (.cons ⟨rfl, ?_⟩ (hsame _))
  refine .of_entries (.refl _) ?_
  refine .cons ⟨rfl, .refl_perm _ _⟩ (.cons ⟨rfl, .refl_perm _ _⟩
    (.cons ⟨rfl, .refl_perm _ _⟩ (.cons ⟨rfl, ?_⟩ .nil)))
  exact .of_perm (by decide) (List.reverse_perm _).symm (hsame _)

theorem crowd_numbersOnce : (crowd id).NumbersOnce := by
  have htask : ∀ name, Node.Alike NumberedOnce SameBytes name (crowd.task name).2
      (crowd.task name).2 := by
    intro name
    exact .of_entries (by decide) (.cons ⟨rfl, .file rfl⟩ .nil)
  have hentry : ∀ name parent tasks, NumberedOnce (tasks.map (·.1)) (tasks.map (·.1)) →
      (∀ task ∈ tasks, Node.Alike NumberedOnce SameBytes task.1 task.2 task.2) →
      Node.Alike NumberedOnce SameBytes name (crowd.entry name parent tasks).2
        (crowd.entry name parent tasks).2 := by
    intro name parent tasks hnumbered htasks
    have hfiles : NumberedOnce ["comm", "stat", "cmdline", "task"]
        ["comm", "stat", "cmdline", "task"] := by decide
    have hinner : Node.Alike NumberedOnce SameBytes "task" (.dir tasks) (.dir tasks) :=
      .of_entries hnumbered (List.forall₂_same.2 fun task hmem => ⟨rfl, htasks task hmem⟩)
    exact .of_entries hfiles (.cons ⟨rfl, .file rfl⟩ (.cons ⟨rfl, .file rfl⟩
      (.cons ⟨rfl, .file rfl⟩ (.cons ⟨rfl, hinner⟩ .nil))))
  have htree : (crowd id).tree.Like NumberedOnce SameBytes (crowd id).tree := by
    refine ⟨rfl, .of_entries (by decide) (.cons ⟨rfl, .of_entries (by decide) ?_⟩ .nil)⟩
    refine .cons ⟨rfl, hentry _ _ _ (by decide) ?_⟩ (.cons ⟨rfl, .link _⟩
      (.cons ⟨rfl, hentry _ _ _ (by decide) ?_⟩ (.cons ⟨rfl, hentry _ _ _ (by decide) ?_⟩ .nil)))
    · exact List.forall_mem_singleton.2 (htask _)
    · exact List.forall_mem_cons.2 ⟨htask _, List.forall_mem_singleton.2 (htask _)⟩
    · exact List.forall_mem_singleton.2 (htask _)
  exact .of_tree htree

theorem children_crowd : (crowd id).children 10 = .ok [20, 30] := by
  have hthere : (crowd id).tree.exists? ((crowd id).pathOf 10) = true := by decide +kernel
  have hlist : (crowd id).tree.list (crowd id).root = .ok ["30", "self", "20", "10"] :=
    toOption_eq_some_iff.1 (by decide +kernel)
  have hnumbered : (["30", "self", "20", "10"].filterMap fun name =>
      (pidOfName? name).map fun pid => Entry.mk pid (inside (crowd id).root name)) =
        [⟨30, "/proc/30"⟩, ⟨20, "/proc/20"⟩, ⟨10, "/proc/10"⟩] := by
    decide +kernel
  have hentries : entries (crowd id).tree (crowd id).root =
      .ok [⟨10, "/proc/10"⟩, ⟨20, "/proc/20"⟩, ⟨30, "/proc/30"⟩] := by
    rw [entries, hlist, Except.map, hnumbered]
    simp [List.mergeSort]
  rw [(crowd id).children_of_entries 10 hthere hentries]
  exact congrArg Except.ok (by decide +kernel)

end Sample

open Proc.Sample (crowd)

theorem ProcFs.entry_order_hidden_sample :
    (crowd id).Reordered (crowd List.reverse) ∧ (crowd id).NumbersOnce ∧
      (crowd id).SameAnswers (crowd List.reverse) ∧
      (crowd id).children 10 = .ok [20, 30] ∧ (crowd List.reverse).children 10 = .ok [20, 30] := by
  obtain ⟨hviews, -, -, -⟩ := entry_order_hidden Sample.crowd_numbersOnce
  have hsame := hviews _ Sample.crowd_reordered
  have hchildren := Sample.children_crowd
  exact ⟨Sample.crowd_reordered, Sample.crowd_numbersOnce, hsame, hchildren,
    (hsame.children 10).trans hchildren⟩

end CpuPinning.Proc
