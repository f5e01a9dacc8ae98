import CpuPinning.Proc.Directory
import CpuPinning.Proofs.Proc.CommandLine
import CpuPinning.Proofs.Proc.Descendants
import CpuPinning.Proofs.Proc.ThreadNames

/-!
# Names of executables

The kernel shows a process by the first bytes of the name of its executable and by its
arguments, of which the first one is the path of the executable.  From the two together
the name and the arguments are found again as they were, however long the name is, as
long as the kernel does not cut it inside a character.
-/

namespace CpuPinning.Proc

open Text (IsText encode)

variable {name folder : String} {args : List String}

/-- A name that an executable may have. -/
structure IsExecutableName (name : String) : Prop where
  nonempty : name ≠ ""
  no_slash : '/' ∉ name.toList
  no_null : '\x00' ∉ name.toList
  no_feed : '\n' ∉ name.toList
  not_here : name ≠ "."
  not_above : name ≠ ".."
  /-- If the kernel cuts the name, then between two characters. -/
  cut : nameLimit < (encode name.toList).length →
    IsText ((encode name.toList).take nameLimit)

/-- What may stand before a name in a path. -/
structure IsFolder (folder : String) : Prop where
  no_null : '\x00' ∉ folder.toList
  ends : folder = "" ∨ folder.toList.getLast? = some '/'

/-- A process that runs the executable `name` in `folder`, with some arguments. -/
def Task.running (pid parent : Nat) (folder name : String) (args : List String) : Task where
  pid := pid
  parent := parent
  name := encode name.toList
  arguments := ((folder ++ name) :: args).map fun arg => encode arg.toList

/-! ## The name from its beginning -/

theorem IsExecutableName.isText_take (h : IsExecutableName name) :
    IsText ((encode name.toList).take nameLimit) := by
  by_cases hlong : nameLimit < (encode name.toList).length
  · exact h.cut hlong
  · exact ⟨name.toList, List.take_of_length_le (Nat.le_of_not_lt hlong)⟩

/-- The kernel's name is the beginning of the name. -/
theorem IsExecutableName.encode_shownName_take (h : IsExecutableName name) :
    encode (shownName ((encode name.toList).take nameLimit)).toList =
      (encode name.toList).take nameLimit := by
  apply encode_shownName h.isText_take
  intro hlast
  have hmem : 0x0A ∈ encode name.toList :=
    List.mem_of_mem_take (List.mem_of_getLast? hlast)
  exact h.no_feed ((Text.mem_encode_ascii_iff (by decide)).1 hmem)

theorem fileName?_executable (hname : IsExecutableName name) (hfolder : IsFolder folder) :
    Text.fileName? (folder ++ name).toList = some name.toList := by
  have hends : folder.toList = [] ∨ folder.toList.getLast? = some '/' := by
    apply hfolder.ends.imp_left
    rintro rfl
    rfl
  have hne : ∀ other : String, name ≠ other → name.toList ≠ other.toList := by
    intro other hne heq
    exact hne (String.toList_inj.1 heq)
  rw [String.toList_append]
  exact Text.fileName?_append hends hname.no_slash (hne "" hname.nonempty)
    (hne "." hname.not_here) (hne ".." hname.not_above)

/-- A name shorter than the limit is taken from the kernel. -/
theorem processName_of_short {comm : String} (h : comm.utf8ByteSize < nameLimit)
    (cmdline : List String) : processName comm cmdline = comm := if_pos h

/-- A name that may have been cut is taken from the first argument. -/
theorem processName_of_shown {comm first : String} {base : List Char}
    (hlong : nameLimit ≤ comm.utf8ByteSize) (hbase : Text.fileName? first.toList = some base)
    (hbegins : comm.toList <+: base) (args : List String) :
    processName comm (first :: args) = String.ofList base := by
  rw [processName, if_neg (Nat.not_lt.2 hlong), List.head?_cons, Option.bind_some, hbase]
  exact if_pos (List.isPrefixOf_iff_prefix.2 hbegins)

/-- The name is found again from what the kernel keeps of it and from its path. -/
theorem processName_executable (hname : IsExecutableName name) (hfolder : IsFolder folder)
    (args : List String) :
    processName (shownName ((encode name.toList).take nameLimit)) ((folder ++ name) :: args) =
      name := by
  have hkept := hname.encode_shownName_take
  generalize shownName ((encode name.toList).take nameLimit) = comm at hkept ⊢
  have hsize : comm.utf8ByteSize = (encode comm.toList).length := by
    rw [← Text.utf8ByteSize_ofList, String.ofList_toList]
  by_cases hshort : comm.utf8ByteSize < nameLimit
  · -- less than the limit is left of the name, so nothing was cut off
    have hall : (encode name.toList).take nameLimit = encode name.toList := by
      apply List.take_of_length_le
      rw [hsize, hkept, List.length_take] at hshort
      omega
    have hsame : comm.toList = name.toList := Text.eq_of_encode_eq (hkept.trans hall)
    rw [processName_of_short hshort]
    exact String.toList_inj.1 hsame
  · have hbegins : comm.toList <+: name.toList := by
      apply Text.isPrefix_of_encode_isPrefix
      rw [hkept]
      exact List.take_prefix _ _
    rw [processName_of_shown (Nat.le_of_not_lt hshort) (fileName?_executable hname hfolder)
      hbegins, String.ofList_toList]

/-! ## The process in the directory -/

namespace ProcFs

variable {fs : ProcFs} {names : List String} {entry : String} {pid parent : Nat}

/-- The directory `entry` holds the files that the kernel shows for `t`. -/
structure ShowsTask (fs : ProcFs) (entry : String) (t : Task) : Prop where
  numbered : pidOfName? entry = some t.pid
  named : fs.tree.readBytes (inside (inside fs.root entry) "comm") = .ok t.commFile
  called : fs.tree.readBytes (inside (inside fs.root entry) "cmdline") = .ok t.cmdlineFile

/-- A process is known once its name and its arguments could be read. -/
theorem readProcess_eq_ok_iff {e : Entry} {p : ProcessInfo} :
    fs.readProcess e = .ok p ↔
      ∃ comm cmdline, readName fs.tree e.path = .ok comm ∧
        readCommandLine fs.tree e.path = .ok cmdline ∧
        p = ⟨e.pid, processName comm cmdline, cmdline⟩ := by
  constructor
  · intro h
    rw [ProcFs.readProcess] at h
    obtain ⟨comm, hcomm, h⟩ := exists_of_bind_eq_ok h
    obtain ⟨cmdline, hcmdline, h⟩ := exists_of_bind_eq_ok h
    exact ⟨comm, cmdline, hcomm, hcmdline, (Except.ok.inj h).symm⟩
  · rintro ⟨comm, cmdline, hcomm, hcmdline, rfl⟩
    rw [ProcFs.readProcess, hcomm, hcmdline]
    rfl

/-- The processes are those whose directories can be read. -/
theorem exists_processes (h : fs.tree.list fs.root = .ok names) :
    ∃ ps, fs.processes = .ok ps ∧ ∀ p, p ∈ ps ↔
      ∃ name ∈ names, pidOfName? name = some p.pid ∧
        fs.readProcess ⟨p.pid, inside fs.root name⟩ = .ok p := by
  refine ⟨_, by rw [processes, entries, h]; rfl, ?_⟩
  intro p
  simp only [List.mem_filterMap, List.mem_mergeSort, Option.map_eq_some_iff,
    toOption_eq_some_iff]
  constructor
  · rintro ⟨e, ⟨name, hname, pid, hpid, rfl⟩, hread⟩
    obtain ⟨comm, cmdline, -, -, rfl⟩ := readProcess_eq_ok_iff.1 hread
    exact ⟨name, hname, hpid, hread⟩
  · rintro ⟨name, hname, hpid, hread⟩
    exact ⟨_, ⟨name, hname, p.pid, hpid, rfl⟩, hread⟩

/-- What the kernel shows of a process is read back as the name of the executable and
the arguments. -/
theorem ShowsTask.readProcess (h : fs.ShowsTask entry (.running pid parent folder name args))
    (hname : IsExecutableName name) (hfolder : IsFolder folder)
    (hargs : ∀ arg ∈ args, '\x00' ∉ arg.toList) :
    fs.readProcess ⟨pid, inside fs.root entry⟩ =
      .ok ⟨pid, name, (folder ++ name) :: args⟩ := by
  have hcomm : readName fs.tree (inside fs.root entry) =
      .ok (shownName ((encode name.toList).take nameLimit)) :=
    readName_of_text h.named hname.isText_take
  have hnull : ∀ arg ∈ (folder ++ name) :: args, '\x00' ∉ arg.toList := by
    rw [List.forall_mem_cons, String.toList_append, List.mem_append, not_or]
    exact ⟨⟨hfolder.no_null, hname.no_null⟩, hargs⟩
  have hsome : (folder ++ name) :: args ≠ [""] := by
    intro hnone
    obtain ⟨hempty, -⟩ := List.cons.inj hnone
    exact hname.nonempty (String.append_eq_empty_iff.1 hempty).2
  have hcmdline : readCommandLine fs.tree (inside fs.root entry) =
      .ok ((folder ++ name) :: args) := by
    rw [readCommandLine, h.called]
    exact congrArg Except.ok (splitCommandLine_commandBytes hnull hsome)
  refine readProcess_eq_ok_iff.2 ⟨_, _, hcomm, hcmdline, ?_⟩
  rw [processName_executable hname hfolder]

/-- A process that the kernel shows is listed with the whole name of its executable and
with all of its arguments, and it is the only one listed by its number. -/
theorem processes_executable (hlist : fs.tree.list fs.root = .ok names)
    (hentry : entry ∈ names)
    (hshows : fs.ShowsTask entry (.running pid parent folder name args))
    (hname : IsExecutableName name) (hfolder : IsFolder folder)
    (hargs : ∀ arg ∈ args, '\x00' ∉ arg.toList) :
    ∃ ps, fs.processes = .ok ps ∧ ⟨pid, name, (folder ++ name) :: args⟩ ∈ ps ∧
      ((names.filterMap pidOfName?).Nodup →
        ∀ p ∈ ps, p.pid = pid → p = ⟨pid, name, (folder ++ name) :: args⟩) := by
  have hread := hshows.readProcess hname hfolder hargs
  obtain ⟨ps, hps, hmem⟩ := exists_processes hlist
  refine ⟨ps, hps, ?_, ?_⟩
  · exact (hmem _).2 ⟨entry, hentry, hshows.numbered, hread⟩
  · intro hnodup p hp hpid
    obtain ⟨other, hother, hnumber, hreadOther⟩ := (hmem p).1 hp
    rw [hpid] at hnumber hreadOther
    obtain rfl := eq_of_pidOfName? hnodup hother hentry hnumber hshows.numbered
    exact Except.ok.inj (hreadOther.symm.trans hread)

end ProcFs

namespace Sample

/-- The directory of a process with a name that is cut between two characters, with
empty arguments among the others. -/
def longName : ProcFs where
  tree := {
    root := .dir [("proc", .dir [("self", .link "42"), ("42", .dir
      [("comm", .file task.commFile), ("cmdline", .file task.cmdlineFile)])])]
    here := [] }
  root := "/proc"
where
  task : Task := .running 42 1 "./bin//" "reader-donnée-2" ["", "--all", ""]

theorem longName_shows : longName.ShowsTask "42" longName.task where
  numbered := by decide
  named := toOption_eq_some_iff.1 (by decide +kernel)
  called := toOption_eq_some_iff.1 (by decide +kernel)

end Sample

open Proc.Sample (longName longName_shows)

theorem ProcFs.processes_executable_sample :
    IsExecutableName "reader-donnée-2" ∧
    Task.commFile longName.task = encode "reader-donnée-\n".toList ∧
    ∃ ps, longName.processes = .ok ps ∧
      ⟨42, "reader-donnée-2", ["./bin//reader-donnée-2", "", "--all", ""]⟩ ∈ ps ∧
      ∀ p ∈ ps, p.pid = 42 →
        p = ⟨42, "reader-donnée-2", ["./bin//reader-donnée-2", "", "--all", ""]⟩ := by
  have hlist : longName.tree.list longName.root = .ok ["self", "42"] :=
    toOption_eq_some_iff.1 (by decide +kernel)
  have hname : IsExecutableName "reader-donnée-2" := by
    refine ⟨by decide, by decide, by decide, by decide, by decide, by decide, ?_⟩
    intro _
    exact ⟨"reader-donnée-".toList, by decide⟩
  have hfolder : IsFolder "./bin//" := ⟨by decide, .inr (by decide)⟩
  obtain ⟨ps, hps, hmem, honly⟩ := processes_executable hlist (by decide) longName_shows hname
    hfolder (by decide)
  exact ⟨hname, by decide, ps, hps, hmem, honly (by decide)⟩

end CpuPinning.Proc
