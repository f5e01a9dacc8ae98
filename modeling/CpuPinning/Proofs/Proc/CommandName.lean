import CpuPinning.Proofs.Proc.Descendants
import CpuPinning.Proofs.Proc.Likeness
import CpuPinning.Proofs.Text.Utf8

/-!
# Command names and descendants

The status file of a process holds the name of its command, which the command
chooses.  Two sets of process directories that differ in such names only have the
same descendants for every process, as long as each name is text in both or in
neither.  A process with a name that is no text is among the descendants of nobody.
-/

namespace CpuPinning.Proc

open Text (IsText decode?)

variable {allowed : List UInt8 → List UInt8 → Prop} {bytes bytes' : List UInt8}

/-- Two status files that differ in the command name only, and there as `allowed`
says.  The name stands between the first opening and the last closing parenthesis. -/
inductive Renamed (allowed : List UInt8 → List UInt8 → Prop) :
    List UInt8 → List UInt8 → Prop
  | intro {before name name' after : List UInt8} :
      0x28 ∉ before → 0x29 ∉ after → allowed name name' →
      Renamed allowed (before ++ 0x28 :: (name ++ 0x29 :: after))
        (before ++ 0x28 :: (name' ++ 0x29 :: after))

/-- Two files of one name that are equal, or status files that differ in the command
name only. -/
def EqualOrRenamed (allowed : List UInt8 → List UInt8 → Prop) (file : String)
    (bytes bytes' : List UInt8) : Prop :=
  bytes = bytes' ∨ file = "stat" ∧ Renamed allowed bytes bytes'

/-- Two file trees that differ in command names only. -/
def FileTree.Renamed (allowed : List UInt8 → List UInt8 → Prop) : FileTree → FileTree → Prop :=
  FileTree.Like (· = ·) (EqualOrRenamed allowed)

/-- Two names of which both are text or neither is. -/
def SameSort (name name' : List UInt8) : Prop := IsText name ↔ IsText name'

/-! ## One status file -/

/-- A status file is text if the command name is, and what stands around it. -/
theorem decode?_status (before name after : List UInt8) :
    decode? (before ++ 0x28 :: (name ++ 0x29 :: after)) =
      (decode? before).bind fun front => (decode? name).bind fun word =>
        (decode? after).map fun back => front ++ '(' :: (word ++ ')' :: back) := by
  rw [Text.decode?_append_cons (by decide), Text.decode?_append_cons (by decide)]
  cases decode? before with
  | none => rfl
  | some front =>
      cases decode? name with
      | none => rfl
      | some word => cases decode? after <;> rfl

/-- The command name does not count for the parent. -/
theorem map_parentPid?_of_renamed (h : Renamed SameSort bytes bytes') :
    (decode? bytes).map parentPid? = (decode? bytes').map parentPid? := by
  cases h with
  | @intro before name name' after hbefore hafter hsort =>
      rw [decode?_status, decode?_status]
      cases decode? before with
      | none => rfl
      | some front =>
          by_cases htext : IsText name
          · obtain ⟨word, hword⟩ := Text.isText_iff.1 htext
            obtain ⟨word', hword'⟩ := Text.isText_iff.1 (hsort.1 htext)
            rw [hword, hword']
            cases hback : decode? after with
            | none => rfl
            | some back =>
                have hclose : ')' ∉ back := by
                  rw [Text.eq_encode_of_decode? hback] at hafter
                  exact fun hmem => hafter ((Text.mem_encode_ascii_iff (by decide)).2 hmem)
                have hparent := parentPid?_append hclose (front ++ '(' :: word)
                  (front ++ '(' :: word')
                simpa using hparent
          · have htext' : ¬IsText name' := fun h => htext (hsort.2 h)
            rw [Text.decode?_eq_none_iff.2 htext, Text.decode?_eq_none_iff.2 htext']

/-! ## All status files -/

theorem sameNames_eq : SameNames (· = ·) := by
  rintro names names' rfl name
  exact Iff.rfl

section Trees

variable {t t' : FileTree} (h : t.Renamed SameSort t') (path : String)

include h

theorem readParent_of_renamed : readParent t path = readParent t' path := by
  have hbytes := FileTree.readBytes_like sameNames_eq h (inside path "stat")
  unfold readParent FileTree.readText
  generalize t.readBytes (inside path "stat") = x at hbytes ⊢
  generalize t'.readBytes (inside path "stat") = x' at hbytes ⊢
  cases hbytes with
  | error e => rfl
  | @ok bytes bytes' hrelated =>
      obtain ⟨name, rfl | ⟨-, hrenamed⟩⟩ := hrelated
      · rfl
      · have hparent := map_parentPid?_of_renamed hrenamed
        dsimp only
        cases hcs : decode? bytes with
        | none =>
            rw [hcs] at hparent
            rw [Option.map_eq_none_iff.1 hparent.symm]
        | some cs =>
            rw [hcs] at hparent
            obtain ⟨cs', hcs', hsame⟩ := Option.map_eq_some_iff.1 hparent.symm
            rw [hcs']
            simp only [bind, Except.bind, hsame]

theorem children_of_renamed (root : String) (pid : Nat) :
    (ProcFs.mk t root).children pid = (ProcFs.mk t' root).children pid := by
  have hthere := FileTree.exists?_like sameNames_eq h (inside root (Text.showNat pid))
  have hlist := (FileTree.list_like sameNames_eq h root).eq
  have hparent : ∀ path, readParent t path = readParent t' path := readParent_of_renamed h
  simp only [ProcFs.children, ProcFs.pathOf, ProcFs.parents, entries, hthere, hlist, hparent]

end Trees

/-! ## Names that are no text -/

/-- The directory of the process `k` shows a command name that is no text. -/
def ProcFs.NamedByNoText (fs : ProcFs) (k : Nat) : Prop :=
  ∀ names, fs.tree.list fs.root = .ok names →
    ∀ entry ∈ names, pidOfName? entry = some k → ∃ before name after,
      fs.tree.readBytes (inside (inside fs.root entry) "stat") =
        .ok (before ++ 0x28 :: (name ++ 0x29 :: after)) ∧ ¬IsText name

theorem exists_parent_of_mem_descendants {parents : Parents} {pid k : Nat}
    {queue found : List Nat} (h : k ∈ descendants parents pid queue found)
    (hfound : ∀ k ∈ found, ∃ j, (k, j) ∈ parents) : ∃ j, (k, j) ∈ parents := by
  fun_induction descendants parents pid queue found with
  | case1 found => exact hfound k h
  | case2 found current queue new ih =>
      apply ih h
      intro k hk
      rcases List.mem_append.1 hk with hk | hk
      · exact hfound k hk
      · exact ⟨current, (mem_newChildren.1 hk).1⟩

theorem ProcFs.exists_hasParent_of_mem {fs : ProcFs} {pid k : Nat} {found : List Nat}
    (h : fs.children pid = .ok found) (hk : k ∈ found) : ∃ j, fs.HasParent k j := by
  unfold ProcFs.children at h
  split at h
  · cases h
  · cases hlist : fs.tree.list fs.root with
    | error e => simp [entries, hlist, Except.map] at h
    | ok names =>
        obtain ⟨es, hes, hparents⟩ := ProcFs.exists_entries hlist
        rw [hes] at h
        obtain rfl := Except.ok.inj h
        obtain ⟨j, hj⟩ := exists_parent_of_mem_descendants hk (by simp)
        exact ⟨j, (hparents k j).1 hj⟩

/-- A parent is read from text only. -/
theorem isText_of_readParent {t : FileTree} {path : String} {j : Nat}
    (h : readParent t path = .ok j) (hbytes : t.readBytes (inside path "stat") = .ok bytes) :
    IsText bytes := by
  rw [Text.isText_iff]
  cases hcs : decode? bytes with
  | some cs => exact ⟨cs, rfl⟩
  | none =>
      have htext : t.readText (inside path "stat") = .error .notText := by
        rw [FileTree.readText, hbytes]
        simp only [hcs]
      rw [readParent, htext] at h
      cases h

theorem isText_name_of_status {before name after : List UInt8}
    (h : IsText (before ++ 0x28 :: (name ++ 0x29 :: after))) : IsText name := by
  obtain ⟨cs, hcs⟩ := Text.isText_iff.1 h
  rw [decode?_status] at hcs
  obtain ⟨front, -, hcs⟩ := Option.bind_eq_some_iff.1 hcs
  obtain ⟨word, hword, -⟩ := Option.bind_eq_some_iff.1 hcs
  exact Text.isText_iff.2 ⟨word, hword⟩

/-- Command names do not decide who is below whom, as far as they are text: if two
sets of process directories differ in such names only, each being text in both or in
neither, every process has the same descendants.  But a process whose command name is
no text is below nobody. -/
theorem children_and_command_names (root : String) :
    (∀ t t' : FileTree, t.Renamed SameSort t' →
      ∀ pid, (ProcFs.mk t root).children pid = (ProcFs.mk t' root).children pid) ∧
    ∀ t k, (ProcFs.mk t root).NamedByNoText k →
      ∀ pid found, (ProcFs.mk t root).children pid = .ok found → k ∉ found := by
  constructor
  · intro t t' h pid
    exact children_of_renamed h root pid
  · intro t k hname pid found hchildren hk
    obtain ⟨j, names, hnames, entry, hentry, hpid, hparent⟩ :=
      ProcFs.exists_hasParent_of_mem hchildren hk
    obtain ⟨before, name, after, hstatus, hno⟩ := hname names hnames entry hentry hpid
    exact hno (isText_name_of_status (isText_of_readParent hparent hstatus))

namespace Sample

/-- The status file of the process 20, a child of 10, whose command has some name. -/
def childStatus (name : List UInt8) : List UInt8 :=
  Text.encode "20 ".toList ++ 0x28 :: (name ++ 0x29 :: Text.encode " S 10 20 0".toList)

/-- The directories of the process 10 and of its child. -/
def childNamed (name : List UInt8) : FileTree where
  root := .dir [("proc", .dir [("20", .dir [("stat", .file (childStatus name))]),
    ("10", .dir [])])]
  here := []

theorem childNamed_renamed {name name' : List UInt8} (h : SameSort name name') :
    (childNamed name).Renamed SameSort (childNamed name') where
  here := rfl
  root := by
    refine .of_entries rfl (.cons ⟨rfl, .of_entries rfl ?_⟩ .nil)
    refine .cons ⟨rfl, .of_entries rfl (.cons ⟨rfl, .file (.inr ⟨rfl, ?_⟩)⟩ .nil)⟩
      (.cons ⟨rfl, .of_entries rfl .nil⟩ .nil)
    exact .intro (by decide) (by decide) h

theorem children_childNamed :
    (ProcFs.mk (childNamed [0x61]) "/proc").children 10 = .ok [20] := by
  have hthere : (childNamed [0x61]).exists? (inside "/proc" (Text.showNat 10)) = true := by
    decide +kernel
  have hlist : (childNamed [0x61]).list "/proc" = .ok ["20", "10"] :=
    toOption_eq_some_iff.1 (by decide +kernel)
  have hnumbered : (["20", "10"].filterMap fun name => (pidOfName? name).map fun pid =>
      Entry.mk pid (inside "/proc" name)) = [⟨20, "/proc/20"⟩, ⟨10, "/proc/10"⟩] := by
    decide +kernel
  have hentries : entries (childNamed [0x61]) "/proc" =
      .ok [⟨10, "/proc/10"⟩, ⟨20, "/proc/20"⟩] := by
    rw [entries, hlist, Except.map, hnumbered]
    simp [List.mergeSort]
  rw [ProcFs.children_of_entries ⟨childNamed [0x61], "/proc"⟩ 10 hthere hentries]
  exact congrArg Except.ok (by decide +kernel)

theorem childNamed_no_text :
    (ProcFs.mk (childNamed [0xC3]) "/proc").NamedByNoText 20 := by
  intro names hnames entry hentry hpid
  have hnone : Text.decode? [0xC3] = none := by decide +kernel
  have hlist : (childNamed [0xC3]).list "/proc" = .ok ["20", "10"] :=
    toOption_eq_some_iff.1 (by decide +kernel)
  obtain rfl := Except.ok.inj (hlist.symm.trans hnames)
  rcases List.mem_cons.1 hentry with rfl | hentry
  · refine ⟨Text.encode "20 ".toList, [0xC3], Text.encode " S 10 20 0".toList, ?_,
      Text.decode?_eq_none_iff.1 hnone⟩
    exact toOption_eq_some_iff.1 (by decide +kernel)
  · rw [List.mem_singleton.1 hentry] at hpid
    exact absurd hpid (by decide)

end Sample

open Proc.Sample (childNamed)

theorem children_and_command_names_sample :
    (childNamed [0x61]).Renamed SameSort (childNamed [0x29, 0x20, 0x28]) ∧
      (ProcFs.mk (childNamed [0x61]) "/proc").children 10 = .ok [20] ∧
      (ProcFs.mk (childNamed [0x29, 0x20, 0x28]) "/proc").children 10 = .ok [20] ∧
      (ProcFs.mk (childNamed [0xC3]) "/proc").NamedByNoText 20 ∧
      ∀ found, (ProcFs.mk (childNamed [0xC3]) "/proc").children 10 = .ok found →
        20 ∉ found := by
  obtain ⟨hsame, hhidden⟩ := children_and_command_names "/proc"
  have hrenamed : (childNamed [0x61]).Renamed SameSort (childNamed [0x29, 0x20, 0x28]) :=
    Sample.childNamed_renamed
      ⟨fun _ => ⟨[')', ' ', '('], by decide⟩, fun _ => ⟨['a'], by decide⟩⟩
  have hchildren := Sample.children_childNamed
  have hname := Sample.childNamed_no_text
  refine ⟨hrenamed, hchildren, ?_, hname, hhidden _ 20 hname 10⟩
  rw [← hsame _ _ hrenamed]
  exact hchildren

end CpuPinning.Proc
