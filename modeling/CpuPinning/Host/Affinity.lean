import CpuPinning.Pass.Snapshot

/-!
# Affinity

How a mask gets to the kernel, and what the kernel makes of it.  The CPUs of the mask go one
by one into a set with a fixed number of places, and a system call submits the set for a
task.  The kernel keeps the CPUs that the task may have at all, and refuses a set that
leaves none.
-/

namespace CpuPinning.Host

/-- Sets of CPUs as a system call takes them. -/
structure CpuSets (κ : Type) where
  empty : κ
  /-- Adds a CPU; the words say why there is no place for it. -/
  insert : κ → Nat → Except String κ
  has : κ → Nat → Bool

/-- Adds CPUs one after the other; the first one without a place is given back with the
words about it. -/
def CpuSets.fill (sets : CpuSets κ) (set : κ) : List Nat → Except (Nat × String) κ
  | [] => .ok set
  | cpu :: cpus =>
      match sets.insert set cpu with
      | .ok set => sets.fill set cpus
      | .error words => .error (cpu, words)

/-- The failure for a CPU without a place. -/
def misfit (cpu : Nat) (words : String) : IoFailure :=
  .described .invalidInput ("CPU " ++ Text.showNat cpu ++ " does not fit in a cpu_set_t: " ++ words)

/-- A system call that restricts a task to a set; where it fails, it does so with an error
number. -/
abbrev AffinityCall (σ κ : Type) := σ → Int → κ → Except Int Unit × σ

/-- The number of a task as system calls take it, a signed word of 32 bits. -/
def taskNumber (id : Nat) : Int := (id : Int).bmod Text.word32

/-- Submits a set for a task. -/
def submit (call : AffinityCall σ κ) (s : σ) (id : Nat) (set : κ) : Except TaskError Unit × σ :=
  let (answer, s) := call s (taskNumber id) set
  (answer.mapError fun code => .ofIo id (.errno code), s)

/-- Restricts a task to a mask; a mask that does not fit into a set is not submitted. -/
def restrictTask (sets : CpuSets κ) (call : AffinityCall σ κ) (s : σ) (id : Nat) (mask : CpuMask) :
    Except TaskError Unit × σ :=
  match sets.fill sets.empty mask.ids with
  | .ok set => submit call s id set
  | .error (cpu, words) => (.error (.failed id (misfit cpu words)), s)

/-- How many places a kernel set has. -/
def places : Nat := 1024

/-- The sets of the kernel, a bit for each place. -/
def kernelSets : CpuSets (BitVec places) where
  empty := 0
  insert set cpu :=
    if cpu < places then .ok (set ||| BitVec.twoPow places cpu)
    else .error "EINVAL: Invalid argument"
  has set cpu := set.getLsbD cpu

/-- The error number for a set without any available CPU. -/
def noCpuLeft : Int := 22

/-- Keeps the available part of a set for a task, where the masks of all tasks are kept; no
task has a negative number. -/
def keepAvailable (available : CpuMask) : AffinityCall (Assignment Nat CpuMask) (BitVec places) :=
  fun masks task set =>
    match task, CpuMask.ofPred? fun cpu => kernelSets.has set cpu && available.contains cpu with
    | .ofNat id, some kept => (.ok (), masks.set id kept)
    | .ofNat _, none => (.error noCpuLeft, masks)
    | .negSucc _, _ => (.error TaskError.noSuchTask, masks)

/-- Sets the mask of a task, where the masks of all tasks are kept. -/
def setAffinity (available : CpuMask) (masks : Assignment Nat CpuMask) (id : Nat) (mask : CpuMask) :
    Except TaskError Unit × Assignment Nat CpuMask :=
  restrictTask kernelSets (keepAvailable available) masks id mask

end CpuPinning.Host
