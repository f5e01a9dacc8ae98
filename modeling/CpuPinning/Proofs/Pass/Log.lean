import CpuPinning.Pass.Snapshot
import CpuPinning.Proc.Table

/-!
# Logs

The events of a pass, read as a log: which masks it tried to set and which it
did set, which tasks had vanished, and which calls failed.  Every reading looks
at one event at a time, so that the reading of two logs in a row is that of the
first followed by that of the second.
-/

namespace CpuPinning

open Proc.ProcFs (announced)

/-- A task with the mask that it is to have. -/
abbrev Setting := Nat × CpuMask

namespace Event

/-- What a call tried to set. -/
def setting? : Event → Option Setting
  | ⟨.setAffinity id mask, _⟩ => some (id, mask)
  | _ => none

/-- What a call did set. -/
def granted? : Event → Option Setting
  | ⟨.setAffinity id mask, .ok ()⟩ => some (id, mask)
  | _ => none

/-- The error that a call was answered with. -/
def error? : Event → Option TaskError
  | ⟨.processes, .error e⟩ => some e
  | ⟨.children _, .error e⟩ => some e
  | ⟨.threads _, .error e⟩ => some e
  | ⟨.setAffinity _ _, .error e⟩ => some e
  | _ => none

/-- The error of a call on a single task, unless the task had vanished. -/
def failure? : Event → Option TaskError
  | ⟨.children _, .error (.failed id cause)⟩ => some (.failed id cause)
  | ⟨.threads _, .error (.failed id cause)⟩ => some (.failed id cause)
  | ⟨.setAffinity _ _, .error (.failed id cause)⟩ => some (.failed id cause)
  | _ => none

/-- The task that had vanished when its mask was to be set. -/
def goneTask? : Event → Option Nat
  | ⟨.setAffinity id _, .error (.vanished _)⟩ => some id
  | _ => none

/-- The process that had vanished when its threads or descendants were asked for. -/
def goneProcess? : Event → Option Nat
  | ⟨.children pid, .error (.vanished _)⟩ => some pid
  | ⟨.threads pid, .error (.vanished _)⟩ => some pid
  | _ => none

theorem exists_of_setting? {e : Event} {id : Nat} {mask : CpuMask}
    (h : e.setting? = some (id, mask)) :
    ∃ answer, e = ⟨.setAffinity id mask, answer⟩ := by
  obtain ⟨q, answer⟩ := e
  cases q with
  | setAffinity id' mask' =>
      simp only [setting?, Option.some.injEq, Prod.mk.injEq] at h
      obtain ⟨rfl, rfl⟩ := h
      exact ⟨answer, rfl⟩
  | processes => simp [setting?] at h
  | children => simp [setting?] at h
  | threads => simp [setting?] at h
  | announce => simp [setting?] at h

end Event

/-- No call on a task failed. -/
def Undisturbed (log : List Event) : Prop :=
  ∀ e ∈ log, e.failure? = none

theorem undisturbed_nil : Undisturbed [] := by
  simp [Undisturbed]

theorem undisturbed_append {first second : List Event} :
    Undisturbed (first ++ second) ↔ Undisturbed first ∧ Undisturbed second := by
  simp [Undisturbed, or_imp, forall_and]

theorem undisturbed_cons {e : Event} {log : List Event} :
    Undisturbed (e :: log) ↔ e.failure? = none ∧ Undisturbed log := by
  simp [Undisturbed]

/-- The settings that a log tries, in order. -/
def settings (log : List Event) : List Setting :=
  log.filterMap Event.setting?

theorem settings_append (first second : List Event) :
    settings (first ++ second) = settings first ++ settings second :=
  List.filterMap_append

/-- The log consists of the attempts to set `plan`, in order. -/
def Attempts (log : List Event) (plan : List Setting) : Prop :=
  log.map Event.setting? = plan.map some

theorem Attempts.settings_eq {log : List Event} {plan : List Setting}
    (h : Attempts log plan) : settings log = plan := by
  calc
    settings log = (log.map Event.setting?).filterMap id := by
      simp [settings, List.filterMap_map]
    _ = (plan.map some).filterMap id := by rw [h]
    _ = plan := by simp

theorem Attempts.isSome_of_mem {log : List Event} {plan : List Setting}
    (h : Attempts log plan) {e : Event} (he : e ∈ log) :
    e.setting?.isSome = true := by
  have hmem : e.setting? ∈ plan.map some := by
    rw [← h]
    exact List.mem_map_of_mem he
  obtain ⟨call, -, hcall⟩ := List.mem_map.1 hmem
  simp [← hcall]

theorem attempts_append {first second : List Event} {p q : List Setting}
    (h₁ : Attempts first p) (h₂ : Attempts second q) :
    Attempts (first ++ second) (p ++ q) := by
  rw [Attempts, List.map_append, List.map_append, h₁, h₂]

theorem attempts_nil_iff {log : List Event} : Attempts log [] ↔ log = [] := by
  simp [Attempts]

/-- What attempts two plans in a row attempts the first and then the second. -/
theorem exists_append_of_attempts_append {log : List Event}
    {p q : List Setting} (h : Attempts log (p ++ q)) :
    ∃ first second, log = first ++ second ∧ Attempts first p ∧
      Attempts second q := by
  rw [Attempts, List.map_append] at h
  exact List.map_eq_append_iff.1 h

theorem exists_of_attempts_singleton {log : List Event} {id : Nat}
    {mask : CpuMask} (h : Attempts log [(id, mask)]) :
    ∃ answer, log = [⟨.setAffinity id mask, answer⟩] := by
  obtain ⟨e, rest, rfl, he, hrest⟩ := List.map_eq_cons_iff.1 h
  obtain ⟨answer, rfl⟩ := Event.exists_of_setting? he
  obtain rfl := List.map_eq_nil_iff.1 hrest
  exact ⟨answer, rfl⟩

theorem announced_append (first second : List Event) :
    announced (first ++ second) = announced first ++ announced second :=
  List.filterMap_append

theorem Attempts.announced_eq_nil {log : List Event} {plan : List Setting}
    (h : Attempts log plan) : announced log = [] := by
  rw [announced, List.filterMap_eq_nil_iff]
  intro e he
  have hsome : e.setting?.isSome = true := h.isSome_of_mem he
  obtain ⟨⟨id, mask⟩, hcall⟩ := Option.isSome_iff_exists.1 hsome
  obtain ⟨answer, rfl⟩ := Event.exists_of_setting? hcall
  rfl

/-- What follows a plan in order attempts the first part of it. -/
theorem exists_attempts_of_isPrefix {log : List Event} {plan : List Setting}
    (h : log.map Event.setting? <+: plan.map some) :
    ∃ tried, tried <+: plan ∧ Attempts log tried := by
  refine ⟨plan.take log.length, List.take_prefix _ _, ?_⟩
  rw [Attempts, List.map_take]
  simpa using List.prefix_iff_eq_take.1 h

/-! ## A small system and its log -/

namespace Sample

open Pattern

def first : CpuMask := ⟨[0], by simp, by simp, by simp⟩

def second : CpuMask := ⟨[1], by simp, by simp, by simp [maxCpuId]⟩

/-- The rule for threads that are named `io`. -/
def ioRule : ThreadRule where
  pattern := "io"
  regex := (Regex.look .textStart).cat
    (((Regex.set ⟨[⟨105, 105⟩]⟩).cat (.set ⟨[⟨111, 111⟩]⟩)).cat (.look .textEnd))
  mask := second
  compiled := by decide +kernel

def rule : CommandRule := ⟨some first, some [ioRule]⟩

def rules : RuleSet := ⟨[("worker", [("", rule)])], []⟩

def worker : ProcessInfo := ⟨10, "worker", ["worker"]⟩

def threads : List ThreadInfo := [⟨10, "worker"⟩, ⟨11, "io"⟩]

/-- A process with two threads and a descendant that exits before it is set. -/
def snapshot : Snapshot where
  processes := [worker]
  children := [(10, [20])]
  threads := [(10, threads)]
  faults := [(.setAffinity 20, .vanished 20)]
  masks := []

def opts : Options := ⟨4, .abort⟩

/-- What a pass over the system asks before it comes to the thread rules. -/
def inherits : List Event :=
  [⟨.processes, .ok [worker]⟩, ⟨.announce ⟨worker, "", rule⟩, ()⟩,
    ⟨.threads 10, .ok threads⟩, ⟨.children 10, .ok [20]⟩,
    ⟨.setAffinity 20 first, .error (.vanished 20)⟩,
    ⟨.setAffinity 10 first, .ok ()⟩, ⟨.setAffinity 11 first, .ok ()⟩]

theorem exec_events : ((run rules opts).exec Snapshot.table snapshot).events =
    inherits ++ [⟨.setAffinity 11 second, .ok ()⟩] :=
  rfl

theorem exec_isOk :
    ((run rules opts).exec Snapshot.table snapshot).result.isOk = true := by
  decide +kernel

end Sample

end CpuPinning
