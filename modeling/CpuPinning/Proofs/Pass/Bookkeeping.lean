import CpuPinning.Proofs.Pass.Log
import CpuPinning.Proofs.Pass.Steps

/-!
# Reports agree with logs

A pass is recorded twice: the system sees the calls, and the user sees the
report.  When a pass goes through, the two records tell the same story: each
mask that was set is reported once and in order, and so is each task that had
vanished.
-/

namespace CpuPinning

open Pass

variable {opts : Options}

/-! ## Reading outcomes -/

/-- The id of a target that is a task of its own, and not a whole process. -/
def Target.taskId? : Target → Option Nat
  | process _ => none
  | child pid => some pid
  | thread tid _ => some tid

/-- The id of a target that is a whole process. -/
def Target.processId? : Target → Option Nat
  | process pid => some pid
  | _ => none

theorem Target.id_of_taskId? {target : Target} {id : Nat}
    (h : target.taskId? = some id) : target.id = id := by
  cases target with
  | process pid => cases h
  | child pid => exact Option.some.inj h
  | thread tid name => exact Option.some.inj h

theorem Target.processId?_of_taskId? {target : Target} {id : Nat}
    (h : target.taskId? = some id) : target.processId? = none := by
  cases target with
  | process pid => cases h
  | child pid => rfl
  | thread tid name => rfl

namespace Outcome

/-- What was set, and for which task. -/
def setting? : Outcome → Option Setting
  | applied target mask _ => some (target.id, mask)
  | _ => none

/-- The descendant or thread that had vanished. -/
def goneTask? : Outcome → Option Nat
  | vanished target => target.taskId?
  | _ => none

/-- The process that had vanished. -/
def goneProcess? : Outcome → Option Nat
  | vanished target => target.processId?
  | _ => none

end Outcome

/-- Whether a call was answered with the news that its target had vanished. -/
def Event.isVanished (e : Event) : Bool :=
  e.error?.any TaskError.isVanished

theorem countP_eq_add {α : Type} {p q r : α → Bool} {xs : List α}
    (h : ∀ x ∈ xs, (p x).toNat = (q x).toNat + (r x).toNat) :
    xs.countP p = xs.countP q + xs.countP r := by
  induction xs with
  | nil => rfl
  | cons x xs ih =>
      have hx := h x List.mem_cons_self
      have hxs := ih fun y hy => h y (List.mem_cons_of_mem x hy)
      have hcons : ∀ f : α → Bool,
          (x :: xs).countP f = xs.countP f + (f x).toNat := by
        intro f
        rw [List.countP_cons]
        cases f x <;> rfl
      rw [hcons, hcons, hcons]
      omega

/-! ## Logs and outcomes that agree -/

/-- The outcomes tell what the log tells: what was set, and what had vanished. -/
structure Records (log : List Event) (outcomes : List Outcome) : Prop where
  settings : outcomes.filterMap Outcome.setting? = log.filterMap Event.granted?
  tasks : outcomes.filterMap Outcome.goneTask? = log.filterMap Event.goneTask?
  processes :
    outcomes.filterMap Outcome.goneProcess? = log.filterMap Event.goneProcess?
  vanished : outcomes.countP Outcome.isVanished = log.countP Event.isVanished

namespace Records

theorem nil : Records [] [] :=
  ⟨rfl, rfl, rfl, rfl⟩

theorem append {first second : List Event} {os ps : List Outcome}
    (h₁ : Records first os) (h₂ : Records second ps) :
    Records (first ++ second) (os ++ ps) where
  settings := by
    rw [List.filterMap_append, List.filterMap_append, h₁.settings, h₂.settings]
  tasks := by
    rw [List.filterMap_append, List.filterMap_append, h₁.tasks, h₂.tasks]
  processes := by
    rw [List.filterMap_append, List.filterMap_append, h₁.processes, h₂.processes]
  vanished := by
    rw [List.countP_append, List.countP_append, h₁.vanished, h₂.vanished]

/-- A list of processes or tasks is no news. -/
theorem listing {e : Event} {log : List Event} {outcomes : List Outcome}
    (he : Records [e] []) (h : Records log outcomes) :
    Records (e :: log) outcomes :=
  he.append h

/-- A warning is no news of a call. -/
theorem warning {o : Outcome} (h : o.isWarning = true) : Records [] [o] := by
  cases o with
  | applied => cases h
  | vanished => cases h
  | outOfRange => exact ⟨rfl, rfl, rfl, rfl⟩
  | ambiguous => exact ⟨rfl, rfl, rfl, rfl⟩

/-- As many outcomes are applied as settings were granted. -/
theorem countP_isApplied {log : List Event} {outcomes : List Outcome}
    (h : Records log outcomes) :
    outcomes.countP Outcome.isApplied =
      log.countP fun e => e.granted?.isSome := by
  have hcount : Outcome.isApplied = fun o => o.setting?.isSome := by
    funext o
    cases o <;> rfl
  rw [hcount, ← List.length_filterMap_eq_countP, h.settings,
    List.length_filterMap_eq_countP]

end Records

/-! ## Every step keeps both records -/

theorem goes_setMask_records {log : List Event} {id : Nat} {target : Target}
    {mask : CpuMask} {source : MaskSource} {o : Outcome}
    (h : (setMask id target mask source).Goes log (.ok o))
    (htarget : target.taskId? = some id) : Records log [o] := by
  have hid : target.id = id := Target.id_of_taskId? htarget
  have hprocess : target.processId? = none :=
    Target.processId?_of_taskId? htarget
  rcases goes_setMask_cases h with
    ⟨rfl, hr⟩ | ⟨gone, rfl, hr⟩ | ⟨task, cause, rfl, hr⟩
  · cases hr
    exact ⟨by simp [Outcome.setting?, Event.granted?, hid], rfl, rfl, rfl⟩
  · cases hr
    exact ⟨rfl, by simp [Outcome.goneTask?, Event.goneTask?, htarget],
      by simp [Outcome.goneProcess?, Event.goneProcess?, hprocess], rfl⟩
  · cases hr

theorem goes_setAll_records {mask : CpuMask} {targets : List Target}
    {log : List Event} {outcomes : List Outcome}
    (h : (setAll mask targets).Goes log (.ok outcomes))
    (htargets : ∀ target ∈ targets, target.taskId? = some target.id) :
    Records log outcomes := by
  induction targets generalizing log outcomes with
  | nil =>
      obtain ⟨rfl, rfl⟩ := goes_pure_ok_iff.1 h
      exact .nil
  | cons target targets ih =>
      obtain ⟨first, o, second, rfl, hfirst, hsecond⟩ := goes_bind_ok_iff.1 h
      obtain ⟨os, hrest, rfl⟩ := goes_map_ok_iff.1 hsecond
      have htarget := htargets target List.mem_cons_self
      have htail := ih hrest fun t ht => htargets t (List.mem_cons_of_mem _ ht)
      exact (goes_setMask_records hfirst htarget).append htail

theorem taskId?_of_mem_cascadeTargets {children : List Nat}
    {threads : List ThreadInfo} {target : Target}
    (h : target ∈ cascadeTargets children threads) :
    target.taskId? = some target.id := by
  rcases List.mem_append.1 h with h | h
  · obtain ⟨pid, -, rfl⟩ := List.mem_map.1 h
    rfl
  · obtain ⟨thread, -, rfl⟩ := List.mem_map.1 h
    rfl

theorem goes_applyParent_records {process : ProcessInfo} {rule : CommandRule}
    {threads : List ThreadInfo} {log : List Event} {outcomes : List Outcome}
    (h : (applyParent opts process rule threads).Goes log (.ok outcomes)) :
    Records log outcomes := by
  unfold applyParent at h
  split at h
  · rcases goes_cascade_cases h with ⟨-, rfl, hr⟩ | ⟨-, hcases⟩
    · cases hr
      exact .warning rfl
    · rcases hcases with
        ⟨gone, rfl, hr⟩ | ⟨task, cause, rfl, hr⟩ | ⟨children, sets, rfl, hsets⟩
      · cases hr
        exact ⟨rfl, rfl, rfl, rfl⟩
      · cases hr
      · exact .listing ⟨rfl, rfl, rfl, rfl⟩
          (goes_setAll_records hsets fun _ ht => taskId?_of_mem_cascadeTargets ht)
  · obtain ⟨rfl, rfl⟩ := goes_pure_ok_iff.1 h
    exact .nil

theorem goes_applyToThread_records {rules : List ThreadRule}
    {thread : ThreadInfo} {log : List Event} {outcomes : List Outcome}
    (h : (applyToThread opts rules thread).Goes log (.ok outcomes)) :
    Records log outcomes := by
  rcases goes_applyToThread_cases h with
    ⟨-, rfl, hr⟩ | ⟨rule, -, hone⟩ | ⟨-, rfl, hmany⟩
  · cases hr
    exact .nil
  · rcases hone with ⟨-, rfl, hr⟩ | ⟨-, r', hset, hr⟩
    · cases hr
      exact .warning rfl
    · cases r' with
      | error e => cases hr
      | ok o =>
          cases hr
          exact goes_setMask_records hset rfl
  · rcases hmany with ⟨-, hr⟩ | ⟨-, hr⟩
    · cases hr
    · cases hr
      exact .warning rfl

theorem goes_applyToThreads_records {rules : List ThreadRule}
    {threads : List ThreadInfo} {log : List Event} {outcomes : List Outcome}
    (h : (applyToThreads opts rules threads).Goes log (.ok outcomes)) :
    Records log outcomes := by
  induction threads generalizing log outcomes with
  | nil =>
      obtain ⟨rfl, rfl⟩ := goes_pure_ok_iff.1 h
      exact .nil
  | cons thread threads ih =>
      obtain ⟨first, second, own, rest, rfl, hfirst, hsecond, rfl⟩ :=
        goes_applyToThreads_cons_ok h
      exact (goes_applyToThread_records hfirst).append (ih hsecond)

theorem goes_applyThreadRules_records {rule : CommandRule}
    {threads : List ThreadInfo} {log : List Event} {outcomes : List Outcome}
    (h : (applyThreadRules opts rule threads).Goes log (.ok outcomes)) :
    Records log outcomes := by
  unfold applyThreadRules at h
  split at h
  · exact goes_applyToThreads_records h
  · obtain ⟨rfl, rfl⟩ := goes_pure_ok_iff.1 h
    exact .nil

theorem goes_apply_records {process : ProcessInfo} {rule : CommandRule}
    {log : List Event} {outcomes : List Outcome}
    (h : (apply opts process rule).Goes log (.ok outcomes)) :
    Records log outcomes := by
  rcases goes_apply_cases h with ⟨-, rfl, hr⟩ | ⟨-, hcases⟩
  · cases hr
    exact .nil
  · rcases hcases with
      ⟨gone, rfl, hr⟩ | ⟨task, cause, rfl, hr⟩ | ⟨threads, rest, rfl, hrest⟩
    · cases hr
      exact ⟨rfl, rfl, rfl, rfl⟩
    · cases hr
    · refine .listing ⟨rfl, rfl, rfl, rfl⟩ ?_
      rcases goes_applySteps_cases hrest with
        ⟨e, -, hr⟩ | ⟨first, second, os, r', rfl, hfirst, hsecond, hr⟩
      · cases hr
      · cases r' with
        | error e => cases hr
        | ok own =>
            cases hr
            exact (goes_applyParent_records hfirst).append
              (goes_applyThreadRules_records hsecond)

/-! ## Whole passes -/

/-- The matches that go through have a report each, and together they tell what
the log tells. -/
theorem goes_runMatches_records {ms : List Match} {log : List Event}
    {reports : List MatchReport}
    (h : (runMatches opts ms).Goes log (.ok reports)) :
    reports.map (fun m => (m.pid, m.name, m.fragment)) =
        ms.map (fun m => (m.process.pid, m.process.name, m.fragment)) ∧
      Records log (reports.flatMap (·.outcomes)) := by
  induction ms generalizing log reports with
  | nil =>
      obtain ⟨rfl, rfl⟩ := goes_pure_ok_iff.1 h
      exact ⟨rfl, .nil⟩
  | cons m ms ih =>
      obtain ⟨first, second, outcomes, rest, rfl, hm, hms, rfl⟩ :=
        goes_runMatches_cons_ok h
      obtain ⟨hnames, hrest⟩ := ih hms
      refine ⟨by rw [List.map_cons, List.map_cons, hnames], ?_⟩
      exact .listing ⟨rfl, rfl, rfl, rfl⟩
        ((goes_apply_records hm).append hrest)

/-- Every outcome is a mask that was set, a warning, or a target that had
vanished. -/
theorem RunReport.counts_add (r : RunReport) :
    r.appliedCount + r.warningCount + r.vanishedCount = r.outcomes.length := by
  have hsome : ∀ o : Outcome,
      true.toNat = (o.isApplied || o.isWarning).toNat + o.isVanished.toNat := by
    intro o
    cases o <;> rfl
  have htwo : ∀ o : Outcome,
      (o.isApplied || o.isWarning).toNat =
        o.isApplied.toNat + o.isWarning.toNat := by
    intro o
    cases o <;> rfl
  calc
    r.appliedCount + r.warningCount + r.vanishedCount =
        r.outcomes.countP (fun o => o.isApplied || o.isWarning) +
          r.outcomes.countP Outcome.isVanished := by
      rw [countP_eq_add fun o _ => htwo o]
      rfl
    _ = r.outcomes.countP fun _ => true :=
      (countP_eq_add fun o _ => hsome o).symm
    _ = r.outcomes.length := by rw [List.countP_true]

/-- The report of a pass that went through agrees with its log: the processes
were counted, each match has its entry in order, the masks that were set and the
tasks and processes that had vanished are those of the log, in order, and so the
three figures of the report count calls. -/
theorem run_report_agrees_with_log {σ : Type} (t : Table σ) (s : σ)
    (rules : RuleSet) (opts : Options) {report : RunReport}
    (h : ((run rules opts).exec t s).result = .ok report) :
    let log := ((run rules opts).exec t s).events
    ∃ processes rest, log = ⟨.processes, .ok processes⟩ :: rest ∧
      report.scanned = processes.length ∧
      report.reports.map (fun m => (m.pid, m.name, m.fragment)) =
        (matchProcesses rules processes).map
          (fun m => (m.process.pid, m.process.name, m.fragment)) ∧
      report.outcomes.filterMap Outcome.setting? =
        log.filterMap Event.granted? ∧
      report.outcomes.filterMap Outcome.goneTask? =
        log.filterMap Event.goneTask? ∧
      report.outcomes.filterMap Outcome.goneProcess? =
        log.filterMap Event.goneProcess? ∧
      report.appliedCount = log.countP (·.granted?.isSome) ∧
      report.vanishedCount = log.countP Event.isVanished ∧
      report.appliedCount + report.warningCount + report.vanishedCount =
        report.outcomes.length := by
  intro log
  have hgoes : (run rules opts).Goes log (.ok report) := by
    rw [← h]
    exact goes_exec t (run rules opts) s
  obtain ⟨processes, rest, reports, hlog, hrest, rfl⟩ := goes_run_ok hgoes
  obtain ⟨hnames, hrecords⟩ := goes_runMatches_records hrest
  have hall : Records log (reports.flatMap (·.outcomes)) := by
    rw [hlog]
    exact .listing ⟨rfl, rfl, rfl, rfl⟩ hrecords
  exact ⟨processes, rest, hlog, rfl, hnames, hall.settings, hall.tasks,
    hall.processes, hall.countP_isApplied, hall.vanished,
    RunReport.counts_add _⟩

theorem run_report_agrees_with_log_sample :
    ∃ report,
      ((run Sample.rules Sample.opts).exec Snapshot.table Sample.snapshot).result =
          .ok report ∧
        report.appliedCount = 3 ∧ report.vanishedCount = 1 := by
  cases hresult :
      ((run Sample.rules Sample.opts).exec Snapshot.table Sample.snapshot).result with
  | error e =>
      have hok := Sample.exec_isOk
      rw [hresult] at hok
      cases hok
  | ok report =>
      obtain ⟨processes, rest, -, -, -, -, -, -, happlied, hvanished, -⟩ :=
        run_report_agrees_with_log _ _ _ _ hresult
      rw [Sample.exec_events] at happlied hvanished
      exact ⟨report, rfl, happlied, hvanished⟩

end CpuPinning
