import CpuPinning.Proofs.Pass.Justification
import CpuPinning.Proofs.Pass.Repetition

/-!
# The order of processes

Processes that have no task in common may be listed in any order.  On a static
system a match comes to the same outcomes whatever was done before it, and if
every task is set for one process at most, it does not matter for the masks which
process has its turn first.  Only within one process the order counts, and this
is the order of the fragments.
-/

namespace CpuPinning

open Pass

variable {opts : Options}

namespace StaticTable

variable {T : StaticTable} {rules : RuleSet}

/-- The system with a list of processes of its own. -/
def listing (T : StaticTable) (processes : List ProcessInfo) : StaticTable where
  reply
    | .processes => .ok processes
    | .children pid => T.reply (.children pid)
    | .threads pid => T.reply (.threads pid)
    | .setAffinity id mask => T.reply (.setAffinity id mask)
    | .announce m => T.reply (.announce m)

/-- The tasks of a process: its descendants and its threads, as far as the
system tells them. -/
def tasks (T : StaticTable) (pid : Nat) : List Nat :=
  (Except.toOption (T.reply (.children pid))).getD [] ++
    ((Except.toOption (T.reply (.threads pid))).getD []).map (·.tid)

/-- Different processes that match have no task in common. -/
def Independent (T : StaticTable) (rules : RuleSet)
    (processes : List ProcessInfo) : Prop :=
  ∀ p ∈ processes, ∀ q ∈ processes, p ≠ q →
    matchProcesses rules [p] ≠ [] → matchProcesses rules [q] ≠ [] →
      (T.tasks p.pid).Disjoint (T.tasks q.pid)

end StaticTable

/-! ## The matches of each process -/

theorem matchProcesses_eq_flatMap (rules : RuleSet)
    (processes : List ProcessInfo) :
    matchProcesses rules processes =
      processes.flatMap fun p => matchProcesses rules [p] := by
  refine List.flatMap_congr fun p _ => ?_
  exact (List.flatMap_singleton _ _).symm

theorem process_eq_of_mem {rules : RuleSet} {p : ProcessInfo} {m : Match}
    (h : m ∈ matchProcesses rules [p]) : m.process = p := by
  rw [matchProcesses, List.flatMap_singleton] at h
  split at h
  · obtain ⟨f, -, rfl⟩ := List.mem_map.1 h
    rfl
  · cases h

/-! ## Matches have no effect on each other -/

namespace StaticTable

variable {T : StaticTable} {rules : RuleSet}

/-- Matches go through together if and only if each of them does, and then each
has the report that it has alone. -/
theorem result_runMatches_eq_ok_iff {ms : List Match}
    {reports : List MatchReport} :
    T.result (runMatches opts ms) = .ok reports ↔
      List.Forall₂ (fun m report => T.result (runMatch opts m) = .ok report)
        ms reports := by
  induction ms generalizing reports with
  | nil =>
      constructor
      · intro h
        obtain rfl : [] = reports := Except.ok.inj h
        exact .nil
      · intro h
        cases h
        rfl
  | cons m ms ih =>
      rw [runMatches, result_bind]
      constructor
      · intro h
        cases hm : T.result (runMatch opts m) with
        | error e =>
            rw [hm] at h
            cases h
        | ok report =>
            rw [hm] at h
            change T.result (_ >>= fun rest => pure (report :: rest)) = _ at h
            rw [result_map] at h
            cases hms : T.result (runMatches opts ms) with
            | error e =>
                rw [hms] at h
                cases h
            | ok rest =>
                rw [hms] at h
                obtain rfl : report :: rest = reports := Except.ok.inj h
                exact .cons hm (ih.1 hms)
      · intro h
        cases h with
        | @cons _ report _ rest hm hms =>
            rw [hm]
            change T.result (_ >>= fun rest => pure (report :: rest)) = _
            rw [result_map, ih.2 hms]
            rfl

/-- The log of matches that go through is made of the logs that they have
alone. -/
theorem log_runMatches {ms : List Match} {reports : List MatchReport}
    (h : T.result (runMatches opts ms) = .ok reports) :
    T.log (runMatches opts ms) = ms.flatMap fun m => T.log (runMatch opts m) := by
  rw [result_runMatches_eq_ok_iff] at h
  induction h with
  | nil => rfl
  | cons hm hms ih =>
      rw [runMatches, log_bind_of_ok hm, log_map, ih, List.flatMap_cons]

/-- The report of a match, if it goes through. -/
def report? (T : StaticTable) (opts : Options) (m : Match) : Option MatchReport :=
  (T.result (runMatch opts m)).toOption

/-- A report is about the process and the fragment of its match. -/
theorem report_of_result {m : Match} {report : MatchReport}
    (h : T.result (runMatch opts m) = .ok report) :
    report.pid = m.process.pid ∧ report.name = m.process.name ∧
      report.fragment = m.fragment := by
  have hgoes := T.goes_log (runMatch opts m)
  rw [h] at hgoes
  obtain ⟨rest, outcomes, -, -, rfl⟩ := goes_runMatch_ok_iff.1 hgoes
  exact ⟨rfl, rfl, rfl⟩

theorem reports_eq_filterMap {ms : List Match} {reports : List MatchReport}
    (h : T.result (runMatches opts ms) = .ok reports) :
    reports = ms.filterMap (T.report? opts) := by
  rw [result_runMatches_eq_ok_iff] at h
  induction h with
  | nil => rfl
  | @cons m report ms reports hm hms ih =>
      have hreport : T.report? opts m = some report := by
        rw [report?, hm]
        rfl
      rw [List.filterMap_cons_some hreport, ← ih]

/-- Every match of a list goes through alone if the list does. -/
theorem exists_report_of_mem {ms : List Match} {reports : List MatchReport}
    (h : T.result (runMatches opts ms) = .ok reports) {m : Match} (hm : m ∈ ms) :
    ∃ report, T.result (runMatch opts m) = .ok report := by
  rw [result_runMatches_eq_ok_iff] at h
  induction h with
  | nil => cases hm
  | cons hfirst _ ih =>
      rcases List.mem_cons.1 hm with rfl | hm
      · exact ⟨_, hfirst⟩
      · exact ih hm

theorem exists_result_iff {ms : List Match} :
    (∃ reports, T.result (runMatches opts ms) = .ok reports) ↔
      ∀ m ∈ ms, ∃ report, T.result (runMatch opts m) = .ok report := by
  constructor
  · rintro ⟨reports, h⟩ m hm
    exact exists_report_of_mem h hm
  · intro h
    induction ms with
    | nil => exact ⟨[], rfl⟩
    | cons m ms ih =>
        obtain ⟨hm, hms⟩ := List.forall_mem_cons.1 h
        obtain ⟨report, hreport⟩ := hm
        obtain ⟨reports, hreports⟩ := ih hms
        refine ⟨report :: reports, result_runMatches_eq_ok_iff.2 (.cons hreport ?_)⟩
        exact result_runMatches_eq_ok_iff.1 hreports

/-! ## A match sets tasks of its process -/

theorem mem_tasks_of_setting {m : Match} {call : Setting}
    (h : call ∈ settings (T.log (apply opts m.process m.rule))) :
    call.1 ∈ T.tasks m.process.pid := by
  obtain ⟨e, he, hset⟩ := List.mem_filterMap.1 h
  obtain ⟨answer, rfl⟩ := Event.exists_of_setting? hset
  obtain ⟨since, rest, hlog⟩ := List.append_of_mem he
  have hgoes := T.goes_log (apply opts m.process m.rule)
  have hanswers := T.answers_log (apply opts m.process m.rule)
  rw [hlog] at hgoes hanswers
  obtain ⟨threads, asked, sets, rfl, -, -, hstages⟩ := goes_apply_setting hgoes
  have hthreads : T.reply (.threads m.process.pid) = .ok threads :=
    (hanswers ⟨.threads m.process.pid, .ok threads⟩ (by simp)).symm
  have hthread : ∀ thread ∈ threads, thread.tid ∈ T.tasks m.process.pid := by
    intro thread hmem
    apply List.mem_append_right
    rw [hthreads]
    exact List.mem_map_of_mem hmem
  rcases hstages.reason (List.mem_append_right _ (List.mem_singleton_self _)) with
    ⟨-, children, hasked, hmem⟩ | ⟨-, thread, hmem, hid⟩ | ⟨thread, hmem, hid, -⟩
  · have hchildren : T.reply (.children m.process.pid) = .ok children :=
      (hanswers ⟨.children m.process.pid, .ok children⟩ (by simp [hasked])).symm
    apply List.mem_append_left
    rw [hchildren]
    exact hmem
  · have htask := hthread thread hmem
    rwa [hid] at htask
  · have htask := hthread thread hmem
    rwa [hid] at htask

end StaticTable

theorem Event.setting?_of_granted? {e : Event} {call : Setting}
    (h : e.granted? = some call) : e.setting? = some call := by
  unfold granted? at h
  split at h
  · exact h
  · cases h

/-- The masks that a match sets are for tasks of its process. -/
theorem StaticTable.mem_tasks_of_granted {T : StaticTable} {m : Match}
    {call : Setting}
    (h : call ∈ (T.log (runMatch opts m)).filterMap Event.granted?) :
    call.1 ∈ T.tasks m.process.pid := by
  obtain ⟨e, he, hgranted⟩ := List.mem_filterMap.1 h
  have hlog : T.log (runMatch opts m) =
      ⟨.announce m, ()⟩ :: T.log (apply opts m.process m.rule) :=
    congrArg (_ :: ·) (T.log_map _ _)
  rw [hlog] at he
  rcases List.mem_cons.1 he with rfl | he
  · cases hgranted
  · have hsetting : call ∈ settings (T.log (apply opts m.process m.rule)) :=
      List.mem_filterMap.2 ⟨e, he, Event.setting?_of_granted? hgranted⟩
    exact mem_tasks_of_setting hsetting

/-! ## Blocks of settings in another order -/

/-- Blocks of settings of which only one concerns a task may be reordered. -/
theorem lastMask?_flatMap_perm {α : Type} {f : α → List Setting} {id : Nat}
    {xs ys : List α} (hperm : xs.Perm ys)
    (h : ∀ x ∈ xs, ∀ y ∈ xs, x ≠ y →
      lastMask? id (f x) = none ∨ lastMask? id (f y) = none) :
    lastMask? id (xs.flatMap f) = lastMask? id (ys.flatMap f) := by
  induction hperm with
  | nil => rfl
  | cons x _ ih =>
      rw [List.flatMap_cons, List.flatMap_cons, lastMask?_append, lastMask?_append,
        ih fun y hy z hz => h y (.tail _ hy) z (.tail _ hz)]
  | swap x y l =>
      simp only [List.flatMap_cons, lastMask?_append, Option.or_assoc]
      by_cases hxy : x = y
      · rw [hxy]
      · rcases h x (by simp) y (by simp) hxy with hnone | hnone
        · rw [hnone, Option.or_none, Option.none_or]
        · rw [hnone, Option.or_none, Option.none_or]
  | trans hxy _ ihx ihy =>
      rw [ihx h]
      refine ihy fun x hx y hy => ?_
      exact h x (hxy.mem_iff.2 hx) y (hxy.mem_iff.2 hy)

/-! ## Passes over listed processes -/

namespace StaticTable

variable {T : StaticTable} {rules : RuleSet}

/-- The matches of a pass do not ask for the list of processes. -/
theorem runMatches_listing (T : StaticTable) (processes : List ProcessInfo)
    (ms : List Match) :
    (T.listing processes).log (runMatches opts ms) = T.log (runMatches opts ms) ∧
      (T.listing processes).result (runMatches opts ms) =
        T.result (runMatches opts ms) := by
  apply log_eq_of_answers
  intro e he
  have hanswer := T.answers_log _ e he
  have hnot := goes_runMatches_processes (T.goes_log (runMatches opts ms))
  obtain ⟨q, a⟩ := e
  cases q with
  | processes => exact absurd he (hnot a)
  | children pid => exact hanswer
  | threads pid => exact hanswer
  | setAffinity id mask => exact hanswer
  | announce m => exact hanswer

theorem result_run (T : StaticTable) (rules : RuleSet) (opts : Options)
    (processes : List ProcessInfo) :
    (T.listing processes).result (run rules opts) =
      (T.result (runMatches opts (matchProcesses rules processes))).map
        (⟨processes.length, ·⟩) := by
  rw [← (T.runMatches_listing processes _).2]
  exact result_map _ _ _

theorem log_run (T : StaticTable) (rules : RuleSet) (opts : Options)
    (processes : List ProcessInfo) :
    (T.listing processes).log (run rules opts) =
      ⟨.processes, .ok processes⟩ ::
        T.log (runMatches opts (matchProcesses rules processes)) := by
  rw [← (T.runMatches_listing processes _).1]
  exact congrArg (_ :: ·) (log_map _ _ _)

/-- What a process is responsible for in the log of a pass. -/
def settingsFor (T : StaticTable) (rules : RuleSet) (opts : Options)
    (p : ProcessInfo) : List Setting :=
  (matchProcesses rules [p]).flatMap fun m =>
    (T.log (runMatch opts m)).filterMap Event.granted?

/-- What a pass sets, process by process. -/
theorem granted_log_run {processes : List ProcessInfo} {reports : List MatchReport}
    (h : T.result (runMatches opts (matchProcesses rules processes)) =
      .ok reports) :
    ((T.listing processes).log (run rules opts)).filterMap Event.granted? =
      processes.flatMap (T.settingsFor rules opts) := by
  have hnone : Event.granted? ⟨.processes, .ok processes⟩ = none := rfl
  rw [log_run, List.filterMap_cons_none hnone, log_runMatches h,
    List.filterMap_flatMap, matchProcesses_eq_flatMap, List.flatMap_assoc]
  rfl

/-- Of two independent processes one does not set a given task. -/
theorem Independent.lastMask?_eq_none {processes : List ProcessInfo}
    (h : T.Independent rules processes) (id : Nat) {p q : ProcessInfo}
    (hp : p ∈ processes) (hq : q ∈ processes) (hne : p ≠ q) :
    lastMask? id (T.settingsFor rules opts p) = none ∨
      lastMask? id (T.settingsFor rules opts q) = none := by
  have hother {r : ProcessInfo}
      (hr : matchProcesses rules [r] ≠ [] → id ∉ T.tasks r.pid) :
      lastMask? id (T.settingsFor rules opts r) = none := by
    refine CpuPinning.lastMask?_eq_none fun call hcall hid => ?_
    obtain ⟨m, hm, hcall⟩ := List.mem_flatMap.1 hcall
    have htask := mem_tasks_of_granted hcall
    rw [process_eq_of_mem hm, hid] at htask
    exact hr (List.ne_nil_of_mem hm) htask
  by_cases hmem : matchProcesses rules [p] ≠ [] ∧ id ∈ T.tasks p.pid
  · refine .inr (hother fun hmatch htask => ?_)
    exact h p hp q hq hne hmem.1 hmatch hmem.2 htask
  · refine .inl (hother fun hmatch htask => ?_)
    exact hmem ⟨hmatch, htask⟩

/-- The reports about one process. -/
def reportsFor (T : StaticTable) (rules : RuleSet) (opts : Options)
    (p : ProcessInfo) : List MatchReport :=
  (matchProcesses rules [p]).filterMap (T.report? opts)

theorem reports_eq_flatMap {processes : List ProcessInfo}
    {reports : List MatchReport}
    (h : T.result (runMatches opts (matchProcesses rules processes)) =
      .ok reports) :
    reports = processes.flatMap (T.reportsFor rules opts) := by
  rw [reports_eq_filterMap h, matchProcesses_eq_flatMap, List.filterMap_flatMap]
  rfl

/-- The reports about a process in a pass that goes through are one for each of
its matches, in the order of the fragments. -/
theorem reportsFor_eq {processes : List ProcessInfo} {reports : List MatchReport}
    (h : T.result (runMatches opts (matchProcesses rules processes)) = .ok reports)
    {p : ProcessInfo} (hp : p ∈ processes) :
    (T.reportsFor rules opts p).map (fun r => (r.pid, r.name, r.fragment)) =
      (matchProcesses rules [p]).map fun m => (p.pid, p.name, m.fragment) := by
  rw [reportsFor, List.map_filterMap, ← List.filterMap_eq_map]
  refine List.filterMap_congr fun m hm => ?_
  have hmem : m ∈ matchProcesses rules processes := by
    rw [matchProcesses_eq_flatMap]
    exact List.mem_flatMap.2 ⟨p, hp, hm⟩
  obtain ⟨report, hreport⟩ := exists_report_of_mem h hmem
  obtain ⟨hpid, hname, hfragment⟩ := report_of_result hreport
  rw [process_eq_of_mem hm] at hpid hname
  rw [report?, hreport]
  change some (report.pid, report.name, report.fragment) = _
  rw [hpid, hname, hfragment]
  rfl

/-- A pass that goes through reports what its matches report. -/
theorem result_run_eq_ok_iff {processes : List ProcessInfo} {report : RunReport} :
    (T.listing processes).result (run rules opts) = .ok report ↔
      ∃ reports,
        T.result (runMatches opts (matchProcesses rules processes)) =
          .ok reports ∧
        report = ⟨processes.length, reports⟩ := by
  rw [result_run]
  constructor
  · intro h
    cases hms : T.result (runMatches opts (matchProcesses rules processes)) with
    | error e =>
        rw [hms] at h
        cases h
    | ok reports =>
        rw [hms] at h
        exact ⟨reports, rfl, (Except.ok.inj h).symm⟩
  · rintro ⟨reports, hms, rfl⟩
    rw [hms]
    rfl

/-- A pass goes through if and only if each of its matches does. -/
theorem exists_result_run_iff {processes : List ProcessInfo} :
    (∃ report, (T.listing processes).result (run rules opts) = .ok report) ↔
      ∀ m ∈ matchProcesses rules processes,
        ∃ report, T.result (runMatch opts m) = .ok report := by
  rw [← exists_result_iff]
  constructor
  · rintro ⟨report, h⟩
    obtain ⟨reports, hreports, -⟩ := result_run_eq_ok_iff.1 h
    exact ⟨reports, hreports⟩
  · rintro ⟨reports, h⟩
    exact ⟨_, result_run_eq_ok_iff.2 ⟨reports, h, rfl⟩⟩

end StaticTable

/-- Two passes over a static system that lists its processes in different orders,
where different processes that match have no task in common.  Both go through or
both fail.  If they go through, every task has the same mask at the end, and the
two reports hold the same entries for each process, by the order of its
fragments, while the processes follow each other as they are listed. -/
theorem run_processes_perm (T : StaticTable) (masks : Masks) (rules : RuleSet)
    (opts : Options) {processes processes' : List ProcessInfo}
    (hperm : processes.Perm processes')
    (hindependent : T.Independent rules processes) :
    let x := (run rules opts).exec (T.listing processes).table masks
    let x' := (run rules opts).exec (T.listing processes').table masks
    ((∃ report, x.result = .ok report) ↔ ∃ report', x'.result = .ok report') ∧
    ∀ report report', x.result = .ok report → x'.result = .ok report' →
      x'.state = x.state ∧ report'.scanned = report.scanned ∧
      ∃ entries : ProcessInfo → List MatchReport,
        (∀ p ∈ processes,
          (entries p).map (fun r => (r.pid, r.name, r.fragment)) =
            (matchProcesses rules [p]).map
              fun m => (p.pid, p.name, m.fragment)) ∧
        report.reports = processes.flatMap entries ∧
        report'.reports = processes'.flatMap entries := by
  intro x x'
  simp only [x, x', StaticTable.exec_eq]
  have hmatches :
      (matchProcesses rules processes).Perm (matchProcesses rules processes') :=
    hperm.flatMap_right _
  constructor
  · rw [StaticTable.exists_result_run_iff, StaticTable.exists_result_run_iff]
    exact ⟨fun h m hm => h m (hmatches.mem_iff.2 hm),
      fun h m hm => h m (hmatches.mem_iff.1 hm)⟩
  · intro report report' h h'
    obtain ⟨reports, hms, rfl⟩ := StaticTable.result_run_eq_ok_iff.1 h
    obtain ⟨reports', hms', rfl⟩ := StaticTable.result_run_eq_ok_iff.1 h'
    refine ⟨?_, hperm.length_eq.symm, T.reportsFor rules opts, ?_, ?_, ?_⟩
    · funext id
      have hlast : lastMask? id (processes.flatMap (T.settingsFor rules opts)) =
          lastMask? id (processes'.flatMap (T.settingsFor rules opts)) :=
        lastMask?_flatMap_perm hperm fun p hp q hq hne =>
          hindependent.lastMask?_eq_none id hp hq hne
      rw [Masks.foldl_store, Masks.foldl_store,
        StaticTable.granted_log_run hms, StaticTable.granted_log_run hms', hlast]
    · intro p hp
      exact StaticTable.reportsFor_eq hms hp
    · exact StaticTable.reports_eq_flatMap hms
    · exact StaticTable.reports_eq_flatMap hms'

namespace Sample

/-- A second process like the first one, with threads of its own. -/
def colleague : ProcessInfo := ⟨30, "worker", ["worker"]⟩

/-- A system where both run and nothing goes wrong. -/
def office : StaticTable :=
  Snapshot.static
    { snapshot with
      threads := [(10, threads), (30, [⟨30, "worker"⟩, ⟨31, "io"⟩])]
      faults := [] }

theorem office_independent : office.Independent rules [worker, colleague] := by
  have hdisjoint : (office.tasks worker.pid).Disjoint (office.tasks colleague.pid) :=
    List.disjoint_left.2 (by decide)
  intro p hp q hq hne _ _
  simp only [List.mem_cons, List.not_mem_nil, or_false] at hp hq
  rcases hp with rfl | rfl <;> rcases hq with rfl | rfl
  · exact absurd rfl hne
  · exact hdisjoint
  · exact fun _ hq hp => hdisjoint hp hq
  · exact absurd rfl hne

/-- A pass over the system when it lists some processes. -/
def working (processes : List ProcessInfo) : Execution Masks RunReport :=
  (run rules Sample.opts).exec (office.listing processes).table fun _ => none

theorem working_isOk : (working [worker, colleague]).result.isOk = true := by
  decide +kernel

theorem working_state : (working [worker, colleague]).state 31 = some second := by
  decide +kernel

end Sample

open Sample

theorem run_processes_perm_sample :
    office.Independent rules [worker, colleague] ∧
      (working [colleague, worker]).state 31 = some second ∧
      ∃ report, (working [colleague, worker]).result = .ok report ∧
        ∃ entries : ProcessInfo → List MatchReport,
          (entries colleague).map (·.pid) = [30] ∧
          (entries worker).map (·.pid) = [10] ∧
          report.reports = entries colleague ++ entries worker := by
  obtain ⟨hok, hsame⟩ := run_processes_perm office (fun _ => none) rules
    Sample.opts (List.Perm.swap colleague worker []) office_independent
  cases hresult : (working [worker, colleague]).result with
  | error e =>
      have h := working_isOk
      rw [hresult] at h
      cases h
  | ok report =>
      obtain ⟨report', hresult'⟩ := hok.1 ⟨report, hresult⟩
      obtain ⟨hstate, -, entries, hentries, -, hreports⟩ :=
        hsame report report' hresult hresult'
      refine ⟨office_independent, ?_, report', hresult', entries, ?_, ?_, ?_⟩
      · exact (congrFun hstate 31).trans working_state
      · have h := congrArg (List.map fun r => r.1) (hentries colleague (by simp))
        rw [List.map_map] at h
        exact h.trans rfl
      · have h := congrArg (List.map fun r => r.1) (hentries worker (by simp))
        rw [List.map_map] at h
        exact h.trans rfl
      · rw [hreports, List.flatMap_cons, List.flatMap_singleton]

end CpuPinning
