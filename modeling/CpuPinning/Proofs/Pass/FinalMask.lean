import CpuPinning.Proofs.Pass.Plan
import CpuPinning.Proofs.Pass.Static

/-!
# Masks at the end of a pass

On a static system where nothing goes wrong but exits, a pass that goes through
leaves every task with the mask that the last match with a say in it decides
for.  A match decides for a task by its thread rules first and by its parent
mask otherwise, each only within the range of the system.
-/

namespace CpuPinning

open Pass

variable {opts : Options}

/-- A static system on which nothing goes wrong but exits. -/
structure Roster where
  processes : List ProcessInfo
  children : Nat → List Nat
  /-- The threads of a process, or the id that vanished when it was asked. -/
  threads : Nat → Except Nat (List ThreadInfo)
  /-- For a task that has exited, the id that is said to have vanished. -/
  gone? : Nat → Option Nat
  nodup : ∀ {pid ts}, threads pid = .ok ts → (ts.map (·.tid)).Nodup

namespace Roster

/-- The answers of the system. -/
def static (T : Roster) : StaticTable where
  reply
    | .processes => .ok T.processes
    | .children pid => .ok (T.children pid)
    | .threads pid => (T.threads pid).mapError .vanished
    | .setAffinity id _ =>
        match T.gone? id with
        | some gone => .error (.vanished gone)
        | none => .ok ()
    | .announce _ => ()

/-- What the thread rules of a match decide for a task. -/
def override? (opts : Options) (rule : CommandRule) (threads : List ThreadInfo)
    (id : Nat) : Option CpuMask :=
  rule.threads.bind fun rules =>
    (threads.find? fun thread => thread.tid = id).bind (ownMask? opts rules)

/-- What a match decides for a task: the mask of its only thread rule that
claims the task, or else its parent mask, if it reaches the task. -/
def decide? (T : Roster) (opts : Options) (m : Match) (id : Nat) :
    Option CpuMask :=
  match T.threads m.process.pid with
  | .error _ => none
  | .ok threads =>
      (override? opts m.rule threads id).or
        (if id ∈ T.children m.process.pid ++ threads.map (·.tid) then
          m.rule.usableParent? opts
        else none)

/-- The settings of the parent mask of a match. -/
def inherited (T : Roster) (opts : Options) (m : Match)
    (threads : List ThreadInfo) : List Setting :=
  match m.rule.usableParent? opts with
  | some mask => inheritedSettings mask (T.children m.process.pid) threads
  | none => []

/-- The settings of a match. -/
def plan (T : Roster) (opts : Options) (m : Match) : List Setting :=
  match T.threads m.process.pid with
  | .error _ => []
  | .ok threads =>
      T.inherited opts m threads ++ m.rule.ownSettings opts threads

/-! ## The last setting of a plan -/

theorem lastMask?_map (id : Nat) (mask : CpuMask) (ids : List Nat) :
    lastMask? id (ids.map fun i => (i, mask)) =
      if id ∈ ids then some mask else none := by
  induction ids with
  | nil => rfl
  | cons i ids ih =>
      rw [List.map_cons, lastMask?_cons, ih, lastMask?_singleton]
      by_cases hi : id = i
      · subst hi
        by_cases hmem : id ∈ ids <;> simp [hmem]
      · by_cases hmem : id ∈ ids <;> simp [hi, hmem, Ne.symm hi]

theorem lastMask?_inheritedSettings (id : Nat) (mask : CpuMask)
    (children : List Nat) (threads : List ThreadInfo) :
    lastMask? id (inheritedSettings mask children threads) =
      if id ∈ children ++ threads.map (·.tid) then some mask else none := by
  rw [← lastMask?_map, inheritedSettings_eq_append, List.map_append,
    List.map_map]
  rfl

/-- Of threads with ids of their own, only one is given a mask under an id. -/
theorem lastMask?_ownSettings (id : Nat) (rules : List ThreadRule)
    {threads : List ThreadInfo} (h : (threads.map (·.tid)).Nodup) :
    lastMask? id (ownSettings opts rules threads) =
      (threads.find? fun thread => thread.tid = id).bind
        (ownMask? opts rules) := by
  induction threads with
  | nil => rfl
  | cons thread threads ih =>
      obtain ⟨hnew, hrest⟩ := List.nodup_cons.1 h
      rw [ownSettings_cons, lastMask?_append, ih hrest]
      by_cases hid : thread.tid = id
      · have hnone : threads.find? (fun t => t.tid = id) = none := by
          rw [List.find?_eq_none]
          intro t ht htid
          have hsame : t.tid = thread.tid := by simpa [hid] using htid
          exact hnew (List.mem_map.2 ⟨t, ht, hsame⟩)
        rw [hnone]
        cases hmask : ownMask? opts rules thread <;>
          simp [ownSettings, hid, hmask, lastMask?_singleton]
      · cases hmask : ownMask? opts rules thread <;>
          simp [ownSettings, hid, hmask, lastMask?_singleton]

theorem lastMask?_plan (T : Roster) (m : Match) (id : Nat) :
    lastMask? id (T.plan opts m) = T.decide? opts m id := by
  unfold plan decide?
  cases hthreads : T.threads m.process.pid with
  | error gone => rfl
  | ok threads =>
      have hown : lastMask? id (m.rule.ownSettings opts threads) =
          override? opts m.rule threads id := by
        unfold CommandRule.ownSettings override?
        cases m.rule.threads with
        | none => rfl
        | some rules => exact lastMask?_ownSettings id rules (T.nodup hthreads)
      dsimp only
      rw [lastMask?_append, hown, inherited]
      cases m.rule.usableParent? opts with
      | none => simp
      | some mask => rw [lastMask?_inheritedSettings]

/-- Of several matches the last one with a say in a task decides. -/
theorem lastMask?_flatMap_plan (T : Roster) (ms : List Match) (id : Nat) :
    lastMask? id (ms.flatMap (T.plan opts)) =
      (ms.filterMap fun m => T.decide? opts m id).getLast? := by
  induction ms with
  | nil => rfl
  | cons m ms ih =>
      rw [List.flatMap_cons, lastMask?_append, ih, lastMask?_plan]
      cases hdecide : T.decide? opts m id with
      | none => simp only [List.filterMap_cons, hdecide, Option.or_none]
      | some mask =>
          simp only [List.filterMap_cons, hdecide]
          rw [← List.singleton_append, List.getLast?_append,
            List.getLast?_singleton]

/-! ## The log of a pass that goes through -/

theorem threads_of_reply_ok {T : Roster} {pid : Nat} {threads : List ThreadInfo}
    (h : .ok threads = T.static.reply (.threads pid)) :
    T.threads pid = .ok threads := by
  cases hthreads : T.threads pid with
  | error gone => simp [static, hthreads, Except.mapError] at h
  | ok threads' => simpa [static, hthreads, Except.mapError] using h.symm

theorem threads_of_reply_error {T : Roster} {pid : Nat} {e : TaskError}
    (h : .error e = T.static.reply (.threads pid)) :
    ∃ gone, T.threads pid = .error gone := by
  cases hthreads : T.threads pid with
  | error gone => exact ⟨gone, rfl⟩
  | ok threads => simp [static, hthreads, Except.mapError] at h

/-- The first step of a match is out for the settings of its parent mask. -/
theorem inherited_of_handsDown {T : Roster} {m : Match}
    {threads : List ThreadInfo} {asked : List Event} {calls : List Setting}
    (h : HandsDown opts m.process m.rule threads asked calls)
    (hasked : T.static.Answers asked) :
    T.inherited opts m threads = calls ∧ settings asked = [] := by
  unfold inherited
  cases h with
  | unused hnone => exact ⟨by rw [hnone], rfl⟩
  | refused e hmask =>
      have hanswer := (StaticTable.answers_cons.1 hasked).1
      cases hanswer
  | answered children hmask =>
      have hanswer := (StaticTable.answers_cons.1 hasked).1
      cases hanswer
      exact ⟨by rw [hmask], rfl⟩

theorem plan_of_isEmpty {T : Roster} {m : Match} (h : m.rule.isEmpty = true) :
    T.plan opts m = [] := by
  obtain ⟨hparent, hrules⟩ : m.rule.parent = none ∧ m.rule.threads = none := by
    simpa [CommandRule.isEmpty] using h
  unfold plan
  cases T.threads m.process.pid with
  | error gone => rfl
  | ok threads =>
      simp [inherited, CommandRule.usableParent?, CommandRule.ownSettings, hparent,
        hrules]

/-- A match that goes through tries all settings of its plan. -/
theorem goes_apply_settings {T : Roster} {m : Match} {log : List Event}
    {outcomes : List Outcome}
    (h : (apply opts m.process m.rule).Goes log (.ok outcomes))
    (hlog : T.static.Answers log) : settings log = T.plan opts m := by
  rcases goes_apply_shape h with
    ⟨hempty, rfl⟩ | ⟨e, rfl⟩ |
      ⟨threads, asked, sets, calls, rfl, hasked, -, hall⟩
  · rw [plan_of_isEmpty hempty]
    rfl
  · obtain ⟨gone, hthreads⟩ :=
      threads_of_reply_error (StaticTable.answers_cons.1 hlog).1
    simp only [plan, hthreads]
    rfl
  · obtain ⟨hanswer, hrest⟩ := StaticTable.answers_cons.1 hlog
    obtain ⟨hcalls, hnone⟩ :=
      inherited_of_handsDown hasked (StaticTable.answers_append.1 hrest).1
    have hthreads : T.threads m.process.pid = .ok threads :=
      threads_of_reply_ok hanswer
    simp only [plan, hthreads, hcalls]
    calc
      settings (⟨.threads m.process.pid, .ok threads⟩ :: (asked ++ sets)) =
          settings (asked ++ sets) := rfl
      _ = settings sets := by rw [settings_append, hnone, List.nil_append]
      _ = calls ++ m.rule.ownSettings opts threads :=
        (hall outcomes rfl).settings_eq

/-- Matches that go through try all settings of their plans. -/
theorem goes_runMatches_settings {T : Roster} {ms : List Match}
    {log : List Event} {reports : List MatchReport}
    (h : (runMatches opts ms).Goes log (.ok reports))
    (hlog : T.static.Answers log) :
    settings log = ms.flatMap (T.plan opts) := by
  induction ms generalizing log reports with
  | nil =>
      obtain ⟨rfl, -⟩ := goes_pure_iff.1 h
      rfl
  | cons m ms ih =>
      obtain ⟨first, second, outcomes, rest, rfl, hm, hms, -⟩ :=
        goes_runMatches_cons_ok h
      obtain ⟨hfirst, hsecond⟩ :=
        StaticTable.answers_append.1 (StaticTable.answers_cons.1 hlog).2
      calc
        settings (⟨.announce m, ()⟩ :: (first ++ second)) =
            settings (first ++ second) := rfl
        _ = T.plan opts m ++ ms.flatMap (T.plan opts) := by
          rw [settings_append, goes_apply_settings hm hfirst, ih hms hsecond]

/-- A pass that goes through tries all settings of all plans. -/
theorem goes_run_settings {T : Roster} {rules : RuleSet} {log : List Event}
    {report : RunReport} (h : (run rules opts).Goes log (.ok report))
    (hlog : T.static.Answers log) :
    settings log = (matchProcesses rules T.processes).flatMap (T.plan opts) := by
  obtain ⟨processes, rest, reports, rfl, hrest, -⟩ := goes_run_ok h
  obtain ⟨hanswer, hanswers⟩ := StaticTable.answers_cons.1 hlog
  obtain rfl : processes = T.processes := by simpa [static] using hanswer
  calc
    settings (⟨.processes, .ok T.processes⟩ :: rest) = settings rest := rfl
    _ = (matchProcesses rules T.processes).flatMap (T.plan opts) :=
      goes_runMatches_settings hrest hanswers

/-- What is set is what is tried, less the tasks that have exited. -/
theorem granted_eq {T : Roster} {log : List Event} (h : T.static.Answers log) :
    log.filterMap Event.granted? =
      (settings log).filter fun call => (T.gone? call.1).isNone := by
  rw [settings, List.filter_filterMap]
  refine List.filterMap_congr fun e he => ?_
  have hanswer := h e he
  obtain ⟨q, answer⟩ := e
  cases q with
  | setAffinity id mask =>
      cases hgone : T.gone? id with
      | none =>
          obtain rfl : answer = .ok () := by simpa [static, hgone] using hanswer
          simp [Event.granted?, Event.setting?, Option.filter_some, hgone]
      | some gone =>
          obtain rfl : answer = .error (.vanished gone) := by
            simpa [static, hgone] using hanswer
          simp [Event.granted?, Event.setting?, Option.filter_some, hgone]
  | processes => rfl
  | children pid => rfl
  | threads pid => rfl
  | announce m => rfl

/-- The masks at the end of a pass that went through: a task that has exited
keeps its mask; any other task has the mask that the last match with a say in it
decides for, and keeps its mask if there is none. -/
theorem run_final_masks (T : Roster) (masks : Masks) (rules : RuleSet)
    (opts : Options) {report : RunReport}
    (h : ((run rules opts).exec T.static.table masks).result = .ok report)
    (id : Nat) :
    ((run rules opts).exec T.static.table masks).state id =
      if (T.gone? id).isSome then masks id
      else
        ((matchProcesses rules T.processes).filterMap fun m =>
          T.decide? opts m id).getLast?.or (masks id) := by
  have hgoes := goes_exec T.static.table (run rules opts) masks
  rw [h] at hgoes
  have hanswers := T.static.answers_exec (run rules opts) masks
  rw [StaticTable.exec_state, granted_eq hanswers,
    lastMask?_filter id _ fun i => (T.gone? i).isNone,
    goes_run_settings hgoes hanswers, lastMask?_flatMap_plan]
  cases T.gone? id with
  | some gone => rfl
  | none => rfl

end Roster

namespace Sample

/-- The small system with everything that is known of it. -/
def roster : Roster where
  processes := [worker]
  children _ := [20]
  threads _ := .ok threads
  gone? id := if id = 20 then some 20 else none
  nodup h := by
    cases h
    decide

/-- No mask is known. -/
def masks : Masks := fun _ => none

theorem roster_isOk :
    ((run rules Sample.opts).exec roster.static.table masks).result.isOk =
      true := by
  decide +kernel

end Sample

namespace Roster

theorem run_final_masks_sample :
    ((run Sample.rules Sample.opts).exec Sample.roster.static.table
      Sample.masks).state 11 = some Sample.second := by
  cases hresult :
      ((run Sample.rules Sample.opts).exec Sample.roster.static.table
        Sample.masks).result with
  | error e =>
      have hok := Sample.roster_isOk
      rw [hresult] at hok
      cases hok
  | ok report =>
      rw [run_final_masks _ _ _ _ hresult]
      decide +kernel

end Roster

end CpuPinning
