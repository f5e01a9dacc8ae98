import CpuPinning.Proofs.Pass.Log
import CpuPinning.Proofs.Pass.Steps

/-!
# Plans

The settings that the steps of a pass are out for, known as soon as threads and
descendants are known.  A step tries the settings of its plan in order and
nothing else; if it ends with a value, it has tried all of them.
-/

namespace CpuPinning

open Proc.ProcFs (announced)

/-! ## What is planned -/

/-- The parent mask of a rule, unless it is out of range. -/
def CommandRule.usableParent? (rule : CommandRule) (opts : Options) :
    Option CpuMask :=
  rule.parent.filter fun mask => !mask.exceeds opts.cpuCount

/-- The settings of the parent mask: the descendants, then the threads. -/
def inheritedSettings (mask : CpuMask) (children : List Nat)
    (threads : List ThreadInfo) : List Setting :=
  (cascadeTargets children threads).map fun target => (target.id, mask)

/-- The mask that thread rules have for a thread: that of the only rule that
claims it, unless it is out of range. -/
def ownMask? (opts : Options) (rules : List ThreadRule) (thread : ThreadInfo) :
    Option CpuMask :=
  match claiming rules thread with
  | [rule] => if rule.mask.exceeds opts.cpuCount then none else some rule.mask
  | _ => none

/-- The settings of the thread rules. -/
def ownSettings (opts : Options) (rules : List ThreadRule)
    (threads : List ThreadInfo) : List Setting :=
  threads.filterMap fun thread =>
    (ownMask? opts rules thread).map fun mask => (thread.tid, mask)

/-- The settings of the thread rules of a rule that may have none. -/
def CommandRule.ownSettings (rule : CommandRule) (opts : Options)
    (threads : List ThreadInfo) : List Setting :=
  match rule.threads with
  | .some rules => CpuPinning.ownSettings opts rules threads
  | .none => []

theorem inheritedSettings_eq_append (mask : CpuMask) (children : List Nat)
    (threads : List ThreadInfo) :
    inheritedSettings mask children threads =
      (children.map fun pid => (pid, mask)) ++
        threads.map fun thread => (thread.tid, mask) := by
  simp [inheritedSettings, cascadeTargets, Target.id, Function.comp_def]

theorem ownSettings_cons (opts : Options) (rules : List ThreadRule)
    (thread : ThreadInfo) (threads : List ThreadInfo) :
    ownSettings opts rules (thread :: threads) =
      ownSettings opts rules [thread] ++ ownSettings opts rules threads := by
  simp only [ownSettings, ← List.filterMap_append, List.singleton_append]

theorem ownMask?_eq_some_iff {opts : Options} {rules : List ThreadRule}
    {thread : ThreadInfo} {mask : CpuMask} :
    ownMask? opts rules thread = some mask ↔
      ∃ rule, claiming rules thread = [rule] ∧
        rule.mask.exceeds opts.cpuCount = false ∧ rule.mask = mask := by
  unfold ownMask?
  split
  · next rule hclaim => simp [hclaim]
  · next hone =>
      constructor
      · intro h
        cases h
      · rintro ⟨rule, hclaim, -⟩
        exact absurd hclaim (hone rule)

theorem ownMask?_eq_none_of_nil {opts : Options} {rules : List ThreadRule}
    {thread : ThreadInfo} (h : claiming rules thread = []) :
    ownMask? opts rules thread = none := by
  simp [ownMask?, h]

theorem ownMask?_eq_none_of_two_le {opts : Options} {rules : List ThreadRule}
    {thread : ThreadInfo} (h : 2 ≤ (claiming rules thread).length) :
    ownMask? opts rules thread = none := by
  rw [Option.eq_none_iff_forall_ne_some]
  intro mask hmask
  obtain ⟨rule, hclaim, -⟩ := ownMask?_eq_some_iff.1 hmask
  simp [hclaim] at h

/-! ## Passes with a plan -/

namespace Pass

variable {α β : Type}

/-- Every course of the pass tries settings of `plan` in order and does nothing
else, and a course that ends with a value tries them all. -/
structure Sets (p : Pass α) (plan : List Setting) : Prop where
  tried : ∀ {log r}, p.Goes log r → log.map Event.setting? <+: plan.map some
  finished : ∀ {log a}, p.Goes log (.ok a) → Attempts log plan

theorem Sets.pure (a : α) : (pure a : Pass α).Sets [] where
  tried h := by simp [(goes_pure_iff.1 h).1]
  finished h := by simp [(goes_pure_iff.1 h).1, Attempts]

theorem Sets.fail (e : PinError) (plan : List Setting) :
    (fail e : Pass α).Sets plan where
  tried h := by simp [(goes_fail_iff.1 h).1]
  finished h := by simp [goes_fail_iff] at h

theorem Sets.bind {p : Pass α} {f : α → Pass β} {first second : List Setting}
    (hp : p.Sets first) (hf : ∀ a, (f a).Sets second) :
    (p >>= f).Sets (first ++ second) where
  tried h := by
    rcases goes_bind_iff.1 h with
      ⟨log, a, rest, rfl, hlog, hrest⟩ | ⟨e, hlog, rfl⟩
    · rw [List.map_append, List.map_append, hp.finished hlog,
        List.prefix_append_right_inj]
      exact (hf a).tried hrest
    · rw [List.map_append]
      exact (hp.tried hlog).trans (List.prefix_append _ _)
  finished h := by
    obtain ⟨log, a, rest, rfl, hlog, hrest⟩ := goes_bind_ok_iff.1 h
    rw [Attempts, List.map_append, List.map_append, hp.finished hlog,
      (hf a).finished hrest]

/-- What is done with the value of a pass does not change its plan. -/
theorem Sets.map {p : Pass α} {plan : List Setting} (hp : p.Sets plan)
    (f : α → β) : (p >>= fun a => Pure.pure (f a)).Sets plan := by
  have h : (p >>= fun a => Pure.pure (f a)).Sets (plan ++ []) :=
    hp.bind fun a => Sets.pure (f a)
  rwa [List.append_nil] at h

end Pass

open Pass

variable {opts : Options}

theorem setMask_sets (id : Nat) (target : Target) (mask : CpuMask)
    (source : MaskSource) :
    (setMask id target mask source).Sets [(id, mask)] where
  tried h := by
    rcases goes_setMask_cases h with
      ⟨rfl, -⟩ | ⟨gone, rfl, -⟩ | ⟨task, cause, rfl, -⟩ <;>
      simp [Event.setting?]
  finished h := by
    rcases goes_setMask_cases h with
      ⟨rfl, -⟩ | ⟨gone, rfl, -⟩ | ⟨task, cause, rfl, -⟩ <;>
      simp [Attempts, Event.setting?]

theorem setAll_sets (mask : CpuMask) (targets : List Target) :
    (setAll mask targets).Sets (targets.map fun target => (target.id, mask)) := by
  induction targets with
  | nil => exact .pure []
  | cons target targets ih =>
      exact (setMask_sets _ _ _ _).bind fun o => ih.map (o :: ·)

theorem applyToThread_sets (rules : List ThreadRule) (thread : ThreadInfo) :
    (applyToThread opts rules thread).Sets (ownSettings opts rules [thread]) := by
  unfold applyToThread
  split
  · next hclaim =>
      simpa [ownSettings, ownMask?_eq_none_of_nil hclaim] using Sets.pure _
  · next rule hclaim =>
      dsimp only
      split
      · next hrange =>
          simpa [ownSettings, ownMask?, hclaim, hrange] using Sets.pure _
      · next hrange =>
          simpa [ownSettings, ownMask?, hclaim, hrange] using
            (setMask_sets _ _ _ _).map ([·])
  · next hnone hone =>
      have hmask : ownMask? opts rules thread = none :=
        ownMask?_eq_none_of_two_le (two_le_length_of_ne hnone hone)
      dsimp only
      split
      · exact .fail _ _
      · simpa [ownSettings, hmask] using Sets.pure _

theorem applyToThreads_sets (rules : List ThreadRule) (threads : List ThreadInfo) :
    (applyToThreads opts rules threads).Sets (ownSettings opts rules threads) := by
  induction threads with
  | nil => exact .pure []
  | cons thread threads ih =>
      rw [ownSettings_cons]
      exact (applyToThread_sets rules thread).bind fun os => ih.map (os ++ ·)

theorem applyThreadRules_sets (rule : CommandRule) (threads : List ThreadInfo) :
    (applyThreadRules opts rule threads).Sets (rule.ownSettings opts threads) := by
  unfold applyThreadRules CommandRule.ownSettings
  cases rule.threads with
  | none => exact .pure []
  | some rules => exact applyToThreads_sets rules threads

/-! ## The first step -/

/-- What the first step asks about the descendants of a process, and the
settings that it is out for when it has the answer. -/
inductive HandsDown (opts : Options) (process : ProcessInfo) (rule : CommandRule)
    (threads : List ThreadInfo) : List Event → List Setting → Prop
  | unused : rule.usableParent? opts = none →
      HandsDown opts process rule threads [] []
  | refused {mask : CpuMask} (e : TaskError) :
      rule.usableParent? opts = some mask →
      HandsDown opts process rule threads
        [⟨.children process.pid, .error e⟩] []
  | answered {mask : CpuMask} (children : List Nat) :
      rule.usableParent? opts = some mask →
      HandsDown opts process rule threads
        [⟨.children process.pid, .ok children⟩]
        (inheritedSettings mask children threads)

theorem goes_applyParent_shape {process : ProcessInfo} {rule : CommandRule}
    {threads : List ThreadInfo} {events : List Event}
    {r : Except PinError (List Outcome)}
    (h : (applyParent opts process rule threads).Goes events r) :
    ∃ asked sets inherited, events = asked ++ sets ∧
      HandsDown opts process rule threads asked inherited ∧
      sets.map Event.setting? <+: inherited.map some ∧
      ∀ outcomes, r = .ok outcomes → Attempts sets inherited := by
  unfold applyParent at h
  split at h
  · next mask hparent =>
      rcases goes_cascade_cases h with ⟨hrange, rfl, rfl⟩ | ⟨hrange, hcases⟩
      · refine ⟨[], [], [], rfl, .unused ?_, List.nil_prefix, fun _ _ => rfl⟩
        simp [CommandRule.usableParent?, hparent, hrange]
      · have husable : rule.usableParent? opts = some mask := by
          simp [CommandRule.usableParent?, hparent, hrange]
        rcases hcases with
          ⟨gone, rfl, rfl⟩ | ⟨task, cause, rfl, rfl⟩ | ⟨children, sets, rfl, hsets⟩
        · exact ⟨_, [], [], (List.append_nil _).symm, .refused _ husable,
            List.nil_prefix, fun _ _ => rfl⟩
        · exact ⟨_, [], [], (List.append_nil _).symm, .refused _ husable,
            List.nil_prefix, fun _ _ => rfl⟩
        · have hplan := setAll_sets mask (cascadeTargets children threads)
          refine ⟨[_], sets, _, rfl, .answered children husable,
            hplan.tried hsets, ?_⟩
          rintro outcomes rfl
          exact hplan.finished hsets
  · next hparent =>
      obtain ⟨rfl, rfl⟩ := goes_pure_iff.1 h
      refine ⟨[], [], [], rfl, .unused ?_, List.nil_prefix, fun _ _ => rfl⟩
      simp [CommandRule.usableParent?, hparent]

/-! ## Both steps -/

/-- Both steps together follow the plan of the first and then that of the
second. -/
theorem goes_applySteps_shape {process : ProcessInfo} {rule : CommandRule}
    {threads : List ThreadInfo} {events : List Event}
    {r : Except PinError (List Outcome)}
    (h : (applySteps opts process rule threads).Goes events r) :
    ∃ asked sets inherited, events = asked ++ sets ∧
      HandsDown opts process rule threads asked inherited ∧
      sets.map Event.setting? <+:
        (inherited ++ rule.ownSettings opts threads).map some ∧
      ∀ outcomes, r = .ok outcomes →
        Attempts sets (inherited ++ rule.ownSettings opts threads) := by
  rcases goes_applySteps_cases h with
    ⟨e, hfirst, rfl⟩ | ⟨first, second, os, r', rfl, hfirst, hsecond, rfl⟩
  · obtain ⟨asked, sets, inherited, rfl, hasked, htried, -⟩ :=
      goes_applyParent_shape hfirst
    refine ⟨asked, sets, inherited, rfl, hasked, ?_, fun _ h => by cases h⟩
    rw [List.map_append]
    exact htried.trans (List.prefix_append _ _)
  · obtain ⟨asked, sets, inherited, rfl, hasked, -, hall⟩ :=
      goes_applyParent_shape hfirst
    have hinherited : Attempts sets inherited := hall os rfl
    have hown : (applyThreadRules opts rule threads).Sets _ :=
      applyThreadRules_sets rule threads
    refine ⟨asked, sets ++ second, inherited, by simp, hasked, ?_, ?_⟩
    · rw [List.map_append, List.map_append, hinherited,
        List.prefix_append_right_inj]
      exact hown.tried hsecond
    · intro outcomes hr
      cases r' with
      | error e => cases hr
      | ok own =>
          rw [Attempts, List.map_append, List.map_append, hinherited,
            hown.finished hsecond]

/-- A match asks for its threads at most once, and first of all. -/
theorem goes_apply_shape {process : ProcessInfo} {rule : CommandRule}
    {events : List Event} {r : Except PinError (List Outcome)}
    (h : (apply opts process rule).Goes events r) :
    (rule.isEmpty = true ∧ events = []) ∨
      (∃ e, events = [⟨.threads process.pid, .error e⟩]) ∨
      ∃ threads asked sets inherited,
        events = ⟨.threads process.pid, .ok threads⟩ :: (asked ++ sets) ∧
          HandsDown opts process rule threads asked inherited ∧
          sets.map Event.setting? <+:
            (inherited ++ rule.ownSettings opts threads).map some ∧
          ∀ outcomes, r = .ok outcomes →
            Attempts sets (inherited ++ rule.ownSettings opts threads) := by
  rcases goes_apply_cases h with ⟨hempty, rfl, -⟩ | ⟨-, hcases⟩
  · exact .inl ⟨hempty, rfl⟩
  · right
    rcases hcases with
      ⟨gone, rfl, -⟩ | ⟨task, cause, rfl, -⟩ | ⟨threads, rest, rfl, hrest⟩
    · exact .inl ⟨_, rfl⟩
    · exact .inl ⟨_, rfl⟩
    · obtain ⟨asked, sets, inherited, rfl, hsteps⟩ := goes_applySteps_shape hrest
      exact .inr ⟨threads, asked, sets, inherited, rfl, hsteps⟩

/-! ## Announcements -/

theorem HandsDown.announced_eq_nil {process : ProcessInfo} {rule : CommandRule}
    {threads : List ThreadInfo} {asked : List Event} {inherited : List Setting}
    (h : HandsDown opts process rule threads asked inherited) :
    announced asked = [] := by
  cases h <;> rfl

theorem goes_apply_announced {process : ProcessInfo} {rule : CommandRule}
    {events : List Event} {r : Except PinError (List Outcome)}
    (h : (apply opts process rule).Goes events r) : announced events = [] := by
  rcases goes_apply_shape h with
    ⟨-, rfl⟩ | ⟨e, rfl⟩ | ⟨threads, asked, sets, inherited, rfl, hasked, htried, -⟩
  · rfl
  · rfl
  · obtain ⟨tried, -, hsets⟩ := exists_attempts_of_isPrefix htried
    have hrest : announced (asked ++ sets) = [] := by
      rw [announced_append, hasked.announced_eq_nil, hsets.announced_eq_nil,
        List.append_nil]
    exact hrest

/-- The matches that went through were announced, in order, and no others. -/
theorem goes_runMatches_announced {ms : List Match} {log : List Event}
    {reports : List MatchReport}
    (h : (runMatches opts ms).Goes log (.ok reports)) : announced log = ms := by
  induction ms generalizing log reports with
  | nil =>
      obtain ⟨rfl, -⟩ := goes_pure_iff.1 h
      rfl
  | cons m ms ih =>
      obtain ⟨first, second, outcomes, rest, rfl, hm, hms, -⟩ :=
        goes_runMatches_cons_ok h
      have hrest : announced (first ++ second) = ms := by
        rw [announced_append, goes_apply_announced hm, ih hms, List.nil_append]
      change m :: announced (first ++ second) = m :: ms
      rw [hrest]

end CpuPinning
