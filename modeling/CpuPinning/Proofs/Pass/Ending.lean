import CpuPinning.Proofs.Pass.Plan

/-!
# How courses end

A course ends with a value when no call failed, and with an error at the first
call that did; the error then is that of the call.  The only other end is that
a thread is claimed by several rules.  Conversely, a step goes through whenever
its plan is carried out and no call fails.
-/

namespace CpuPinning

open Pass

variable {opts : Options}

/-! ## The three ends -/

/-- How a log fits a result: all went well, or the last call of the log failed,
or all went well but several rules claim a thread. -/
inductive Ends {α : Type} : List Event → Except PinError α → Prop
  | value {log : List Event} (a : α) : Undisturbed log → Ends log (.ok a)
  | failure {log : List Event} {call : Event} {e : TaskError} :
      Undisturbed log → call.failure? = some e →
      Ends (log ++ [call]) (.error (.task e))
  | ambiguity {log : List Event} (thread : String) (tid : Nat)
      (rules : List String) :
      Undisturbed log → Ends log (.error (.ambiguous thread tid rules))

namespace Ends

variable {α β : Type}

theorem undisturbed {log : List Event} {a : α} (h : Ends log (.ok a)) :
    Undisturbed log := by
  cases h with
  | value _ h => exact h

/-- What went well before does not change how a log ends. -/
theorem append {first second : List Event} {r : Except PinError α}
    (hfirst : Undisturbed first) (h : Ends second r) :
    Ends (first ++ second) r := by
  cases h with
  | value a h => exact .value a (undisturbed_append.2 ⟨hfirst, h⟩)
  | failure h hcall =>
      rw [← List.append_assoc]
      exact .failure (undisturbed_append.2 ⟨hfirst, h⟩) hcall
  | ambiguity thread tid rules h =>
      exact .ambiguity thread tid rules (undisturbed_append.2 ⟨hfirst, h⟩)

theorem cons {e : Event} {log : List Event} {r : Except PinError α}
    (he : e.failure? = none) (h : Ends log r) : Ends (e :: log) r :=
  append (undisturbed_cons.2 ⟨he, undisturbed_nil⟩) h

/-- The value does not matter for how a log ends. -/
theorem map {log : List Event} {r : Except PinError α} (f : α → β)
    (h : Ends log r) : Ends log (r.map f) := by
  cases h with
  | value a h => exact .value (f a) h
  | failure h hcall => exact .failure h hcall
  | ambiguity thread tid rules h => exact .ambiguity thread tid rules h

theorem error {log : List Event} {e : PinError}
    (h : Ends log (.error e : Except PinError α)) :
    Ends log (.error e : Except PinError β) := by
  cases h with
  | failure h hcall => exact .failure h hcall
  | ambiguity thread tid rules h => exact .ambiguity thread tid rules h

/-- A call fails only at the end of a log, and its error is the result. -/
theorem eq_of_failure? {log : List Event} {r : Except PinError α} {call : Event}
    {e : TaskError} (h : Ends log r) (hcall : call ∈ log)
    (he : call.failure? = some e) :
    r = .error (.task e) ∧ ∃ rest, log = rest ++ [call] ∧ Undisturbed rest := by
  cases h with
  | value a h =>
      rw [h call hcall] at he
      cases he
  | ambiguity thread tid rules h =>
      rw [h call hcall] at he
      cases he
  | @failure rest last e' h hlast =>
      rcases List.mem_append.1 hcall with hmem | hmem
      · rw [h call hmem] at he
        cases he
      · obtain rfl := List.mem_singleton.1 hmem
        rw [hlast] at he
        cases he
        exact ⟨rfl, rest, rfl, h⟩

end Ends

namespace Pass

variable {α β : Type}

/-- Every course of the pass has one of the three ends. -/
structure Orderly (p : Pass α) : Prop where
  ends : ∀ {log r}, p.Goes log r → Ends log r

theorem Orderly.pure (a : α) : (pure a : Pass α).Orderly where
  ends h := by
    obtain ⟨rfl, rfl⟩ := goes_pure_iff.1 h
    exact .value a undisturbed_nil

theorem Orderly.bind {p : Pass α} {f : α → Pass β} (hp : p.Orderly)
    (hf : ∀ a, (f a).Orderly) : (p >>= f).Orderly where
  ends h := by
    rcases goes_bind_iff.1 h with
      ⟨first, a, second, rfl, hfirst, hsecond⟩ | ⟨e, hfirst, rfl⟩
    · exact ((hf a).ends hsecond).append (hp.ends hfirst).undisturbed
    · exact (hp.ends hfirst).error

end Pass

theorem setMask_orderly (id : Nat) (target : Target) (mask : CpuMask)
    (source : MaskSource) : (setMask id target mask source).Orderly where
  ends h := by
    rcases goes_setMask_cases h with
      ⟨rfl, rfl⟩ | ⟨gone, rfl, rfl⟩ | ⟨task, cause, rfl, rfl⟩
    · exact .value _ (by simp [Undisturbed, Event.failure?])
    · exact .value _ (by simp [Undisturbed, Event.failure?])
    · rw [← List.nil_append [_]]
      exact .failure undisturbed_nil rfl

theorem setAll_orderly (mask : CpuMask) (targets : List Target) :
    (setAll mask targets).Orderly := by
  induction targets with
  | nil => exact .pure []
  | cons target targets ih =>
      exact (setMask_orderly _ _ _ _).bind fun o => ih.bind fun os => .pure _

theorem applyParent_orderly (process : ProcessInfo) (rule : CommandRule)
    (threads : List ThreadInfo) :
    (applyParent opts process rule threads).Orderly where
  ends h := by
    unfold applyParent at h
    split at h
    · rcases goes_cascade_cases h with ⟨-, rfl, rfl⟩ | ⟨-, hcases⟩
      · exact .value _ undisturbed_nil
      · rcases hcases with
          ⟨gone, rfl, rfl⟩ | ⟨task, cause, rfl, rfl⟩ | ⟨children, sets, rfl, hsets⟩
        · exact .value _ (by simp [Undisturbed, Event.failure?])
        · rw [← List.nil_append [_]]
          exact .failure undisturbed_nil rfl
        · exact ((setAll_orderly _ _).ends hsets).cons rfl
    · exact (Orderly.pure _).ends h

theorem applyToThread_orderly (rules : List ThreadRule) (thread : ThreadInfo) :
    (applyToThread opts rules thread).Orderly where
  ends h := by
    rcases goes_applyToThread_cases h with
      ⟨-, rfl, rfl⟩ | ⟨rule, -, hone⟩ | ⟨-, rfl, hmany⟩
    · exact .value _ undisturbed_nil
    · rcases hone with ⟨-, rfl, rfl⟩ | ⟨-, r', hset, rfl⟩
      · exact .value _ undisturbed_nil
      · exact ((setMask_orderly _ _ _ _).ends hset).map _
    · rcases hmany with ⟨-, rfl⟩ | ⟨-, rfl⟩
      · exact .ambiguity _ _ _ undisturbed_nil
      · exact .value _ undisturbed_nil

theorem applyToThreads_orderly (rules : List ThreadRule)
    (threads : List ThreadInfo) :
    (applyToThreads opts rules threads).Orderly := by
  induction threads with
  | nil => exact .pure []
  | cons thread threads ih =>
      exact (applyToThread_orderly _ _).bind fun os => ih.bind fun ps => .pure _

theorem applyThreadRules_orderly (rule : CommandRule)
    (threads : List ThreadInfo) :
    (applyThreadRules opts rule threads).Orderly := by
  unfold applyThreadRules
  cases rule.threads with
  | none => exact .pure []
  | some rules => exact applyToThreads_orderly rules threads

theorem apply_orderly (process : ProcessInfo) (rule : CommandRule) :
    (apply opts process rule).Orderly where
  ends h := by
    rcases goes_apply_cases h with ⟨-, rfl, rfl⟩ | ⟨-, hcases⟩
    · exact .value _ undisturbed_nil
    · rcases hcases with
        ⟨gone, rfl, rfl⟩ | ⟨task, cause, rfl, rfl⟩ | ⟨threads, rest, rfl, hrest⟩
      · exact .value _ (by simp [Undisturbed, Event.failure?])
      · rw [← List.nil_append [_]]
        exact .failure undisturbed_nil rfl
      · have hsteps : (applySteps opts process rule threads).Orderly :=
          (applyParent_orderly _ _ _).bind fun os =>
            (applyThreadRules_orderly _ _).bind fun ps => .pure _
        exact (hsteps.ends hrest).cons rfl

theorem runMatches_orderly (ms : List Match) : (runMatches opts ms).Orderly := by
  induction ms with
  | nil => exact .pure []
  | cons m ms ih =>
      refine ⟨fun h => ?_⟩
      rcases goes_runMatches_cons_cases h with
        ⟨rest, e, rfl, hm, rfl⟩ | ⟨first, second, outcomes, r', rfl, hm, hms, rfl⟩
      · exact ((apply_orderly _ _).ends hm).error.cons rfl
      · have hfirst : Undisturbed first :=
          ((apply_orderly _ _).ends hm).undisturbed
        exact (((ih.ends hms).map _).append hfirst).cons rfl

/-! ## Steps that go through -/

namespace Pass

variable {α β : Type}

/-- The pass goes through with every log that carries `plan` out undisturbed. -/
structure Completes (p : Pass α) (plan : List Setting) : Prop where
  goes : ∀ {log}, Attempts log plan → Undisturbed log → ∃ a, p.Goes log (.ok a)

theorem Completes.pure (a : α) : (pure a : Pass α).Completes [] where
  goes hlog _ := ⟨a, goes_pure_iff.2 ⟨attempts_nil_iff.1 hlog, rfl⟩⟩

theorem Completes.bind {p : Pass α} {f : α → Pass β}
    {first second : List Setting} (hp : p.Completes first)
    (hf : ∀ a, (f a).Completes second) :
    (p >>= f).Completes (first ++ second) where
  goes hlog hcalm := by
    obtain ⟨log, rest, rfl, hlog, hrest⟩ := exists_append_of_attempts_append hlog
    obtain ⟨hcalm₁, hcalm₂⟩ := undisturbed_append.1 hcalm
    obtain ⟨a, hfirst⟩ := hp.goes hlog hcalm₁
    obtain ⟨b, hsecond⟩ := (hf a).goes hrest hcalm₂
    exact ⟨b, hfirst.bind_ok hsecond⟩

theorem Completes.map {p : Pass α} {plan : List Setting} (hp : p.Completes plan)
    (f : α → β) : (p >>= fun a => Pure.pure (f a)).Completes plan := by
  have h : (p >>= fun a => Pure.pure (f a)).Completes (plan ++ []) :=
    hp.bind fun a => Completes.pure (f a)
  rwa [List.append_nil] at h

end Pass

theorem setMask_completes (id : Nat) (target : Target) (mask : CpuMask)
    (source : MaskSource) :
    (setMask id target mask source).Completes [(id, mask)] where
  goes hlog hcalm := by
    obtain ⟨answer, rfl⟩ := exists_of_attempts_singleton hlog
    match answer with
    | .ok () => exact ⟨_, .ask _ (.done _)⟩
    | .error (.vanished gone) => exact ⟨_, .ask _ (.done _)⟩
    | .error (.failed task cause) =>
        have hnone := (undisturbed_cons.1 hcalm).1
        cases hnone

theorem setAll_completes (mask : CpuMask) (targets : List Target) :
    (setAll mask targets).Completes
      (targets.map fun target => (target.id, mask)) := by
  induction targets with
  | nil => exact .pure []
  | cons target targets ih =>
      exact (setMask_completes _ _ _ _).bind fun o => ih.map (o :: ·)

/-- With a usable parent mask, the first step goes through after an answer on
the descendants as what follows that answer does. -/
theorem goes_applyParent_of_usable {process : ProcessInfo} {rule : CommandRule}
    {threads : List ThreadInfo} {mask : CpuMask}
    (h : rule.usableParent? opts = some mask) :
    (∀ gone, (applyParent opts process rule threads).Goes
        [⟨.children process.pid, .error (.vanished gone)⟩]
        (.ok [.vanished (.process process.pid)])) ∧
      ∀ {children sets r},
        (setAll mask (cascadeTargets children threads)).Goes sets r →
        (applyParent opts process rule threads).Goes
          (⟨.children process.pid, .ok children⟩ :: sets) r := by
  obtain ⟨hparent, hrange⟩ := Option.filter_eq_some_iff.1 h
  unfold applyParent cascade
  simp only [hparent]
  rw [if_neg (by simpa using hrange)]
  exact ⟨fun gone => .ask _ (.done _), fun hsets => .ask _ hsets⟩

/-- The first step goes through where its plan is carried out. -/
theorem applyParent_goes_of_handsDown {process : ProcessInfo}
    {rule : CommandRule} {threads : List ThreadInfo} {asked sets : List Event}
    {inherited : List Setting}
    (hasked : HandsDown opts process rule threads asked inherited)
    (hsets : Attempts sets inherited) (hcalm : Undisturbed (asked ++ sets)) :
    ∃ os, (applyParent opts process rule threads).Goes (asked ++ sets)
      (.ok os) := by
  cases hasked with
  | unused hnone =>
      obtain rfl := attempts_nil_iff.1 hsets
      unfold applyParent
      cases hparent : rule.parent with
      | none => exact ⟨_, .done _⟩
      | some mask =>
          have hrange : mask.exceeds opts.cpuCount = true := by
            simpa [CommandRule.usableParent?, hparent] using hnone
          refine ⟨[.outOfRange none mask .parent opts.cpuCount], ?_⟩
          unfold cascade
          simp only [hrange]
          exact .done _
  | refused e hmask =>
      obtain rfl := attempts_nil_iff.1 hsets
      cases e with
      | vanished gone => exact ⟨_, (goes_applyParent_of_usable hmask).1 gone⟩
      | failed task cause =>
          have hnone := (undisturbed_cons.1 hcalm).1
          cases hnone
  | @answered mask children hmask =>
      have hall := setAll_completes mask (cascadeTargets children threads)
      obtain ⟨os, hos⟩ := hall.goes hsets (undisturbed_cons.1 hcalm).2
      exact ⟨os, (goes_applyParent_of_usable hmask).2 hos⟩

/-- A thread has its turn without an end to the pass: under the strict policy at
most one rule claims it. -/
def Passable (opts : Options) (rules : List ThreadRule) (thread : ThreadInfo) :
    Prop :=
  opts.policy = .abort → (claiming rules thread).length < 2

theorem applyToThread_completes {rules : List ThreadRule} {thread : ThreadInfo}
    (h : Passable opts rules thread) :
    (applyToThread opts rules thread).Completes
      (ownSettings opts rules [thread]) := by
  unfold applyToThread
  split
  · next hclaim =>
      simpa [ownSettings, ownMask?_eq_none_of_nil hclaim] using Completes.pure _
  · next rule hclaim =>
      dsimp only
      split
      · next hrange =>
          simpa [ownSettings, ownMask?, hclaim, hrange] using Completes.pure _
      · next hrange =>
          simpa [ownSettings, ownMask?, hclaim, hrange] using
            (setMask_completes _ _ _ _).map ([·])
  · next hnone hone =>
      have htwo : 2 ≤ (claiming rules thread).length :=
        two_le_length_of_ne hnone hone
      have hmask : ownMask? opts rules thread = none :=
        ownMask?_eq_none_of_two_le htwo
      dsimp only
      split
      · next hpolicy => exact absurd (h hpolicy) (Nat.not_lt.2 htwo)
      · simpa [ownSettings, hmask] using Completes.pure _

theorem applyToThreads_completes {rules : List ThreadRule}
    {threads : List ThreadInfo} (h : ∀ t ∈ threads, Passable opts rules t) :
    (applyToThreads opts rules threads).Completes
      (ownSettings opts rules threads) := by
  induction threads with
  | nil => exact .pure []
  | cons thread threads ih =>
      rw [ownSettings_cons]
      have hthread := applyToThread_completes (h thread List.mem_cons_self)
      have hthreads := ih fun t ht => h t (List.mem_cons_of_mem _ ht)
      exact hthread.bind fun os => hthreads.map (os ++ ·)

/-- Where the thread rules went through, every thread was passable. -/
theorem passable_of_goes {rules : List ThreadRule} {threads : List ThreadInfo}
    {log : List Event} {outcomes : List Outcome}
    (h : (applyToThreads opts rules threads).Goes log (.ok outcomes)) :
    ∀ t ∈ threads, Passable opts rules t := by
  induction threads generalizing log outcomes with
  | nil => simp
  | cons thread threads ih =>
      obtain ⟨first, second, own, rest, rfl, hfirst, hsecond, -⟩ :=
        goes_applyToThreads_cons_ok h
      intro t ht
      rcases List.mem_cons.1 ht with rfl | ht
      · intro hpolicy
        rcases goes_applyToThread_cases hfirst with
          ⟨hclaim, -, -⟩ | ⟨rule, hclaim, -⟩ | ⟨-, -, ⟨-, hr⟩ | ⟨hskip, -⟩⟩
        · simp [hclaim]
        · simp [hclaim]
        · cases hr
        · rw [hpolicy] at hskip
          cases hskip
      · exact ih hsecond t ht

end CpuPinning
