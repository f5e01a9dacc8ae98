import CpuPinning.Proofs.Pass.Ending

/-!
# When a pass breaks off

A pass ends with an error for three reasons: the processes could not be listed,
a call on a task failed, or, under the strict policy, the thread rules came to a
thread that several of them claim.  The last reason is not a matter of calls, so
it is read off the log with a `Turn`: what the log holds when the thread rules
come to a thread.
-/

namespace CpuPinning

open Pass
open Proc.ProcFs (announced)

variable {opts : Options}

/-! ## Turns -/

/-- The thread rules of a match have come to a thread: the first step is done,
the threads before this one have had their turn, no call failed, and for the
thread itself and for those that wait the thread rules have tried nothing. -/
structure Turn (opts : Options) (m : Match) where
  rules : List ThreadRule
  passed : List ThreadInfo
  thread : ThreadInfo
  waiting : List ThreadInfo
  asked : List Event
  inherited : List Setting
  sets : List Event
  rules_eq : m.rule.threads = some rules
  handsDown : HandsDown opts m.process m.rule (passed ++ thread :: waiting)
    asked inherited
  attempts : Attempts sets (inherited ++ ownSettings opts rules passed)
  undisturbed : Undisturbed (asked ++ sets)
  passable : ∀ t ∈ passed, Passable opts rules t

namespace Turn

variable {m : Match}

/-- The call for the threads, with all of them. -/
def listing (turn : Turn opts m) : Event :=
  ⟨.threads m.process.pid, .ok (turn.passed ++ turn.thread :: turn.waiting)⟩

/-- What the match has asked so far. -/
def log (turn : Turn opts m) : List Event :=
  turn.listing :: (turn.asked ++ turn.sets)

/-- The rules that claim the thread. -/
def claims (turn : Turn opts m) : List ThreadRule :=
  claiming turn.rules turn.thread

/-- The error for a thread that several rules claim. -/
def refusal (turn : Turn opts m) : PinError :=
  .ambiguous turn.thread.name turn.thread.tid (turn.claims.map ThreadRule.text)

/-- The turn is reached somewhere in a log. -/
def IsIn (turn : Turn opts m) (log : List Event) : Prop :=
  ∃ before after, log = before ++ ⟨.announce m, ()⟩ :: (turn.log ++ after)

/-- Several rules claim the thread, and the policy does not let this pass. -/
def IsRefused (turn : Turn opts m) : Prop :=
  opts.policy = .abort ∧ 2 ≤ turn.claims.length

end Turn

/-! ## Threads in a row -/

theorem goes_applyToThreads_append {rules : List ThreadRule}
    {threads waiting : List ThreadInfo} {first second : List Event}
    {os : List Outcome} {e : PinError}
    (hthreads : (applyToThreads opts rules threads).Goes first (.ok os))
    (hwaiting : (applyToThreads opts rules waiting).Goes second (.error e)) :
    (applyToThreads opts rules (threads ++ waiting)).Goes (first ++ second)
      (.error e) := by
  induction threads generalizing first os with
  | nil =>
      obtain ⟨rfl, -⟩ := goes_pure_iff.1 hthreads
      exact hwaiting
  | cons thread threads ih =>
      obtain ⟨log, rest, own, ps, rfl, hthread, hrest, -⟩ :=
        goes_applyToThreads_cons_ok hthreads
      rw [List.append_assoc]
      exact hthread.bind_ok (ih hrest).bind_error

/-- Under the strict policy a thread that several rules claim is refused. -/
theorem applyToThread_eq_fail {rules : List ThreadRule} {thread : ThreadInfo}
    (hpolicy : opts.policy = .abort) (h : 2 ≤ (claiming rules thread).length) :
    applyToThread opts rules thread =
      .fail (.ambiguous thread.name thread.tid
        ((claiming rules thread).map ThreadRule.text)) := by
  unfold applyToThread
  split
  · next hclaim => simp [hclaim] at h
  · next rule hclaim => simp [hclaim] at h
  · simp only [hpolicy]

/-- Thread rules that end with an ambiguous thread have come to this thread. -/
theorem goes_applyToThreads_ambiguous {rules : List ThreadRule}
    {threads : List ThreadInfo} {log : List Event} {name : String} {tid : Nat}
    {texts : List String}
    (h : (applyToThreads opts rules threads).Goes log
      (.error (.ambiguous name tid texts))) :
    ∃ passed thread waiting os, threads = passed ++ thread :: waiting ∧
      (applyToThreads opts rules passed).Goes log (.ok os) ∧
      opts.policy = .abort ∧ 2 ≤ (claiming rules thread).length ∧
      name = thread.name ∧ tid = thread.tid ∧
      texts = (claiming rules thread).map ThreadRule.text := by
  induction threads generalizing log with
  | nil => simp [applyToThreads, goes_pure_iff] at h
  | cons thread threads ih =>
      rcases goes_bind_iff.1 h with
        ⟨first, os, second, rfl, hfirst, hsecond⟩ | ⟨e, hfirst, he⟩
      · obtain ⟨passed, thread', waiting, ps, rfl, hpassed, hmany⟩ :=
          ih (goes_map_error_iff.1 hsecond)
        refine ⟨thread :: passed, thread', waiting, os ++ ps, rfl, ?_, hmany⟩
        exact hfirst.bind_ok (goes_map_ok_iff.2 ⟨ps, hpassed, rfl⟩)
      · cases he
        rcases goes_applyToThread_cases hfirst with
          ⟨-, -, hr⟩ | ⟨rule, -, hone⟩ | ⟨htwo, rfl, hmany⟩
        · cases hr
        · rcases hone with ⟨-, -, hr⟩ | ⟨-, r', hset, hr⟩
          · cases hr
          · rcases goes_setMask_cases hset with
              ⟨-, rfl⟩ | ⟨gone, -, rfl⟩ | ⟨task, cause, -, rfl⟩ <;> cases hr
        · rcases hmany with ⟨hpolicy, hr⟩ | ⟨-, hr⟩
          · cases hr
            exact ⟨[], thread, threads, [], rfl, .done _, hpolicy, htwo, rfl, rfl,
              rfl⟩
          · cases hr

/-! ## Turns and courses -/

theorem setAll_error {mask : CpuMask} {targets : List Target} {log : List Event}
    {e : PinError} (h : (setAll mask targets).Goes log (.error e)) :
    ∃ cause, e = .task cause := by
  induction targets generalizing log with
  | nil => simp [setAll, goes_pure_iff] at h
  | cons target targets ih =>
      rcases goes_bind_iff.1 h with
        ⟨first, o, second, rfl, -, hsecond⟩ | ⟨e', hfirst, he⟩
      · exact ih (goes_map_error_iff.1 hsecond)
      · cases he
        rcases goes_setMask_cases hfirst with
          ⟨-, hr⟩ | ⟨gone, -, hr⟩ | ⟨task, cause, -, hr⟩ <;> cases hr
        exact ⟨_, rfl⟩

/-- The first step fails only with a call. -/
theorem applyParent_error {process : ProcessInfo} {rule : CommandRule}
    {threads : List ThreadInfo} {log : List Event} {e : PinError}
    (h : (applyParent opts process rule threads).Goes log (.error e)) :
    ∃ cause, e = .task cause := by
  unfold applyParent at h
  split at h
  · rcases goes_cascade_cases h with ⟨-, -, hr⟩ | ⟨-, hcases⟩
    · cases hr
    · rcases hcases with
        ⟨gone, -, hr⟩ | ⟨task, cause, -, hr⟩ | ⟨children, sets, -, hsets⟩
      · cases hr
      · cases hr
        exact ⟨_, rfl⟩
      · exact setAll_error hsets
  · simp [goes_pure_iff] at h

/-- A match that ends with an ambiguous thread has come to the turn of this
thread. -/
theorem exists_turn_of_ambiguous {m : Match} {log : List Event} {name : String}
    {tid : Nat} {texts : List String}
    (h : (apply opts m.process m.rule).Goes log
      (.error (.ambiguous name tid texts))) :
    ∃ turn : Turn opts m, turn.IsRefused ∧ log = turn.log := by
  have hcalm : Undisturbed log := by
    cases (apply_orderly _ _).ends h with
    | ambiguity _ _ _ hcalm => exact hcalm
  rcases goes_apply_cases h with ⟨-, -, hr⟩ | ⟨-, hcases⟩
  · cases hr
  · rcases hcases with
      ⟨gone, -, hr⟩ | ⟨task, cause, -, hr⟩ | ⟨threads, rest, rfl, hrest⟩
    · cases hr
    · cases hr
    · rcases goes_applySteps_cases hrest with
        ⟨e, hfirst, hr⟩ | ⟨first, second, os, r', rfl, hfirst, hsecond, hr⟩
      · obtain ⟨cause, rfl⟩ := applyParent_error hfirst
        cases hr
      · cases r' with
        | ok own => cases hr
        | error e =>
            cases hr
            obtain ⟨asked, sets, inherited, rfl, hasked, -, hall⟩ :=
              goes_applyParent_shape hfirst
            unfold applyThreadRules at hsecond
            cases hrules : m.rule.threads with
            | none => simp [hrules, goes_pure_iff] at hsecond
            | some rules =>
                simp only [hrules] at hsecond
                obtain ⟨passed, thread, waiting, ps, rfl, hpassed, hpolicy, htwo,
                  -⟩ := goes_applyToThreads_ambiguous hsecond
                have hown : Attempts second (ownSettings opts rules passed) :=
                  (applyToThreads_sets rules passed).finished hpassed
                refine ⟨⟨rules, passed, thread, waiting, asked, inherited,
                  sets ++ second, hrules, hasked,
                  attempts_append (hall os rfl) hown, ?_,
                  passable_of_goes hpassed⟩, ⟨hpolicy, htwo⟩, ?_⟩
                · rw [← List.append_assoc]
                  exact (undisturbed_cons.1 hcalm).2
                · simp [Turn.log, Turn.listing]

/-- The turn of a thread that several rules claim is the end of its match. -/
theorem Turn.goes_apply {m : Match} (turn : Turn opts m) (h : turn.IsRefused) :
    (apply opts m.process m.rule).Goes turn.log (.error turn.refusal) := by
  have hempty : ¬ m.rule.isEmpty = true := by
    simp [CommandRule.isEmpty, turn.rules_eq]
  obtain ⟨first, second, hsets, hfirst, hsecond⟩ :=
    exists_append_of_attempts_append turn.attempts
  have hcalm : Undisturbed (turn.asked ++ first) ∧ Undisturbed second := by
    rw [← undisturbed_append, List.append_assoc, ← hsets]
    exact turn.undisturbed
  obtain ⟨os, hparent⟩ :=
    applyParent_goes_of_handsDown turn.handsDown hfirst hcalm.1
  obtain ⟨ps, hpassed⟩ :=
    (applyToThreads_completes turn.passable).goes hsecond hcalm.2
  have hthread : (applyToThreads opts turn.rules (turn.thread :: turn.waiting)).Goes
      [] (.error turn.refusal) := by
    refine Goes.bind_error ?_
    rw [applyToThread_eq_fail h.1 h.2]
    exact .done _
  have hown := goes_applyToThreads_append hpassed hthread
  unfold apply
  rw [if_neg hempty]
  refine .ask _ ?_
  rw [hsets, ← List.append_assoc]
  refine hparent.bind_ok (Goes.bind_error ?_)
  unfold applyThreadRules
  rw [turn.rules_eq, ← List.append_nil second]
  exact hown

/-! ## Whole passes -/

/-- The pass breaks off while `m` is applied, with `rest` after its
announcement: the matches before `m` were announced in order, no call failed
before, and no match was announced since. -/
def BreaksOff (rules : RuleSet) (log : List Event) (m : Match)
    (rest : List Event) : Prop :=
  ∃ processes earlier later before,
    log = ⟨.processes, .ok processes⟩ ::
      (before ++ ⟨.announce m, ()⟩ :: rest) ∧
    matchProcesses rules processes = earlier ++ m :: later ∧
    announced before = earlier ∧ announced rest = [] ∧ Undisturbed before

/-- A match asks neither for the processes, nor for its threads a second time. -/
theorem goes_apply_listing {m : Match} {since rest : List Event} {e : Event}
    {r : Except PinError (List Outcome)}
    (h : (apply opts m.process m.rule).Goes (since ++ e :: rest) r) :
    (∀ a, e ≠ ⟨.processes, a⟩) ∧
      ∀ pid a, e = ⟨.threads pid, a⟩ → since = [] := by
  have hsome : e.setting?.isSome = true → (∀ a, e ≠ ⟨.processes, a⟩) ∧
      ∀ pid a, e = ⟨.threads pid, a⟩ → since = [] := by
    intro hset
    refine ⟨fun a ha => ?_, fun pid a ha => ?_⟩ <;> subst ha <;> cases hset
  rcases goes_apply_shape h with
    ⟨-, hnil⟩ | ⟨cause, hone⟩ |
      ⟨threads, asked, sets, inherited, hevents, hasked, htried, -⟩
  · simp at hnil
  · rcases List.append_eq_singleton_iff.1 hone with ⟨rfl, he⟩ | ⟨-, he⟩
    · cases he
      exact ⟨fun a ha => (by cases ha), fun _ _ _ => rfl⟩
    · cases he
  · cases since with
    | nil =>
        obtain ⟨rfl, -⟩ := List.cons.inj hevents
        exact ⟨fun a ha => (by cases ha), fun _ _ _ => rfl⟩
    | cons e₀ since =>
        obtain ⟨-, hsplit⟩ := List.cons.inj hevents
        rcases append_cons_eq_append_cases hsplit with
          ⟨rest', hmem, -⟩ | ⟨mid, rfl, rfl⟩
        · cases hasked <;> simp [List.cons_eq_append_iff] at hmem
          all_goals
            obtain ⟨-, rfl, -⟩ := hmem
            exact ⟨fun a ha => (by cases ha), fun pid a ha => (by cases ha)⟩
        · obtain ⟨tried, -, hsets⟩ := exists_attempts_of_isPrefix htried
          exact hsome (hsets.isSome_of_mem (by simp))

/-- A pass lists the processes only once. -/
theorem goes_runMatches_processes {ms : List Match} {log : List Event}
    {r : Except PinError (List MatchReport)}
    (h : (runMatches opts ms).Goes log r) :
    ∀ a, ⟨.processes, a⟩ ∉ log := by
  intro a hmem
  obtain ⟨before, after, rfl⟩ := List.append_of_mem hmem
  obtain ⟨_, _, _, _, _, _, _, _, _, -, -, -, -, hm, -⟩ :=
    goes_runMatches_split h (by simp)
  exact (goes_apply_listing hm).1 a rfl

/-- A failing match ends the log, and the pass breaks off there. -/
theorem breaksOff_of_goes {rules : RuleSet} {processes : List ProcessInfo}
    {rest : List Event} {e : PinError}
    (h : (runMatches opts (matchProcesses rules processes)).Goes rest (.error e)) :
    ∃ m log, (apply opts m.process m.rule).Goes log (.error e) ∧
      BreaksOff rules (⟨.processes, .ok processes⟩ :: rest) m log := by
  obtain ⟨earlier, m, later, before, reports, log, hms, rfl, hbefore, hm⟩ :=
    goes_runMatches_error h
  exact ⟨m, log, hm, processes, earlier, later, before, rfl, hms,
    goes_runMatches_announced hbefore, goes_apply_announced hm,
    ((runMatches_orderly _).ends hbefore).undisturbed⟩

/-- A failing call is the last one, and it decides the error. -/
theorem goes_run_failure {rules : RuleSet} {log : List Event}
    {r : Except PinError RunReport} (h : (run rules opts).Goes log r)
    {call : Event} {e : TaskError} (hcall : call ∈ log)
    (he : call.failure? = some e) :
    r = .error (.task e) ∧ ∃ m rest,
      BreaksOff rules log m (rest ++ [call]) ∧ Undisturbed rest := by
  rcases goes_run_cases h with
    ⟨cause, rfl, -⟩ | ⟨processes, rest, r', rfl, hrest, rfl⟩
  · obtain rfl := List.mem_singleton.1 hcall
    cases he
  · rcases List.mem_cons.1 hcall with rfl | hcall
    · cases he
    · obtain ⟨rfl, calm, hlast, -⟩ :=
        ((runMatches_orderly _).ends hrest).eq_of_failure? hcall he
      obtain ⟨m, log, hm, hbreak⟩ := breaksOff_of_goes hrest
      refine ⟨rfl, m, ?_⟩
      cases (apply_orderly _ _).ends hm with
      | @failure rest' call' _ hcalm hcall' =>
          -- the last call of the match is the last call of the pass
          obtain ⟨_, _, _, before, hlog, -⟩ := id hbreak
          obtain ⟨-, rfl⟩ : calm = _ ∧ call = call' := by
            have hsame := (List.cons.inj hlog).2.symm.trans hlast
            rw [← List.cons_append, ← List.append_assoc] at hsame
            have hends := List.append_inj' hsame rfl
            exact ⟨hends.1.symm, (List.cons.inj hends.2).1.symm⟩
          exact ⟨rest', hbreak, hcalm⟩

/-- A thread that is refused in its turn ends the pass. -/
theorem goes_run_turn {rules : RuleSet} {log : List Event}
    {r : Except PinError RunReport} (h : (run rules opts).Goes log r)
    {m : Match} {turn : Turn opts m} (hturn : turn.IsIn log)
    (hrefused : turn.IsRefused) :
    r = .error turn.refusal ∧ BreaksOff rules log m turn.log := by
  obtain ⟨before, after, hlog⟩ := hturn
  rcases goes_run_cases h with
    ⟨e, rfl, -⟩ | ⟨processes, rest, r', rfl, hrest, rfl⟩
  · rcases List.singleton_eq_append_iff.1 hlog with ⟨-, he⟩ | ⟨-, he⟩ <;>
      simp at he
  · rcases List.cons_eq_append_iff.1 hlog with ⟨-, he⟩ | ⟨before, rfl, rfl⟩
    · simp at he
    · have hsplit : before ++ ⟨.announce m, ()⟩ :: (turn.log ++ after) =
          (before ++ [⟨.announce m, ()⟩]) ++
            turn.listing :: (turn.asked ++ turn.sets ++ after) := by
        simp [Turn.log]
      have hcall : ∀ m', turn.listing ≠ ⟨.announce m', ()⟩ := by
        intro m'
        simp [Turn.listing]
      rw [hsplit] at hrest
      obtain ⟨earlier, m', later, log, reports, since, rest, more, r'', hms, hbefore,
        hafter, hearlier, hm, hend⟩ := goes_runMatches_split hrest hcall
      -- the call for the threads comes right after the announcement
      obtain rfl : since = [] := (goes_apply_listing hm).2 _ _ rfl
      obtain ⟨rfl, hsame⟩ := List.append_inj' hbefore rfl
      obtain rfl : m = m' := by simpa using hsame
      have hstart : turn.log ++ after = (turn.listing :: rest) ++ more := by
        simp [Turn.log, hafter]
      obtain ⟨hrest', rfl⟩ := (turn.goes_apply hrefused).eq_of_append_eq hm hstart
      obtain ⟨rfl, rfl⟩ := hend _ rfl
      obtain rfl : after = [] := by
        rw [hrest'] at hstart
        simpa using hstart
      rw [List.append_nil]
      exact ⟨rfl, processes, earlier, later, before, rfl, hms,
        goes_runMatches_announced hearlier,
        goes_apply_announced (turn.goes_apply hrefused),
        ((runMatches_orderly _).ends hearlier).undisturbed⟩

/-- A pass that fails has a reason to. -/
theorem goes_run_error {rules : RuleSet} {log : List Event} {err : PinError}
    (h : (run rules opts).Goes log (.error err)) :
    (∃ e, ⟨.processes, .error e⟩ ∈ log) ∨
      (∃ call ∈ log, ∃ e, call.failure? = some e) ∨
      ∃ m, ∃ turn : Turn opts m, turn.IsIn log ∧ turn.IsRefused := by
  rcases goes_run_cases h with
    ⟨e, rfl, -⟩ | ⟨processes, rest, r', rfl, hrest, hr⟩
  · exact .inl ⟨e, List.mem_singleton_self _⟩
  · right
    cases r' with
    | ok reports => cases hr
    | error err' =>
        cases hr
        obtain ⟨m, log, hm, listed, _, _, before, hlog, -⟩ :=
          breaksOff_of_goes hrest
        rw [hlog]
        cases (apply_orderly _ _).ends hm with
        | @failure rest' call e hcalm hcall =>
            exact .inl ⟨call, by simp, e, hcall⟩
        | ambiguity name tid texts hcalm =>
            obtain ⟨turn, hrefused, rfl⟩ := exists_turn_of_ambiguous hm
            exact .inr ⟨m, turn, ⟨⟨.processes, .ok listed⟩ :: before, [], by simp⟩,
              hrefused⟩

/-- A pass fails if and only if the processes cannot be listed, a call on a task
fails, or the thread rules come to a thread that several of them claim and the
policy is strict.  A call that fails is the last one and gives the error; a
refused thread gives an error that names it with all the rules that claim it,
and its turn ends the log.  In either case no call failed before, and the
matches up to the one that was applied last were announced in order, and no
others. -/
theorem run_error_iff {σ : Type} (t : Table σ) (s : σ) (rules : RuleSet)
    (opts : Options) :
    let x := (run rules opts).exec t s
    ((∃ err, x.result = .error err) ↔
      (∃ e, ⟨.processes, .error e⟩ ∈ x.events) ∨
        (∃ call ∈ x.events, ∃ e, call.failure? = some e) ∨
        ∃ m, ∃ turn : Turn opts m, turn.IsIn x.events ∧ turn.IsRefused) ∧
    (∀ e, ⟨.processes, .error e⟩ ∈ x.events →
      x.result = .error (.task e) ∧ x.events = [⟨.processes, .error e⟩]) ∧
    (∀ call ∈ x.events, ∀ e, call.failure? = some e →
      x.result = .error (.task e) ∧
        ∃ m rest, BreaksOff rules x.events m (rest ++ [call]) ∧
          Undisturbed rest) ∧
    ∀ (m : Match) (turn : Turn opts m), turn.IsIn x.events → turn.IsRefused →
      x.result = .error turn.refusal ∧ BreaksOff rules x.events m turn.log := by
  intro x
  have hgoes : (run rules opts).Goes x.events x.result :=
    goes_exec t (run rules opts) s
  have hlisting : ∀ e, ⟨.processes, .error e⟩ ∈ x.events →
      x.result = .error (.task e) ∧ x.events = [⟨.processes, .error e⟩] := by
    intro e hmem
    rcases goes_run_cases hgoes with
      ⟨e', hlog, hr⟩ | ⟨processes, rest, r', hlog, hrest, -⟩
    · rw [hlog, List.mem_singleton] at hmem
      cases hmem
      exact ⟨hr, hlog⟩
    · rw [hlog, List.mem_cons] at hmem
      rcases hmem with hmem | hmem
      · cases hmem
      · exact absurd hmem (goes_runMatches_processes hrest _)
  refine ⟨⟨?_, ?_⟩, hlisting, fun call hcall e he => goes_run_failure hgoes hcall he,
    fun m turn hturn hrefused => goes_run_turn hgoes hturn hrefused⟩
  · rintro ⟨err, herr⟩
    rw [herr] at hgoes
    exact goes_run_error hgoes
  · rintro (⟨e, hmem⟩ | ⟨call, hcall, e, he⟩ | ⟨m, turn, hturn, hrefused⟩)
    · exact ⟨_, (hlisting e hmem).1⟩
    · exact ⟨_, (goes_run_failure hgoes hcall he).1⟩
    · exact ⟨_, (goes_run_turn hgoes hturn hrefused).1⟩

end CpuPinning
