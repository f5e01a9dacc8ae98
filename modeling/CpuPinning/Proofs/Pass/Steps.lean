import CpuPinning.Pass.Run
import CpuPinning.Proofs.Pass.Course

/-!
# The courses of each step

What each step of a pass may ask and how it then ends, one statement for each
function.  Later arguments about a pass take its courses apart with these
statements and do not open the functions again.
-/

namespace CpuPinning

open Pass

variable {opts : Options} {events : List Event}

/-! ## Single settings -/

/-- One mask is set: it is there now, or the task has vanished, or the pass
fails. -/
theorem goes_setMask_cases {id : Nat} {target : Target} {mask : CpuMask}
    {source : MaskSource} {r : Except PinError Outcome}
    (h : (setMask id target mask source).Goes events r) :
    (events = [⟨.setAffinity id mask, .ok ()⟩] ∧
        r = .ok (.applied target mask source)) ∨
      (∃ gone, events = [⟨.setAffinity id mask, .error (.vanished gone)⟩] ∧
        r = .ok (.vanished target)) ∨
      ∃ task cause,
        events = [⟨.setAffinity id mask, .error (.failed task cause)⟩] ∧
          r = .error (.task (.failed task cause)) := by
  obtain ⟨answer, rest, rfl, hrest⟩ := goes_ask_iff.1 h
  match answer, hrest with
  | .ok (), hrest =>
      obtain ⟨rfl, rfl⟩ := goes_done_iff.1 hrest
      exact .inl ⟨rfl, rfl⟩
  | .error (.vanished gone), hrest =>
      obtain ⟨rfl, rfl⟩ := goes_done_iff.1 hrest
      exact .inr (.inl ⟨gone, rfl, rfl⟩)
  | .error (.failed task cause), hrest =>
      obtain ⟨rfl, rfl⟩ := goes_fail_iff.1 hrest
      exact .inr (.inr ⟨task, cause, rfl, rfl⟩)

/-! ## The parent mask -/

/-- The parent mask is out of range, or the descendants are asked for first. -/
theorem goes_cascade_cases {process : ProcessInfo} {threads : List ThreadInfo}
    {mask : CpuMask} {r : Except PinError (List Outcome)}
    (h : (cascade opts process threads mask).Goes events r) :
    (mask.exceeds opts.cpuCount = true ∧ events = [] ∧
        r = .ok [.outOfRange none mask .parent opts.cpuCount]) ∨
      (mask.exceeds opts.cpuCount = false ∧
        ((∃ gone, events = [⟨.children process.pid, .error (.vanished gone)⟩] ∧
            r = .ok [.vanished (.process process.pid)]) ∨
          (∃ task cause,
            events = [⟨.children process.pid, .error (.failed task cause)⟩] ∧
              r = .error (.task (.failed task cause))) ∨
          ∃ children sets,
            events = ⟨.children process.pid, .ok children⟩ :: sets ∧
              (setAll mask (cascadeTargets children threads)).Goes sets r)) := by
  unfold cascade at h
  split at h
  · next hrange =>
      obtain ⟨rfl, rfl⟩ := goes_pure_iff.1 h
      exact .inl ⟨hrange, rfl, rfl⟩
  · next hrange =>
      refine .inr ⟨by simpa using hrange, ?_⟩
      obtain ⟨answer, rest, rfl, hrest⟩ := goes_ask_iff.1 h
      match answer, hrest with
      | .ok children, hrest => exact .inr (.inr ⟨children, rest, rfl, hrest⟩)
      | .error (.vanished gone), hrest =>
          obtain ⟨rfl, rfl⟩ := goes_pure_iff.1 hrest
          exact .inl ⟨gone, rfl, rfl⟩
      | .error (.failed task cause), hrest =>
          obtain ⟨rfl, rfl⟩ := goes_fail_iff.1 hrest
          exact .inr (.inl ⟨task, cause, rfl, rfl⟩)

/-! ## The thread rules -/

theorem two_le_length_of_ne {α : Type} {xs : List α} (hnil : xs ≠ [])
    (hone : ∀ x, xs ≠ [x]) : 2 ≤ xs.length := by
  match xs with
  | [] => exact absurd rfl hnil
  | [x] => exact absurd rfl (hone x)
  | _ :: _ :: _ => simp

/-- A thread is claimed by no rule, by one rule, or by several. -/
theorem goes_applyToThread_cases {rules : List ThreadRule}
    {thread : ThreadInfo} {r : Except PinError (List Outcome)}
    (h : (applyToThread opts rules thread).Goes events r) :
    (claiming rules thread = [] ∧ events = [] ∧ r = .ok []) ∨
      (∃ rule, claiming rules thread = [rule] ∧
        ((rule.mask.exceeds opts.cpuCount = true ∧ events = [] ∧
            r = .ok [.outOfRange (some (.thread thread.tid thread.name))
              rule.mask (.threadRule rule.pattern) opts.cpuCount]) ∨
          (rule.mask.exceeds opts.cpuCount = false ∧ ∃ r',
            (setMask thread.tid (.thread thread.tid thread.name) rule.mask
              (.threadRule rule.pattern)).Goes events r' ∧
                r = r'.map ([·])))) ∨
      (2 ≤ (claiming rules thread).length ∧ events = [] ∧
        ((opts.policy = .abort ∧
            r = .error (.ambiguous thread.name thread.tid
              ((claiming rules thread).map ThreadRule.text))) ∨
          (opts.policy = .skipThread ∧
            r = .ok [.ambiguous thread.tid thread.name
              ((claiming rules thread).map ThreadRule.text)]))) := by
  unfold applyToThread at h
  split at h
  · next hclaim =>
      obtain ⟨rfl, rfl⟩ := goes_pure_iff.1 h
      exact .inl ⟨hclaim, rfl, rfl⟩
  · next rule hclaim =>
      refine .inr (.inl ⟨rule, hclaim, ?_⟩)
      dsimp only at h
      split at h
      · next hrange =>
          obtain ⟨rfl, rfl⟩ := goes_pure_iff.1 h
          exact .inl ⟨hrange, rfl, rfl⟩
      · next hrange =>
          refine .inr ⟨by simpa using hrange, ?_⟩
          exact goes_map_iff.1 h
  · next hnone hone =>
      refine .inr (.inr ⟨two_le_length_of_ne hnone hone, ?_⟩)
      dsimp only at h
      split at h
      · next hpolicy =>
          obtain ⟨rfl, rfl⟩ := goes_fail_iff.1 h
          exact ⟨rfl, .inl ⟨hpolicy, rfl⟩⟩
      · next hpolicy =>
          obtain ⟨rfl, rfl⟩ := goes_pure_iff.1 h
          exact ⟨rfl, .inr ⟨hpolicy, rfl⟩⟩

/-- Threads that go through do so one after the other. -/
theorem goes_applyToThreads_cons_ok {rules : List ThreadRule}
    {thread : ThreadInfo} {threads : List ThreadInfo} {outcomes : List Outcome}
    (h : (applyToThreads opts rules (thread :: threads)).Goes events
      (.ok outcomes)) :
    ∃ first second own rest, events = first ++ second ∧
      (applyToThread opts rules thread).Goes first (.ok own) ∧
      (applyToThreads opts rules threads).Goes second (.ok rest) ∧
      outcomes = own ++ rest := by
  obtain ⟨first, own, second, rfl, hfirst, hrest⟩ := goes_bind_ok_iff.1 h
  obtain ⟨rest, hsecond, rfl⟩ := goes_map_ok_iff.1 hrest
  exact ⟨first, second, own, rest, rfl, hfirst, hsecond, rfl⟩

/-! ## One match -/

/-- The two steps for a process with known threads. -/
def applySteps (opts : Options) (process : ProcessInfo) (rule : CommandRule)
    (threads : List ThreadInfo) : Pass (List Outcome) := do
  let inherited ← applyParent opts process rule threads
  let own ← applyThreadRules opts rule threads
  return inherited ++ own

/-- A rule that asks for something asks for the threads first. -/
theorem goes_apply_cases {process : ProcessInfo} {rule : CommandRule}
    {r : Except PinError (List Outcome)}
    (h : (apply opts process rule).Goes events r) :
    (rule.isEmpty = true ∧ events = [] ∧ r = .ok []) ∨
      (rule.isEmpty = false ∧
        ((∃ gone, events = [⟨.threads process.pid, .error (.vanished gone)⟩] ∧
            r = .ok [.vanished (.process process.pid)]) ∨
          (∃ task cause,
            events = [⟨.threads process.pid, .error (.failed task cause)⟩] ∧
              r = .error (.task (.failed task cause))) ∨
          ∃ threads rest,
            events = ⟨.threads process.pid, .ok threads⟩ :: rest ∧
              (applySteps opts process rule threads).Goes rest r)) := by
  unfold apply at h
  split at h
  · next hempty =>
      obtain ⟨rfl, rfl⟩ := goes_pure_iff.1 h
      exact .inl ⟨hempty, rfl, rfl⟩
  · next hempty =>
      refine .inr ⟨by simpa using hempty, ?_⟩
      obtain ⟨answer, rest, rfl, hrest⟩ := goes_ask_iff.1 h
      match answer, hrest with
      | .ok threads, hrest => exact .inr (.inr ⟨threads, rest, rfl, hrest⟩)
      | .error (.vanished gone), hrest =>
          obtain ⟨rfl, rfl⟩ := goes_pure_iff.1 hrest
          exact .inl ⟨gone, rfl, rfl⟩
      | .error (.failed task cause), hrest =>
          obtain ⟨rfl, rfl⟩ := goes_fail_iff.1 hrest
          exact .inr (.inl ⟨task, cause, rfl, rfl⟩)

/-- The first step comes first, and the second one only if the first did not
fail. -/
theorem goes_applySteps_cases {process : ProcessInfo} {rule : CommandRule}
    {threads : List ThreadInfo} {r : Except PinError (List Outcome)}
    (h : (applySteps opts process rule threads).Goes events r) :
    (∃ e, (applyParent opts process rule threads).Goes events (.error e) ∧
        r = .error e) ∨
      ∃ first second inherited r', events = first ++ second ∧
        (applyParent opts process rule threads).Goes first (.ok inherited) ∧
        (applyThreadRules opts rule threads).Goes second r' ∧
        r = r'.map (inherited ++ ·) := by
  rcases goes_bind_iff.1 h with
    ⟨first, inherited, rest, rfl, hfirst, hrest⟩ | ⟨e, hfirst, rfl⟩
  · obtain ⟨r', hsecond, rfl⟩ := goes_map_iff.1 hrest
    exact .inr ⟨first, rest, inherited, r', rfl, hfirst, hsecond, rfl⟩
  · exact .inl ⟨e, hfirst, rfl⟩

/-! ## Several matches -/

/-- A match is announced and then applied. -/
theorem goes_runMatch_ok_iff {m : Match} {report : MatchReport} :
    (runMatch opts m).Goes events (.ok report) ↔
      ∃ rest outcomes, events = ⟨.announce m, ()⟩ :: rest ∧
        (apply opts m.process m.rule).Goes rest (.ok outcomes) ∧
        report = ⟨m.process.pid, m.process.name, m.fragment, outcomes⟩ := by
  constructor
  · intro h
    obtain ⟨⟨⟩, rest, rfl, hrest⟩ := goes_ask_iff.1 h
    obtain ⟨outcomes, happly, rfl⟩ := goes_map_ok_iff.1 hrest
    exact ⟨rest, outcomes, rfl, happly, rfl⟩
  · rintro ⟨rest, outcomes, rfl, happly, rfl⟩
    exact .ask _ (goes_map_ok_iff.2 ⟨outcomes, happly, rfl⟩)

theorem goes_runMatch_error_iff {m : Match} {e : PinError} :
    (runMatch opts m).Goes events (.error e) ↔
      ∃ rest, events = ⟨.announce m, ()⟩ :: rest ∧
        (apply opts m.process m.rule).Goes rest (.error e) := by
  constructor
  · intro h
    obtain ⟨⟨⟩, rest, rfl, hrest⟩ := goes_ask_iff.1 h
    exact ⟨rest, rfl, goes_map_error_iff.1 hrest⟩
  · rintro ⟨rest, rfl, happly⟩
    exact .ask _ (goes_map_error_iff.2 happly)

/-- The first match ends the pass, or the other matches follow. -/
theorem goes_runMatches_cons_cases {m : Match} {ms : List Match}
    {r : Except PinError (List MatchReport)}
    (h : (runMatches opts (m :: ms)).Goes events r) :
    (∃ rest e, events = ⟨.announce m, ()⟩ :: rest ∧
        (apply opts m.process m.rule).Goes rest (.error e) ∧ r = .error e) ∨
      ∃ first second outcomes r',
        events = ⟨.announce m, ()⟩ :: (first ++ second) ∧
        (apply opts m.process m.rule).Goes first (.ok outcomes) ∧
        (runMatches opts ms).Goes second r' ∧
        r = r'.map
          (⟨m.process.pid, m.process.name, m.fragment, outcomes⟩ :: ·) := by
  rcases goes_bind_iff.1 h with
    ⟨log, report, second, rfl, hfirst, hrest⟩ | ⟨e, hfirst, rfl⟩
  · obtain ⟨first, outcomes, rfl, happly, rfl⟩ := goes_runMatch_ok_iff.1 hfirst
    obtain ⟨r', hsecond, rfl⟩ := goes_map_iff.1 hrest
    exact .inr ⟨first, second, outcomes, r', rfl, happly, hsecond, rfl⟩
  · obtain ⟨rest, rfl, happly⟩ := goes_runMatch_error_iff.1 hfirst
    exact .inl ⟨rest, e, rfl, happly, rfl⟩

/-- Matches that go through do so one after the other. -/
theorem goes_runMatches_cons_ok {m : Match} {ms : List Match}
    {reports : List MatchReport}
    (h : (runMatches opts (m :: ms)).Goes events (.ok reports)) :
    ∃ first second outcomes rest,
      events = ⟨.announce m, ()⟩ :: (first ++ second) ∧
      (apply opts m.process m.rule).Goes first (.ok outcomes) ∧
      (runMatches opts ms).Goes second (.ok rest) ∧
      reports =
        ⟨m.process.pid, m.process.name, m.fragment, outcomes⟩ :: rest := by
  obtain ⟨log, report, second, rfl, hfirst, hrest⟩ := goes_bind_ok_iff.1 h
  obtain ⟨first, outcomes, rfl, happly, rfl⟩ := goes_runMatch_ok_iff.1 hfirst
  obtain ⟨rest, hsecond, rfl⟩ := goes_map_ok_iff.1 hrest
  exact ⟨first, second, outcomes, rest, rfl, happly, hsecond, rfl⟩

/-- A match that goes through, with those that follow it. -/
theorem goes_runMatches_cons {m : Match} {ms : List Match}
    {first second : List Event} {outcomes : List Outcome}
    {r : Except PinError (List MatchReport)}
    (hm : (apply opts m.process m.rule).Goes first (.ok outcomes))
    (hms : (runMatches opts ms).Goes second r) :
    (runMatches opts (m :: ms)).Goes (⟨.announce m, ()⟩ :: (first ++ second))
      (r.map (⟨m.process.pid, m.process.name, m.fragment, outcomes⟩ :: ·)) := by
  have hreport := goes_runMatch_ok_iff.2 ⟨first, outcomes, rfl, hm, rfl⟩
  exact hreport.bind_ok (goes_map_iff.2 ⟨r, hms, rfl⟩)

/-- An entry between two lists in a row is in the first or in the second one. -/
theorem append_cons_eq_append_cases {α : Type} {before after first second : List α}
    {x : α} (h : before ++ x :: after = first ++ second) :
    (∃ rest, first = before ++ x :: rest ∧ after = rest ++ second) ∨
      ∃ mid, before = first ++ mid ∧ second = mid ++ x :: after := by
  rcases List.append_eq_append_iff.1 h with ⟨mid, rfl, hmid⟩ | ⟨mid, rfl, rfl⟩
  · rcases List.cons_eq_append_iff.1 hmid with ⟨rfl, rfl⟩ | ⟨rest, rfl, rfl⟩
    · exact .inr ⟨[], by simp, rfl⟩
    · exact .inl ⟨rest, rfl, rfl⟩
  · exact .inr ⟨mid, rfl, rfl⟩

/-- Every event other than an announcement belongs to the match that was
announced last.  The matches before that one have gone through, and the later
ones follow if it goes through, too. -/
theorem goes_runMatches_split {ms : List Match} {before after : List Event}
    {e : Event} {r : Except PinError (List MatchReport)}
    (h : (runMatches opts ms).Goes (before ++ e :: after) r)
    (he : ∀ m, e ≠ ⟨.announce m, ()⟩) :
    ∃ earlier m later log reports since rest more r',
      ms = earlier ++ m :: later ∧
      before = log ++ ⟨.announce m, ()⟩ :: since ∧
      after = rest ++ more ∧
      (runMatches opts earlier).Goes log (.ok reports) ∧
      (apply opts m.process m.rule).Goes (since ++ e :: rest) r' ∧
      ∀ err, r' = .error err → more = [] ∧ r = .error err := by
  induction ms generalizing before r with
  | nil => simp [runMatches, goes_pure_iff] at h
  | cons m ms ih =>
      cases before with
      | nil =>
          -- the first event of the pass is an announcement
          rcases goes_runMatches_cons_cases h with
            ⟨rest, _, hevents, -, -⟩ | ⟨_, _, _, _, hevents, -, -, -⟩ <;>
            exact absurd (List.cons.inj hevents).1 (he m)
      | cons e₀ before =>
          rcases goes_runMatches_cons_cases h with
            ⟨rest, err, hevents, happly, hr⟩ |
              ⟨first, second, outcomes, r', hevents, happly, hrest, hr⟩
          · obtain ⟨rfl, rfl⟩ := List.cons.inj hevents
            refine ⟨[], m, ms, [], [], before, after, [], _, rfl, rfl,
              (List.append_nil _).symm, goes_pure_iff.2 ⟨rfl, rfl⟩, happly, ?_⟩
            intro err' herr
            cases herr
            exact ⟨rfl, hr⟩
          · obtain ⟨rfl, hsplit⟩ := List.cons.inj hevents
            rcases append_cons_eq_append_cases hsplit with
              ⟨rest, rfl, rfl⟩ | ⟨mid, rfl, rfl⟩
            · exact ⟨[], m, ms, [], [], before, rest, second, _, rfl, rfl, rfl,
                goes_pure_iff.2 ⟨rfl, rfl⟩, happly, fun _ herr => by cases herr⟩
            · obtain ⟨earlier, m', later, log, reports, since, rest, more, r'',
                rfl, rfl, rfl, hlog, hm', hend⟩ := ih hrest
              refine ⟨m :: earlier, m', later, _, _, since, rest, more, r'', rfl,
                by simp, rfl, goes_runMatches_cons happly hlog, hm', ?_⟩
              intro err herr
              obtain ⟨hmore, rfl⟩ := hend err herr
              exact ⟨hmore, hr⟩

/-- A pass that fails does so at one of its matches, and the matches before that
one have gone through. -/
theorem goes_runMatches_error {ms : List Match} {events : List Event}
    {err : PinError} (h : (runMatches opts ms).Goes events (.error err)) :
    ∃ earlier m later log reports rest, ms = earlier ++ m :: later ∧
      events = log ++ ⟨.announce m, ()⟩ :: rest ∧
      (runMatches opts earlier).Goes log (.ok reports) ∧
      (apply opts m.process m.rule).Goes rest (.error err) := by
  induction ms generalizing events with
  | nil => simp [runMatches, goes_pure_iff] at h
  | cons m ms ih =>
      rcases goes_runMatches_cons_cases h with
        ⟨rest, e, rfl, hm, hr⟩ | ⟨first, second, outcomes, r', rfl, hm, hms, hr⟩
      · cases hr
        exact ⟨[], m, ms, [], [], rest, rfl, rfl, goes_pure_iff.2 ⟨rfl, rfl⟩, hm⟩
      · cases r' with
        | ok reports => cases hr
        | error e =>
            cases hr
            obtain ⟨earlier, m', later, log, reports, rest, rfl, rfl, hlog, hm'⟩ :=
              ih hms
            exact ⟨m :: earlier, m', later, _, _, rest, rfl, by simp,
              goes_runMatches_cons hm hlog, hm'⟩

/-! ## A whole pass -/

/-- The processes are listed, or the pass ends; then the matches are run through. -/
theorem goes_run_cases {rules : RuleSet} {r : Except PinError RunReport}
    (h : (run rules opts).Goes events r) :
    (∃ e, events = [⟨.processes, .error e⟩] ∧ r = .error (.task e)) ∨
      ∃ processes rest r', events = ⟨.processes, .ok processes⟩ :: rest ∧
        (runMatches opts (matchProcesses rules processes)).Goes rest r' ∧
        r = r'.map (⟨processes.length, ·⟩) := by
  obtain ⟨answer, rest, rfl, hrest⟩ := goes_ask_iff.1 h
  match answer, hrest with
  | .error e, hrest =>
      obtain ⟨rfl, rfl⟩ := goes_fail_iff.1 hrest
      exact .inl ⟨e, rfl, rfl⟩
  | .ok processes, hrest =>
      obtain ⟨r', hmatches, rfl⟩ := goes_map_iff.1 hrest
      exact .inr ⟨processes, rest, r', rfl, hmatches, rfl⟩

theorem goes_run_ok {rules : RuleSet} {report : RunReport}
    (h : (run rules opts).Goes events (.ok report)) :
    ∃ processes rest reports, events = ⟨.processes, .ok processes⟩ :: rest ∧
      (runMatches opts (matchProcesses rules processes)).Goes rest
        (.ok reports) ∧
      report = ⟨processes.length, reports⟩ := by
  obtain ⟨answer, rest, rfl, hrest⟩ := goes_ask_iff.1 h
  match answer, hrest with
  | .error e, hrest => simp [goes_fail_iff] at hrest
  | .ok processes, hrest =>
      obtain ⟨reports, hmatches, rfl⟩ := goes_map_ok_iff.1 hrest
      exact ⟨processes, rest, reports, rfl, hmatches, rfl⟩

end CpuPinning
