import CpuPinning.Proofs.Pass.Failure
import CpuPinning.Proofs.Pass.Static

/-!
# One refused task

Two static systems are compared that differ in one task only: the first lets
every mask be set on it, and the second refuses.  If the task is said to have
vanished, the pass asks the same questions on both systems, and only what the
report says of this task is different.  If the task fails, the pass goes as far
as its first attempt on the task and breaks off there.
-/

namespace CpuPinning

open Pass

variable {opts : Options}

namespace StaticTable

/-- The system in which no mask can be set on one task. -/
def refusing (T : StaticTable) (id : Nat) (e : CpuMask → TaskError) :
    StaticTable where
  reply
    | .setAffinity i mask =>
        if i = id then .error (e mask) else T.reply (.setAffinity i mask)
    | .processes => T.reply .processes
    | .children pid => T.reply (.children pid)
    | .threads pid => T.reply (.threads pid)
    | .announce m => T.reply (.announce m)

/-- Every mask can be set on the task. -/
def Grants (T : StaticTable) (id : Nat) : Prop :=
  ∀ mask, T.reply (.setAffinity id mask) = .ok ()

variable {T : StaticTable} {id : Nat} {e : CpuMask → TaskError} {α : Type}

theorem refusing_reply_self (mask : CpuMask) :
    (T.refusing id e).reply (.setAffinity id mask) = .error (e mask) :=
  if_pos rfl

/-- The two systems answer alike whatever does not concern the task. -/
theorem refusing_reply_of_ne {q : Query}
    (h : ∀ mask, q ≠ .setAffinity id mask) :
    (T.refusing id e).reply q = T.reply q := by
  cases q with
  | setAffinity i mask =>
      have hi : i ≠ id := by
        intro hi
        exact h mask (by rw [hi])
      exact if_neg hi
  | processes => rfl
  | children pid => rfl
  | threads pid => rfl
  | announce m => rfl

/-! ## Courses on static systems -/

/-- A static system allows a pass one course only. -/
theorem eq_of_answers {p : Pass α} {first second : List Event}
    {r₁ r₂ : Except PinError α} (h₁ : p.Goes first r₁) (h₂ : p.Goes second r₂)
    (ha₁ : T.Answers first) (ha₂ : T.Answers second) :
    first = second ∧ r₁ = r₂ := by
  induction h₁ generalizing second with
  | done r =>
      obtain ⟨rfl, rfl⟩ := goes_done_iff.1 h₂
      exact ⟨rfl, rfl⟩
  | @ask q next events r a _ ih =>
      obtain ⟨b, rest, rfl, hrest⟩ := goes_ask_iff.1 h₂
      obtain ⟨ha, hevents⟩ := answers_cons.1 ha₁
      obtain ⟨hb, hothers⟩ := answers_cons.1 ha₂
      obtain rfl : a = b := Eq.trans ha hb.symm
      obtain ⟨rfl, rfl⟩ := ih hrest hevents hothers
      exact ⟨rfl, rfl⟩

/-- A course whose answers are those of the system is the one that is taken. -/
theorem exec_eq_of_goes {p : Pass α} {log : List Event}
    {r : Except PinError α} (masks : Masks) (h : p.Goes log r)
    (ha : T.Answers log) :
    (p.exec T.table masks).events = log ∧
      (p.exec T.table masks).result = r :=
  eq_of_answers (goes_exec T.table p masks) h (T.answers_exec p masks) ha

/-- A system that would answer in the same way all along makes no difference. -/
theorem exec_eq_of_answers {T' : StaticTable} (p : Pass α) (masks : Masks)
    (h : T'.Answers (p.exec T.table masks).events) :
    p.exec T'.table masks = p.exec T.table masks := by
  induction p generalizing masks with
  | done r => rfl
  | ask q next ih =>
      obtain ⟨hanswer, hrest⟩ := answers_cons.1 h
      have hsame : T'.reply q = T.reply q := hanswer.symm
      have hnext := ih (T.reply q) (masks.store ⟨q, T.reply q⟩) hrest
      simp only [Pass.exec, table, hsame] at hnext ⊢
      rw [hnext]

/-- Two systems that agree on the beginning of a log go on from there, each with
its own answer. -/
theorem exec_events_of_agree {T' : StaticTable} {p : Pass α} {masks : Masks}
    (masks' : Masks) {before after : List Event} {q : Query} {a : q.Answer}
    (h : (p.exec T.table masks).events = before ++ ⟨q, a⟩ :: after)
    (hbefore : T'.Answers before) :
    ∃ rest, (p.exec T'.table masks').events =
      before ++ ⟨q, T'.reply q⟩ :: rest := by
  induction p generalizing masks masks' before with
  | done r => simp [Pass.exec] at h
  | ask q₀ next ih =>
      cases before with
      | nil =>
          obtain ⟨he, -⟩ := List.cons.inj h
          cases he
          exact ⟨_, rfl⟩
      | cons e₀ before =>
          obtain ⟨rfl, hrest⟩ := List.cons.inj h
          obtain ⟨hanswer, hanswers⟩ := answers_cons.1 hbefore
          have hsame : T'.reply q₀ = T.reply q₀ := hanswer.symm
          obtain ⟨rest, hevents⟩ :=
            ih (T.reply q₀) (masks'.store ⟨q₀, T'.reply q₀⟩) hrest hanswers
          refine ⟨rest, ?_⟩
          rw [← hsame] at hevents
          simp only [List.cons_append, ← hevents, Pass.exec, table, hsame]

end StaticTable

/-! ## Reports about a task that has vanished -/

/-- What is reported of a task that can be set no more. -/
def Outcome.fade (id : Nat) : Outcome → Outcome
  | applied target mask source =>
      if target.id = id then vanished target else applied target mask source
  | o => o

/-- The report of a match when a task can be set no more. -/
def MatchReport.fade (id : Nat) (report : MatchReport) : MatchReport :=
  { report with outcomes := report.outcomes.map (Outcome.fade id) }

/-- The report of a pass when a task can be set no more. -/
def RunReport.fade (id : Nat) (report : RunReport) : RunReport :=
  { report with reports := report.reports.map (MatchReport.fade id) }

/-- What becomes of a call that set a mask when the task has vanished. -/
def Event.fade (id : Nat) (gone : CpuMask → Nat) : Event → Event
  | ⟨.setAffinity i mask, .ok ()⟩ =>
      ⟨.setAffinity i mask, if i = id then .error (.vanished (gone mask)) else .ok ()⟩
  | e => e

variable {id : Nat} {gone : CpuMask → Nat}

theorem Event.fade_query (e : Event) : (e.fade id gone).query = e.query := by
  unfold fade
  split <;> rfl

/-- With the task gone, the answers are those of the system that refuses it. -/
theorem StaticTable.answers_fade {T : StaticTable} {log : List Event}
    (gone : CpuMask → Nat) (hid : T.Grants id) (h : T.Answers log) :
    (T.refusing id fun mask => .vanished (gone mask)).Answers
      (log.map (Event.fade id gone)) := by
  intro e he
  obtain ⟨⟨q, a⟩, hmem, rfl⟩ := List.mem_map.1 he
  have ha : a = T.reply q := h _ hmem
  cases q with
  | setAffinity i mask =>
      by_cases hi : i = id
      · obtain rfl : a = .ok () := by rw [ha, hi, hid]
        simp [Event.fade, refusing, hi]
      · cases a with
        | ok u => simp [Event.fade, refusing, hi, ← ha]
        | error e => simp [Event.fade, refusing, hi, ← ha]
  | processes => exact ha
  | children pid => exact ha
  | threads pid => exact ha
  | announce m => exact ha

/-! ## Passes that do not mind -/

namespace Pass

variable {α β : Type}

/-- When the task is gone, the first pass goes on as the second one, and their
values are as `f` says. -/
structure Fades (id : Nat) (gone : CpuMask → Nat) (p p' : Pass α) (f : α → α) :
    Prop where
  goes : ∀ {log r}, p.Goes log r →
    p'.Goes (log.map (Event.fade id gone)) (r.map f)

theorem Fades.pure {f : α → α} {a a' : α} (h : f a = a') :
    Fades id gone (Pure.pure a) (Pure.pure a') f where
  goes hgoes := by
    obtain ⟨rfl, rfl⟩ := goes_pure_iff.1 hgoes
    exact goes_pure_iff.2 ⟨rfl, congrArg Except.ok h⟩

theorem Fades.fail {f : α → α} (e : PinError) :
    Fades id gone (Pass.fail e) (Pass.fail e) f where
  goes hgoes := by
    obtain ⟨rfl, rfl⟩ := goes_fail_iff.1 hgoes
    exact goes_fail_iff.2 ⟨rfl, rfl⟩

/-- A question that has nothing to do with the task. -/
theorem Fades.ask {q : Query} {next next' : q.Answer → Pass α} {f : α → α}
    (hq : ∀ a, Event.fade id gone ⟨q, a⟩ = ⟨q, a⟩)
    (h : ∀ a, Fades id gone (next a) (next' a) f) :
    Fades id gone (Pass.ask q next) (Pass.ask q next') f where
  goes hgoes := by
    obtain ⟨a, rest, rfl, hrest⟩ := goes_ask_iff.1 hgoes
    rw [List.map_cons, hq]
    exact .ask a ((h a).goes hrest)

theorem Fades.bind {p p' : Pass α} {k k' : α → Pass β} {f : α → α} {g : β → β}
    (hp : Fades id gone p p' f) (hk : ∀ a, Fades id gone (k a) (k' (f a)) g) :
    Fades id gone (p >>= k) (p' >>= k') g where
  goes hgoes := by
    rcases goes_bind_iff.1 hgoes with
      ⟨first, a, second, rfl, hfirst, hsecond⟩ | ⟨e, hfirst, rfl⟩
    · rw [List.map_append]
      exact (hp.goes hfirst).bind_ok ((hk a).goes hsecond)
    · exact (hp.goes hfirst).bind_error

/-- What is done with the value of a pass, when `f` and `g` agree on it. -/
theorem Fades.map {p : Pass α} {f : α → α} {g : β → β} {h h' : α → β}
    (hp : Fades id gone p p f) (hg : ∀ a, g (h a) = h' (f a)) :
    Fades id gone (p >>= fun a => Pure.pure (h a))
      (p >>= fun a => Pure.pure (h' a)) g :=
  hp.bind fun a => .pure (hg a)

end Pass

/-! ## Every step goes on without the task -/

/-- The outcomes of a step when the task is gone. -/
abbrev fadeAll (id : Nat) : List Outcome → List Outcome :=
  List.map (Outcome.fade id)

theorem setMask_fades (target : Target) (mask : CpuMask) (source : MaskSource) :
    Fades id gone (setMask target.id target mask source)
      (setMask target.id target mask source) (Outcome.fade id) where
  goes hgoes := by
    rcases goes_setMask_cases hgoes with
      ⟨rfl, rfl⟩ | ⟨task, rfl, rfl⟩ | ⟨task, cause, rfl, rfl⟩
    · by_cases hid : target.id = id
      · simp only [List.map_cons, List.map_nil, Event.fade, Except.map,
          Outcome.fade, if_pos hid]
        exact .ask _ (.done _)
      · simp only [List.map_cons, List.map_nil, Event.fade, Except.map,
          Outcome.fade, if_neg hid]
        exact .ask _ (.done _)
    · exact .ask _ (.done _)
    · exact .ask _ (.done _)

theorem setAll_fades (mask : CpuMask) (targets : List Target) :
    Fades id gone (setAll mask targets) (setAll mask targets) (fadeAll id) := by
  induction targets with
  | nil => exact .pure rfl
  | cons target targets ih =>
      exact (setMask_fades target mask .parent).bind fun o => ih.map fun os => rfl

theorem cascade_fades (process : ProcessInfo) (threads : List ThreadInfo)
    (mask : CpuMask) :
    Fades id gone (cascade opts process threads mask)
      (cascade opts process threads mask) (fadeAll id) := by
  unfold cascade
  split
  · exact .pure rfl
  · refine .ask (fun a => rfl) fun answer => ?_
    match answer with
    | .ok children => exact setAll_fades mask _
    | .error (.vanished gone) => exact .pure rfl
    | .error (.failed task cause) => exact .fail _

theorem applyParent_fades (process : ProcessInfo) (rule : CommandRule)
    (threads : List ThreadInfo) :
    Fades id gone (applyParent opts process rule threads)
      (applyParent opts process rule threads) (fadeAll id) := by
  unfold applyParent
  split
  · exact cascade_fades process threads _
  · exact .pure rfl

theorem applyToThread_fades (rules : List ThreadRule) (thread : ThreadInfo) :
    Fades id gone (applyToThread opts rules thread)
      (applyToThread opts rules thread) (fadeAll id) := by
  unfold applyToThread
  split
  · exact .pure rfl
  · next rule _ =>
      dsimp only
      split
      · exact .pure rfl
      · let target : Target := .thread thread.tid thread.name
        let source : MaskSource := .threadRule rule.pattern
        have hset : Fades id gone (setMask target.id target rule.mask source)
            (setMask target.id target rule.mask source) (Outcome.fade id) :=
          setMask_fades target rule.mask source
        exact hset.map fun o => rfl
  · dsimp only
    split
    · exact .fail _
    · exact .pure rfl

theorem applyToThreads_fades (rules : List ThreadRule)
    (threads : List ThreadInfo) :
    Fades id gone (applyToThreads opts rules threads)
      (applyToThreads opts rules threads) (fadeAll id) := by
  induction threads with
  | nil => exact .pure rfl
  | cons thread threads ih =>
      refine (applyToThread_fades rules thread).bind fun os => ih.map fun ps => ?_
      exact List.map_append

theorem applyThreadRules_fades (rule : CommandRule) (threads : List ThreadInfo) :
    Fades id gone (applyThreadRules opts rule threads)
      (applyThreadRules opts rule threads) (fadeAll id) := by
  unfold applyThreadRules
  split
  · exact applyToThreads_fades _ threads
  · exact .pure rfl

theorem apply_fades (process : ProcessInfo) (rule : CommandRule) :
    Fades id gone (apply opts process rule) (apply opts process rule)
      (fadeAll id) := by
  unfold apply
  split
  · exact .pure rfl
  · refine .ask (fun a => rfl) fun answer => ?_
    match answer with
    | .ok threads =>
        refine (applyParent_fades process rule threads).bind fun os => ?_
        refine (applyThreadRules_fades rule threads).map fun ps => ?_
        exact List.map_append
    | .error (.vanished gone) => exact .pure rfl
    | .error (.failed task cause) => exact .fail _

theorem runMatches_fades (ms : List Match) :
    Fades id gone (runMatches opts ms) (runMatches opts ms)
      (List.map (MatchReport.fade id)) := by
  induction ms with
  | nil => exact .pure rfl
  | cons m ms ih =>
      have hmatch : Fades id gone (runMatch opts m) (runMatch opts m)
          (MatchReport.fade id) :=
        .ask (fun a => rfl) fun _ =>
          (apply_fades m.process m.rule).map fun os => rfl
      exact hmatch.bind fun report => ih.map fun reports => rfl

/-- A whole pass goes on without the task. -/
theorem run_fades (rules : RuleSet) :
    Fades id gone (run rules opts) (run rules opts) (RunReport.fade id) := by
  refine .ask (fun a => rfl) fun answer => ?_
  match answer with
  | .ok processes => exact (runMatches_fades _).map fun reports => rfl
  | .error e => exact .fail _

/-! ## The masks of the other tasks -/

/-- What is set when the task is gone: all that was set, but for the task. -/
theorem Event.granted?_fade (e : Event) :
    (e.fade id gone).granted? =
      e.granted?.filter fun call => decide (call.1 ≠ id) := by
  obtain ⟨q, a⟩ := e
  cases q with
  | setAffinity i mask =>
      cases a with
      | ok u =>
          by_cases hi : i = id <;>
            simp [fade, granted?, Option.filter_some, hi]
      | error e => rfl
  | processes => rfl
  | children pid => rfl
  | threads pid => rfl
  | announce m => rfl

theorem lastMask?_fade {other : Nat} (h : other ≠ id) (log : List Event) :
    lastMask? other ((log.map (Event.fade id gone)).filterMap Event.granted?) =
      lastMask? other (log.filterMap Event.granted?) := by
  have hfilter :
      (log.map (Event.fade id gone)).filterMap Event.granted? =
        (log.filterMap Event.granted?).filter
          fun call => decide (call.1 ≠ id) := by
    rw [List.filterMap_map, List.filter_filterMap]
    exact List.filterMap_congr fun e _ => Event.granted?_fade e
  have hkeep := lastMask?_filter other (log.filterMap Event.granted?)
    fun i => decide (i ≠ id)
  rw [hfilter, hkeep, if_pos (by simpa using h)]

/-! ## The task fails -/

/-- A failing call is the last event in the log of a pass. -/
theorem goes_run_failure_last {rules : RuleSet} {before after : List Event}
    {call : Event} {e : TaskError} {r : Except PinError RunReport}
    (h : (run rules opts).Goes (before ++ call :: after) r)
    (he : call.failure? = some e) : r = .error (.task e) ∧ after = [] := by
  obtain ⟨hr, m, rest, hbreak, hrest⟩ := goes_run_failure h (by simp) he
  obtain ⟨processes, earlier, later, start, hlog, -, -, -, hstart⟩ := hbreak
  refine ⟨hr, ?_⟩
  rcases after.eq_nil_or_concat' with hnil | ⟨since, last, rfl⟩
  · exact hnil
  · exfalso
    -- all that comes before the last event of the log is undisturbed
    have hsplit : (before ++ call :: since) ++ [last] =
        (⟨.processes, .ok processes⟩ ::
          (start ++ ⟨.announce m, ()⟩ :: rest)) ++ [call] := by
      simpa using hlog
    obtain ⟨hsame, -⟩ := List.append_inj' hsplit rfl
    have hcalm : Undisturbed (before ++ call :: since) := by
      rw [hsame, undisturbed_cons, undisturbed_append, undisturbed_cons]
      exact ⟨rfl, hstart, rfl, hrest⟩
    have hnone : call.failure? = none := hcalm call (by simp)
    rw [hnone] at he
    cases he

/-- What does not concern the task is answered as before. -/
theorem StaticTable.answers_refusing {T : StaticTable} {e : CpuMask → TaskError}
    {log : List Event} (h : T.Answers log)
    (hnone : ∀ call ∈ settings log, call.1 ≠ id) :
    (T.refusing id e).Answers log := by
  intro event hevent
  rw [h event hevent]
  refine (refusing_reply_of_ne fun mask hq => ?_).symm
  refine hnone (id, mask) ?_ rfl
  refine List.mem_filterMap.2 ⟨event, hevent, ?_⟩
  obtain ⟨q, a⟩ := event
  subst hq
  rfl

/-! ## Both laws -/

/-- A static system that lets every mask be set on a task is compared with the
same system when it refuses the task.  If the task has vanished, the pass asks
the same and ends in the same way; in its report the settings of the task turn
into news of its exit, and the other tasks have the same masks at the end.  If
the task fails, the pass goes as far as its first setting of the task and ends
with the error; if it never sets the task, nothing at all changes. -/
theorem run_refusal_isolated (T : StaticTable) (masks : Masks) (rules : RuleSet)
    (opts : Options) (id : Nat) (hid : T.Grants id) :
    let x := (run rules opts).exec T.table masks
    (∀ gone : CpuMask → Nat,
      let v := (run rules opts).exec
        (T.refusing id fun mask => .vanished (gone mask)).table masks
      v.events.map Event.query = x.events.map Event.query ∧
        v.result = x.result.map (RunReport.fade id) ∧
        ∀ other, other ≠ id → v.state other = x.state other) ∧
    ∀ (task : CpuMask → Nat) (cause : CpuMask → IoFailure),
      let f := (run rules opts).exec
        (T.refusing id fun mask => .failed (task mask) (cause mask)).table masks
      (∀ before mask after,
        x.events = before ++ ⟨.setAffinity id mask, .ok ()⟩ :: after →
        (∀ call ∈ settings before, call.1 ≠ id) →
          f.events = before ++
            [⟨.setAffinity id mask, .error (.failed (task mask) (cause mask))⟩] ∧
          f.result = .error (.task (.failed (task mask) (cause mask)))) ∧
      ((∀ call ∈ settings x.events, call.1 ≠ id) → f = x) := by
  intro x
  have hgoes : (run rules opts).Goes x.events x.result :=
    goes_exec T.table (run rules opts) masks
  have hanswers : T.Answers x.events := T.answers_exec (run rules opts) masks
  constructor
  · intro gone v
    obtain ⟨hevents, hresult⟩ :=
      StaticTable.exec_eq_of_goes masks ((run_fades rules).goes hgoes)
        (StaticTable.answers_fade gone hid hanswers)
    refine ⟨?_, hresult, ?_⟩
    · rw [hevents, List.map_map]
      exact List.map_congr_left fun e _ => e.fade_query
    · intro other hother
      rw [StaticTable.exec_state, StaticTable.exec_state, hevents,
        lastMask?_fade hother]
  · intro task cause f
    constructor
    · intro before mask after hx hnone
      have hbefore : T.Answers before :=
        (StaticTable.answers_append.1 (hx ▸ hanswers)).1
      obtain ⟨rest, hevents⟩ := StaticTable.exec_events_of_agree
        masks hx (StaticTable.answers_refusing hbefore hnone)
      rw [StaticTable.refusing_reply_self] at hevents
      have hfgoes : (run rules opts).Goes f.events f.result :=
        goes_exec _ (run rules opts) masks
      rw [hevents] at hfgoes
      obtain ⟨hresult, rfl⟩ := goes_run_failure_last hfgoes rfl
      exact ⟨hevents, hresult⟩
    · intro hnone
      exact StaticTable.exec_eq_of_answers _ _
        (StaticTable.answers_refusing hanswers hnone)

namespace Sample

/-- The small system when one of its tasks is refused. -/
def refused (id : Nat) (e : TaskError) : Execution Masks RunReport :=
  (run rules Sample.opts).exec (snapshot.static.refusing id fun _ => e).table
    fun _ => none

end Sample

theorem run_refusal_isolated_sample :
    Sample.snapshot.static.Grants 11 ∧
      (Sample.refused 11 (.vanished 11)).state 10 = some Sample.first ∧
      (Sample.refused 11 (.failed 11 (.errno 1))).events =
        Sample.inherits.take 6 ++
          [⟨.setAffinity 11 Sample.first, .error (.failed 11 (.errno 1))⟩] ∧
      (Sample.refused 11 (.failed 11 (.errno 1))).result =
        .error (.task (.failed 11 (.errno 1))) := by
  have hgrants : Sample.snapshot.static.Grants 11 := fun _ => rfl
  obtain ⟨hvanished, hfailed⟩ := run_refusal_isolated Sample.snapshot.static
    (fun _ => none) Sample.rules Sample.opts 11 hgrants
  have hmask := (hvanished fun _ => 11).2.2 10 (by decide)
  have hevents := (hfailed (fun _ => 11) fun _ => .errno 1).1
    (Sample.inherits.take 6) Sample.first
    [⟨.setAffinity 11 Sample.second, .ok ()⟩] rfl (by decide)
  exact ⟨hgrants, hmask, hevents⟩

end CpuPinning
