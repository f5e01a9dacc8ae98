import CpuPinning.Proofs.Pass.Log
import CpuPinning.Proofs.Pass.Steps

/-!
# The two policies

The policies part at the first thread that several rules claim, and nowhere
else.  Up to there the strict pass and the lenient one ask the same questions on
every system, however its answers depend on what was asked before.  There the
strict pass ends, and the lenient one reports what the strict one ended with.
-/

namespace CpuPinning

open Pass

/-- Whether a thread was left alone because several rules claim it. -/
def Outcome.isAmbiguous : Outcome → Bool
  | ambiguous .. => true
  | _ => false

/-- The first thread that was left alone because several rules claim it. -/
def firstAmbiguous? (outcomes : List Outcome) : Option Outcome :=
  outcomes.find? Outcome.isAmbiguous

theorem firstAmbiguous?_append (first second : List Outcome) :
    firstAmbiguous? (first ++ second) =
      (firstAmbiguous? first).or (firstAmbiguous? second) :=
  List.find?_append

/-! ## Passes that part at an ambiguity -/

namespace Pass

variable {α β γ σ : Type}

/-- The pass reports `o` before any other ambiguity if it goes through; `read`
takes the outcomes out of its value. -/
def Reports (read : α → List Outcome) (p : Pass α) (o : Outcome) : Prop :=
  ∀ {log a}, p.Goes log (.ok a) → firstAmbiguous? (read a) = some o

/-- The first pass is the second one up to the first ambiguity.  It ends there
with an error, and the second one reports the same ambiguity. -/
inductive PartsAtAmbiguity (read : α → List Outcome) : Pass α → Pass α → Prop
  | value {a : α} : firstAmbiguous? (read a) = none →
      PartsAtAmbiguity read (done (.ok a)) (done (.ok a))
  | failure (e : TaskError) :
      PartsAtAmbiguity read (fail (.task e)) (fail (.task e))
  | ambiguity {thread : String} {tid : Nat} {rules : List String} {p : Pass α} :
      p.Reports read (.ambiguous tid thread rules) →
      PartsAtAmbiguity read (fail (.ambiguous thread tid rules)) p
  | ask {q : Query} {next next' : q.Answer → Pass α} :
      (∀ a, PartsAtAmbiguity read (next a) (next' a)) →
      PartsAtAmbiguity read (ask q next) (ask q next')

namespace PartsAtAmbiguity

variable {p p' : Pass α} {q q' : Pass β}
  {readA : α → List Outcome} {readB : β → List Outcome}
  {readC : γ → List Outcome}

theorem bind {k k' : α → Pass β} (hp : PartsAtAmbiguity readA p p')
    (hk : ∀ a, firstAmbiguous? (readA a) = none →
      PartsAtAmbiguity readB (k a) (k' a))
    (hlater : ∀ a o, firstAmbiguous? (readA a) = some o →
      (k' a).Reports readB o) :
    PartsAtAmbiguity readB (p >>= k) (p' >>= k') := by
  induction hp with
  | value ha => exact hk _ ha
  | failure e => exact .failure e
  | ambiguity hreports =>
      refine .ambiguity fun {log b} hgoes => ?_
      obtain ⟨first, a, second, -, hfirst, hsecond⟩ := goes_bind_ok_iff.1 hgoes
      exact hlater a _ (hreports hfirst) hsecond
  | ask _ ih => exact .ask fun a => ih a

theorem map {f : α → β} (hp : PartsAtAmbiguity readA p p')
    (hf : ∀ a, readB (f a) = readA a) :
    PartsAtAmbiguity readB (p >>= fun a => pure (f a))
      (p' >>= fun a => pure (f a)) := by
  refine hp.bind (fun a ha => .value (by rwa [hf])) fun a o ha => ?_
  intro log b hgoes
  obtain ⟨-, rfl⟩ := goes_pure_ok_iff.1 hgoes
  rwa [hf]

/-- Two passes in a row, where the outcomes of the second follow those of the
first. -/
theorem both {f : α → β → γ} (hp : PartsAtAmbiguity readA p p')
    (hq : PartsAtAmbiguity readB q q')
    (hf : ∀ a b, readC (f a b) = readA a ++ readB b) :
    PartsAtAmbiguity readC (p >>= fun a => q >>= fun b => pure (f a b))
      (p' >>= fun a => q' >>= fun b => pure (f a b)) := by
  refine hp.bind (fun a ha => hq.bind (fun b hb => .value ?_) fun b o hb => ?_)
    fun a o ha => ?_
  · rw [hf, firstAmbiguous?_append, ha, hb, Option.none_or]
  · intro log c hgoes
    obtain ⟨-, rfl⟩ := goes_pure_ok_iff.1 hgoes
    rw [hf, firstAmbiguous?_append, ha, hb, Option.none_or]
  · intro log c hgoes
    obtain ⟨b, -, rfl⟩ := goes_map_ok_iff.1 hgoes
    rw [hf, firstAmbiguous?_append, ha, Option.some_or]

/-- A strict pass that does not meet an ambiguity is the lenient one. -/
theorem exec_eq (h : PartsAtAmbiguity readA p p') (t : Table σ) (s : σ)
    (hr : ∀ thread tid rules,
      (p.exec t s).result ≠ .error (.ambiguous thread tid rules)) :
    p'.exec t s = p.exec t s := by
  induction h generalizing s with
  | value _ => rfl
  | failure e => rfl
  | ambiguity _ => exact absurd rfl (hr _ _ _)
  | ask _ ih =>
      simp only [exec] at hr ⊢
      rw [ih _ _ hr]

/-- A strict pass that meets an ambiguity is the beginning of the lenient one. -/
theorem exec_isPrefix (h : PartsAtAmbiguity readA p p') (t : Table σ) (s : σ)
    {thread : String} {tid : Nat} {rules : List String}
    (hr : (p.exec t s).result = .error (.ambiguous thread tid rules)) :
    (p.exec t s).events <+: (p'.exec t s).events ∧
      ∀ a, (p'.exec t s).result = .ok a →
        firstAmbiguous? (readA a) = some (.ambiguous tid thread rules) := by
  induction h generalizing s with
  | value _ => cases hr
  | failure e => cases hr
  | @ambiguity _ _ _ p' hreports =>
      cases hr
      refine ⟨List.nil_prefix, fun a ha => ?_⟩
      have hgoes := goes_exec t p' s
      rw [ha] at hgoes
      exact hreports hgoes
  | ask _ ih =>
      obtain ⟨hevents, hresult⟩ := ih _ _ hr
      exact ⟨List.cons_prefix_cons.2 ⟨rfl, hevents⟩, hresult⟩

/-- A strict pass fails with a call or at an ambiguity. -/
theorem exec_error (h : PartsAtAmbiguity readA p p') (t : Table σ) (s : σ)
    {e : PinError} (he : (p.exec t s).result = .error e) :
    (∃ cause, e = .task cause) ∨
      ∃ thread tid rules, e = .ambiguous thread tid rules := by
  induction h generalizing s with
  | value _ => cases he
  | failure cause =>
      cases he
      exact .inl ⟨cause, rfl⟩
  | ambiguity _ =>
      cases he
      exact .inr ⟨_, _, _, rfl⟩
  | ask _ ih => exact ih _ _ he

end PartsAtAmbiguity

end Pass

/-! ## Every step parts at an ambiguity -/

variable {count : Nat}

theorem setMask_parts (id : Nat) (target : Target) (mask : CpuMask)
    (source : MaskSource) :
    PartsAtAmbiguity ([·]) (setMask id target mask source)
      (setMask id target mask source) := by
  refine .ask fun answer => ?_
  match answer with
  | .ok () => exact .value rfl
  | .error (.vanished gone) => exact .value rfl
  | .error (.failed task cause) => exact .failure _

theorem setAll_parts (mask : CpuMask) (targets : List Target) :
    PartsAtAmbiguity id (setAll mask targets) (setAll mask targets) := by
  induction targets with
  | nil => exact .value rfl
  | cons target targets ih =>
      exact (setMask_parts target.id target mask .parent).both ih fun o os => rfl

theorem cascade_parts (process : ProcessInfo) (threads : List ThreadInfo)
    (mask : CpuMask) :
    PartsAtAmbiguity id (cascade ⟨count, .abort⟩ process threads mask)
      (cascade ⟨count, .skipThread⟩ process threads mask) := by
  unfold cascade
  dsimp only
  split
  · exact .value rfl
  · refine .ask fun answer => ?_
    match answer with
    | .ok children => exact setAll_parts mask _
    | .error (.vanished gone) => exact .value rfl
    | .error (.failed task cause) => exact .failure _

theorem applyParent_parts (process : ProcessInfo) (rule : CommandRule)
    (threads : List ThreadInfo) :
    PartsAtAmbiguity id (applyParent ⟨count, .abort⟩ process rule threads)
      (applyParent ⟨count, .skipThread⟩ process rule threads) := by
  unfold applyParent
  split
  · exact cascade_parts process threads _
  · exact .value rfl

/-- The only step where the policy matters. -/
theorem applyToThread_parts (rules : List ThreadRule) (thread : ThreadInfo) :
    PartsAtAmbiguity id (applyToThread ⟨count, .abort⟩ rules thread)
      (applyToThread ⟨count, .skipThread⟩ rules thread) := by
  unfold applyToThread
  split
  · exact .value rfl
  · dsimp only
    split
    · exact .value rfl
    · exact (setMask_parts _ _ _ _).map fun o => rfl
  · refine .ambiguity fun {log a} hgoes => ?_
    obtain ⟨-, rfl⟩ := goes_pure_ok_iff.1 hgoes
    rfl

theorem applyToThreads_parts (rules : List ThreadRule)
    (threads : List ThreadInfo) :
    PartsAtAmbiguity id (applyToThreads ⟨count, .abort⟩ rules threads)
      (applyToThreads ⟨count, .skipThread⟩ rules threads) := by
  induction threads with
  | nil => exact .value rfl
  | cons thread threads ih =>
      exact (applyToThread_parts rules thread).both ih fun os ps => rfl

theorem applyThreadRules_parts (rule : CommandRule) (threads : List ThreadInfo) :
    PartsAtAmbiguity id (applyThreadRules ⟨count, .abort⟩ rule threads)
      (applyThreadRules ⟨count, .skipThread⟩ rule threads) := by
  unfold applyThreadRules
  split
  · exact applyToThreads_parts _ threads
  · exact .value rfl

theorem apply_parts (process : ProcessInfo) (rule : CommandRule) :
    PartsAtAmbiguity id (apply ⟨count, .abort⟩ process rule)
      (apply ⟨count, .skipThread⟩ process rule) := by
  unfold apply
  split
  · exact .value rfl
  · refine .ask fun answer => ?_
    match answer with
    | .ok threads =>
        exact (applyParent_parts process rule threads).both
          (applyThreadRules_parts rule threads) fun os ps => rfl
    | .error (.vanished gone) => exact .value rfl
    | .error (.failed task cause) => exact .failure _

theorem runMatch_parts (m : Match) :
    PartsAtAmbiguity MatchReport.outcomes (runMatch ⟨count, .abort⟩ m)
      (runMatch ⟨count, .skipThread⟩ m) :=
  .ask fun _ => (apply_parts m.process m.rule).map fun _ => rfl

theorem runMatches_parts (ms : List Match) :
    PartsAtAmbiguity (List.flatMap MatchReport.outcomes)
      (runMatches ⟨count, .abort⟩ ms) (runMatches ⟨count, .skipThread⟩ ms) := by
  induction ms with
  | nil => exact .value rfl
  | cons m ms ih =>
      exact (runMatch_parts m).both ih fun report reports => List.flatMap_cons

/-- The policies part at the first ambiguity of a whole pass. -/
theorem run_parts (rules : RuleSet) :
    PartsAtAmbiguity RunReport.outcomes (run rules ⟨count, .abort⟩)
      (run rules ⟨count, .skipThread⟩) := by
  refine .ask fun answer => ?_
  match answer with
  | .ok processes => exact (runMatches_parts _).map fun reports => rfl
  | .error e => exact .failure e

/-- A strict pass that goes through, or that a failing call ends, is the lenient
pass in every respect.  A strict pass that ends at an ambiguity is the beginning
of the lenient pass, and the ambiguity is the first that the lenient pass
reports.  There are no other ends. -/
theorem run_policies_agree {σ : Type} (t : Table σ) (s : σ) (rules : RuleSet)
    (count : Nat) :
    let strict := (run rules ⟨count, .abort⟩).exec t s
    let lenient := (run rules ⟨count, .skipThread⟩).exec t s
    (∀ report, strict.result = .ok report → lenient = strict) ∧
    (∀ e, strict.result = .error (.task e) → lenient = strict) ∧
    (∀ thread tid texts,
      strict.result = .error (.ambiguous thread tid texts) →
        strict.events <+: lenient.events ∧
        ∀ report, lenient.result = .ok report →
          report.outcomes.find? Outcome.isAmbiguous =
            some (.ambiguous tid thread texts)) ∧
    ∀ e, strict.result = .error e →
      (∃ cause, e = .task cause) ∨
        ∃ thread tid texts, e = .ambiguous thread tid texts := by
  intro strict lenient
  have hparts : PartsAtAmbiguity RunReport.outcomes (run rules ⟨count, .abort⟩)
      (run rules ⟨count, .skipThread⟩) := run_parts rules
  refine ⟨fun report hr => ?_, fun e hr => ?_, fun thread tid texts hr => ?_,
    fun e he => hparts.exec_error t s he⟩
  · refine hparts.exec_eq t s fun thread tid texts he => ?_
    cases hr.symm.trans he
  · refine hparts.exec_eq t s fun thread tid texts he => ?_
    cases hr.symm.trans he
  · exact hparts.exec_isPrefix t s hr

namespace Sample

/-- A second rule for the threads that are named `io`. -/
def rivalRule : ThreadRule :=
  { ioRule with pattern := "(?:io)", mask := first, compiled := by decide +kernel }

def rivals : RuleSet :=
  ⟨[("worker", [("", ⟨some first, some [ioRule, rivalRule]⟩)])], []⟩

/-- A system where the last setting is refused. -/
def refusing : Snapshot :=
  { snapshot with faults := (.setAffinity 11, .failed 11 (.errno 1)) :: snapshot.faults }

abbrev strict (rules : RuleSet) (system : Snapshot) :
    Execution Snapshot RunReport :=
  (run rules ⟨4, .abort⟩).exec Snapshot.table system

abbrev lenient (rules : RuleSet) (system : Snapshot) :
    Execution Snapshot RunReport :=
  (run rules ⟨4, .skipThread⟩).exec Snapshot.table system

end Sample

open Sample

theorem run_policies_agree_sample :
    ((strict rules snapshot).result.isOk = true ∧
      lenient rules snapshot = strict rules snapshot) ∧
    ((strict rivals refusing).result = .error (.task (.failed 11 (.errno 1))) ∧
      lenient rivals refusing = strict rivals refusing) ∧
    (strict rivals snapshot).result =
        .error (.ambiguous "io" 11 ["io => 1", "(?:io) => 0"]) ∧
      (strict rivals snapshot).events <+: (lenient rivals snapshot).events ∧
      ∀ report, (lenient rivals snapshot).result = .ok report →
        report.outcomes.find? Outcome.isAmbiguous =
          some (.ambiguous 11 "io" ["io => 1", "(?:io) => 0"]) := by
  refine ⟨⟨exec_isOk, ?_⟩, ?_, ?_⟩
  · have hagree := run_policies_agree Snapshot.table snapshot rules 4
    cases hstrict : (strict rules snapshot).result with
    | ok report => exact hagree.1 report hstrict
    | error e =>
        have hok : (strict rules snapshot).result.isOk = true := exec_isOk
        rw [hstrict] at hok
        cases hok
  · have hstrict : (strict rivals refusing).result =
        .error (.task (.failed 11 (.errno 1))) := rfl
    have hagree := run_policies_agree Snapshot.table refusing rivals 4
    exact ⟨hstrict, hagree.2.1 _ hstrict⟩
  · have hstrict : (strict rivals snapshot).result =
        .error (.ambiguous "io" 11 ["io => 1", "(?:io) => 0"]) := rfl
    have hagree := run_policies_agree Snapshot.table snapshot rivals 4
    exact ⟨hstrict, hagree.2.2.1 _ _ _ hstrict⟩

end CpuPinning
