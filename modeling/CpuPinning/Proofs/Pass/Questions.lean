import CpuPinning.Pass.Run

/-!
# The questions of a pass

What a pass may ask at all, whatever it is answered.  Every mask that a pass asks
to set is a mask of its rules and names no CPU above the count: the range is
checked on both ways that lead to a setting.
-/

namespace CpuPinning

namespace Pass

variable {α β σ : Type} {allowed : Query → Prop}

/-- Every question of the pass is allowed, whatever is answered to those before
it. -/
inductive AsksOnly (allowed : Query → Prop) : Pass α → Prop
  | done (r : Except PinError α) : AsksOnly allowed (done r)
  | ask {q : Query} {next : q.Answer → Pass α} :
      allowed q → (∀ a, AsksOnly allowed (next a)) →
      AsksOnly allowed (ask q next)

namespace AsksOnly

theorem bind {p : Pass α} {f : α → Pass β} (hp : AsksOnly allowed p)
    (hf : ∀ a, AsksOnly allowed (f a)) : AsksOnly allowed (p >>= f) := by
  induction hp with
  | done r =>
      cases r with
      | ok a => exact hf a
      | error e => exact .done _
  | ask hq _ ih => exact .ask hq fun a => ih a

theorem map {p : Pass α} (hp : AsksOnly allowed p) (f : α → β) :
    AsksOnly allowed (p >>= fun a => pure (f a)) :=
  hp.bind fun a => .done (.ok (f a))

/-- On every system a pass asks nothing else. -/
theorem exec {p : Pass α} (hp : AsksOnly allowed p) (t : Table σ) (s : σ) :
    ∀ e ∈ (p.exec t s).events, allowed e.query := by
  induction hp generalizing s with
  | done r =>
      intro e he
      cases he
  | ask hq _ ih =>
      intro e he
      rcases List.mem_cons.1 he with rfl | he
      · exact hq
      · exact ih _ _ e he

end AsksOnly

end Pass

open Pass

/-! ## The masks of rules -/

/-- A mask of a rule: the parent mask or that of a thread rule. -/
def CommandRule.HasMask (rule : CommandRule) (mask : CpuMask) : Prop :=
  rule.parent = some mask ∨
    ∃ threads, rule.threads = some threads ∧ ∃ r ∈ threads, r.mask = mask

/-- A mask of one of the rules of a rule set. -/
def RuleSet.HasMask (rules : RuleSet) (mask : CpuMask) : Prop :=
  ∃ p ∈ rules.processes, ∃ f ∈ p.2, f.2.HasMask mask

/-- A question that may be asked where only some masks are to be set: one of
these is in range if it is to be set. -/
def Query.SetsOnly (opts : Options) (masks : CpuMask → Prop) : Query → Prop
  | setAffinity _ mask => masks mask ∧ mask.exceeds opts.cpuCount = false
  | _ => True

theorem hasMask_of_mem_matchProcesses {rules : RuleSet}
    {processes : List ProcessInfo} {m : Match}
    (hm : m ∈ matchProcesses rules processes) {mask : CpuMask}
    (hmask : m.rule.HasMask mask) : rules.HasMask mask := by
  obtain ⟨process, -, hm⟩ := List.mem_flatMap.1 hm
  split at hm
  · next fragments hget =>
      obtain ⟨f, hf, rfl⟩ := List.mem_map.1 hm
      exact ⟨_, mem_of_member? hget, f, (List.mem_filter.1 hf).1, hmask⟩
  · cases hm

/-! ## Every step asks for masks of its rule -/

section Steps

variable {opts : Options} {masks : CpuMask → Prop}

theorem setMask_asksOnly (id : Nat) (target : Target) {mask : CpuMask}
    (source : MaskSource) (hmask : masks mask)
    (hrange : mask.exceeds opts.cpuCount = false) :
    (setMask id target mask source).AsksOnly (Query.SetsOnly opts masks) := by
  refine .ask ⟨hmask, hrange⟩ fun answer => ?_
  match answer with
  | .ok () => exact .done _
  | .error (.vanished gone) => exact .done _
  | .error (.failed task cause) => exact .done _

theorem setAll_asksOnly (targets : List Target) {mask : CpuMask}
    (hmask : masks mask) (hrange : mask.exceeds opts.cpuCount = false) :
    (setAll mask targets).AsksOnly (Query.SetsOnly opts masks) := by
  induction targets with
  | nil => exact .done _
  | cons target targets ih =>
      exact (setMask_asksOnly _ _ _ hmask hrange).bind fun o => ih.map (o :: ·)

theorem cascade_asksOnly (process : ProcessInfo) (threads : List ThreadInfo)
    {mask : CpuMask} (hmask : masks mask) :
    (cascade opts process threads mask).AsksOnly
      (Query.SetsOnly opts masks) := by
  unfold cascade
  split
  · exact .done _
  · next hrange =>
      refine .ask trivial fun answer => ?_
      match answer with
      | .ok children =>
          exact setAll_asksOnly _ hmask (Bool.eq_false_iff.2 hrange)
      | .error (.vanished gone) => exact .done _
      | .error (.failed task cause) => exact .done _

theorem applyToThread_asksOnly {rules : List ThreadRule} (thread : ThreadInfo)
    (hrules : ∀ rule ∈ rules, masks rule.mask) :
    (applyToThread opts rules thread).AsksOnly (Query.SetsOnly opts masks) := by
  unfold applyToThread
  split
  · exact .done _
  · next rule hclaim =>
      have hrule : rule ∈ rules := by
        have hmem : rule ∈ claiming rules thread := by simp [hclaim]
        exact (List.mem_filter.1 hmem).1
      dsimp only
      split
      · exact .done _
      · next hrange =>
          exact (setMask_asksOnly _ _ _ (hrules rule hrule)
            (Bool.eq_false_iff.2 hrange)).map ([·])
  · dsimp only
    split
    · exact .done _
    · exact .done _

theorem applyToThreads_asksOnly {rules : List ThreadRule}
    (hrules : ∀ rule ∈ rules, masks rule.mask) (threads : List ThreadInfo) :
    (applyToThreads opts rules threads).AsksOnly (Query.SetsOnly opts masks) := by
  induction threads with
  | nil => exact .done _
  | cons thread threads ih =>
      exact (applyToThread_asksOnly thread hrules).bind fun os => ih.map (os ++ ·)

theorem applyParent_asksOnly (process : ProcessInfo) {rule : CommandRule}
    (threads : List ThreadInfo) (hrule : ∀ mask, rule.HasMask mask → masks mask) :
    (applyParent opts process rule threads).AsksOnly
      (Query.SetsOnly opts masks) := by
  unfold applyParent
  split
  · next mask hparent =>
      exact cascade_asksOnly process threads (hrule mask (.inl hparent))
  · exact .done _

theorem applyThreadRules_asksOnly {rule : CommandRule} (threads : List ThreadInfo)
    (hrule : ∀ mask, rule.HasMask mask → masks mask) :
    (applyThreadRules opts rule threads).AsksOnly (Query.SetsOnly opts masks) := by
  unfold applyThreadRules
  split
  · next rules hthreads =>
      refine applyToThreads_asksOnly (fun r hr => ?_) threads
      exact hrule r.mask (.inr ⟨rules, hthreads, r, hr, rfl⟩)
  · exact .done _

theorem apply_asksOnly (process : ProcessInfo) {rule : CommandRule}
    (hrule : ∀ mask, rule.HasMask mask → masks mask) :
    (apply opts process rule).AsksOnly (Query.SetsOnly opts masks) := by
  unfold apply
  split
  · exact .done _
  · refine .ask trivial fun answer => ?_
    match answer with
    | .ok threads =>
        exact (applyParent_asksOnly process threads hrule).bind fun os =>
          (applyThreadRules_asksOnly threads hrule).map (os ++ ·)
    | .error (.vanished gone) => exact .done _
    | .error (.failed task cause) => exact .done _

theorem runMatches_asksOnly {ms : List Match}
    (hms : ∀ m ∈ ms, ∀ mask, m.rule.HasMask mask → masks mask) :
    (runMatches opts ms).AsksOnly (Query.SetsOnly opts masks) := by
  induction ms with
  | nil => exact .done _
  | cons m ms ih =>
      obtain ⟨hm, hrest⟩ := List.forall_mem_cons.1 hms
      have hmatch : (runMatch opts m).AsksOnly (Query.SetsOnly opts masks) :=
        .ask trivial fun _ => (apply_asksOnly m.process hm).map _
      exact hmatch.bind fun report => (ih hrest).map (report :: ·)

end Steps

/-- A whole pass asks to set masks of its rules that are in range. -/
theorem run_asksOnly (rules : RuleSet) (opts : Options) :
    (run rules opts).AsksOnly (Query.SetsOnly opts rules.HasMask) := by
  refine .ask trivial fun answer => ?_
  match answer with
  | .ok processes =>
      have hms : ∀ m ∈ matchProcesses rules processes,
          ∀ mask, m.rule.HasMask mask → rules.HasMask mask :=
        fun m hm mask hmask => hasMask_of_mem_matchProcesses hm hmask
      exact (runMatches_asksOnly hms).map fun reports =>
        RunReport.mk processes.length reports
  | .error e => exact .done _

end CpuPinning
