import CpuPinning.Proofs.Pass.Repetition

/-!
# The two steps of a rule

The parent mask and the thread rules of a rule do not get in each other's way.  On
a static system, to apply a rule that has both is to apply a rule with the parent
mask alone and then a rule with the thread rules alone: the outcomes and the calls
of the second follow those of the first, and only an error of the first keeps the
second from being tried.
-/

namespace CpuPinning

open Pass

namespace StaticTable

variable {α β γ : Type} {T : StaticTable} {opts : Options} {process : ProcessInfo}
  {rule : CommandRule} {threads : List ThreadInfo} {mask : CpuMask}
  {rules : List ThreadRule} {o : Outcome}

/-! ## Settings of passes in a row -/

/-- What was to follow a pass that fails is not asked for. -/
theorem log_bind_of_error {p : Pass α} {e : PinError} (h : T.result p = .error e)
    (f : α → Pass β) : T.log (p >>= f) = T.log p := by
  induction p with
  | done r =>
      have hr : r = .error e := h
      rw [hr]
      rfl
  | ask q next ih => exact congrArg (_ :: ·) (ih _ h)

/-- The second of two passes sets its masks only if the first one goes through. -/
theorem settings_log_bind (p : Pass α) (k : Pass β) (f : α → β → γ) :
    settings (T.log (p >>= fun a => k >>= fun b => pure (f a b))) =
      settings (T.log p) ++
        if (T.result p).isOk then settings (T.log k) else [] := by
  cases hp : T.result p with
  | ok a =>
      rw [log_bind_of_ok hp, log_map, settings_append]
      rfl
  | error e =>
      rw [log_bind_of_error hp]
      exact (List.append_nil _).symm

/-! ## Rules on a static system -/

/-- Where the threads of the process are known, both steps are tried. -/
theorem apply_of_threads (opts : Options) (hrule : rule.isEmpty = false)
    (hthreads : T.reply (.threads process.pid) = .ok threads) :
    (T.result (apply opts process rule) = do
      let inherited ← T.result (applyParent opts process rule threads)
      let own ← T.result (applyThreadRules opts rule threads)
      return inherited ++ own) ∧
    settings (T.log (apply opts process rule)) =
      settings (T.log (applyParent opts process rule threads)) ++
        if (T.result (applyParent opts process rule threads)).isOk then
          settings (T.log (applyThreadRules opts rule threads)) else [] := by
  let steps : Pass (List Outcome) := do
    let inherited ← applyParent opts process rule threads
    let own ← applyThreadRules opts rule threads
    return inherited ++ own
  have happly : T.result (apply opts process rule) = T.result steps ∧
      settings (T.log (apply opts process rule)) = settings (T.log steps) := by
    unfold apply
    simp only [hrule, Bool.false_eq_true, if_false, result, log, hthreads]
    exact ⟨rfl, rfl⟩
  constructor
  · rw [happly.1, result_bind]
    apply bind_congr
    intro inherited
    exact T.result_bind _ _
  · rw [happly.2]
    exact settings_log_bind _ _ _

/-- A rule with both parts hands its parent mask down and then tries its thread
rules, unless an error keeps it from them. -/
theorem apply_both (hthreads : T.reply (.threads process.pid) = .ok threads) :
    (T.result (apply opts process ⟨some mask, some rules⟩) = do
      let inherited ← T.result (cascade opts process threads mask)
      let own ← T.result (applyToThreads opts rules threads)
      return inherited ++ own) ∧
    settings (T.log (apply opts process ⟨some mask, some rules⟩)) =
      settings (T.log (cascade opts process threads mask)) ++
        if (T.result (cascade opts process threads mask)).isOk then
          settings (T.log (applyToThreads opts rules threads)) else [] :=
  apply_of_threads opts rfl hthreads

/-- A rule without thread rules hands its parent mask down, and that is all. -/
theorem apply_parent_alone (hthreads : T.reply (.threads process.pid) = .ok threads) :
    T.result (apply opts process ⟨some mask, none⟩) =
        T.result (cascade opts process threads mask) ∧
      settings (T.log (apply opts process ⟨some mask, none⟩)) =
        settings (T.log (cascade opts process threads mask)) := by
  have hempty : (⟨some mask, none⟩ : CommandRule).isEmpty = false := rfl
  obtain ⟨hresult, hsettings⟩ := apply_of_threads opts hempty hthreads
  rw [hresult, hsettings]
  change (do
      let inherited ← T.result (cascade opts process threads mask)
      return inherited ++ []) = _ ∧ settings (T.log (cascade opts process threads mask)) ++
    (if (T.result (cascade opts process threads mask)).isOk then [] else []) = _
  rw [ite_self, List.append_nil]
  refine ⟨?_, rfl⟩
  cases T.result (cascade opts process threads mask) with
  | ok inherited => exact congrArg Except.ok (List.append_nil inherited)
  | error e => rfl

/-- A rule without a parent mask tries its thread rules, and that is all. -/
theorem apply_rules_alone (hthreads : T.reply (.threads process.pid) = .ok threads) :
    T.result (apply opts process ⟨none, some rules⟩) =
        T.result (applyToThreads opts rules threads) ∧
      settings (T.log (apply opts process ⟨none, some rules⟩)) =
        settings (T.log (applyToThreads opts rules threads)) := by
  have hempty : (⟨none, some rules⟩ : CommandRule).isEmpty = false := rfl
  obtain ⟨hresult, hsettings⟩ := apply_of_threads opts hempty hthreads
  refine ⟨?_, hsettings⟩
  rw [hresult]
  change (do
      let own ← T.result (applyToThreads opts rules threads)
      return [] ++ own) = _
  cases T.result (applyToThreads opts rules threads) with
  | ok own => rfl
  | error e => rfl

/-- Where the threads of the process cannot be listed, nothing is set. -/
theorem apply_of_failed {id : Nat} {cause : IoFailure} (hrule : rule.isEmpty = false)
    (hthreads : T.reply (.threads process.pid) = .error (.failed id cause)) :
    T.result (apply opts process rule) = .error (.task (.failed id cause)) ∧
      settings (T.log (apply opts process rule)) = [] := by
  unfold apply
  simp only [hrule, Bool.false_eq_true, if_false, result, log, hthreads]
  exact ⟨rfl, rfl⟩

/-- The parent mask is handed down to nobody, and `o` is reported instead: it is out
of range, or the process has vanished before its descendants could be listed. -/
inductive SkipsCascade (T : StaticTable) (opts : Options) (process : ProcessInfo)
    (mask : CpuMask) : Outcome → Prop
  | outOfRange : mask.exceeds opts.cpuCount = true →
      SkipsCascade T opts process mask
        (.outOfRange none mask .parent opts.cpuCount)
  | vanished {gone : Nat} : mask.exceeds opts.cpuCount = false →
      T.reply (.children process.pid) = .error (.vanished gone) →
      SkipsCascade T opts process mask (.vanished (.process process.pid))

theorem SkipsCascade.cascade (h : SkipsCascade T opts process mask o)
    (threads : List ThreadInfo) :
    T.result (cascade opts process threads mask) = .ok [o] ∧
      settings (T.log (cascade opts process threads mask)) = [] := by
  unfold CpuPinning.cascade
  cases h with
  | outOfRange hrange =>
      rw [if_pos hrange]
      exact ⟨rfl, rfl⟩
  | vanished hrange hgone =>
      simp only [hrange, Bool.false_eq_true, if_false, result, log, hgone]
      exact ⟨rfl, rfl⟩

end StaticTable

open StaticTable

/-- To apply a rule with a parent mask and thread rules to a process that has not
vanished is to apply the one and then the other.  An error of the first is the error
of the whole, and then no thread rule is tried; otherwise the outcomes of the second
follow those of the first, and so do the masks that are set.  In particular a parent
mask that is out of range, or has nobody to be handed down to, suppresses none of the
thread rules, and these suppress nothing of what the parent mask is for. -/
theorem apply_composes (T : StaticTable) (masks masks' : Masks) (opts : Options)
    (process : ProcessInfo) (mask : CpuMask) (rules : List ThreadRule)
    (hthere : ∀ gone, T.reply (.threads process.pid) ≠ .error (.vanished gone)) :
    let whole := (apply opts process ⟨some mask, some rules⟩).exec T.table masks
    let inherited := (apply opts process ⟨some mask, none⟩).exec T.table masks
    let own := (apply opts process ⟨none, some rules⟩).exec T.table masks'
    (whole.result = do
      let outcomes ← inherited.result
      let more ← own.result
      return outcomes ++ more) ∧
    settings whole.events = settings inherited.events ++
      (if inherited.result.isOk then settings own.events else []) ∧
    ∀ o, T.SkipsCascade opts process mask o →
      whole.result = own.result.map (o :: ·) ∧
        settings whole.events = settings own.events := by
  intro whole inherited own
  simp only [whole, inherited, own, exec_eq]
  cases hthreads : T.reply (.threads process.pid) with
  | ok threads =>
      rw [(apply_both hthreads).1, (apply_both hthreads).2,
        (apply_parent_alone hthreads).1, (apply_parent_alone hthreads).2,
        (apply_rules_alone hthreads).1, (apply_rules_alone hthreads).2]
      refine ⟨rfl, rfl, ?_⟩
      intro o ho
      obtain ⟨hcascade, hcascadeSets⟩ := ho.cascade threads
      rw [hcascade, hcascadeSets]
      refine ⟨?_, rfl⟩
      change (do
          let own ← T.result (applyToThreads opts rules threads)
          return [o] ++ own) = _
      cases T.result (applyToThreads opts rules threads) with
      | ok own => rfl
      | error e => rfl
  | error e =>
      cases e with
      | vanished gone => exact absurd hthreads (hthere gone)
      | failed id cause =>
          have hfailed : ∀ rule : CommandRule, rule.isEmpty = false →
              T.result (apply opts process rule) = .error (.task (.failed id cause)) ∧
                settings (T.log (apply opts process rule)) = [] :=
            fun rule hrule => apply_of_failed hrule hthreads
          rw [(hfailed ⟨some mask, some rules⟩ rfl).1, (hfailed ⟨some mask, some rules⟩ rfl).2,
            (hfailed ⟨some mask, none⟩ rfl).1, (hfailed ⟨some mask, none⟩ rfl).2,
            (hfailed ⟨none, some rules⟩ rfl).1, (hfailed ⟨none, some rules⟩ rfl).2]
          refine ⟨rfl, rfl, ?_⟩
          intro o ho
          exact ⟨rfl, rfl⟩

namespace Sample

/-- A mask that no task of the small system can be given. -/
def beyond : CpuMask := ⟨[9], by simp, by simp, by simp [maxCpuId]⟩

/-- A rule, applied to the process of the small system. -/
def applied (rule : CommandRule) : Execution Masks (List Outcome) :=
  (apply Sample.opts worker rule).exec snapshot.static.table fun _ => none

end Sample

open Sample

theorem apply_composes_sample :
    (∀ gone, snapshot.static.reply (.threads worker.pid) ≠ .error (.vanished gone)) ∧
    settings (applied rule).events = [(20, first), (10, first), (11, first), (11, second)] ∧
    snapshot.static.SkipsCascade Sample.opts worker beyond
      (.outOfRange none beyond .parent 4) ∧
    (applied ⟨some beyond, some [ioRule]⟩).result = .ok
      [.outOfRange none beyond .parent 4,
        .applied (.thread 11 "io") second (.threadRule "io")] ∧
    settings (applied ⟨some beyond, some [ioRule]⟩).events = [(11, second)] := by
  have hthere : ∀ gone, snapshot.static.reply (.threads worker.pid) ≠
      .error (.vanished gone) := by
    intro gone h
    cases h
  have hskips : snapshot.static.SkipsCascade Sample.opts worker beyond
      (.outOfRange none beyond .parent 4) := .outOfRange (by decide)
  obtain ⟨-, hsettings, -⟩ := apply_composes snapshot.static (fun _ => none)
    (fun _ => none) Sample.opts worker first [ioRule] hthere
  obtain ⟨-, -, hskipped⟩ := apply_composes snapshot.static (fun _ => none)
    (fun _ => none) Sample.opts worker beyond [ioRule] hthere
  obtain ⟨hresult, hown⟩ := hskipped _ hskips
  exact ⟨hthere, hsettings, hskips, hresult, hown⟩

end CpuPinning
