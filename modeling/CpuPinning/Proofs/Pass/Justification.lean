import CpuPinning.Proofs.Pass.Plan

/-!
# Why a mask is set

No pass touches a task without a reason.  Every attempt to set a mask is made
for the match that was announced last, with the threads of its process at hand,
and it either hands the parent mask of that match down to a descendant or a
thread, or gives a thread the mask of the only thread rule that claims it.  The
three sorts of attempts follow each other in this order.
-/

namespace CpuPinning

open Pass
open Proc.ProcFs (announced)

variable {opts : Options}

/-! ## Reasons -/

namespace Match

/-- The parent mask for a process that was named as a descendant. -/
def InheritsAsDescendant (m : Match) (asked : List Event) (call : Setting) :
    Prop :=
  m.rule.parent = some call.2 ∧
    ∃ children, ⟨.children m.process.pid, .ok children⟩ ∈ asked ∧
      call.1 ∈ children

/-- The parent mask for one of the threads. -/
def InheritsAsThread (m : Match) (threads : List ThreadInfo) (call : Setting) :
    Prop :=
  m.rule.parent = some call.2 ∧ ∃ thread ∈ threads, thread.tid = call.1

/-- The mask of a thread rule for one of the threads, which no other rule
claims. -/
def Overrides (m : Match) (threads : List ThreadInfo) (call : Setting) : Prop :=
  ∃ thread ∈ threads, thread.tid = call.1 ∧
    ∃ rules rule, m.rule.threads = some rules ∧
      claiming rules thread = [rule] ∧ rule.mask = call.2

/-- First the parent mask goes to descendants, then to threads, and then the
thread rules have their turn. -/
def InStages (m : Match) (threads : List ThreadInfo) (asked : List Event)
    (calls : List Setting) : Prop :=
  ∃ descendants family own, calls = descendants ++ family ++ own ∧
    (∀ call ∈ descendants, m.InheritsAsDescendant asked call) ∧
    (∀ call ∈ family, m.InheritsAsThread threads call) ∧
    ∀ call ∈ own, m.Overrides threads call

end Match

theorem mem_ownSettings {rule : CommandRule} {threads : List ThreadInfo}
    {call : Setting} (h : call ∈ rule.ownSettings opts threads) :
    ∃ thread ∈ threads, thread.tid = call.1 ∧
      ∃ rules r, rule.threads = some rules ∧ claiming rules thread = [r] ∧
        r.mask = call.2 := by
  unfold CommandRule.ownSettings at h
  cases hrules : rule.threads with
  | none => simp [hrules] at h
  | some rules =>
      simp only [hrules, ownSettings, List.mem_filterMap] at h
      obtain ⟨thread, hthread, hmask⟩ := h
      obtain ⟨mask, hown, rfl⟩ := Option.map_eq_some_iff.1 hmask
      obtain ⟨r, hclaim, -, rfl⟩ := ownMask?_eq_some_iff.1 hown
      exact ⟨thread, hthread, rfl, rules, r, rfl, hclaim, rfl⟩

theorem parent_of_usableParent? {rule : CommandRule} {mask : CpuMask}
    (h : rule.usableParent? opts = some mask) : rule.parent = some mask :=
  (Option.filter_eq_some_iff.1 h).1

theorem exists_append_of_isPrefix_append {α : Type} {xs first second : List α}
    (h : xs <+: first ++ second) :
    ∃ ys zs, xs = ys ++ zs ∧ ys <+: first ∧ zs <+: second := by
  refine ⟨first.take xs.length, second.take (xs.length - first.length), ?_,
    List.take_prefix _ _, List.take_prefix _ _⟩
  rw [← List.take_append]
  exact List.prefix_iff_eq_take.1 h

/-- What follows the plan of a match comes in stages. -/
theorem inStages_of_isPrefix {m : Match} {threads : List ThreadInfo}
    {asked : List Event} {inherited calls : List Setting}
    (hasked : HandsDown opts m.process m.rule threads asked inherited)
    (hcalls : calls <+: inherited ++ m.rule.ownSettings opts threads) :
    m.InStages threads asked calls := by
  obtain ⟨handed, own, rfl, hhanded, hown⟩ :=
    exists_append_of_isPrefix_append hcalls
  have howns : ∀ call ∈ own, m.Overrides threads call :=
    fun call hcall => mem_ownSettings (hown.subset hcall)
  cases hasked with
  | unused _ =>
      obtain rfl := List.prefix_nil.1 hhanded
      exact ⟨[], [], own, rfl, by simp, by simp, howns⟩
  | refused e _ =>
      obtain rfl := List.prefix_nil.1 hhanded
      exact ⟨[], [], own, rfl, by simp, by simp, howns⟩
  | @answered mask children husable =>
      rw [inheritedSettings_eq_append] at hhanded
      obtain ⟨descendants, family, rfl, hdesc, hfam⟩ :=
        exists_append_of_isPrefix_append hhanded
      have hparent : m.rule.parent = some mask := parent_of_usableParent? husable
      refine ⟨descendants, family, own, rfl, ?_, ?_, howns⟩
      · intro call hcall
        obtain ⟨pid, hpid, rfl⟩ := List.mem_map.1 (hdesc.subset hcall)
        exact ⟨hparent, children, by simp, hpid⟩
      · intro call hcall
        obtain ⟨thread, hthread, rfl⟩ := List.mem_map.1 (hfam.subset hcall)
        exact ⟨hparent, thread, hthread, rfl⟩

theorem Match.InStages.reason {m : Match} {threads : List ThreadInfo}
    {asked : List Event} {calls : List Setting} {call : Setting}
    (h : m.InStages threads asked calls) (hcall : call ∈ calls) :
    m.InheritsAsDescendant asked call ∨ m.InheritsAsThread threads call ∨
      m.Overrides threads call := by
  obtain ⟨descendants, family, own, rfl, hdesc, hfam, hown⟩ := h
  rw [List.mem_append, List.mem_append] at hcall
  rcases hcall with (hcall | hcall) | hcall
  · exact .inl (hdesc call hcall)
  · exact .inr (.inl (hfam call hcall))
  · exact .inr (.inr (hown call hcall))

/-! ## Every attempt has one -/

/-- A match tries a setting only after it has heard its threads, and in
stages. -/
theorem goes_apply_setting {m : Match} {since rest : List Event} {id : Nat}
    {mask : CpuMask} {answer : Except TaskError Unit}
    {r : Except PinError (List Outcome)}
    (h : (apply opts m.process m.rule).Goes
      (since ++ ⟨.setAffinity id mask, answer⟩ :: rest) r) :
    ∃ threads asked sets,
      since = ⟨.threads m.process.pid, .ok threads⟩ :: (asked ++ sets) ∧
        (asked = [] ∨ ∃ a, asked = [⟨.children m.process.pid, a⟩]) ∧
        (∀ e ∈ sets, e.setting?.isSome = true) ∧
        m.InStages threads asked (settings sets ++ [(id, mask)]) := by
  rcases goes_apply_shape h with
    ⟨-, hnil⟩ | ⟨e, hone⟩ |
      ⟨threads, asked, all, inherited, hevents, hasked, htried, -⟩
  · simp at hnil
  · rcases List.append_eq_singleton_iff.1 hone with ⟨-, hset⟩ | ⟨-, hset⟩ <;>
      simp at hset
  · cases since with
    | nil => simp at hevents
    | cons e since =>
        obtain ⟨rfl, hsplit⟩ := List.cons.inj hevents
        rcases append_cons_eq_append_cases hsplit with
          ⟨_, hmem, -⟩ | ⟨sets, rfl, rfl⟩
        · -- the call for descendants is no setting
          cases hasked <;> simp [List.cons_eq_append_iff] at hmem
        · let now : Event := ⟨.setAffinity id mask, answer⟩
          have hfirst : (sets ++ [now]).map Event.setting? <+:
              (inherited ++ m.rule.ownSettings opts threads).map some := by
            refine List.IsPrefix.trans ?_ htried
            simp [now]
          obtain ⟨tried, hplan, hsets⟩ := exists_attempts_of_isPrefix hfirst
          have hcalls : settings sets ++ [(id, mask)] = tried := by
            rw [← hsets.settings_eq]
            simp [settings, now, Event.setting?]
          refine ⟨threads, asked, sets, rfl, ?_, ?_, ?_⟩
          · cases hasked with
            | unused _ => exact .inl rfl
            | refused e _ => exact .inr ⟨_, rfl⟩
            | answered children _ => exact .inr ⟨_, rfl⟩
          · exact fun e he => hsets.isSome_of_mem (by simp [he])
          · rw [hcalls]
            exact inStages_of_isPrefix hasked hplan

/-- A setting is justified by what was asked before it: one of the matches is
being applied, the one that was announced last, and its threads were listed
once; the setting hands down the parent mask or follows a thread rule, and with
the earlier settings for the same match it comes in stages. -/
def Justified (rules : RuleSet) (before : List Event) (call : Setting) : Prop :=
  ∃ processes earlier m later log threads asked sets,
    matchProcesses rules processes = earlier ++ m :: later ∧
    before = ⟨.processes, .ok processes⟩ :: (log ++ ⟨.announce m, ()⟩ ::
      ⟨.threads m.process.pid, .ok threads⟩ :: (asked ++ sets)) ∧
    announced log = earlier ∧
    (asked = [] ∨ ∃ a, asked = [⟨.children m.process.pid, a⟩]) ∧
    (∀ e ∈ sets, e.setting?.isSome = true) ∧
    (m.InheritsAsDescendant asked call ∨ m.InheritsAsThread threads call ∨
      m.Overrides threads call) ∧
    m.InStages threads asked (settings sets ++ [call])

/-- Every attempt to set a mask is justified by what was asked before it. -/
theorem run_setting_justified {σ : Type} (t : Table σ) (s : σ) (rules : RuleSet)
    (opts : Options) {before after : List Event} {id : Nat} {mask : CpuMask}
    {answer : Except TaskError Unit}
    (h : ((run rules opts).exec t s).events =
      before ++ ⟨.setAffinity id mask, answer⟩ :: after) :
    Justified rules before (id, mask) := by
  have hgoes := goes_exec t (run rules opts) s
  rw [h] at hgoes
  rcases goes_run_cases hgoes with
    ⟨e, hone, -⟩ | ⟨processes, rest, r', hevents, hrest, -⟩
  · rcases List.append_eq_singleton_iff.1 hone with ⟨-, hset⟩ | ⟨-, hset⟩ <;>
      simp at hset
  · cases before with
    | nil => simp at hevents
    | cons e before =>
        obtain ⟨rfl, rfl⟩ := List.cons.inj hevents
        obtain ⟨earlier, m, later, log, reports, since, rest, more, r'', hms, rfl,
          rfl, hlog, hm, -⟩ := goes_runMatches_split hrest (by simp)
        obtain ⟨threads, asked, sets, rfl, hasked, hsets, hstages⟩ :=
          goes_apply_setting hm
        exact ⟨processes, earlier, m, later, log, threads, asked, sets, hms, rfl,
          goes_runMatches_announced hlog, hasked, hsets,
          hstages.reason (by simp), hstages⟩

theorem run_setting_justified_sample :
    Justified Sample.rules Sample.inherits (11, Sample.second) :=
  run_setting_justified Snapshot.table Sample.snapshot Sample.rules Sample.opts
    Sample.exec_events

end CpuPinning
