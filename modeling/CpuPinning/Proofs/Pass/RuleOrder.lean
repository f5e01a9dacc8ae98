import Mathlib.Data.List.Forall2
import CpuPinning.Proofs.Pass.Policies

/-!
# The order of thread rules

A thread gets a mask from a rule only if no other rule claims it, so it does not
matter which rule is tried first.  Two rules that differ in the order of their
thread rules make the same calls on every system, however its answers depend on
what was asked before.  The order shows in one place: where several rules claim a
thread, they are listed in it.
-/

namespace CpuPinning

open Pass

variable {α β γ σ : Type} {opts : Options}

/-! ## Equal but for an order -/

/-- The same rule, but for the order of its thread rules. -/
structure CommandRule.Reordered (rule rule' : CommandRule) : Prop where
  parent : rule.parent = rule'.parent
  threads : Option.Rel List.Perm rule.threads rule'.threads

/-- The same outcome, but for the order in which rules are listed. -/
inductive Outcome.Reordered : Outcome → Outcome → Prop
  | same (o : Outcome) : Reordered o o
  | ambiguous (tid : Nat) (thread : String) {texts texts' : List String} :
      texts.Perm texts' →
      Reordered (.ambiguous tid thread texts) (.ambiguous tid thread texts')

/-- The same error, but for the order in which rules are listed. -/
inductive PinError.Reordered : PinError → PinError → Prop
  | same (e : PinError) : Reordered e e
  | ambiguous (thread : String) (tid : Nat) {texts texts' : List String} :
      texts.Perm texts' →
      Reordered (.ambiguous thread tid texts) (.ambiguous thread tid texts')

/-- The same end of a pass, but for the order in which rules are listed: values that
are related by `R`, or errors. -/
inductive EndsAlike (R : α → β → Prop) : Except PinError α → Except PinError β → Prop
  | ok {a : α} {b : β} : R a b → EndsAlike R (.ok a) (.ok b)
  | error {e e' : PinError} : e.Reordered e' → EndsAlike R (.error e) (.error e')

/-- The same outcomes in the same places, but for the order in which rules are
listed. -/
abbrev SameOutcomes : List Outcome → List Outcome → Prop :=
  List.Forall₂ Outcome.Reordered

theorem sameOutcomes_refl (os : List Outcome) : SameOutcomes os os :=
  List.forall₂_same.2 fun o _ => .same o

/-! ## Passes that ask the same -/

namespace Pass

/-- Two passes that ask the same questions and go on alike, whatever is answered. -/
inductive Alike (R : α → β → Prop) : Pass α → Pass β → Prop
  | done {r : Except PinError α} {r' : Except PinError β} :
      EndsAlike R r r' → Alike R (.done r) (.done r')
  | ask {q : Query} {next : q.Answer → Pass α} {next' : q.Answer → Pass β} :
      (∀ a, Alike R (next a) (next' a)) → Alike R (.ask q next) (.ask q next')

namespace Alike

variable {R : α → α → Prop} {S : β → β → Prop} {p p' : Pass α}

theorem refl (hR : ∀ a, R a a) (p : Pass α) : Alike R p p := by
  induction p with
  | done r =>
      cases r with
      | ok a => exact .done (.ok (hR a))
      | error e => exact .done (.error (.same e))
  | ask q next ih => exact .ask ih

theorem bind {k k' : α → Pass β} (hp : Alike R p p')
    (hk : ∀ a a', R a a' → Alike S (k a) (k' a')) :
    Alike S (p >>= k) (p' >>= k') := by
  induction hp with
  | done hends =>
      cases hends with
      | ok ha => exact hk _ _ ha
      | error he => exact .done (.error he)
  | ask _ ih => exact .ask fun a => ih a

theorem map {f f' : α → β} (hp : Alike R p p')
    (hf : ∀ a a', R a a' → S (f a) (f' a')) :
    Alike S (p >>= fun a => pure (f a)) (p' >>= fun a => pure (f' a)) := by
  apply hp.bind
  intro a a' ha
  exact .done (.ok (hf a a' ha))

/-- On every system both passes make the same calls and get the same answers. -/
theorem exec (h : Alike R p p') (t : Table σ) (s : σ) :
    (p.exec t s).events = (p'.exec t s).events ∧
      (p.exec t s).state = (p'.exec t s).state ∧
      EndsAlike R (p.exec t s).result (p'.exec t s).result := by
  induction h generalizing s with
  | done hends => exact ⟨rfl, rfl, hends⟩
  | @ask q next next' _ ih =>
      obtain ⟨hevents, hstate, hresult⟩ := ih (t.answer s q).1 (t.answer s q).2
      refine ⟨?_, hstate, hresult⟩
      exact congrArg (_ :: ·) hevents

end Alike

end Pass

/-! ## Every step asks the same -/

theorem claiming_perm {rules rules' : List ThreadRule} (h : rules.Perm rules')
    (thread : ThreadInfo) : (claiming rules thread).Perm (claiming rules' thread) :=
  h.filter _

theorem applyToThread_congr {rules rules' : List ThreadRule} {thread : ThreadInfo}
    (h : claiming rules thread = claiming rules' thread) :
    applyToThread opts rules thread = applyToThread opts rules' thread := by
  unfold applyToThread
  rw [h]

/-- A thread that several rules claim is left alone, and the rules are listed. -/
theorem applyToThread_of_two_le {rules : List ThreadRule} {thread : ThreadInfo}
    (h : 2 ≤ (claiming rules thread).length) :
    applyToThread opts rules thread = .done
      (match opts.policy with
      | .abort => .error (.ambiguous thread.name thread.tid
          ((claiming rules thread).map ThreadRule.text))
      | .skipThread => .ok [.ambiguous thread.tid thread.name
          ((claiming rules thread).map ThreadRule.text)]) := by
  unfold applyToThread
  split
  · next hclaim => simp [hclaim] at h
  · next rule hclaim => simp [hclaim] at h
  · dsimp only
    cases opts.policy with
    | abort => rfl
    | skipThread => rfl

/-- One thread: the rules that claim it are the same ones, and if there is one only
it is the same one. -/
theorem applyToThread_alike {rules rules' : List ThreadRule} (h : rules.Perm rules')
    (thread : ThreadInfo) :
    Alike SameOutcomes (applyToThread opts rules thread)
      (applyToThread opts rules' thread) := by
  have hclaim : (claiming rules thread).Perm (claiming rules' thread) :=
    claiming_perm h thread
  by_cases hmany : 2 ≤ (claiming rules thread).length
  · have hmany' : 2 ≤ (claiming rules' thread).length := hclaim.length_eq ▸ hmany
    have htexts : ((claiming rules thread).map ThreadRule.text).Perm
        ((claiming rules' thread).map ThreadRule.text) := hclaim.map _
    rw [applyToThread_of_two_le hmany, applyToThread_of_two_le hmany']
    apply Alike.done
    cases opts.policy with
    | abort => exact .error (.ambiguous _ _ htexts)
    | skipThread => exact .ok (.cons (.ambiguous _ _ htexts) .nil)
  · have hsame : claiming rules thread = claiming rules' thread := by
      cases hrules : claiming rules thread with
      | nil =>
          rw [hrules] at hclaim
          exact hclaim.nil_eq
      | cons rule rest =>
          rw [hrules, List.length_cons] at hmany
          obtain rfl : rest = [] := List.eq_nil_of_length_eq_zero (by omega)
          rw [hrules] at hclaim
          exact hclaim.singleton_eq
    rw [applyToThread_congr hsame]
    exact .refl sameOutcomes_refl _

theorem applyToThreads_alike {rules rules' : List ThreadRule} (h : rules.Perm rules')
    (threads : List ThreadInfo) :
    Alike SameOutcomes (applyToThreads opts rules threads)
      (applyToThreads opts rules' threads) := by
  induction threads with
  | nil => exact .refl sameOutcomes_refl _
  | cons thread threads ih =>
      apply (applyToThread_alike h thread).bind
      intro os os' hos
      apply ih.map
      intro more more' hmore
      exact List.rel_append hos hmore

/-- The thread rules of two rules that differ in their order. -/
theorem applyThreadRules_alike {rule rule' : CommandRule} (h : rule.Reordered rule')
    (threads : List ThreadInfo) :
    Alike SameOutcomes (applyThreadRules opts rule threads)
      (applyThreadRules opts rule' threads) := by
  have hthreads := h.threads
  unfold applyThreadRules
  generalize rule.threads = rules at hthreads
  generalize rule'.threads = rules' at hthreads
  cases hthreads with
  | some hperm => exact applyToThreads_alike hperm threads
  | none => exact .refl sameOutcomes_refl _

theorem isEmpty_of_reordered {rule rule' : CommandRule} (h : rule.Reordered rule') :
    rule.isEmpty = rule'.isEmpty := by
  have hthreads := h.threads
  unfold CommandRule.isEmpty
  rw [h.parent]
  generalize rule.threads = rules at hthreads
  generalize rule'.threads = rules' at hthreads
  cases hthreads with
  | some hperm => rfl
  | none => rfl

theorem apply_alike (process : ProcessInfo) {rule rule' : CommandRule}
    (h : rule.Reordered rule') :
    Alike SameOutcomes (apply opts process rule) (apply opts process rule') := by
  unfold apply
  rw [isEmpty_of_reordered h]
  split
  · exact .refl sameOutcomes_refl _
  · apply Alike.ask
    intro answer
    match answer with
    | .ok threads =>
        have hparent : applyParent opts process rule threads =
            applyParent opts process rule' threads := by
          unfold applyParent
          rw [h.parent]
        dsimp only
        rw [hparent]
        apply (Alike.refl sameOutcomes_refl _).bind
        intro os os' hos
        apply (applyThreadRules_alike h threads).map
        intro more more' hmore
        exact List.rel_append hos hmore
    | .error (.vanished gone) => exact .refl sameOutcomes_refl _
    | .error (.failed task cause) => exact .refl sameOutcomes_refl _

/-- The order of the thread rules of a rule does not matter.  On every system, and
under both policies, the same calls are made with the same masks and get the same
answers.  The outcomes or the error are the same, too, but for the order in which
the rules are listed that claim the same thread. -/
theorem apply_thread_rules_perm (t : Table σ) (s : σ) (opts : Options)
    (process : ProcessInfo) {rule rule' : CommandRule} (h : rule.Reordered rule') :
    let x := (apply opts process rule).exec t s
    let y := (apply opts process rule').exec t s
    x.events = y.events ∧ x.state = y.state ∧
      EndsAlike SameOutcomes x.result y.result := by
  intro x y
  exact (apply_alike process h).exec t s

namespace Sample

/-- A rule with two rules for the threads that are named `io`. -/
def competing : CommandRule := ⟨some first, some [ioRule, rivalRule]⟩

/-- The same rule with its thread rules in the other order. -/
def competing' : CommandRule := ⟨some first, some [rivalRule, ioRule]⟩

end Sample

open Sample

theorem apply_thread_rules_perm_sample :
    competing.Reordered competing' ∧
    (let x := (apply ⟨4, .skipThread⟩ worker competing).exec Snapshot.table snapshot
    let y := (apply ⟨4, .skipThread⟩ worker competing').exec Snapshot.table snapshot
    x.events = y.events ∧ x.state = y.state ∧
      EndsAlike SameOutcomes x.result y.result) ∧
    EndsAlike SameOutcomes
      (.error (.ambiguous "io" 11 ["io => 1", "(?:io) => 0"]))
      (.error (.ambiguous "io" 11 ["(?:io) => 0", "io => 1"])) := by
  have hperm : [ioRule, rivalRule].Perm [rivalRule, ioRule] := .swap _ _ _
  have hreordered : competing.Reordered competing' := ⟨rfl, .some hperm⟩
  have hstrict := apply_thread_rules_perm Snapshot.table snapshot ⟨4, .abort⟩ worker
    hreordered
  exact ⟨hreordered,
    apply_thread_rules_perm Snapshot.table snapshot ⟨4, .skipThread⟩ worker hreordered,
    hstrict.2.2⟩

end CpuPinning
