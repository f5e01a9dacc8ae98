import CpuPinning.Pass.Basic

/-!
# Courses of a pass

A course of a pass is one way down its tree: the events on the way, and the
result at the end.  What holds of every course holds of the pass on every
system, whatever the system answers and however its answers change.
-/

namespace CpuPinning

namespace Pass

variable {α β σ : Type}

/-- The pass may go through these events, and then ends with this result. -/
inductive Goes : Pass α → List Event → Except PinError α → Prop
  | done (r : Except PinError α) : Goes (.done r) [] r
  | ask {q : Query} {next : q.Answer → Pass α} {events : List Event}
      {r : Except PinError α} (a : q.Answer) :
      Goes (next a) events r → Goes (.ask q next) (⟨q, a⟩ :: events) r

/-- On every system a pass takes one of its courses. -/
theorem goes_exec (t : Table σ) (p : Pass α) (s : σ) :
    p.Goes (p.exec t s).events (p.exec t s).result := by
  induction p generalizing s with
  | done r => exact .done r
  | ask q next ih =>
      simp only [exec]
      exact .ask _ (ih _ _)

theorem goes_done_iff {r r' : Except PinError α} {events : List Event} :
    (done r).Goes events r' ↔ events = [] ∧ r' = r := by
  constructor
  · intro h
    cases h
    exact ⟨rfl, rfl⟩
  · rintro ⟨rfl, rfl⟩
    exact .done _

theorem goes_pure_iff {a : α} {r : Except PinError α} {events : List Event} :
    (pure a : Pass α).Goes events r ↔ events = [] ∧ r = .ok a :=
  goes_done_iff

theorem goes_pure_ok_iff {a b : α} {events : List Event} :
    (pure a : Pass α).Goes events (.ok b) ↔ events = [] ∧ b = a := by
  rw [goes_pure_iff, Except.ok.injEq]

theorem goes_fail_iff {e : PinError} {r : Except PinError α}
    {events : List Event} :
    (fail e : Pass α).Goes events r ↔ events = [] ∧ r = .error e :=
  goes_done_iff

theorem goes_ask_iff {q : Query} {next : q.Answer → Pass α}
    {r : Except PinError α} {events : List Event} :
    (ask q next).Goes events r ↔
      ∃ a rest, events = ⟨q, a⟩ :: rest ∧ (next a).Goes rest r := by
  constructor
  · intro h
    cases h with
    | ask a h => exact ⟨a, _, rfl, h⟩
  · rintro ⟨a, rest, rfl, h⟩
    exact .ask a h

/-- Two passes in a row: the second one goes on where the first one ends. -/
theorem Goes.bind_ok {p : Pass α} {f : α → Pass β} {first second : List Event}
    {a : α} {r : Except PinError β}
    (hp : p.Goes first (.ok a)) (hf : (f a).Goes second r) :
    (p >>= f).Goes (first ++ second) r := by
  generalize hr : (Except.ok a : Except PinError α) = r₁ at hp
  induction hp with
  | done r₁ =>
      subst hr
      exact hf
  | ask b _ ih => exact .ask b (ih hr)

/-- A pass that fails ends the passes that were to follow. -/
theorem Goes.bind_error {p : Pass α} {f : α → Pass β} {events : List Event}
    {e : PinError} (hp : p.Goes events (.error e)) :
    (p >>= f).Goes events (.error e) := by
  generalize hr : (Except.error e : Except PinError α) = r₁ at hp
  induction hp with
  | done r₁ =>
      subst hr
      exact .done _
  | ask b _ ih => exact .ask b (ih hr)

/-- The courses of two passes in a row come from those of the two. -/
theorem goes_bind_iff {p : Pass α} {f : α → Pass β} {events : List Event}
    {r : Except PinError β} :
    (p >>= f).Goes events r ↔
      (∃ first a second, events = first ++ second ∧
        p.Goes first (.ok a) ∧ (f a).Goes second r) ∨
      ∃ e, p.Goes events (.error e) ∧ r = .error e := by
  constructor
  · induction p generalizing events with
    | done r₁ =>
        intro h
        cases r₁ with
        | ok a => exact .inl ⟨[], a, events, rfl, .done _, h⟩
        | error e =>
            obtain ⟨rfl, rfl⟩ := goes_done_iff.1 h
            exact .inr ⟨e, .done _, rfl⟩
    | ask q next ih =>
        intro h
        obtain ⟨a, rest, rfl, hrest⟩ := goes_ask_iff.1 h
        rcases ih a hrest with ⟨first, b, second, rfl, hp, hf⟩ | ⟨e, hp, rfl⟩
        · exact .inl ⟨⟨q, a⟩ :: first, b, second, rfl, .ask a hp, hf⟩
        · exact .inr ⟨e, .ask a hp, rfl⟩
  · rintro (⟨first, a, second, rfl, hp, hf⟩ | ⟨e, hp, rfl⟩)
    · exact hp.bind_ok hf
    · exact hp.bind_error

theorem goes_bind_ok_iff {p : Pass α} {f : α → Pass β} {events : List Event}
    {b : β} :
    (p >>= f).Goes events (.ok b) ↔
      ∃ first a second, events = first ++ second ∧
        p.Goes first (.ok a) ∧ (f a).Goes second (.ok b) := by
  simp [goes_bind_iff]

/-- What is done with the value of a pass does not change its courses. -/
theorem goes_map_iff {p : Pass α} {f : α → β} {events : List Event}
    {r : Except PinError β} :
    (p >>= fun a => pure (f a)).Goes events r ↔
      ∃ r', p.Goes events r' ∧ r = r'.map f := by
  constructor
  · intro h
    rcases goes_bind_iff.1 h with
      ⟨first, a, second, rfl, hp, hend⟩ | ⟨e, hp, rfl⟩
    · obtain ⟨rfl, rfl⟩ := goes_pure_iff.1 hend
      exact ⟨.ok a, by simpa using hp, rfl⟩
    · exact ⟨.error e, hp, rfl⟩
  · rintro ⟨r', hp, rfl⟩
    cases r' with
    | error e => exact hp.bind_error
    | ok a =>
        rw [← List.append_nil events]
        exact hp.bind_ok (.done _)

theorem goes_map_ok_iff {p : Pass α} {f : α → β} {events : List Event} {b : β} :
    (p >>= fun a => pure (f a)).Goes events (.ok b) ↔
      ∃ a, p.Goes events (.ok a) ∧ b = f a := by
  rw [goes_map_iff]
  constructor
  · rintro ⟨r', hp, hr⟩
    cases r' with
    | error e => cases hr
    | ok a => exact ⟨a, hp, Except.ok.inj hr⟩
  · rintro ⟨a, hp, rfl⟩
    exact ⟨.ok a, hp, rfl⟩

theorem goes_map_error_iff {p : Pass α} {f : α → β} {events : List Event}
    {e : PinError} :
    (p >>= fun a => pure (f a)).Goes events (.error e) ↔
      p.Goes events (.error e) := by
  rw [goes_map_iff]
  constructor
  · rintro ⟨r', hp, hr⟩
    cases r' with
    | error e' => exact Except.error.inj hr ▸ hp
    | ok a => cases hr
  · intro hp
    exact ⟨.error e, hp, rfl⟩

/-- Of two courses with the same answers neither goes further than the other. -/
theorem Goes.eq_of_isPrefix {p : Pass α} {first second : List Event}
    {r₁ r₂ : Except PinError α} (h₁ : p.Goes first r₁) (h₂ : p.Goes second r₂)
    (hp : first <+: second) : first = second ∧ r₁ = r₂ := by
  induction h₁ generalizing second with
  | done r =>
      obtain ⟨rfl, rfl⟩ := goes_done_iff.1 h₂
      exact ⟨rfl, rfl⟩
  | @ask q next events r a _ ih =>
      obtain ⟨b, rest, rfl, hrest⟩ := goes_ask_iff.1 h₂
      obtain ⟨hab, htail⟩ := List.cons_prefix_cons.1 hp
      cases hab
      obtain ⟨rfl, rfl⟩ := ih hrest htail
      exact ⟨rfl, rfl⟩

/-- Two courses that begin the same log are the same. -/
theorem Goes.eq_of_append_eq {p : Pass α} {first second more more' : List Event}
    {r₁ r₂ : Except PinError α} (h₁ : p.Goes first r₁) (h₂ : p.Goes second r₂)
    (h : first ++ more = second ++ more') : first = second ∧ r₁ = r₂ := by
  have hfirst : first <+: second ++ more' := ⟨more, h⟩
  rcases List.prefix_or_prefix_of_prefix hfirst ⟨more', rfl⟩ with hp | hp
  · exact h₁.eq_of_isPrefix h₂ hp
  · obtain ⟨hsame, hr⟩ := h₂.eq_of_isPrefix h₁ hp
    exact ⟨hsame.symm, hr.symm⟩

end Pass

end CpuPinning
