import CpuPinning.Proofs.Pass.Isolation

/-!
# Repeated passes

What a static system answers does not depend on the masks that are set on it.  A
pass therefore has one course there, and its result and its log can be read off
the pass and the system alone.  A second pass over the same system takes the
same course again, and as it sets in the end what the first one has set, it
leaves all masks as it found them.
-/

namespace CpuPinning

open Pass

/-! ## The course of a pass on a static system -/

namespace StaticTable

variable {α β : Type} {T : StaticTable}

/-- How a pass ends on a static system. -/
def result (T : StaticTable) : Pass α → Except PinError α
  | .done r => r
  | .ask q next => T.result (next (T.reply q))

/-- What a pass asks of a static system, with the answers. -/
def log (T : StaticTable) : Pass α → List Event
  | .done _ => []
  | .ask q next => ⟨q, T.reply q⟩ :: T.log (next (T.reply q))

/-- The masks do not matter for the course of a pass. -/
theorem exec_eq (T : StaticTable) (p : Pass α) (masks : Masks) :
    p.exec T.table masks =
      ⟨T.result p, T.log p, (T.log p).foldl Masks.store masks⟩ := by
  induction p generalizing masks with
  | done r => rfl
  | ask q next ih =>
      have hnext := ih (T.reply q) (masks.store ⟨q, T.reply q⟩)
      simp only [Pass.exec, table] at hnext ⊢
      rw [hnext]
      rfl

theorem goes_log (T : StaticTable) (p : Pass α) :
    p.Goes (T.log p) (T.result p) := by
  induction p with
  | done r => exact .done r
  | ask q next ih => exact .ask _ (ih _)

theorem answers_log (T : StaticTable) (p : Pass α) : T.Answers (T.log p) := by
  induction p with
  | done r =>
      intro e he
      cases he
  | ask q next ih => exact answers_cons.2 ⟨rfl, ih _⟩

/-- A system that would answer in the same way allows the same course. -/
theorem log_eq_of_answers {T' : StaticTable} {p : Pass α}
    (h : T'.Answers (T.log p)) :
    T'.log p = T.log p ∧ T'.result p = T.result p :=
  eq_of_answers (T'.goes_log p) (T.goes_log p) (T'.answers_log p) h

/-! ### Passes in a row -/

theorem result_bind (T : StaticTable) (p : Pass α) (f : α → Pass β) :
    T.result (p >>= f) = T.result p >>= fun a => T.result (f a) := by
  induction p with
  | done r =>
      cases r with
      | ok a => rfl
      | error e => rfl
  | ask q next ih => exact ih _

theorem log_bind_of_ok {p : Pass α} {a : α} (h : T.result p = .ok a)
    (f : α → Pass β) : T.log (p >>= f) = T.log p ++ T.log (f a) := by
  induction p with
  | done r =>
      have hr : r = .ok a := h
      rw [hr]
      rfl
  | ask q next ih => exact congrArg (_ :: ·) (ih _ h)

theorem result_map (T : StaticTable) (p : Pass α) (f : α → β) :
    T.result (p >>= fun a => pure (f a)) = (T.result p).map f := by
  rw [result_bind]
  cases T.result p with
  | ok a => rfl
  | error e => rfl

theorem log_map (T : StaticTable) (p : Pass α) (f : α → β) :
    T.log (p >>= fun a => pure (f a)) = T.log p := by
  induction p with
  | done r =>
      cases r with
      | ok a => rfl
      | error e => rfl
  | ask q next ih => exact congrArg (_ :: ·) (ih _)

end StaticTable

/-! ## The same pass again -/

/-- To set again what was set before changes nothing. -/
theorem Masks.foldl_store_again (masks : Masks) (log : List Event) :
    log.foldl store (log.foldl store masks) = log.foldl store masks := by
  funext id
  rw [foldl_store, foldl_store, ← Option.or_assoc, Option.or_self]

/-- A pass over a static system can be repeated.  The second pass asks the same
questions, announces the same matches, gets the same answers and ends with the
same report or the same error as the first one, and it leaves every task with the
mask that it had after the first one; this is also so if both break off. -/
theorem run_repeated (T : StaticTable) (masks : Masks) (rules : RuleSet)
    (opts : Options) :
    let first := (run rules opts).exec T.table masks
    let second := (run rules opts).exec T.table first.state
    second.result = first.result ∧ second.events = first.events ∧
      second.state = first.state := by
  intro first second
  have hfirst : first = ⟨T.result (run rules opts), T.log (run rules opts),
      (T.log (run rules opts)).foldl Masks.store masks⟩ := T.exec_eq _ masks
  have hsecond : second = ⟨T.result (run rules opts), T.log (run rules opts),
      (T.log (run rules opts)).foldl Masks.store first.state⟩ :=
    T.exec_eq _ first.state
  rw [hsecond]
  refine ⟨?_, ?_, ?_⟩
  · rw [hfirst]
  · rw [hfirst]
  · rw [hfirst]
    exact masks.foldl_store_again _

end CpuPinning
