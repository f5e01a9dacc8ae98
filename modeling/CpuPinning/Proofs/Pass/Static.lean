import Mathlib.Data.List.Basic
import Mathlib.Logic.Function.Basic
import CpuPinning.Pass.Snapshot
import CpuPinning.Proofs.Pass.Log

/-!
# Static systems

A static system answers the same question in the same way at all times, and
keeps the masks that were set on it.  The masks that a pass leaves behind can
then be read off its log: every task has the mask that it was given last.
-/

namespace CpuPinning

/-- What is known of the masks of the tasks. -/
abbrev Masks := Nat → Option CpuMask

/-- The masks after an event. -/
def Masks.store (masks : Masks) (e : Event) : Masks :=
  match e.granted? with
  | some (id, mask) => Function.update masks id (some mask)
  | none => masks

theorem Masks.store_of_none {masks : Masks} {e : Event}
    (h : e.granted? = none) : masks.store e = masks := by
  rw [store, h]

theorem Masks.store_of_some {masks : Masks} {e : Event} {call : Setting}
    (h : e.granted? = some call) :
    masks.store e = Function.update masks call.1 (some call.2) := by
  rw [store, h]

/-- A system whose answers depend on the questions alone. -/
structure StaticTable where
  reply : (q : Query) → q.Answer

/-- A static system as a system that keeps masks. -/
def StaticTable.table (T : StaticTable) : Table Masks where
  answer masks q := (T.reply q, masks.store ⟨q, T.reply q⟩)

/-! ## The last mask in a log -/

/-- The mask that a task was given last. -/
def lastMask? (id : Nat) (calls : List Setting) : Option CpuMask :=
  (calls.filterMap fun call =>
    if call.1 = id then some call.2 else none).getLast?

@[simp] theorem lastMask?_nil (id : Nat) : lastMask? id [] = none :=
  rfl

@[simp] theorem lastMask?_append (id : Nat) (first second : List Setting) :
    lastMask? id (first ++ second) =
      (lastMask? id second).or (lastMask? id first) := by
  simp [lastMask?, List.getLast?_append]

theorem lastMask?_singleton (id : Nat) (call : Setting) :
    lastMask? id [call] = if call.1 = id then some call.2 else none := by
  by_cases h : call.1 = id <;> simp [lastMask?, h]

theorem lastMask?_cons (id : Nat) (call : Setting) (calls : List Setting) :
    lastMask? id (call :: calls) =
      (lastMask? id calls).or (lastMask? id [call]) :=
  lastMask?_append id [call] calls

/-- Masks that are set for other tasks do not matter. -/
theorem lastMask?_eq_none {id : Nat} {calls : List Setting}
    (h : ∀ call ∈ calls, call.1 ≠ id) : lastMask? id calls = none := by
  simp only [lastMask?, List.getLast?_eq_none_iff, List.filterMap_eq_nil_iff]
  intro call hcall
  exact if_neg (h call hcall)

/-- Some tasks may be left out of the log without harm to the others. -/
theorem lastMask?_filter (id : Nat) (calls : List Setting) (keep : Nat → Bool) :
    lastMask? id (calls.filter fun call => keep call.1) =
      if keep id then lastMask? id calls else none := by
  cases hkeep : keep id with
  | false =>
      refine lastMask?_eq_none fun call hcall hid => ?_
      have hkept := (List.mem_filter.1 hcall).2
      rw [hid, hkeep] at hkept
      cases hkept
  | true =>
      rw [if_pos rfl, lastMask?, List.filterMap_filter]
      refine congrArg List.getLast? (List.filterMap_congr fun call _ => ?_)
      by_cases hid : call.1 = id
      · simp [hid, hkeep]
      · simp [hid]

/-! ## Masks at the end of a pass -/

theorem Masks.foldl_store (masks : Masks) (log : List Event) (id : Nat) :
    log.foldl store masks id =
      (lastMask? id (log.filterMap Event.granted?)).or (masks id) := by
  induction log generalizing masks with
  | nil => rfl
  | cons e log ih =>
      rw [List.foldl_cons, ih]
      cases hgranted : e.granted? with
      | none => rw [store_of_none hgranted, List.filterMap_cons_none hgranted]
      | some call =>
          have hcall : masks.store e id =
              (lastMask? id [call]).or (masks id) := by
            rw [store_of_some hgranted, lastMask?_singleton]
            by_cases hid : call.1 = id
            · subst hid
              simp
            · simp [hid, Function.update_of_ne (Ne.symm hid)]
          rw [hcall, List.filterMap_cons_some hgranted,
            lastMask?_cons id call (log.filterMap _), Option.or_assoc]

namespace StaticTable

variable {α : Type}

/-- The log holds the answers of the system. -/
def Answers (T : StaticTable) (log : List Event) : Prop :=
  ∀ e ∈ log, e.answer = T.reply e.query

theorem answers_append {T : StaticTable} {first second : List Event} :
    T.Answers (first ++ second) ↔ T.Answers first ∧ T.Answers second := by
  simp [Answers, or_imp, forall_and]

theorem answers_cons {T : StaticTable} {e : Event} {log : List Event} :
    T.Answers (e :: log) ↔ e.answer = T.reply e.query ∧ T.Answers log := by
  simp [Answers]

theorem answers_exec (T : StaticTable) (p : Pass α) (masks : Masks) :
    T.Answers (p.exec T.table masks).events := by
  induction p generalizing masks with
  | done r => simp [Answers, Pass.exec]
  | ask q next ih => exact answers_cons.2 ⟨rfl, ih _ _⟩

theorem exec_state_eq_foldl (T : StaticTable) (p : Pass α) (masks : Masks) :
    (p.exec T.table masks).state =
      (p.exec T.table masks).events.foldl Masks.store masks := by
  induction p generalizing masks with
  | done r => rfl
  | ask q next ih => exact ih _ _

/-- After a pass, a task has the mask that it was given last, and its mask from
before the pass if it was given none. -/
theorem exec_state (T : StaticTable) (p : Pass α) (masks : Masks) (id : Nat) :
    (p.exec T.table masks).state id =
      (lastMask? id
        ((p.exec T.table masks).events.filterMap Event.granted?)).or
          (masks id) := by
  rw [exec_state_eq_foldl, Masks.foldl_store]

end StaticTable

/-! ## Snapshots are static -/

namespace Snapshot

variable {α : Type}

theorem get?_erase (m : Assignment Nat α) (key other : Nat) :
    (m.erase key).get? other = if other = key then none else m.get? other := by
  induction m with
  | nil => simp [Assignment.erase, Assignment.get?]
  | cons entry m ih =>
      obtain ⟨k, value⟩ := entry
      simp only [Assignment.erase, Assignment.get?] at ih ⊢
      by_cases hk : k = key
      · subst hk
        by_cases ho : other = k
        · simpa [ho] using ih
        · have hne : (other == k) = false := beq_eq_false_iff_ne.2 ho
          simpa [ho, List.lookup_cons, hne] using ih
      · by_cases ho : other = k
        · simp [ho, hk]
        · have hne : (other == k) = false := beq_eq_false_iff_ne.2 ho
          simpa [hk, List.lookup_cons, hne] using ih

theorem get?_set (m : Assignment Nat α) (key : Nat) (value : α) :
    (m.set key value).get? = Function.update m.get? key (some value) := by
  funext other
  by_cases h : other = key
  · subst h
    simp [Assignment.set, Assignment.get?]
  · rw [Function.update_of_ne h]
    have hne : (other == key) = false := beq_eq_false_iff_ne.2 h
    have herase := get?_erase m key other
    rw [if_neg h] at herase
    simpa [Assignment.set, Assignment.get?, List.lookup_cons, hne] using herase

/-- A snapshot as a static system. -/
def static (s : Snapshot) : StaticTable where
  reply q := (s.answer q).1

theorem static_masks (s : Snapshot) (masks : Assignment Nat CpuMask) :
    { s with masks := masks }.static = s.static := by
  unfold static
  congr 1
  funext q
  cases q with
  | processes =>
      simp only [answer, Query.call?, Option.bind_some]
      cases s.faults.get? .processes <;> rfl
  | children pid =>
      simp only [answer, Query.call?, Option.bind_some]
      cases s.faults.get? (.children pid) <;> rfl
  | threads pid =>
      simp only [answer, Query.call?, Option.bind_some]
      cases s.faults.get? (.threads pid) with
      | some e => rfl
      | none => dsimp only; cases s.threads.get? pid <;> rfl
  | setAffinity id mask =>
      simp only [answer, Query.call?, Option.bind_some]
      cases s.faults.get? (.setAffinity id) <;> rfl
  | announce m => rfl

/-- An answer changes nothing but masks, and those as the log tells. -/
theorem answer_snd (s : Snapshot) (q : Query) :
    ∃ masks, (s.answer q).2 = { s with masks := masks } ∧
      masks.get? = Masks.store s.masks.get? ⟨q, s.static.reply q⟩ := by
  cases q with
  | processes =>
      refine ⟨s.masks, ?_, rfl⟩
      simp only [answer, Query.call?, Option.bind_some]
      cases s.faults.get? .processes <;> rfl
  | children pid =>
      refine ⟨s.masks, ?_, rfl⟩
      simp only [answer, Query.call?, Option.bind_some]
      cases s.faults.get? (.children pid) <;> rfl
  | threads pid =>
      refine ⟨s.masks, ?_, rfl⟩
      simp only [answer, Query.call?, Option.bind_some]
      cases s.faults.get? (.threads pid) with
      | some e => rfl
      | none => dsimp only; cases s.threads.get? pid <;> rfl
  | setAffinity id mask =>
      simp only [static, answer, Query.call?, Option.bind_some]
      cases s.faults.get? (.setAffinity id) with
      | none => exact ⟨s.masks.set id mask, rfl, get?_set s.masks id mask⟩
      | some e => exact ⟨s.masks, rfl, rfl⟩
  | announce m => exact ⟨s.masks, rfl, rfl⟩

/-- A pass over a snapshot is a pass over a static system. -/
theorem exec_eq (s : Snapshot) (p : Pass α) :
    (p.exec table s).result = (p.exec s.static.table s.masks.get?).result ∧
      (p.exec table s).events = (p.exec s.static.table s.masks.get?).events ∧
      (p.exec table s).state.masks.get? =
        (p.exec s.static.table s.masks.get?).state := by
  induction p generalizing s with
  | done r => exact ⟨rfl, rfl, rfl⟩
  | ask q next ih =>
      obtain ⟨masks, hstate', hmasks⟩ := answer_snd s q
      obtain ⟨hresult, hevents, hstate⟩ := ih (s.answer q).1 (s.answer q).2
      rw [hstate', static_masks, hmasks, ← hstate'] at hresult hevents hstate
      exact ⟨hresult, congrArg (_ :: ·) hevents, hstate⟩

end Snapshot

end CpuPinning
