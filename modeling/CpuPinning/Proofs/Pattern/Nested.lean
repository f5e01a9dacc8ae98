import CpuPinning.Proofs.Pattern.Reading

/-!
# Patterns inside of other groups

A step never looks at the levels around those that are open when a pattern begins.
So a pattern is read inside of other groups as it is read alone, and what follows
it is read on from where it ends.
-/

namespace CpuPinning.Pattern

variable {c : Char} {cs rest : List Char} {st next fin : Reading} {around : List Level}

namespace Reading

/-- A reading with more open groups around it. -/
def within (st : Reading) (around : List Level) : Reading :=
  { st with around := st.around ++ around }

@[simp] theorem within_nil (st : Reading) : st.within [] = st := by
  simp [within]

@[simp] theorem within_level : (st.within around).level = st.level := rfl

@[simp] theorem within_mode : (st.within around).mode = st.mode := rfl

@[simp] theorem within_names : (st.within around).names = st.names := rfl

theorem closeGroup?_within (h : st.around ≠ []) (around : List Level) :
    (st.within around).closeGroup? = st.closeGroup?.map (within · around) := by
  obtain ⟨outer, inner, haround⟩ := List.exists_cons_of_ne_nil h
  simp [closeGroup?, within, haround]

theorem popItem?_within (st : Reading) (around : List Level) :
    (st.within around).popItem? = st.popItem?.map (Prod.map id (within · around)) := by
  unfold popItem?
  rw [within_level]
  split
  · rfl
  · split_ifs
    · rfl
    · rfl

theorem repeatLast?_within (st : Reading) (least : Nat) (most : Option Nat)
    (around : List Level) :
    (st.within around).repeatLast? least most =
      (st.repeatLast? least most).map (within · around) := by
  simp only [repeatLast?, popItem?_within, Option.map_map]
  rfl

end Reading

theorem namedGroup?_within (st : Reading) (cs : List Char) (around : List Level) :
    namedGroup? (st.within around) cs =
      (namedGroup? st cs).map (Prod.map (Reading.within · around) id) := by
  unfold namedGroup?
  rw [Reading.within_names]
  split
  · rfl
  · split_ifs
    · rfl
    · rfl

theorem group?_within (st : Reading) (cs : List Char) (around : List Level) :
    group? (st.within around) cs =
      (group? st cs).map (Prod.map (Reading.within · around) id) := by
  unfold group?
  rw [Reading.within_mode]
  split
  · rfl
  · rfl
  · rfl
  · rfl
  · exact namedGroup?_within _ _ _
  · exact namedGroup?_within _ _ _
  · split
    · rfl
    · split_ifs
      · rfl
      · rfl
  · rfl

theorem map_repeatLast?_within (st : Reading) (least : Nat) (most : Option Nat)
    (around : List Level) :
    (((st.within around).repeatLast? least most).map fun st => (st, cs)) =
      ((st.repeatLast? least most).map fun st => (st, cs)).map
        (Prod.map (Reading.within · around) id) := by
  rw [Reading.repeatLast?_within, Option.map_map, Option.map_map]
  rfl

/-- A step leaves further groups around alone, as long as it does not close one of
them. -/
theorem step?_within (h : c = ')' → st.around ≠ []) (cs : List Char) (around : List Level) :
    step? (st.within around) c cs =
      (step? st c cs).map (Prod.map (Reading.within · around) id) := by
  unfold step?
  rw [Reading.within_mode]
  split
  · exact group?_within _ _ _
  · rw [Reading.closeGroup?_within (h rfl), Option.map_map, Option.map_map]
    rfl
  · rfl
  · rw [Option.map_map]
    rfl
  · exact map_repeatLast?_within _ _ _ _
  · exact map_repeatLast?_within _ _ _ _
  · exact map_repeatLast?_within _ _ _ _
  · split
    · rfl
    · exact map_repeatLast?_within _ _ _ _
  · split
    · rfl
    · rw [Option.map_map]
      rfl

/-- A parenthesis closes one of the groups that are open. -/
theorem around_ne_nil_of_step? (h : step? st ')' cs = some (next, rest)) :
    st.around ≠ [] := by
  intro haround
  simp [step?, Reading.closeGroup?, haround] at h

theorem step?_within_of_step? (h : step? st c cs = some (next, rest))
    (around : List Level) :
    step? (st.within around) c cs = some (next.within around, rest) := by
  have hparen : c = ')' → st.around ≠ [] := by
    rintro rfl
    exact around_ne_nil_of_step? h
  rw [step?_within hparen, h]
  rfl

/-! ## Reading on -/

theorem readOn?_of_end (h : st.mode.skip cs = []) : readOn? st cs = some st := by
  rw [readOn?]
  split
  · rfl
  next heq => simp [h] at heq

theorem readOn?_of_step {r : List Char} (hskip : st.mode.skip cs = c :: r)
    (hstep : step? st c r = some (next, rest)) (hlength : rest.length ≤ r.length) :
    readOn? st cs = readOn? next rest := by
  rw [readOn?]
  split
  next heq => simp [hskip] at heq
  next heq =>
    rw [hskip] at heq
    cases heq
    rw [hstep]
    exact dif_pos hlength

theorem readOn?_of_stuck {r : List Char} (hskip : st.mode.skip cs = c :: r)
    (hstep : step? st c r = none) : readOn? st cs = none := by
  rw [readOn?]
  split
  next heq => simp [hskip] at heq
  next heq =>
    rw [hskip] at heq
    cases heq
    rw [hstep]

/-- All that counts is what stands behind blanks and comments. -/
theorem readOn?_congr {cs' : List Char} (h : st.mode.skip cs = st.mode.skip cs') :
    readOn? st cs = readOn? st cs' := by
  rw [readOn?, readOn?, h]

theorem step?_of_readOn? {r : List Char} (hskip : st.mode.skip cs = c :: r)
    (h : readOn? st cs = some fin) :
    ∃ next after, step? st c r = some (next, after) ∧ readOn? next after = some fin := by
  rw [readOn?] at h
  split at h
  next heq => simp [hskip] at heq
  next heq =>
    rw [hskip] at heq
    cases heq
    split at h
    · cases h
    next next after hstep =>
      split_ifs at h
      exact ⟨next, after, hstep, h⟩

/-- Where a pattern goes on behind an opening brace, there is a count. -/
theorem skip_ne_nil_of_readOn? (h : readOn? st ('\x7b' :: cs) = some fin) :
    st.mode.skip cs ≠ [] := by
  intro hend
  have hskip : st.mode.skip ('\x7b' :: cs) = '\x7b' :: cs := by
    simp [Mode.skip, skipBlanks, Text.isBlank]
  obtain ⟨next, after, hstep, -⟩ := step?_of_readOn? hskip h
  have hcount : count? st.mode [] = none := rfl
  simp [step?, bounds?, hend, hcount] at hstep

/-- What closes a group behind a pattern may be replaced for every step that is left in
front of the pattern. -/
theorem alike_of_readOn? (h : readOn? st cs = some fin) {u v : List Char}
    (hu : Closes u) (hv : Closes v) : Alike st.mode (cs ++ u) (cs ++ v) := by
  cases cs with
  | nil => exact .closes hu hv
  | cons c cs =>
      refine .starts ?_
      rintro rfl
      obtain ⟨d, s, hskip⟩ := List.exists_cons_of_ne_nil (skip_ne_nil_of_readOn? h)
      obtain ⟨e, rfl, hmore⟩ := Mode.skip_split hskip
      simp [hmore]

/-- What follows a pattern is read on from where the pattern ends, or taken by a
comment at its end. -/
theorem readOn?_append (h : readOn? st cs = some fin) :
    (∀ around t, readOn? (st.within around) (cs ++ ')' :: t) =
        readOn? (fin.within around) (')' :: t)) ∨
      ∀ around t, '\n' ∉ t →
        readOn? (st.within around) (cs ++ ')' :: t) = some (fin.within around) := by
  fun_induction readOn? st cs with
  | case1 st cs hskip =>
      obtain rfl : st = fin := Option.some.inj h
      rcases st.mode.skip_cases st.mode cs with ⟨e, hcs, hmore⟩ | ⟨-, hmore⟩
      · left
        intro around t
        apply readOn?_congr
        have hempty : st.mode.skip cs = [] ++ [] := hskip
        have hparen := hmore hempty (.closes closes_nil (closes_paren t))
        rw [hskip, List.append_nil] at hcs
        rw [Reading.within_mode, hcs, Mode.skip_paren]
        exact hparen
      · right
        intro around t ht
        apply readOn?_of_end
        rw [Reading.within_mode, hmore t ht]
  | case2 => cases h
  | case3 st cs c r hskip next after hstep hlength ih =>
      obtain ⟨before, rfl, hbefore⟩ := Mode.skip_split hskip
      have hskip' : ∀ around x, (st.within around).mode.skip (before ++ c :: x) = c :: x :=
        fun _ => hbefore
      cases step?_continues hstep with
      | leaves e hr hmore =>
          have hnext : ∀ around t, readOn? (st.within around) (before ++ c :: r ++ ')' :: t) =
              readOn? (next.within around) (after ++ ')' :: t) := by
            intro around t
            have halike : Alike next.mode after (after ++ ')' :: t) := by
              simpa using alike_of_readOn? h closes_nil (closes_paren t)
            have hstep' := step?_within_of_step? (hmore _ halike) around
            rw [hr, List.append_assoc, List.cons_append, List.append_assoc]
            exact readOn?_of_step (hskip' _ _) hstep' (by simp)
          simp only [hnext]
          exact ih h
      | skips hend hmore =>
          subst hend
          right
          intro around t ht
          have hfin : readOn? next [] = some next := readOn?_of_end Mode.skip_nil
          obtain rfl : next = fin := Option.some.inj (hfin.symm.trans h)
          have hstep' := step?_within_of_step? (hmore t ht) around
          rw [List.append_assoc, List.cons_append,
            readOn?_of_step (hskip' _ _) hstep' (by simp)]
          exact readOn?_of_end Mode.skip_nil
  | case4 => cases h

end CpuPinning.Pattern
