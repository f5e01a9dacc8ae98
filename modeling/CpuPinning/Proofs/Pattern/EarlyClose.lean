import CpuPinning.Proofs.Pattern.Anchors

/-!
# Groups that close early

A text that is no pattern by itself can be one between the anchors.  Then the group
between the anchors ends inside of the text, at a parenthesis behind a part that is a
pattern by itself.
-/

namespace CpuPinning.Pattern

variable {cs : List Char} {st fin : Reading} {item : Item}

/-- The text begins with a pattern, and behind it stands a parenthesis that closes none
of its groups. -/
def ClosesEarly (cs : List Char) : Prop :=
  ∃ front back base, cs = front ++ ')' :: back ∧ item? front = some base ∧
    item? (front ++ [')']) = none

/-- A reading that ends outside of a group has read, up to the parenthesis that closes the
group, what is read alone before any other end of the group. -/
theorem exists_front_of_readOn? {outer : Level} (h : readOn? (st.within [outer]) cs = some fin)
    (hfin : fin.around = []) :
    ∃ front back inner, cs = front ++ ')' :: back ∧ inner.around = [] ∧
      ∀ q, Closes q → readOn? st (front ++ q) = readOn? inner q := by
  generalize hst : st.within [outer] = inside at h
  fun_induction readOn? inside cs generalizing st with
  | case1 inside cs hskip =>
      obtain rfl : inside = fin := Option.some.inj h
      simp [← hst, Reading.within] at hfin
  | case2 => cases h
  | case3 inside cs c r hskip next after hstep hlength ih =>
      subst hst
      rw [Reading.within_mode] at hskip
      by_cases hclose : c = ')' ∧ st.around = []
      · obtain ⟨rfl, haround⟩ := hclose
        obtain ⟨before, rfl, hmore, -⟩ := Mode.exists_skipped hskip
        exact ⟨before, r, st, rfl, haround, fun q _ => readOn?_congr (hmore q)⟩
      · rw [step?_within (fun hc haround => hclose ⟨hc, haround⟩)] at hstep
        obtain ⟨⟨plain, rest⟩, hplain, heq⟩ := Option.map_eq_some_iff.1 hstep
        obtain ⟨rfl, rfl⟩ := Prod.mk.inj heq
        obtain ⟨front, back, inner, hrest, haround, hread⟩ := ih rfl h
        have hrest : rest = front ++ ')' :: back := hrest
        have hfront : readOn? plain front = some inner := by
          have hend := hread [] closes_nil
          rwa [List.append_nil, readOn?_of_end Mode.skip_nil] at hend
        obtain ⟨before, rfl, hbefore⟩ := Mode.skip_split hskip
        cases step?_continues hplain with
        | skips hnil _ => simp [hrest] at hnil
        | leaves e hr hmore =>
            refine ⟨before ++ c :: (e ++ front), back, inner, by simp [hr, hrest], haround, ?_⟩
            intro q hq
            have halike : Alike plain.mode rest (front ++ q) := by
              rw [hrest]
              exact alike_of_readOn? hfront (closes_paren back) hq
            rw [← hread q hq, List.append_assoc, List.cons_append, List.append_assoc]
            exact readOn?_of_step (hbefore _) (hmore _ halike) (by simp)
  | case4 => cases h

/-- A text that closes a group of its surroundings is no pattern by itself. -/
theorem ClosesEarly.not_wellFormed (h : ClosesEarly cs) : wellFormed cs = false := by
  obtain ⟨front, back, base, rfl, hbase, hend⟩ := h
  exact wellFormed_paren hbase hend back

/-- A text is a pattern between the anchors only if it is one by itself or closes the
group around it early. -/
theorem closesEarly_of_item?_anchored (h : item? (anchored cs) = some item)
    (hcs : item? cs = none) : ClosesEarly cs := by
  rw [item?_anchored, Option.bind_eq_bind, Option.bind_eq_some_iff] at h
  obtain ⟨fin, hread, hfinish⟩ := h
  have hfin : fin.around = [] := by
    simp only [Reading.finish?, Option.ite_none_right_eq_some, List.isEmpty_iff] at hfinish
    exact hfinish.1
  obtain ⟨front, t, inner, hsplit, haround, hfront⟩ := exists_front_of_readOn? hread hfin
  have hbase : item? front = some inner.level.content := by
    have halone := hfront [] closes_nil
    rw [List.append_nil, readOn?_of_end Mode.skip_nil] at halone
    exact item?_eq_some_iff.2 ⟨inner, halone, haround, rfl⟩
  have hend : item? (front ++ [')']) = none := by
    rw [item?, hfront _ (closes_paren []), readOn?_paren haround]
    rfl
  have hne : cs ≠ front := by
    rintro rfl
    rw [hcs] at hbase
    cases hbase
  -- the parenthesis is none of the text behind `cs`, which would make `cs` a pattern
  obtain ⟨back, rfl⟩ : ∃ back, cs = front ++ ')' :: back := by
    rcases List.append_eq_append_iff.1 hsplit with ⟨more, hmore, htail⟩ | ⟨more, hmore, htail⟩
    · cases more with
      | nil => exact absurd (by simpa using hmore.symm) hne
      | cons b more => cases more <;> simp at htail
    · cases more with
      | nil => exact absurd (by simpa using hmore) hne
      | cons b back =>
          obtain rfl : ')' = b := (List.cons.inj htail).1
          exact ⟨back, hmore⟩
  exact ⟨front, back, _, rfl, hbase, hend⟩

/-- Between the anchors, the texts that are no patterns by themselves are those that close
the group around them early. -/
theorem wellFormed_eq_false_iff (h : item? (anchored cs) = some item) :
    wellFormed cs = false ↔ ClosesEarly cs := by
  constructor
  · intro hcs
    rw [wellFormed, Option.isSome_eq_false_iff, Option.isNone_iff_eq_none] at hcs
    exact closesEarly_of_item?_anchored h hcs
  · exact ClosesEarly.not_wellFormed

end CpuPinning.Pattern
