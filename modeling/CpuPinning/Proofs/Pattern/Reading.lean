import CpuPinning.Proofs.Pattern.Continuation.Step
import CpuPinning.Proofs.Pattern.Occurrence

/-!
# Readings of a pattern

What a step can do to a reading is one of six moves.  None of them spoils the
order of bounds, and none changes under which modes the outermost level stands.
-/

namespace CpuPinning.Pattern

variable {mode : Mode} {cs rest : List Char} {st next fin : Reading} {level : Level}
  {items : List Item} {around : List Level}

/-! ## Moves -/

/-- What one step does to a reading. -/
inductive Move (st : Reading) : Reading → Prop where
  | push (r : Regex) (depth : Nat) : r.BoundsInOrder → Move st (st.push ⟨r, depth, false⟩)
  | modes (mode : Mode) : Move st { st.push ⟨.empty, 0, true⟩ with mode := mode }
  | branch : Move st { st with level := st.level.branch }
  | openGroup (mode : Mode) (capturing : Bool) (names : List (List Char)) :
      Move st { st.openGroup mode capturing with names := names }
  | closeGroup {next : Reading} : st.closeGroup? = some next → Move st next
  | repeatLast {least : Nat} {most : Option Nat} {next : Reading} :
      (∀ m, most = some m → least ≤ m) → st.repeatLast? least most = some next →
      Move st next

theorem Atom.boundsInOrder_of_regex? {a : Atom} {r : Regex} (h : a.regex? mode = some r) :
    r.BoundsInOrder := by
  unfold Atom.regex? at h
  split at h
  · split_ifs at h
    cases h
    trivial
  · obtain ⟨s, -, rfl⟩ := Option.map_eq_some_iff.1 h
    trivial
  · cases h
    trivial
  · cases h
    trivial
  · cases h
    trivial
  · obtain ⟨s, -, rfl⟩ := Option.map_eq_some_iff.1 h
    trivial
  · obtain ⟨s, -, rfl⟩ := Option.map_eq_some_iff.1 h
    trivial

theorem le_of_bounds? {least : Nat} {most : Option Nat}
    (h : bounds? mode cs = some (least, most, rest)) : ∀ m, most = some m → least ≤ m := by
  revert h
  fun_cases bounds? mode cs with
  | case2 =>
      intro h m hm
      cases h
      cases hm
  | case3 least r hleast most after hle =>
      intro h m hm
      cases h
      cases hm
      exact hle
  | case6 =>
      intro h m hm
      cases h
      cases hm
      exact Nat.le_refl _
  | _ =>
      intro h
      cases h

theorem namedGroup?_move (h : namedGroup? st cs = some (next, rest)) : Move st next := by
  unfold namedGroup? at h
  split at h
  · cases h
  · split_ifs at h
    cases h
    exact .openGroup _ _ _

theorem group?_move (h : group? st cs = some (next, rest)) : Move st next := by
  revert h
  fun_cases group? st cs with
  | case5 => exact namedGroup?_move
  | case6 => exact namedGroup?_move
  | case8 =>
      intro h
      cases h
      exact .modes _
  | case9 =>
      intro h
      cases h
      exact .openGroup _ _ _
  | case10 =>
      intro h
      cases h
      exact .openGroup _ _ _
  | _ =>
      intro h
      cases h

theorem repeat_move {least : Nat} {most : Option Nat}
    (hbounds : ∀ m, most = some m → least ≤ m)
    (h : ((st.repeatLast? least most).map fun st => (st, cs)) = some (next, rest)) :
    Move st next := by
  obtain ⟨repeated, hrepeated, heq⟩ := Option.map_eq_some_iff.1 h
  cases heq
  exact .repeatLast hbounds hrepeated

/-- Every step is a move. -/
theorem step?_move {c : Char} (h : step? st c cs = some (next, rest)) : Move st next := by
  revert h
  fun_cases step? st c cs with
  | case1 => exact group?_move
  | case2 =>
      intro h
      obtain ⟨closed, hclosed, heq⟩ := Option.map_eq_some_iff.1 h
      cases heq
      exact .closeGroup hclosed
  | case3 =>
      intro h
      cases h
      exact .branch
  | case4 =>
      intro h
      obtain ⟨⟨set, r⟩, hset, heq⟩ := Option.map_eq_some_iff.1 h
      cases heq
      exact .push _ _ trivial
  | case5 => exact repeat_move (by simp)
  | case6 => exact repeat_move (by simp)
  | case7 => exact repeat_move (by simp)
  | case8 =>
      intro h
      cases h
  | case9 least most r hbounds => exact repeat_move (le_of_bounds? hbounds)
  | case10 c hread =>
      intro h
      rw [hread] at h
      cases h
  | case11 c atom r hread =>
      intro h
      rw [hread] at h
      obtain ⟨regex, hregex, heq⟩ := Option.map_eq_some_iff.1 h
      cases heq
      exact .push _ _ (Atom.boundsInOrder_of_regex? hregex)

/-! ## Bounds in order -/

/-- All counts of a list of items have their bounds in order. -/
def AllInOrder (items : List Item) : Prop := ∀ item ∈ items, item.regex.BoundsInOrder

theorem AllInOrder.cons {item : Item} (hitem : item.regex.BoundsInOrder)
    (h : AllInOrder items) : AllInOrder (item :: items) := by
  intro i hi
  rcases List.mem_cons.1 hi with rfl | hi
  · exact hitem
  · exact h i hi

theorem AllInOrder.tail {item : Item} (h : AllInOrder (item :: items)) :
    AllInOrder items := fun i hi => h i (List.mem_cons_of_mem _ hi)

/-- Joining items that stand in reverse, the last one first. -/
theorem joined_boundsInOrder {join : Regex → Regex → Regex}
    (hjoin : ∀ {r s : Regex}, r.BoundsInOrder → s.BoundsInOrder → (join r s).BoundsInOrder)
    (h : AllInOrder items) {r : Regex} (hr : r.BoundsInOrder) :
    (items.foldl (fun r item => join item.regex r) r).BoundsInOrder := by
  induction items generalizing r with
  | nil => exact hr
  | cons item items ih => exact ih h.tail (hjoin (h item List.mem_cons_self) hr)

theorem concatenation_boundsInOrder (h : AllInOrder items) :
    (Level.concatenation items).regex.BoundsInOrder := by
  have hcat : ∀ {r s : Regex}, r.BoundsInOrder → s.BoundsInOrder →
      (Regex.cat r s).BoundsInOrder := fun hr hs => ⟨hr, hs⟩
  unfold Level.concatenation
  split
  · trivial
  next item => exact h item List.mem_cons_self
  next last before _ => exact joined_boundsInOrder hcat h.tail (h last List.mem_cons_self)

theorem alternation_boundsInOrder (h : AllInOrder items) :
    (Level.alternation items).regex.BoundsInOrder := by
  have halt : ∀ {r s : Regex}, r.BoundsInOrder → s.BoundsInOrder →
      (Regex.alt r s).BoundsInOrder := fun hr hs => ⟨hr, hs⟩
  unfold Level.alternation
  split
  · trivial
  next item => exact h item List.mem_cons_self
  next last before _ => exact joined_boundsInOrder halt h.tail (h last List.mem_cons_self)

/-- The counts in all parts of a level have their bounds in order. -/
structure Level.InOrder (level : Level) : Prop where
  branches : AllInOrder level.branches
  items : AllInOrder level.items

theorem Level.InOrder.push {item : Item} (h : level.InOrder)
    (hitem : item.regex.BoundsInOrder) : (level.push item).InOrder :=
  ⟨h.branches, h.items.cons hitem⟩

theorem Level.InOrder.branch (h : level.InOrder) : level.branch.InOrder :=
  ⟨h.branches.cons (concatenation_boundsInOrder h.items), nofun⟩

theorem Level.InOrder.content (h : level.InOrder) : level.content.regex.BoundsInOrder :=
  alternation_boundsInOrder h.branch.branches

/-! ## What every reading keeps -/

namespace Reading

/-- For every open level, the modes outside of it and whether it captures. -/
def frames (st : Reading) : List (Mode × Bool) :=
  (st.level :: st.around).map fun level => (level.outside, level.capturing)

/-- Bounds are in order, and the outermost level stands in the initial modes and
captures nothing. -/
structure Sound (st : Reading) : Prop where
  level : st.level.InOrder
  around : ∀ level ∈ st.around, level.InOrder
  outermost : st.frames.getLast? = some (.initial, false)

theorem start_sound : Reading.start.Sound :=
  ⟨⟨nofun, nofun⟩, nofun, rfl⟩

/-- A closed group becomes one item of the level around it. -/
theorem closeGroup?_eq_some (h : st.closeGroup? = some next) :
    ∃ outer around, st.around = outer :: around ∧
      next = { st with
        level := outer.push ⟨if st.level.capturing then .group st.level.content.regex
          else st.level.content.regex, st.level.content.depth + 1, false⟩
        around := around
        mode := st.level.outside } := by
  unfold closeGroup? at h
  split at h
  · cases h
  next outer around haround =>
    cases h
    exact ⟨outer, around, haround, rfl⟩

/-- Repetition takes the last item of the innermost level and puts it back. -/
theorem repeatLast?_eq_some {least : Nat} {most : Option Nat}
    (h : st.repeatLast? least most = some next) :
    ∃ item items, st.level.items = item :: items ∧
      next = { st with level := { st.level with items :=
        ⟨.times item.regex least most, item.depth + 1, false⟩ :: items } } := by
  obtain ⟨⟨item, popped⟩, hpop, rfl⟩ := Option.map_eq_some_iff.1 h
  unfold popItem? at hpop
  split at hpop
  · cases hpop
  next first items hitems =>
    split_ifs at hpop
    cases hpop
    exact ⟨_, items, hitems, rfl⟩

end Reading

/-- A move opens a level, closes one, or leaves the levels that are open. -/
theorem Move.frames_getLast? (h : Move st next) :
    next.frames.getLast? = st.frames.getLast? := by
  cases h with
  | push _ _ _ => rfl
  | modes _ => rfl
  | branch => rfl
  | openGroup mode capturing names => rfl
  | closeGroup h =>
      obtain ⟨outer, around, haround, rfl⟩ := Reading.closeGroup?_eq_some h
      simp [Reading.frames, haround, Level.push]
  | repeatLast _ h =>
      obtain ⟨item, items, -, rfl⟩ := Reading.repeatLast?_eq_some h
      rfl

/-- What holds of a reading holds after a move. -/
theorem Move.sound (h : Move st next) (hst : st.Sound) : next.Sound := by
  have houtermost : next.frames.getLast? = some (.initial, false) :=
    h.frames_getLast?.trans hst.outermost
  cases h with
  | push r depth hr => exact ⟨hst.level.push hr, hst.around, houtermost⟩
  | modes mode => exact ⟨hst.level.push trivial, hst.around, houtermost⟩
  | branch => exact ⟨hst.level.branch, hst.around, houtermost⟩
  | openGroup mode capturing names =>
      refine ⟨⟨nofun, nofun⟩, ?_, houtermost⟩
      intro level hlevel
      rcases List.mem_cons.1 hlevel with rfl | hlevel
      · exact hst.level
      · exact hst.around level hlevel
  | closeGroup h =>
      obtain ⟨outer, around, haround, rfl⟩ := Reading.closeGroup?_eq_some h
      have hcontent := hst.level.content
      have houter : outer.InOrder := hst.around outer (by simp [haround])
      refine ⟨houter.push ?_, ?_, houtermost⟩
      · dsimp only
        split_ifs <;> exact hcontent
      · intro level hlevel
        exact hst.around level (by simp [haround, hlevel])
  | repeatLast hbounds h =>
      obtain ⟨item, items, hitems, rfl⟩ := Reading.repeatLast?_eq_some h
      have hall : AllInOrder (item :: items) := hitems ▸ hst.level.items
      have hrepeated : (Regex.times item.regex _ _).BoundsInOrder :=
        ⟨hall item List.mem_cons_self, hbounds⟩
      exact ⟨⟨hst.level.branches, hall.tail.cons hrepeated⟩, hst.around, houtermost⟩

/-- What holds of a reading holds of every later one. -/
theorem readOn?_sound (h : readOn? st cs = some fin) (hst : st.Sound) : fin.Sound := by
  fun_induction readOn? st cs with
  | case1 st cs hskip =>
      cases h
      exact hst
  | case2 => cases h
  | case3 st cs c r hskip next after hstep hlength ih =>
      exact ih h ((step?_move hstep).sound hst)
  | case4 => cases h

end CpuPinning.Pattern
