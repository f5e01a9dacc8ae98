import CpuPinning.Pattern.FullMatch
import CpuPinning.Proofs.Pattern.Nested

/-!
# Patterns between anchors

A well-formed pattern keeps its meaning between the anchors and is matched by
whole names only, unless it ends in a comment, which then swallows the closing
anchor.  A text that is no pattern can become one between the anchors: it closes
the group around it and opens another one.
-/

namespace CpuPinning.Pattern

variable {cs text : List Char} {fin : Reading} {item : Item} {r : Regex}

/-- An expression between the assertions that the anchors stand for. -/
def Regex.whole (r : Regex) : Regex := .cat (.look .textStart) (.cat r (.look .textEnd))

theorem spanning_textStart {i j : Nat} :
    Spanning text (.look .textStart) i j ↔ i = 0 ∧ j = 0 := by
  rw [spanning_look]
  constructor
  · rintro ⟨hi, hlook, rfl⟩
    have hlast : (text.take j).getLast? = none := by simpa [Look.holds] using hlook
    have htake : text.take j = [] := List.getLast?_eq_none_iff.1 hlast
    have hj : j = 0 := by
      have hlength := congrArg List.length htake
      rw [List.length_take_of_le hi] at hlength
      exact hlength
    exact ⟨hj, hj⟩
  · rintro ⟨rfl, rfl⟩
    exact ⟨Nat.zero_le _, by simp [Look.holds], rfl⟩

theorem spanning_textEnd {i j : Nat} :
    Spanning text (.look .textEnd) i j ↔ i = text.length ∧ j = text.length := by
  rw [spanning_look]
  constructor
  · rintro ⟨hi, hlook, rfl⟩
    have hhead : (text.drop j).head? = none := by simpa [Look.holds] using hlook
    have hdrop : text.length ≤ j := by
      rw [List.head?_eq_none_iff] at hhead
      exact List.drop_eq_nil_iff.1 hhead
    have hj : j = text.length := Nat.le_antisymm hi hdrop
    exact ⟨hj, hj⟩
  · rintro ⟨rfl, rfl⟩
    exact ⟨Nat.le_refl _, by simp [Look.holds], rfl⟩

/-- Between the anchors an expression occurs in a text if it matches all of it. -/
theorem occursIn_whole_iff (hr : r.BoundsInOrder) :
    occursIn r.whole text = true ↔ Matches r [] text [] := by
  have hwhole : r.whole.BoundsInOrder := ⟨trivial, hr, trivial⟩
  rw [occursIn_iff hwhole, ← spanning_whole_iff]
  unfold Regex.whole
  simp only [spanning_cat, spanning_textStart, spanning_textEnd]
  constructor
  · rintro ⟨_, _, _, ⟨rfl, rfl⟩, _, h, rfl, rfl⟩
    exact h
  · intro h
    exact ⟨0, text.length, 0, ⟨rfl, rfl⟩, text.length, h, rfl, rfl⟩

/-! ## Reading the anchors -/

/-- What is open around the group between the anchors. -/
def anchorLevel : Level := ⟨.initial, false, [], [⟨.look .textStart, 0, false⟩]⟩

theorem Mode.skip_initial (cs : List Char) : Mode.initial.skip cs = cs := rfl

theorem readOn?_opening (cs : List Char) :
    readOn? .start ('^' :: '(' :: '?' :: ':' :: cs) =
      readOn? (Reading.start.within [anchorLevel]) cs := by
  have hanchor : step? .start '^' ('(' :: '?' :: ':' :: cs) =
      some (Reading.start.push ⟨.look .textStart, 0, false⟩, '(' :: '?' :: ':' :: cs) := rfl
  have hgroup : step? (Reading.start.push ⟨.look .textStart, 0, false⟩) '('
      ('?' :: ':' :: cs) = some (Reading.start.within [anchorLevel], cs) := rfl
  have hlength : cs.length ≤ ('?' :: ':' :: cs).length := by
    simp only [List.length_cons]
    omega
  rw [readOn?_of_step (Mode.skip_initial _) hanchor (Nat.le_refl _),
    readOn?_of_step (Mode.skip_initial _) hgroup hlength]

/-- What is read once the group between the anchors has been closed. -/
def Reading.closed (fin : Reading) : Reading :=
  ⟨anchorLevel.push ⟨fin.level.content.regex, fin.level.content.depth + 1, false⟩, [],
    .initial, fin.names⟩

/-- The group between the anchors closes where the pattern in it ends. -/
theorem readOn?_closing (hfin : fin.Sound) (haround : fin.around = []) (cs : List Char) :
    readOn? (fin.within [anchorLevel]) (')' :: cs) = readOn? fin.closed cs := by
  have hframe : (fin.level.outside, fin.level.capturing) = (.initial, false) := by
    have houtermost := hfin.outermost
    rw [Reading.frames, haround] at houtermost
    exact Option.some.inj houtermost
  obtain ⟨houtside, hcapturing⟩ := Prod.mk.inj hframe
  have hclose : (fin.within [anchorLevel]).closeGroup? = some fin.closed := by
    simp [Reading.closeGroup?, Reading.within, Reading.closed, haround, houtside,
      hcapturing]
  have hstep : step? (fin.within [anchorLevel]) ')' cs = some (fin.closed, cs) := by
    rw [step?, hclose]
    rfl
  exact readOn?_of_step Mode.skip_paren hstep (Nat.le_refl _)

theorem item?_eq_some_iff :
    item? cs = some item ↔
      ∃ fin, readOn? .start cs = some fin ∧ fin.around = [] ∧ fin.level.content = item := by
  unfold item?
  rw [Option.bind_eq_bind, Option.bind_eq_some_iff]
  simp [Reading.finish?]

theorem boundsInOrder_of_item? (h : item? cs = some item) : item.regex.BoundsInOrder := by
  obtain ⟨fin, hread, -, rfl⟩ := item?_eq_some_iff.1 h
  exact (readOn?_sound hread Reading.start_sound).level.content

/-- A closing parenthesis behind a pattern closes nothing. -/
theorem readOn?_paren (haround : fin.around = []) (cs : List Char) :
    readOn? fin (')' :: cs) = none := by
  have hstep : step? fin ')' cs = none := by
    simp [step?, Reading.closeGroup?, haround]
  exact readOn?_of_stuck Mode.skip_paren hstep

/-- Behind a pattern, a closing parenthesis either ends the reading where the pattern
ends, or is part of a comment together with all that follows on the line. -/
theorem exists_reading_of_item? (h : item? cs = some item) :
    ∃ fin : Reading, fin.Sound ∧ fin.around = [] ∧ fin.level.content = item ∧
      ((item? (cs ++ [')']) = none ∧
        ∀ around t, readOn? (Reading.start.within around) (cs ++ ')' :: t) =
          readOn? (fin.within around) (')' :: t)) ∨
      (item? (cs ++ [')']) = some item ∧
        ∀ around t, '\n' ∉ t →
          readOn? (Reading.start.within around) (cs ++ ')' :: t) =
            some (fin.within around))) := by
  obtain ⟨fin, hread, haround, hitem⟩ := item?_eq_some_iff.1 h
  refine ⟨fin, readOn?_sound hread Reading.start_sound, haround, hitem, ?_⟩
  rcases readOn?_append hread with hleft | htaken
  · left
    refine ⟨?_, hleft⟩
    have hparen := hleft [] []
    rw [Reading.within_nil, Reading.within_nil, readOn?_paren haround] at hparen
    rw [item?, hparen]
    rfl
  · right
    refine ⟨?_, htaken⟩
    have hparen := htaken [] [] (by simp)
    rw [Reading.within_nil, Reading.within_nil] at hparen
    exact item?_eq_some_iff.2 ⟨fin, hparen, haround, hitem⟩

theorem item?_anchored (cs : List Char) :
    item? (anchored cs) =
      readOn? (Reading.start.within [anchorLevel]) (cs ++ ')' :: ['$']) >>=
        Reading.finish? := by
  rw [← readOn?_opening]
  rfl

/-- A pattern that does not end in a comment keeps its meaning between the anchors. -/
theorem item?_anchored_of_item? (h : item? cs = some item)
    (hend : item? (cs ++ [')']) = none) :
    item? (anchored cs) = some ⟨item.regex.whole, item.depth + 2, false⟩ := by
  obtain ⟨fin, hsound, haround, rfl, ⟨-, hread⟩ | ⟨hsome, -⟩⟩ := exists_reading_of_item? h
  · have hstep : step? fin.closed '$' [] =
        some (fin.closed.push ⟨.look .textEnd, 0, false⟩, []) := rfl
    rw [item?_anchored, hread, readOn?_closing hsound haround,
      readOn?_of_step (Mode.skip_initial _) hstep (Nat.le_refl _),
      readOn?_of_end (Mode.skip_initial _)]
    rfl
  · rw [hend] at hsome
    cases hsome

/-- A comment at the end of a pattern takes the closing anchor with it. -/
theorem item?_anchored_of_comment (h : item? cs = some item)
    (hend : item? (cs ++ [')']) ≠ none) : item? (anchored cs) = none := by
  obtain ⟨fin, -, -, -, ⟨hnone, -⟩ | ⟨-, hread⟩⟩ := exists_reading_of_item? h
  · exact absurd hnone hend
  · rw [item?_anchored, hread _ _ (by decide)]
    simp [Reading.finish?, Reading.within]

theorem compileAnchored?_eq_some_iff :
    compileAnchored? cs = some r ↔
      ∃ item, item? (anchored cs) = some item ∧ item.depth ≤ nestLimit ∧
        item.regex = r ∧ fits r = true := by
  unfold compileAnchored? parse?
  rw [Option.filter_eq_some_iff]
  cases item? (anchored cs) with
  | none => simp
  | some item => simp [and_assoc]

/-- A text that is a pattern by itself compiles between the anchors unless it ends in a
comment, up to the limits of depth and size. -/
theorem compileAnchored?_of_item? (hitem : item? cs = some item) :
    (∃ r, compileAnchored? cs = some r) ↔
      item? (cs ++ [')']) = none ∧ item.depth + 2 ≤ nestLimit ∧
        fits item.regex.whole = true := by
  simp only [compileAnchored?_eq_some_iff]
  by_cases hend : item? (cs ++ [')']) = none
  · simp [item?_anchored_of_item? hitem hend, hend]
  · simp [item?_anchored_of_comment hitem hend, hend]

/-! ## Escaping the anchors -/

/-- A pattern followed by what closes the group between the anchors and opens
another one, behind an alternative. -/
def escaping (cs : List Char) : List Char := cs ++ [')', '|', '(', '?', ':']

/-- A pattern and a parenthesis that closes nothing are no pattern, whatever follows. -/
theorem wellFormed_paren (h : item? cs = some item) (hend : item? (cs ++ [')']) = none)
    (t : List Char) : wellFormed (cs ++ ')' :: t) = false := by
  obtain ⟨fin, -, haround, -, ⟨-, hread⟩ | ⟨hsome, -⟩⟩ := exists_reading_of_item? h
  · have hparen := hread [] t
    rw [Reading.within_nil, Reading.within_nil, readOn?_paren haround] at hparen
    rw [wellFormed, item?, hparen]
    rfl
  · rw [hend] at hsome
    cases hsome

/-- What an expression becomes when its pattern escapes the anchors: each of them is
left with one of two alternatives. -/
def Regex.escaped (r : Regex) : Regex :=
  .alt (.cat (.look .textStart) r) (.cat .empty (.look .textEnd))

theorem item?_anchored_escaping (h : item? cs = some item)
    (hend : item? (cs ++ [')']) = none) :
    item? (anchored (escaping cs)) = some ⟨item.regex.escaped, item.depth + 3, false⟩ := by
  obtain ⟨fin, hsound, haround, rfl, ⟨-, hread⟩ | ⟨hsome, -⟩⟩ := exists_reading_of_item? h
  · let branched : Reading := { fin.closed with level := fin.closed.level.branch }
    let opened : Reading := branched.openGroup .initial false
    let reclosed : Reading := branched.push ⟨.empty, 1, false⟩
    have hbranch : step? fin.closed '|' ['(', '?', ':', ')', '$'] =
        some (branched, ['(', '?', ':', ')', '$']) := rfl
    have hopen : step? branched '(' ['?', ':', ')', '$'] = some (opened, [')', '$']) := rfl
    have hclose : step? opened ')' ['$'] = some (reclosed, ['$']) := rfl
    have hanchor : step? reclosed '$' [] =
        some (reclosed.push ⟨.look .textEnd, 0, false⟩, []) := rfl
    have hsplit : escaping cs ++ ')' :: ['$'] =
        cs ++ ')' :: ['|', '(', '?', ':', ')', '$'] := by simp [escaping]
    rw [item?_anchored, hsplit, hread, readOn?_closing hsound haround,
      readOn?_of_step (Mode.skip_initial _) hbranch (Nat.le_refl _),
      readOn?_of_step (Mode.skip_initial _) hopen (by simp),
      readOn?_of_step (Mode.skip_initial _) hclose (Nat.le_refl _),
      readOn?_of_step (Mode.skip_initial _) hanchor (Nat.le_refl _),
      readOn?_of_end (Mode.skip_initial _)]
    rfl
  · rw [hend] at hsome
    cases hsome

theorem compileAnchored?_escaping (h : item? cs = some item)
    (hend : item? (cs ++ [')']) = none) :
    compileAnchored? (escaping cs) = some r ↔
      item.depth + 3 ≤ nestLimit ∧ item.regex.escaped = r ∧ fits r = true := by
  rw [compileAnchored?_eq_some_iff, item?_anchored_escaping h hend]
  simp

/-- What escapes the anchors occurs in every text, at its end. -/
theorem occursIn_escaped (hr : r.BoundsInOrder) (text : List Char) :
    occursIn r.escaped text = true := by
  have hbounds : r.escaped.BoundsInOrder := ⟨⟨trivial, hr⟩, trivial, trivial⟩
  refine (occursIn_iff hbounds).2 ⟨text.length, text.length, ?_⟩
  rw [Regex.escaped, spanning_alt]
  right
  rw [spanning_cat]
  exact ⟨text.length, spanning_empty.2 ⟨Nat.le_refl _, rfl⟩, spanning_textEnd.2 ⟨rfl, rfl⟩⟩

end CpuPinning.Pattern
