import CpuPinning.Proofs.Pattern.EarlyClose
import CpuPinning.Proofs.Rule.Compilation

/-!
# Thread rules and whole names

A rule is made of any text that is a pattern between the anchors.  If the text is
also a pattern by itself, the rule is for the threads whose whole name the pattern
matches.  A text that is none by itself makes a rule only if it closes the group
between the anchors early, and it can make one for every thread.
-/

namespace CpuPinning.ThreadRule

open Pattern

variable {pattern : String} {mask : CpuMask} {rule : ThreadRule} {item : Item}

theorem make_of_compiled (mask : CpuMask) {r : Regex}
    (h : compileAnchored? pattern.toList = some r) :
    make pattern mask = .ok ⟨pattern, r, mask, h⟩ := by
  unfold make
  split
  next hnone =>
    rw [h] at hnone
    cases hnone
  next s hsome =>
    obtain rfl : r = s := Option.some.inj (h.symm.trans hsome)
    rfl

/-- The pattern is all that a rule can be refused for. -/
theorem make_eq_error_iff {e : PinError} :
    make pattern mask = .error e ↔
      compileAnchored? pattern.toList = none ∧ e = .pattern pattern := by
  cases h : compileAnchored? pattern.toList with
  | some r => simp [make_of_compiled mask h]
  | none =>
      have hmake : make pattern mask = .error (.pattern pattern) := by
        unfold make
        split
        · rfl
        next s hsome =>
          rw [h] at hsome
          cases hsome
      rw [hmake]
      simp [eq_comm]

/-- A text that is a pattern by itself makes a rule unless it ends in a comment, up to
the limits of depth and size. -/
theorem exists_make_eq_ok_iff (hitem : item? pattern.toList = some item) :
    (∃ rule, make pattern mask = .ok rule) ↔
      item? (pattern.toList ++ [')']) = none ∧ item.depth + 2 ≤ nestLimit ∧
        fits item.regex.whole = true := by
  rw [← compileAnchored?_of_item? hitem]
  constructor
  · rintro ⟨rule, hmake⟩
    obtain ⟨rfl, -⟩ := make_eq_ok hmake
    exact ⟨rule.regex, rule.compiled⟩
  · rintro ⟨r, hcompiled⟩
    exact ⟨_, make_of_compiled mask hcompiled⟩

/-- The expression of a rule is that of its pattern between the anchors. -/
theorem exists_item_of_make (h : make pattern mask = .ok rule) :
    ∃ item, item? (anchored pattern.toList) = some item ∧ rule.regex = item.regex := by
  obtain ⟨rfl, -⟩ := make_eq_ok h
  obtain ⟨item, hitem, -, hregex, -⟩ := compileAnchored?_eq_some_iff.1 rule.compiled
  exact ⟨item, hitem, hregex.symm⟩

/-- A rule of a text that is a pattern by itself is for the threads whose whole name
the pattern matches. -/
theorem applies_iff_matches_whole (hmake : make pattern mask = .ok rule)
    (hitem : item? pattern.toList = some item) (name : String) :
    rule.applies name = true ↔ Matches item.regex [] name.toList [] := by
  obtain ⟨found, hfound, hregex⟩ := exists_item_of_make hmake
  have hwhole : found.regex = item.regex.whole := by
    by_cases hend : item? (pattern.toList ++ [')']) = none
    · rw [item?_anchored_of_item? hitem hend] at hfound
      cases hfound
      rfl
    · rw [item?_anchored_of_comment hitem hend] at hfound
      cases hfound
  rw [applies, hregex, hwhole]
  exact occursIn_whole_iff (boundsInOrder_of_item? hitem)

namespace Sample

/-- The mask of the rules below. -/
def oneCpu : CpuMask where
  ids := [2]
  ascending := List.pairwise_singleton _ _
  nonempty := List.cons_ne_nil _ _
  bounded := List.forall_mem_singleton.2 (by decide)

end Sample

theorem applies_iff_matches_whole_sample :
    ∃ rule item, make "a|b" Sample.oneCpu = .ok rule ∧
      item? "a|b".toList = some item ∧ Matches item.regex [] "a".toList [] ∧
      ¬Matches item.regex [] "ab".toList [] := by
  let r : Regex := .alt (.set (.ofChar 'a')) (.set (.ofChar 'b'))
  have hcompiled : compileAnchored? "a|b".toList = some r.whole := by cbv
  have hitem : item? "a|b".toList = some ⟨r, 1, false⟩ := by cbv
  have hmake := make_of_compiled Sample.oneCpu hcompiled
  have hiff := applies_iff_matches_whole hmake hitem
  have hfirst : occursIn r.whole "a".toList = true := by decide
  have hboth : occursIn r.whole "ab".toList = false := by decide
  refine ⟨_, _, hmake, hitem, (hiff "a").1 hfirst, ?_⟩
  intro hmatch
  have happlies : occursIn r.whole "ab".toList = true := (hiff "ab").2 hmatch
  rw [hboth] at happlies
  cases happlies

/-! ## Texts that are patterns between the anchors only -/

theorem toList_escaping (base : String) :
    (base ++ ")|(?:").toList = escaping base.toList := by
  simp [escaping]

/-- A text that makes a rule without being a pattern by itself closes the group between
the anchors, and no pattern does. -/
theorem wellFormed_eq_false_iff_of_make (hmake : make pattern mask = .ok rule) :
    wellFormed pattern.toList = false ↔ ClosesEarly pattern.toList := by
  obtain ⟨item, hitem, -⟩ := exists_item_of_make hmake
  exact wellFormed_eq_false_iff hitem

/-- A pattern that escapes the anchors makes a rule, up to the limits of depth and
size. -/
theorem exists_make_escaping_iff (hitem : item? pattern.toList = some item)
    (hend : item? (pattern.toList ++ [')']) = none) :
    (∃ rule, make (pattern ++ ")|(?:") mask = .ok rule) ↔
      item.depth + 3 ≤ nestLimit ∧ fits item.regex.escaped = true := by
  have hcompile {r : Regex} :
      compileAnchored? (pattern ++ ")|(?:").toList = some r ↔
        item.depth + 3 ≤ nestLimit ∧ item.regex.escaped = r ∧ fits r = true := by
    rw [toList_escaping]
    exact compileAnchored?_escaping hitem hend
  constructor
  · rintro ⟨rule, hmake⟩
    obtain ⟨hpattern, -⟩ := make_eq_ok hmake
    obtain ⟨hdepth, hregex, hfits⟩ := hcompile.1 (hpattern ▸ rule.compiled)
    rw [← hregex] at hfits
    exact ⟨hdepth, hfits⟩
  · rintro ⟨hdepth, hfits⟩
    exact ⟨_, make_of_compiled mask (hcompile.2 ⟨hdepth, rfl, hfits⟩)⟩

/-- A rule that a pattern makes by escaping the anchors is for every thread. -/
theorem applies_of_make_escaping (hitem : item? pattern.toList = some item)
    (hend : item? (pattern.toList ++ [')']) = none)
    (hmake : make (pattern ++ ")|(?:") mask = .ok rule) (name : String) :
    rule.applies name = true := by
  obtain ⟨found, hfound, hregex⟩ := exists_item_of_make hmake
  rw [toList_escaping, item?_anchored_escaping hitem hend] at hfound
  cases hfound
  rw [applies, hregex]
  exact occursIn_escaped (boundsInOrder_of_item? hitem) _

/-- Which texts make a rule, up to the limits of depth and size.  A refusal names the
text.  A text that makes a rule is a pattern by itself, or it closes the group between
the anchors early.  A text that is a pattern by itself makes a rule unless it ends in a
comment.  Any such pattern becomes, with five characters behind it, a text that is no
pattern by itself and that makes a rule all the same, for every thread. -/
theorem make_legality (pattern : String) (mask : CpuMask) :
    (∀ e, make pattern mask = .error e → e = .pattern pattern) ∧
      (∀ rule, make pattern mask = .ok rule →
        (wellFormed pattern.toList = false ↔ ClosesEarly pattern.toList)) ∧
      ∀ item, item? pattern.toList = some item →
        ((∃ rule, make pattern mask = .ok rule) ↔
          item? (pattern.toList ++ [')']) = none ∧ item.depth + 2 ≤ nestLimit ∧
            fits item.regex.whole = true) ∧
        (item? (pattern.toList ++ [')']) = none →
          wellFormed (pattern ++ ")|(?:").toList = false ∧
          ((∃ rule, make (pattern ++ ")|(?:") mask = .ok rule) ↔
            item.depth + 3 ≤ nestLimit ∧ fits item.regex.escaped = true) ∧
          ∀ rule, make (pattern ++ ")|(?:") mask = .ok rule →
            ∀ name, rule.applies name = true) := by
  refine ⟨fun e he => (make_eq_error_iff.1 he).2,
    fun rule hmake => wellFormed_eq_false_iff_of_make hmake, ?_⟩
  intro item hitem
  refine ⟨exists_make_eq_ok_iff hitem, ?_⟩
  intro hend
  refine ⟨?_, exists_make_escaping_iff hitem hend, ?_⟩
  · rw [toList_escaping]
    exact wellFormed_paren hitem hend _
  · intro rule hmake
    exact applies_of_make_escaping hitem hend hmake

theorem make_legality_sample :
    wellFormed "a)|(?:".toList = false ∧ ClosesEarly "a)|(?:".toList ∧
      ∃ rule, make "a)|(?:" Sample.oneCpu = .ok rule ∧
        ∀ name, rule.applies name = true := by
  have hitem : item? "a".toList = some ⟨.set (.ofChar 'a'), 0, false⟩ := by cbv
  have hend : item? ("a".toList ++ [')']) = none := by cbv
  have hjoin : "a" ++ ")|(?:" = "a)|(?:" := by decide
  have hlimits : 0 + 3 ≤ nestLimit ∧
      fits (Regex.set (.ofChar 'a')).escaped = true := by cbv
  obtain ⟨hnone, hmade, hall⟩ := ((make_legality "a" Sample.oneCpu).2.2 _ hitem).2 hend
  rw [hjoin] at hnone hmade hall
  obtain ⟨rule, hmake⟩ := hmade.2 hlimits
  have hearly := ((make_legality "a)|(?:" Sample.oneCpu).2.1 rule hmake).1 hnone
  exact ⟨hnone, hearly, rule, hmake, hall rule hmake⟩

end CpuPinning.ThreadRule
