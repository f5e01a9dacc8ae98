import CpuPinning.Pattern.Bracket
import CpuPinning.Proofs.Pattern.Continuation.Atom

/-!
# Bracketed sets with other text behind

A set ends with its closing bracket, so that what comes behind never changes it.
Inside of the brackets a reader may look further than it reads, but never beyond
the closing bracket.  So the readers below take the same part of a text when what
follows one of the closing brackets is replaced.
-/

namespace CpuPinning.Pattern

open Unicode (CharSet)

variable {mode : Mode} {cs d rest : List Char} {c : Char} {s : CharSet}
  {items items' : Items} {frames frames' : List SetFrame} {negated : Bool} {fuel : Nat}

/-! ## Named classes -/

/-- The classes have names of small letters. -/
theorem all_isLower_of_posixSet? {name : List Char}
    (h : posixSet? (String.ofList name) = some s) : name.all Char.isLower = true := by
  have hname : ∀ word, String.ofList name = word → name = word.toList := by
    rintro _ rfl
    exact (String.toList_ofList).symm
  unfold posixSet? at h
  split at h
  case h_15 => cases h
  all_goals
    next heq =>
      rw [hname _ heq]
      decide

theorem ne_of_mem_of_posixSet? {name : List Char} {c d : Char}
    (h : posixSet? (String.ofList name) = some s) (hc : c ∈ name)
    (hd : d.isLower = false) : c ≠ d := by
  rintro rfl
  have hlower := List.all_eq_true.1 (all_isLower_of_posixSet? h) c hc
  rw [hd] at hlower
  cases hlower

/-- The text of a named class behind the first bracket, up to its closing bracket. -/
def posixText (negated : Bool) (name : List Char) : List Char :=
  ':' :: (if negated then '^' :: name else name) ++ [':']

theorem exists_name_of_posixClass? (h : posixClass? cs = some (s, negated, rest)) :
    ∃ name, cs = posixText negated name ++ ']' :: rest ∧
      posixSet? (String.ofList name) = some s := by
  revert h
  fun_cases posixClass? cs with
  | case1 r mark r' hmark name after hdrop =>
      intro h
      have hr : r = if mark then '^' :: r' else r' := by
        split at hmark <;> cases hmark <;> rfl
      have hsplit : name ++ ':' :: ']' :: after = r' := by
        rw [← hdrop]
        exact List.takeWhile_append_dropWhile
      obtain ⟨set, hset, heq⟩ := Option.map_eq_some_iff.1 h
      cases heq
      refine ⟨name, ?_, hset⟩
      rw [hr, posixText, ← hsplit]
      cases negated <;> simp
  | case2 => exact nofun
  | case3 => exact nofun

theorem posixClass?_posixText {name : List Char}
    (hset : posixSet? (String.ofList name) = some s) :
    posixClass? (posixText negated name ++ ']' :: rest) = some (s, negated, rest) := by
  have hcolon : ∀ c ∈ name, decide (c ≠ ':') = true := by
    intro c hc
    exact decide_eq_true (ne_of_mem_of_posixSet? hset hc (by decide))
  have htake : (name ++ ':' :: ']' :: rest).takeWhile (· ≠ ':') = name := by
    rw [List.takeWhile_append_of_pos hcolon]
    simp
  have hdrop : (name ++ ':' :: ']' :: rest).dropWhile (· ≠ ':') = ':' :: ']' :: rest := by
    rw [List.dropWhile_append_of_pos hcolon]
    simp
  unfold posixClass? posixText
  cases negated with
  | false =>
      cases name with
      | nil => cases hset
      | cons c name =>
          have hc : c ≠ '^' :=
            ne_of_mem_of_posixSet? hset List.mem_cons_self (by decide)
          rw [List.cons_append] at htake hdrop
          simp [hc] at htake hdrop ⊢
          rw [hdrop]
          simp only [htake, hset, Option.map_some]
  | true =>
      simp at htake hdrop ⊢
      rw [hdrop]
      simp only [htake, hset, Option.map_some]

theorem posixClass?_split (h : posixClass? cs = some (s, negated, rest)) :
    ∃ e, cs = e ++ ']' :: rest ∧ ∀ x, posixClass? (e ++ ']' :: x) = some (s, negated, x) := by
  obtain ⟨name, hcs, hset⟩ := exists_name_of_posixClass? h
  exact ⟨posixText negated name, hcs, fun x => posixClass?_posixText hset⟩

/-- No name has a bracket, so that none is completed by what follows one. -/
theorem posixClass?_eq_none (h : posixClass? (d ++ ']' :: rest) = none) (x : List Char) :
    posixClass? (d ++ ']' :: x) = none := by
  rw [Option.eq_none_iff_forall_ne_some]
  rintro ⟨s, negated, r⟩ hsome
  obtain ⟨name, htext, hset⟩ := exists_name_of_posixClass? hsome
  have hbracket : ']' ∉ posixText negated name := by
    have hname : ']' ∉ name := by
      intro hmem
      exact ne_of_mem_of_posixSet? hset hmem (by decide) rfl
    cases negated <;> simp [posixText, hname]
  have hnone : ∀ more, d ++ ']' :: rest ≠ posixText negated name ++ ']' :: more := by
    intro more heq
    rw [heq, posixClass?_posixText hset] at h
    cases h
  rcases List.append_eq_append_iff.1 htext with ⟨more, hmore, hrest⟩ | ⟨more, hmore, hrest⟩
  · cases more with
    | nil => exact hnone rest (by rw [hmore, List.append_nil])
    | cons b more =>
        obtain rfl : ']' = b := (List.cons.inj hrest).1
        exact hbracket (by simp [hmore])
  · cases more with
    | nil => exact hnone rest (by rw [hmore, List.append_nil])
    | cons b more =>
        obtain rfl : ']' = b := (List.cons.inj hrest).1
        exact hnone (more ++ ']' :: rest) (by simp [hmore])

/-! ## Items -/

/-- Outside of verbose mode nothing is skipped, so that texts which are the same up to a
bracket begin alike. -/
theorem alike_bracket (d rest x : List Char) :
    Alike .initial (d ++ ']' :: rest) (d ++ ']' :: x) := by
  cases d with
  | nil => exact .starts fun hbrace => absurd hbrace (by decide)
  | cons b d => exact .starts fun _ => by cases d <;> rfl

theorem atom?_split {a : Atom} (h : atom? mode cs = some (a, d ++ ']' :: rest))
    (ha : ∀ l, a ≠ .look l) :
    ∃ b e, cs = b :: (e ++ (d ++ ']' :: rest)) ∧
      ∀ x, atom? mode (b :: (e ++ (d ++ ']' :: x))) = some (a, d ++ ']' :: x) := by
  revert h
  fun_cases atom? mode cs with
  | case1 cs =>
      intro h
      cases cs with
      | nil => cases h
      | cons b cs =>
          have hcontinues : Continues .initial (fun cs => Atom.escaped? mode (b :: cs)) cs a
              (d ++ ']' :: rest) :=
            Atom.escaped?_continues h fun rule heq => absurd heq (ha _)
          cases hcontinues with
          | leaves e hcs hread =>
              exact ⟨'\\', b :: e, by rw [hcs, List.cons_append],
                fun x => hread _ (alike_bracket d rest x)⟩
          | skips hnil _ => simp at hnil
  | case2 b cs hslash =>
      intro h
      cases h
      exact ⟨b, [], rfl, fun x => by simp [atom?]⟩
  | case3 => exact nofun

theorem ne_look_of_rangeEnd? {a : Atom} {n : Nat} (h : rangeEnd? mode a = some n) (l : Look) :
    a ≠ .look l := by
  rintro rfl
  cases h

theorem ne_look_of_atomSet? {a : Atom} (h : atomSet? mode a = some s) (l : Look) :
    a ≠ .look l := by
  rintro rfl
  cases h

/-- What is visible up to a bracket is found there, and the bracket itself is visible. -/
theorem visible_bracket (inComment : Bool) (d rest x : List Char) :
    peekPast.visible inComment (d ++ ']' :: rest) =
      peekPast.visible inComment (d ++ ']' :: x) := by
  induction d generalizing inComment with
  | nil => simp [peekPast.visible, Text.isBlank]
  | cons b d ih => simp only [List.cons_append, peekPast.visible, ih]

theorem peekPast_bracket (mode : Mode) (d rest x : List Char) :
    peekPast mode (d ++ ']' :: rest) = peekPast mode (d ++ ']' :: x) := by
  have hhead : (d ++ ']' :: rest).head? = (d ++ ']' :: x).head? := by
    cases d <;> rfl
  simp only [peekPast, visible_bracket false d rest x, hhead]

theorem classMember?_split (h : classMember? mode cs = some (s, d ++ ']' :: rest)) :
    ∃ b e, cs = b :: (e ++ (d ++ ']' :: rest)) ∧
      ∀ x, classMember? mode (b :: (e ++ (d ++ ']' :: x))) = some (s, d ++ ']' :: x) := by
  revert h
  fun_cases classMember? mode cs with
  | case3 first r hatom c after hskip alone hc =>
      intro h
      obtain ⟨set, hset, heq⟩ := Option.map_eq_some_iff.1 h
      obtain ⟨rfl, hafter⟩ := Prod.mk.inj heq
      rw [hafter] at hskip
      obtain ⟨before, rfl, hbefore⟩ := Mode.skip_split_append hskip
      rw [← List.append_assoc] at hatom
      obtain ⟨b, e, rfl, hread⟩ := atom?_split hatom (ne_look_of_atomSet? hset)
      refine ⟨b, e ++ before, by simp, fun x => ?_⟩
      obtain ⟨t, ht⟩ := exists_cons_of_append_cons hafter.symm x
      simp only [List.append_assoc] at hread ⊢
      simp only [classMember?, hread, hbefore]
      rw [ht]
      simp only [if_pos hc, hset]
      rfl
  | case4 first r hatom c after hskip alone hc following hfollowing =>
      intro h
      obtain ⟨set, hset, heq⟩ := Option.map_eq_some_iff.1 h
      obtain ⟨rfl, hafter⟩ := Prod.mk.inj heq
      obtain rfl : c = '-' := Decidable.of_not_not hc
      obtain ⟨d, rfl, rfl⟩ : ∃ e, d = '-' :: e ∧ after = e ++ ']' :: rest := by
        cases d with
        | nil => exact absurd (List.cons.inj hafter).1 (by decide)
        | cons b e =>
            obtain ⟨rfl, htail⟩ := List.cons.inj hafter
            exact ⟨e, rfl, htail⟩
      rw [hafter] at hskip
      obtain ⟨before, rfl, hbefore⟩ := Mode.skip_split_append hskip
      rw [← List.append_assoc] at hatom
      obtain ⟨b, e, rfl, hread⟩ := atom?_split hatom (ne_look_of_atomSet? hset)
      refine ⟨b, e ++ before, by simp, fun x => ?_⟩
      have hpeek : peekPast mode (d ++ ']' :: x) = following := peekPast_bracket mode d x rest
      simp only [List.append_assoc, List.cons_append] at hread hbefore ⊢
      simp only [classMember?, hread, hbefore, if_neg hc, hpeek, if_pos hfollowing, hset]
      rfl
  | case7 first r hatom c after hskip hc following hfollowing second r' lo hi hhi hlo hle
      hnil hsecond =>
      intro h
      cases h
      obtain rfl : c = '-' := Decidable.of_not_not hc
      obtain ⟨b', e', hafter, hread'⟩ := atom?_split hsecond (ne_look_of_rangeEnd? hhi)
      have hafter' : mode.skip after = (b' :: (e' ++ d)) ++ ']' :: rest := by simpa using hafter
      obtain ⟨between, rfl, hbetween⟩ := Mode.skip_split_append hafter'
      have hskip' : mode.skip r = ('-' :: (between ++ b' :: (e' ++ d))) ++ ']' :: rest := by
        simpa using hskip
      obtain ⟨before, rfl, hbefore⟩ := Mode.skip_split_append hskip'
      rw [← List.append_assoc] at hatom
      obtain ⟨b, e, rfl, hread⟩ := atom?_split hatom (ne_look_of_rangeEnd? hlo)
      refine ⟨b, e ++ (before ++ '-' :: (between ++ b' :: e')), by simp, fun x => ?_⟩
      have hpeek : peekPast mode (between ++ (b' :: (e' ++ d) ++ ']' :: x)) = following := by
        have hmore := peekPast_bracket mode (between ++ b' :: (e' ++ d)) x rest
        rw [List.append_assoc, List.append_assoc] at hmore
        exact hmore
      simp only [List.append_assoc, List.cons_append] at hread hbefore hbetween hpeek ⊢
      simp only [classMember?, hread, hbefore, if_neg hc, hpeek, if_neg hfollowing, hbetween,
        hread', hlo, hhi, if_pos hle]
  | _ => exact nofun

/-! ## Opening a bracket -/

theorem leadingHyphens_split (h : leadingHyphens mode fuel items cs = (items', d ++ c :: rest))
    (hlength : cs.length ≤ fuel) :
    ∃ e, cs = e ++ (d ++ c :: rest) ∧ ∀ x fuel', e.length ≤ fuel' →
      leadingHyphens mode fuel' items (e ++ (d ++ c :: x)) = (items', d ++ c :: x) := by
  induction fuel generalizing cs items with
  | zero =>
      obtain rfl : cs = [] := List.length_eq_zero_iff.1 (Nat.le_zero.1 hlength)
      simp [leadingHyphens] at h
  | succ fuel ih =>
      unfold leadingHyphens at h
      split at h
      next r =>
        have hskipped : (mode.skip r).length ≤ fuel :=
          Nat.le_trans (mode.length_skip_le r) (Nat.le_of_succ_le_succ hlength)
        obtain ⟨e, he, hread⟩ := ih h hskipped
        rw [← List.append_assoc] at he
        obtain ⟨before, rfl, hbefore⟩ := Mode.skip_split_append he
        refine ⟨'-' :: (before ++ e), by simp, fun x fuel' hfuel => ?_⟩
        simp only [List.length_cons, List.length_append] at hfuel
        obtain ⟨fuel', rfl⟩ : ∃ n, fuel' = n + 1 := Nat.exists_eq_add_one.2 (by omega)
        simp only [List.append_assoc] at hbefore
        rw [List.cons_append, List.append_assoc, leadingHyphens, hbefore]
        exact hread x fuel' (by omega)
      next hhyphen =>
        obtain ⟨rfl, rfl⟩ := Prod.mk.inj h
        refine ⟨[], rfl, fun x fuel' _ => ?_⟩
        cases fuel' with
        | zero => rfl
        | succ fuel' =>
            rw [List.nil_append]
            unfold leadingHyphens
            split
            next heq =>
              obtain ⟨s, hs⟩ := exists_cons_of_append_cons heq rest
              exact absurd hs (hhyphen s)
            · rfl

theorem circumflex_split (h : circumflex mode cs = (negated, d ++ c :: rest)) :
    ∃ e, cs = e ++ (d ++ c :: rest) ∧
      ∀ x, circumflex mode (e ++ (d ++ c :: x)) = (negated, d ++ c :: x) := by
  unfold circumflex at h
  split at h
  next r hskip =>
    obtain ⟨rfl, hr⟩ := Prod.mk.inj h
    obtain ⟨between, rfl, hbetween⟩ := Mode.skip_split_append hr
    have hskip' : mode.skip cs = ('^' :: (between ++ d)) ++ c :: rest := by simpa using hskip
    obtain ⟨before, rfl, hbefore⟩ := Mode.skip_split_append hskip'
    refine ⟨before ++ '^' :: between, by simp, fun x => ?_⟩
    simp only [List.append_assoc, List.cons_append] at hbefore ⊢
    simp only [circumflex, hbefore, hbetween]
  next hcircumflex =>
    obtain ⟨rfl, hr⟩ := Prod.mk.inj h
    obtain ⟨before, rfl, hbefore⟩ := Mode.skip_split_append hr
    refine ⟨before, rfl, fun x => ?_⟩
    unfold circumflex
    rw [hbefore]
    split
    next heq =>
      obtain ⟨s, hs⟩ := exists_cons_of_append_cons heq rest
      exact absurd (hr.trans hs) (hcircumflex s)
    · rfl

/-- The circumflex and the hyphens that stand behind an open bracket. -/
theorem opening_split {mark : Bool} {r : List Char} {inner : Items}
    (hmark : circumflex mode cs = (mark, r))
    (hhyphens : leadingHyphens mode r.length .none r = (inner, d ++ c :: rest)) :
    ∃ e, cs = e ++ (d ++ c :: rest) ∧ ∀ x, ∃ r',
      circumflex mode (e ++ (d ++ c :: x)) = (mark, r') ∧
        leadingHyphens mode r'.length .none r' = (inner, d ++ c :: x) := by
  obtain ⟨e, rfl, hread⟩ := leadingHyphens_split hhyphens (Nat.le_refl _)
  rw [← List.append_assoc] at hmark
  obtain ⟨before, rfl, hbefore⟩ := circumflex_split hmark
  refine ⟨before ++ e, by simp, fun x => ⟨e ++ (d ++ c :: x), ?_, hread x _ (by simp)⟩⟩
  simpa using hbefore x

/-- Something stands behind an open bracket, and it is found there. -/
theorem openBracket?_split (h : openBracket? mode cs = some (negated, items, d ++ c :: rest)) :
    ∃ e, cs = e ++ (d ++ c :: rest) ∧
      ∀ x, openBracket? mode (e ++ (d ++ c :: x)) = some (negated, items, d ++ c :: x) := by
  revert h
  fun_cases openBracket? mode cs with
  | case3 mark r hmark inner r' hcount hhyphens hskip =>
      intro h
      simp only [Option.some.injEq, Prod.mk.injEq] at h
      obtain ⟨rfl, rfl, hrest⟩ := h
      obtain ⟨between, rfl, hbetween⟩ := Mode.skip_split_append hrest
      have hhyphens' : leadingHyphens mode r.length .none r =
          (inner, (']' :: (between ++ d)) ++ c :: rest) := by
        simpa using hhyphens
      obtain ⟨before, rfl, hbefore⟩ := opening_split hmark hhyphens'
      refine ⟨before ++ ']' :: between, by simp, fun x => ?_⟩
      obtain ⟨s, hs, hmore⟩ := hbefore x
      simp only [List.append_assoc, List.cons_append] at hs hmore ⊢
      simp only [openBracket?, hs, hmore, if_pos hcount, hbetween]
      split
      next heq => simp at heq
      · rfl
  | case4 mark r hmark inner r' hcount hhyphens =>
      intro h
      simp only [Option.some.injEq, Prod.mk.injEq] at h
      obtain ⟨rfl, rfl, hrest⟩ := h
      rw [hrest] at hhyphens
      obtain ⟨before, rfl, hbefore⟩ := opening_split hmark hhyphens
      refine ⟨before, rfl, fun x => ?_⟩
      obtain ⟨s, hs, hmore⟩ := hbefore x
      obtain ⟨t, ht⟩ := exists_cons_of_append_cons hrest.symm x
      rw [ht] at hs hmore ⊢
      simp only [openBracket?, hs, hmore, if_neg hcount]
  | case5 mark r hmark inner r' hhyphens hnil hbracket =>
      intro h
      simp only [Option.some.injEq, Prod.mk.injEq] at h
      obtain ⟨rfl, rfl, rfl⟩ := h
      obtain ⟨before, rfl, hbefore⟩ := opening_split hmark hhyphens
      refine ⟨before, rfl, fun x => ?_⟩
      obtain ⟨s, hs, hmore⟩ := hbefore x
      simp only [openBracket?, hs, hmore]
      split
      next heq => simp at heq
      next heq =>
        obtain ⟨t, ht⟩ := exists_cons_of_append_cons heq rest
        exact absurd ht (hbracket t)
      · rfl
  | _ => exact nofun

/-! ## Steps inside brackets -/

/-- The same step with another text left. -/
def BracketStep.leaving (x : List Char) : BracketStep → BracketStep
  | more items frames _ => more items frames x
  | complete s _ => complete s x

theorem closeBracket?_leaving {step : BracketStep}
    (h : closeBracket? mode items frames rest = some step) :
    step = step.leaving rest ∧
      ∀ x, closeBracket? mode items frames x = some (step.leaving x) := by
  unfold closeBracket? at h ⊢
  dsimp only at h ⊢
  split at h
  · split at h
    · cases h
    · split_ifs at h ⊢
      · cases h
        exact ⟨rfl, fun x => rfl⟩
      · cases h
        exact ⟨rfl, fun x => rfl⟩
  · cases h

/-- A step that leads to further reading takes the same part of the text whatever
follows a closing bracket behind it. -/
theorem bracketStep?_more {r : List Char}
    (h : bracketStep? mode items frames c r = some (.more items' frames' (d ++ ']' :: rest))) :
    ∃ e, r = e ++ (d ++ ']' :: rest) ∧ ∀ x,
      bracketStep? mode items frames c (e ++ (d ++ ']' :: x)) =
        some (.more items' frames' (d ++ ']' :: x)) := by
  revert h
  fun_cases bracketStep? mode items frames c r with
  | case1 r set negated after hposix =>
      intro h
      simp only [hposix] at h
      obtain ⟨chars, hchars, heq⟩ := Option.map_eq_some_iff.1 h
      cases heq
      obtain ⟨e, rfl, hread⟩ := posixClass?_split hposix
      refine ⟨e ++ [']'], by simp, fun x => ?_⟩
      rw [List.append_assoc, List.singleton_append]
      simp only [bracketStep?, hread, hchars]
      rfl
  | case2 r hposix =>
      intro h
      simp only [hposix] at h
      obtain ⟨⟨negated, inner, after⟩, hopen, heq⟩ := Option.map_eq_some_iff.1 h
      cases heq
      obtain ⟨e, rfl, hread⟩ := openBracket?_split hopen
      refine ⟨e, rfl, fun x => ?_⟩
      have hnone : posixClass? (e ++ (d ++ ']' :: x)) = none := by
        rw [← List.append_assoc] at hposix ⊢
        exact posixClass?_eq_none hposix x
      simp only [bracketStep?, hnone, hread]
      rfl
  | case3 =>
      intro h
      obtain ⟨heq, hread⟩ := closeBracket?_leaving h
      cases heq
      exact ⟨[], rfl, fun x => hread _⟩
  | case4 after =>
      intro h
      cases h
      exact ⟨['&'], rfl, fun x => rfl⟩
  | case5 after =>
      intro h
      cases h
      exact ⟨['-'], rfl, fun x => rfl⟩
  | case6 after =>
      intro h
      cases h
      exact ⟨['~'], rfl, fun x => rfl⟩
  | case7 r c hopen hclose hinter hdiff hsymm =>
      intro h
      obtain ⟨⟨set, after⟩, hmember, heq⟩ := Option.map_eq_some_iff.1 h
      cases heq
      obtain ⟨b, e, hcs, hread⟩ := classMember?_split hmember
      obtain ⟨rfl, rfl⟩ := List.cons.inj hcs
      refine ⟨e, rfl, fun x => ?_⟩
      have htail : ∀ {b t}, e ++ (d ++ ']' :: x) = b :: t →
          ∃ s, e ++ (d ++ ']' :: rest) = b :: s := by
        intro b t heq
        rw [← List.append_assoc] at heq ⊢
        exact exists_cons_of_append_cons heq rest
      unfold bracketStep?
      split
      · exact absurd rfl hopen
      · exact absurd rfl hclose
      next heq =>
        obtain ⟨s, hs⟩ := htail heq
        exact absurd hs (hinter s rfl)
      next heq =>
        obtain ⟨s, hs⟩ := htail heq
        exact absurd hs (hdiff s rfl)
      next heq =>
        obtain ⟨s, hs⟩ := htail heq
        exact absurd hs (hsymm s rfl)
      next =>
        rw [hread]
        rfl

/-- A set is complete only at a closing bracket, and all that follows is left. -/
theorem bracketStep?_complete {set : NestedSet} {r : List Char}
    (h : bracketStep? mode items frames c r = some (.complete set rest)) :
    c = ']' ∧ r = rest ∧
      ∀ x, bracketStep? mode items frames ']' x = some (.complete set x) := by
  revert h
  fun_cases bracketStep? mode items frames c r with
  | case1 r _ _ _ hposix =>
      intro h
      simp only [hposix] at h
      obtain ⟨chars, hchars, heq⟩ := Option.map_eq_some_iff.1 h
      cases heq
  | case2 r hposix =>
      intro h
      simp only [hposix] at h
      obtain ⟨⟨negated, inner, after⟩, hopen, heq⟩ := Option.map_eq_some_iff.1 h
      cases heq
  | case3 =>
      intro h
      obtain ⟨heq, hread⟩ := closeBracket?_leaving h
      cases heq
      exact ⟨rfl, rfl, hread⟩
  | case7 r c =>
      intro h
      obtain ⟨⟨set, after⟩, hmember, heq⟩ := Option.map_eq_some_iff.1 h
      cases heq
  | _ => exact nofun

/-! ## Whole sets -/

theorem readBracket?_of_complete {r : List Char} {set : NestedSet}
    (hskip : mode.skip cs = c :: r)
    (hstep : bracketStep? mode items frames c r = some (.complete set rest)) :
    readBracket? mode items frames cs = some (set, rest) := by
  rw [readBracket?]
  split
  next heq => simp [hskip] at heq
  next heq =>
    rw [hskip] at heq
    cases heq
    rw [hstep]

theorem readBracket?_of_more {r : List Char} (hskip : mode.skip cs = c :: r)
    (hstep : bracketStep? mode items frames c r = some (.more items' frames' rest))
    (hlength : rest.length ≤ r.length) :
    readBracket? mode items frames cs = readBracket? mode items' frames' rest := by
  rw [readBracket?]
  split
  next heq => simp [hskip] at heq
  next heq =>
    rw [hskip] at heq
    cases heq
    rw [hstep]
    exact dif_pos hlength

theorem readBracket?_split {set : NestedSet}
    (h : readBracket? mode items frames cs = some (set, rest)) :
    ∃ e, cs = e ++ ']' :: rest ∧
      ∀ x, readBracket? mode items frames (e ++ ']' :: x) = some (set, x) := by
  fun_induction readBracket? mode items frames cs with
  | case3 items frames cs c r hskip set after hstep =>
      cases h
      obtain ⟨rfl, rfl, hread⟩ := bracketStep?_complete hstep
      obtain ⟨before, rfl, hbefore⟩ := Mode.skip_split hskip
      exact ⟨before, rfl, fun x => readBracket?_of_complete (hbefore x) (hread x)⟩
  | case4 items frames cs c r hskip items' frames' after hstep hlength ih =>
      obtain ⟨d, rfl, hmore⟩ := ih h
      obtain ⟨e, rfl, hread⟩ := bracketStep?_more (d := d) hstep
      obtain ⟨before, rfl, hbefore⟩ := Mode.skip_split hskip
      refine ⟨before ++ c :: (e ++ d), by simp, fun x => ?_⟩
      simp only [List.append_assoc, List.cons_append]
      rw [readBracket?_of_more (hbefore _) (hread x) (by simp), hmore]
  | _ => cases h

/-- A set between brackets is read whatever follows its closing bracket. -/
theorem bracket?_split {set : NestedSet} (h : bracket? mode cs = some (set, rest)) :
    ∃ e, cs = e ++ rest ∧ ∀ x, bracket? mode (e ++ x) = some (set, x) := by
  unfold bracket? at h
  split at h
  · cases h
  next negated items r hopen =>
    obtain ⟨d, rfl, hread⟩ := readBracket?_split h
    obtain ⟨e, rfl, hstart⟩ := openBracket?_split hopen
    refine ⟨e ++ (d ++ [']']), by simp, fun x => ?_⟩
    simp only [List.append_assoc, List.singleton_append]
    rw [bracket?, hstart]
    exact hread x

end CpuPinning.Pattern
