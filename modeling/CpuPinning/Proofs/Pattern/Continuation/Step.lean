import CpuPinning.Pattern.Syntax
import CpuPinning.Proofs.Pattern.Continuation.Bracket

/-!
# Steps with other text behind

A step of the reader of patterns takes the same text and leads to the same
reading before every text that begins like the one it has left.
-/

namespace CpuPinning.Pattern

variable {mode later : Mode} {cs d rest : List Char} {c : Char} {st next : Reading}

theorem dropWhile_split {p : Char → Bool} (h : cs.dropWhile p = d ++ c :: rest) :
    ∃ e, cs = e ++ (d ++ c :: rest) ∧ ∀ x, (e ++ (d ++ c :: x)).dropWhile p = d ++ c :: x := by
  induction cs with
  | nil => simp at h
  | cons b cs ih =>
      by_cases hb : p b = true
      · rw [List.dropWhile_cons_of_pos hb] at h
        obtain ⟨e, rfl, hdrop⟩ := ih h
        refine ⟨b :: e, rfl, fun x => ?_⟩
        rw [List.cons_append, List.dropWhile_cons_of_pos hb, hdrop]
      · rw [List.dropWhile_cons_of_neg hb] at h
        refine ⟨[], h, fun x => ?_⟩
        obtain ⟨s, hs⟩ := exists_cons_of_append_cons h.symm x
        rw [List.nil_append, hs, List.dropWhile_cons_of_neg hb]

/-! ## Groups -/

theorem groupName?_split {name : List Char} (h : groupName? cs = some (name, rest)) :
    ∃ e, cs = e ++ rest ∧ ∀ x, groupName? (e ++ x) = some (name, x) := by
  unfold groupName? at h
  dsimp only at h
  split at h
  next first others after hname hdrop =>
    split_ifs at h with hchars
    obtain ⟨rfl, rfl⟩ := Prod.mk.inj (Option.some.inj h)
    have hangle : ∀ b ∈ first :: others, decide (b ≠ '>') = true := by
      rw [← hname]
      exact List.all_eq_true.1 List.all_takeWhile
    refine ⟨(first :: others) ++ ['>'], ?_, fun x => ?_⟩
    · rw [List.append_assoc, List.singleton_append, ← hname, ← hdrop,
        List.takeWhile_append_dropWhile]
    · have htake : ((first :: others) ++ '>' :: x).takeWhile (· ≠ '>') = first :: others := by
        rw [List.takeWhile_append_of_pos hangle]
        simp
      have hdrop : ((first :: others) ++ '>' :: x).dropWhile (· ≠ '>') = '>' :: x := by
        rw [List.dropWhile_append_of_pos hangle]
        simp
      rw [List.append_assoc, List.singleton_append, hname]
      simp only [groupName?, htake, hdrop, if_pos hchars]
  · cases h

theorem namedGroup?_split (h : namedGroup? st cs = some (next, rest)) :
    ∃ e, cs = e ++ rest ∧ ∀ x, namedGroup? st (e ++ x) = some (next, x) := by
  unfold namedGroup? at h
  split at h
  · cases h
  next name r hname =>
    split_ifs at h with hnew
    cases h
    obtain ⟨e, hcs, hread⟩ := groupName?_split hname
    refine ⟨e, hcs, fun x => ?_⟩
    rw [namedGroup?, hread]
    exact if_neg hnew

theorem group?_of_name {r : List Char}
    (hskip : st.mode.skip cs = '?' :: '<' :: c :: r) (hequal : c ≠ '=') (hnot : c ≠ '!') :
    group? st cs = namedGroup? st (c :: r) := by
  simp [group?, hskip, hequal, hnot]

/-- A question mark and letters of modes set modes or open a group. -/
theorem group?_of_modes {r : List Char} {mode : Mode} {stop : Char}
    (hskip : st.mode.skip cs = '?' :: r)
    (hread : st.mode.read? r = some (mode, stop, rest)) :
    group? st cs =
      some (if stop = ')' then { st.push ⟨.empty, 0, true⟩ with mode := mode }
        else st.openGroup mode false, rest) := by
  have hr : r ≠ [] := by
    rintro rfl
    cases hread
  obtain ⟨c, r, rfl⟩ := List.exists_cons_of_ne_nil hr
  have hc : c ≠ '=' ∧ c ≠ '!' ∧ c ≠ '<' ∧ c ≠ 'P' := by
    refine ⟨?_, ?_, ?_, ?_⟩ <;> rintro rfl <;>
      simp [Mode.read?, Mode.readLetters, Mode.set?] at hread
  obtain ⟨hequal, hnot, hangle, hletter⟩ := hc
  by_cases hstop : stop = ')' <;>
    simp [group?, hskip, hread, hequal, hnot, hangle, hletter, hstop]

theorem group?_of_plain (h : ∀ r, st.mode.skip cs ≠ '?' :: r) :
    group? st cs = some (st.openGroup st.mode true, st.mode.skip cs) := by
  simp only [group?]
  split <;> simp_all

theorem group?_continues (h : group? st cs = some (next, rest)) :
    Continues later (group? st) cs next rest := by
  revert h
  fun_cases group? st cs with
  | case5 r hskip =>
      intro h
      obtain ⟨before, rfl, hbefore⟩ := Mode.skip_split hskip
      obtain ⟨e, rfl, hread⟩ := namedGroup?_split h
      refine .leaves (before ++ '?' :: 'P' :: '<' :: e) (by simp) fun p _ => ?_
      rw [List.append_assoc, List.cons_append, group?, hbefore]
      exact hread p
  | case6 r hequal hnot hskip =>
      intro h
      obtain ⟨before, rfl, hbefore⟩ := Mode.skip_split hskip
      obtain ⟨e, rfl, hread⟩ := namedGroup?_split h
      obtain ⟨c, e, rfl⟩ : ∃ c s, e = c :: s := by
        cases e with
        | nil => exact absurd (hread []) nofun
        | cons c s => exact ⟨c, s, rfl⟩
      have hc : c ≠ '=' := by
        rintro rfl
        exact hequal _ rfl
      have hc' : c ≠ '!' := by
        rintro rfl
        exact hnot _ rfl
      refine .leaves (before ++ '?' :: '<' :: c :: e) (by simp) fun p _ => ?_
      rw [List.append_assoc]
      exact (group?_of_name (hbefore _) hc hc').trans (hread p)
  | case8 r _ _ _ _ _ _ hskip mode r' hread =>
      intro h
      cases h
      obtain ⟨before, rfl, hbefore⟩ := Mode.skip_split hskip
      obtain ⟨e, rfl, hletters⟩ := Mode.read?_split hread
      refine .leaves (before ++ '?' :: e) (by simp) fun p _ => ?_
      rw [List.append_assoc, List.cons_append, group?_of_modes (hbefore _) (hletters p),
        if_pos rfl]
  | case9 r _ _ _ _ _ _ hskip mode stop r' hread hstop =>
      intro h
      cases h
      obtain ⟨before, rfl, hbefore⟩ := Mode.skip_split hskip
      obtain ⟨e, rfl, hletters⟩ := Mode.read?_split hread
      refine .leaves (before ++ '?' :: e) (by simp) fun p _ => ?_
      rw [List.append_assoc, List.cons_append, group?_of_modes (hbefore _) (hletters p),
        if_neg hstop]
  | case10 _ _ _ _ _ _ hplain =>
      intro h
      cases h
      rcases st.mode.skip_cases later cs with ⟨e, hcs, hskip⟩ | ⟨hend, hskip⟩
      · refine .leaves e hcs fun p hp => ?_
        have hquestion : ∀ r, p ≠ '?' :: r := hp.ne_cons hplain (by decide)
        have hskip' : st.mode.skip (e ++ p) = p := hskip (List.nil_append _).symm hp
        rw [group?_of_plain (by rwa [hskip']), hskip']
      · refine .skips hend fun t ht => ?_
        rw [group?_of_plain (by simp [hskip t ht]), hskip t ht]
  | _ => exact nofun

/-! ## Repetition -/

theorem count?_split {n : Nat} (h : count? mode cs = some (n, c :: rest)) :
    ∃ e, cs = e ++ c :: rest ∧ ∀ x, count? mode (e ++ c :: x) = some (n, c :: x) := by
  unfold count? at h
  generalize hdigits : mode.take Text.isDigit cs.length (cs.dropWhile Text.isBlank) = read
    at h
  obtain ⟨digits, r⟩ := read
  obtain ⟨m, hm, heq⟩ := Option.map_eq_some_iff.1 h
  obtain ⟨rfl, hrest⟩ := Prod.mk.inj heq
  cases r with
  | nil => cases hrest
  | cons b after =>
      have hlength : (cs.dropWhile Text.isBlank).length ≤ cs.length :=
        (List.dropWhile_suffix _).length_le
      obtain ⟨e, hsplit, hread⟩ := Mode.take_split hdigits hlength
      obtain ⟨before, rfl, hbefore⟩ := dropWhile_split hsplit
      have hcount : ∀ y, count? mode (before ++ (e ++ b :: y)) =
          some (m, if Text.isBlank b then mode.skip (y.dropWhile Text.isBlank) else b :: y) := by
        intro y
        have hfuel : e.length ≤ (before ++ (e ++ b :: y)).length := by
          simp only [List.length_append]
          omega
        rw [count?, hbefore, hread y _ hfuel]
        dsimp only
        rw [hm]
        rfl
      dsimp only at hrest
      split_ifs at hrest hcount with hb
      · obtain ⟨w, hw, hskip⟩ := Mode.skip_split hrest
        obtain ⟨v, rfl, hdrop⟩ := dropWhile_split hw
        refine ⟨before ++ (e ++ b :: (v ++ w)), by simp, fun x => ?_⟩
        simp only [List.append_assoc, List.cons_append]
        rw [hcount, hdrop, hskip]
      · obtain ⟨rfl, rfl⟩ := List.cons.inj hrest
        refine ⟨before ++ e, by simp, fun x => ?_⟩
        rw [List.append_assoc, hcount]

theorem count?_skip_split {n : Nat} (h : count? mode (mode.skip cs) = some (n, c :: rest)) :
    ∃ e, cs = e ++ c :: rest ∧
      ∀ x, count? mode (mode.skip (e ++ c :: x)) = some (n, c :: x) := by
  obtain ⟨e, hsplit, hread⟩ := count?_split h
  obtain ⟨before, rfl, hbefore⟩ := Mode.skip_split_append hsplit
  refine ⟨before ++ e, by simp, fun x => ?_⟩
  rw [List.append_assoc, hbefore, hread]

/-- A count begins with a digit, blanks aside, and not with the brace that ends it. -/
theorem count?_brace (r : List Char) : count? mode ('\x7d' :: r) = none := by
  have hbrace : Text.isDigit '\x7d' = false := by decide
  have hblank : Text.isBlank '\x7d' = false := by decide
  rw [count?, List.dropWhile_cons_of_neg (by simp [hblank]), List.length_cons, Mode.take,
    if_neg (by simp [hbrace])]
  rfl

/-- Bounds end with a closing brace. -/
theorem bounds?_split {least : Nat} {most : Option Nat}
    (h : bounds? mode cs = some (least, most, rest)) :
    ∃ e, cs = e ++ rest ∧ ∀ x, bounds? mode (e ++ x) = some (least, most, x) := by
  revert h
  fun_cases bounds? mode cs with
  | case2 least r hleast after hskip =>
      intro h
      cases h
      obtain ⟨between, rfl, hbetween⟩ := Mode.skip_split hskip
      obtain ⟨e, rfl, hread⟩ := count?_skip_split hleast
      refine ⟨e ++ ',' :: (between ++ ['\x7d']), by simp, fun x => ?_⟩
      simp only [List.append_assoc, List.cons_append, List.nil_append]
      simp only [bounds?, hread, hbetween]
  | case3 least r hleast most after hle hbrace hmost =>
      intro h
      cases h
      obtain ⟨e', rfl, hread'⟩ := count?_skip_split hmost
      obtain ⟨e, rfl, hread⟩ := count?_skip_split hleast
      refine ⟨e ++ ',' :: (e' ++ ['\x7d']), by simp, fun x => ?_⟩
      have hbrace' : ∀ r, mode.skip (e' ++ '\x7d' :: x) ≠ '\x7d' :: r := by
        intro r heq
        have hmore := hread' x
        rw [heq, count?_brace] at hmore
        cases hmore
      simp only [List.append_assoc, List.cons_append, List.nil_append]
      simp only [bounds?, hread, hread', if_pos hle]
  | case6 count after hcount =>
      intro h
      cases h
      obtain ⟨e, rfl, hread⟩ := count?_skip_split hcount
      refine ⟨e ++ ['\x7d'], by simp, fun x => ?_⟩
      rw [List.append_assoc, List.singleton_append]
      simp only [bounds?, hread]
  | _ => exact nofun

theorem dropLazy_continues {found : Option Reading}
    (h : (found.map fun st => (st, dropLazy cs)) = some (next, rest)) :
    Continues later (fun cs => found.map fun st => (st, dropLazy cs)) cs next rest := by
  obtain ⟨st, rfl, heq⟩ := Option.map_eq_some_iff.1 h
  obtain ⟨rfl, rfl⟩ := Prod.mk.inj heq
  fun_cases dropLazy cs with
  | case1 rest => exact .leaves ['?'] rfl fun p _ => rfl
  | case2 _ hquestion =>
      refine .leaves [] rfl fun p hp => ?_
      have hquestion' : ∀ r, p ≠ '?' :: r := hp.ne_cons hquestion (by decide)
      simp [dropLazy]

/-! ## All steps -/

theorem step?_continues (h : step? st c cs = some (next, rest)) :
    Continues next.mode (step? st c) cs next rest := by
  revert h
  fun_cases step? st c cs with
  | case1 => exact group?_continues
  | case2 =>
      intro h
      obtain ⟨closed, hclosed, heq⟩ := Option.map_eq_some_iff.1 h
      cases heq
      refine .leaves [] rfl fun p _ => ?_
      rw [List.nil_append, step?, hclosed]
      rfl
  | case3 =>
      intro h
      cases h
      exact .leaves [] rfl fun p _ => rfl
  | case4 =>
      intro h
      obtain ⟨⟨set, r⟩, hset, heq⟩ := Option.map_eq_some_iff.1 h
      cases heq
      obtain ⟨e, hcs, hread⟩ := bracket?_split hset
      refine .leaves e hcs fun p _ => ?_
      rw [step?, hread]
      rfl
  | case5 => exact dropLazy_continues
  | case6 => exact dropLazy_continues
  | case7 => exact dropLazy_continues
  | case9 least most r hbounds =>
      intro h
      obtain ⟨e, hcs, hread⟩ := bounds?_split hbounds
      refine ((dropLazy_continues h).behind_blanks h).behind e hcs fun x r hmore => ?_
      rw [step?, hread]
      exact hmore
  | case8 => exact nofun
  | case10 c hread =>
      intro h
      rw [hread] at h
      cases h
  | case11 c atom r hread =>
      intro h
      rw [hread] at h
      obtain ⟨regex, hregex, heq⟩ := Option.map_eq_some_iff.1 h
      cases heq
      refine (Atom.read?_continues hread).behind [] rfl fun x r hmore => ?_
      simp only [List.nil_append, step?, hmore, hregex]
      rfl

end CpuPinning.Pattern
