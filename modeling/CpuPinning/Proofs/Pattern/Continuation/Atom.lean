import CpuPinning.Pattern.Atom
import CpuPinning.Proofs.Pattern.Continuation.Basic

/-!
# Atoms with other text behind

Atoms end at a place of their own, or before anything that is no part of them.
A parenthesis is part of an atom only right behind a backslash.
-/

namespace CpuPinning.Pattern.Atom

variable {mode later : Mode} {cs rest digits : List Char} {a : Atom} {count fuel : Nat}

/-! ## Characters by number, and properties -/

theorem hexDigits?_continues (h : hexDigits? mode count cs = some (digits, rest)) :
    Continues later (hexDigits? mode count) cs digits rest := by
  induction count generalizing cs digits with
  | zero =>
      cases h
      exact .leaves [] rfl fun _ _ => rfl
  | succ count ih =>
      cases cs with
      | nil => cases h
      | cons c cs =>
          rw [hexDigits?] at h
          split_ifs at h with hc
          obtain ⟨⟨ds, r⟩, hmore, heq⟩ := Option.map_eq_some_iff.1 h
          cases heq
          refine ((ih hmore).behind_blanks hmore).behind [c] rfl fun x r hread => ?_
          rw [List.singleton_append, hexDigits?, if_pos hc, hread]
          rfl

theorem exists_hexDigit (h : hexDigits? mode count cs = some (digits, rest))
    (hdigits : digits ≠ []) : ∃ c r, cs = c :: r ∧ isHexDigit c = true := by
  cases count with
  | zero =>
      cases h
      exact absurd rfl hdigits
  | succ count =>
      cases cs with
      | nil => cases h
      | cons c r =>
          rw [hexDigits?] at h
          split_ifs at h with hc
          exact ⟨c, r, rfl, hc⟩

/-- What stands in braces ends with the closing brace. -/
theorem braced?_split (h : braced? mode fuel cs = some (digits, rest)) :
    ∃ e, cs = e ++ rest ∧
      ∀ x fuel', e.length ≤ fuel' → braced? mode fuel' (e ++ x) = some (digits, x) := by
  induction fuel generalizing cs digits with
  | zero => cases h
  | succ fuel ih =>
      rw [braced?] at h
      split at h
      · cases h
      next c r hskip =>
        obtain ⟨before, rfl, hbefore⟩ := Mode.skip_split hskip
        split_ifs at h with hc
        · cases h
          refine ⟨before ++ [c], by simp, fun x fuel' hfuel => ?_⟩
          simp only [List.length_append, List.length_singleton] at hfuel
          obtain ⟨fuel', rfl⟩ : ∃ n, fuel' = n + 1 := Nat.exists_eq_add_one.2 (by omega)
          rw [List.append_assoc, List.singleton_append, braced?, hbefore]
          exact if_pos hc
        · obtain ⟨⟨ds, r'⟩, hmore, heq⟩ := Option.map_eq_some_iff.1 h
          cases heq
          obtain ⟨e, rfl, hread⟩ := ih hmore
          refine ⟨before ++ c :: e, by simp, fun x fuel' hfuel => ?_⟩
          simp only [List.length_append, List.length_cons] at hfuel
          obtain ⟨fuel', rfl⟩ : ∃ n, fuel' = n + 1 := Nat.exists_eq_add_one.2 (by omega)
          rw [List.append_assoc, List.cons_append, braced?, hbefore]
          dsimp only
          rw [if_neg hc, hread x fuel' (by omega)]
          rfl

theorem hexChar?_continues (h : hexChar? mode count cs = some (a, rest)) :
    Continues later (hexChar? mode count) cs a rest := by
  unfold hexChar? at h
  split at h
  · cases h
  next r hskip =>
    obtain ⟨before, rfl, hbefore⟩ := Mode.skip_split hskip
    split at h
    · cases h
    next text r' hbraced =>
      split_ifs at h with hdigits
      obtain ⟨c, hchar, heq⟩ := Option.map_eq_some_iff.1 h
      cases heq
      obtain ⟨e, rfl, hread⟩ := braced?_split hbraced
      refine .before_blanks (before ++ '\x7b' :: e) (by simp) fun x => ?_
      have hmore := hread x ((e ++ x).length + 1) (by simp; omega)
      rw [List.append_assoc, List.cons_append, hexChar?, hbefore]
      simp only [hmore, hdigits, if_true, hchar, Option.map_some]
  next =>
    split at h
    · cases h
    next ds r' hdigits =>
      obtain ⟨c, hchar, heq⟩ := Option.map_eq_some_iff.1 h
      cases heq
      have hds : ds ≠ [] := by
        rintro rfl
        cases hchar
      refine ((hexDigits?_continues hdigits).behind_blanks hdigits).behind [] rfl ?_
      intro x r hread
      obtain ⟨d, s, hskip, hd⟩ := exists_hexDigit hread hds
      have hbrace : d ≠ '\x7b' := by
        rintro rfl
        cases hd
      rw [hskip] at hread
      simp [hexChar?, hskip, hread, hchar, hbrace]

theorem property?_continues {negated : Bool}
    (h : property? mode negated cs = some (a, rest)) :
    Continues later (property? mode negated) cs a rest := by
  unfold property? at h
  split at h
  · cases h
  next r hskip =>
    obtain ⟨before, rfl, hbefore⟩ := Mode.skip_split hskip
    split at h
    · cases h
    next query r' hbraced =>
      obtain ⟨set, hset, heq⟩ := Option.map_eq_some_iff.1 h
      cases heq
      obtain ⟨e, rfl, hread⟩ := braced?_split hbraced
      refine .leaves (before ++ '\x7b' :: e) (by simp) fun x _ => ?_
      have hmore := hread x ((e ++ x).length + 1) (by simp; omega)
      rw [List.append_assoc, List.cons_append, property?, hbefore]
      simp only [hmore, hset, Option.map_some]
  · cases h
  next c r hbrace hslash hskip =>
    obtain ⟨before, rfl, hbefore⟩ := Mode.skip_split hskip
    obtain ⟨set, hset, heq⟩ := Option.map_eq_some_iff.1 h
    cases heq
    refine .before_blanks (before ++ [c]) (by simp) fun x => ?_
    rw [List.append_assoc, List.singleton_append, property?, hbefore]
    simp [hset]

/-! ## Word boundaries -/

/-- The word boundary with a name. -/
def namedBoundary? (rule : WordRule) (name : String) : Option Look :=
  match name with
  | "start" => some (.wordStart rule)
  | "end" => some (.wordEnd rule)
  | "start-half" => some (.wordStartHalf rule)
  | "end-half" => some (.wordEndHalf rule)
  | _ => none

theorem boundary?_of_name {rule : WordRule} {c : Char} {r name : List Char}
    (hskip : mode.skip cs = c :: r) (hc : ¬(!isBoundaryChar c) = true)
    (hname : mode.take isBoundaryChar (r.length + 1) (c :: r) = (name, '\x7d' :: rest)) :
    boundary? mode rule ('\x7b' :: cs) =
      (namedBoundary? rule (String.ofList name)).map fun l => (look l, rest) := by
  rw [boundary?, hskip]
  dsimp only
  rw [if_neg hc, hname]
  split
  next heq =>
    cases heq
    generalize String.ofList name = word
    by_cases hstart : word = "start"
    · rw [hstart]
      rfl
    by_cases hend : word = "end"
    · rw [hend]
      rfl
    by_cases hstartHalf : word = "start-half"
    · rw [hstartHalf]
      rfl
    by_cases hendHalf : word = "end-half"
    · rw [hendHalf]
      rfl
    simp [namedBoundary?]
  next hbrace => exact absurd rfl (hbrace rest)

/-- A word boundary without a name leaves a brace behind it, if the same is found there. -/
theorem boundary?_continues {rule : WordRule} (h : boundary? mode rule cs = some (a, rest))
    (hlater : a = look (.wordBoundary rule) → later = mode) :
    Continues later (boundary? mode rule) cs a rest := by
  have hread := h
  unfold boundary? at h
  split at h
  next inner =>
    split at h
    · cases h
    next c r hskip =>
      split_ifs at h with hc
      · cases h
        obtain rfl := hlater rfl
        refine .leaves [] rfl fun p hp => ?_
        cases hp with
        | closes hclose _ => exact absurd (closes_cons.1 hclose) (by decide)
        | @starts _ _ p hbrace =>
            have hhead : (later.skip p).head? = some c := by
              rw [hbrace rfl, hskip, List.head?_cons]
            obtain ⟨s, hs⟩ := List.head?_eq_some_iff.1 hhead
            rw [List.nil_append, boundary?, hs]
            exact if_pos hc
      · generalize hname : mode.take isBoundaryChar (r.length + 1) (c :: r) = taken at h
        obtain ⟨name, after⟩ := taken
        dsimp only at h
        split at h
        next after =>
          rw [boundary?_of_name hskip hc hname] at hread
          obtain ⟨l, hl, heq⟩ := Option.map_eq_some_iff.1 hread
          cases heq
          obtain ⟨e, hsplit, htake⟩ := Mode.take_split hname (by simp)
          rw [hsplit] at hskip
          obtain ⟨before, rfl, hbefore⟩ := Mode.skip_split_append hskip
          obtain ⟨e, rfl⟩ : ∃ s, e = c :: s := by
            cases e with
            | nil =>
                obtain rfl : c = '\x7d' := (List.cons.inj hsplit).1
                exact absurd (by decide) hc
            | cons b e =>
                exact ⟨e, congrArg (· :: e) (List.cons.inj hsplit).1.symm⟩
          refine .leaves ('\x7b' :: (before ++ (c :: e ++ ['\x7d']))) (by simp) fun x _ => ?_
          have hmore := htake x ((e ++ '\x7d' :: x).length + 1) (by simp)
          have htext : '\x7b' :: (before ++ (c :: e ++ ['\x7d'])) ++ x =
              '\x7b' :: (before ++ (c :: e ++ '\x7d' :: x)) := by simp
          rw [htext, boundary?_of_name (hbefore x) hc hmore, hl]
          rfl
        · cases h
  next hbrace =>
    cases h
    refine .leaves [] rfl fun p hp => ?_
    have hp' : ∀ r, p ≠ '\x7b' :: r := hp.ne_cons hbrace (by decide)
    rw [List.nil_append]
    unfold boundary?
    split
    · exact absurd rfl (hp' _)
    · rfl

/-! ## All atoms -/

/-- Behind a backslash stands one of the three atoms that are read further, or a
character that stands for an atom by itself, or for none. -/
theorem escaped?_cases (mode : Mode) (c : Char) :
    (∃ count, ∀ cs, escaped? mode (c :: cs) = hexChar? mode count cs) ∨
      (∃ negated, ∀ cs, escaped? mode (c :: cs) = property? mode negated cs) ∨
      (∃ rule, ∀ cs, escaped? mode (c :: cs) = boundary? mode rule cs) ∨
      ∃ single : Option Atom, ∀ cs, escaped? mode (c :: cs) = single.map (·, cs) := by
  by_cases hx : c = 'x'
  · subst hx
    exact .inl ⟨2, fun cs => rfl⟩
  by_cases hu : c = 'u'
  · subst hu
    exact .inl ⟨4, fun cs => rfl⟩
  by_cases hU : c = 'U'
  · subst hU
    exact .inl ⟨8, fun cs => rfl⟩
  by_cases hp : c = 'p'
  · subst hp
    exact .inr (.inl ⟨false, fun cs => rfl⟩)
  by_cases hP : c = 'P'
  · subst hP
    exact .inr (.inl ⟨true, fun cs => rfl⟩)
  by_cases hb : c = 'b'
  · subst hb
    exact .inr (.inr (.inl ⟨_, fun cs => rfl⟩))
  refine .inr (.inr (.inr ⟨(escaped? mode [c]).map (·.1), fun cs => ?_⟩))
  unfold escaped?
  generalize (if mode.unicode then WordRule.unicode else WordRule.ascii) = rule
  dsimp only
  split
  case h_24 => split_ifs <;> rfl
  all_goals first | contradiction | rfl

/-- Behind a backslash there is a character that tells which atom it is. -/
theorem escaped?_continues {c : Char} (h : escaped? mode (c :: cs) = some (a, rest))
    (hlater : ∀ rule, a = look (.wordBoundary rule) → later = mode) :
    Continues later (fun cs => escaped? mode (c :: cs)) cs a rest := by
  rcases escaped?_cases mode c with ⟨count, hc⟩ | ⟨negated, hc⟩ | ⟨rule, hc⟩ | ⟨single, hc⟩
  · rw [funext hc]
    exact hexChar?_continues (hc cs ▸ h)
  · rw [funext hc]
    exact property?_continues (hc cs ▸ h)
  · rw [funext hc]
    exact boundary?_continues (hc cs ▸ h) (hlater rule)
  · rw [hc] at h
    obtain ⟨atom, hatom, heq⟩ := Option.map_eq_some_iff.1 h
    cases heq
    refine .leaves [] rfl fun p _ => ?_
    rw [hc, hatom]
    rfl

theorem read?_of_ne (mode : Mode) {c : Char} (hc : c ≠ '\\') :
    ∃ single, ∀ cs, read? mode (c :: cs) = some (single, cs) := by
  by_cases hdot : c = '.'
  · exact ⟨dot, fun cs => by rw [hdot, read?]⟩
  by_cases hstart : c = '^'
  · exact ⟨lineStart, fun cs => by rw [hstart, read?]⟩
  by_cases hend : c = '$'
  · exact ⟨lineEnd, fun cs => by rw [hend, read?]⟩
  · exact ⟨char c false, fun cs => by simp [read?]⟩

theorem read?_continues {c : Char} (h : read? mode (c :: cs) = some (a, rest)) :
    Continues mode (fun cs => read? mode (c :: cs)) cs a rest := by
  by_cases hc : c = '\\'
  · subst hc
    cases cs with
    | nil => cases h
    | cons d cs =>
        have hescaped : escaped? mode (d :: cs) = some (a, rest) := h
        exact (escaped?_continues hescaped fun _ _ => rfl).behind [d] rfl fun _ _ hread => hread
  · obtain ⟨single, hread⟩ := read?_of_ne mode hc
    rw [hread] at h
    cases h
    exact .leaves [] rfl fun p _ => hread p

end CpuPinning.Pattern.Atom
