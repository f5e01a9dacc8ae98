import CpuPinning.Pattern.Mode
import Mathlib.Tactic.SplitIfs

/-!
# Reading with other text behind

A reader takes a part of a pattern from the front of a text.  It takes the same part
when what stands behind it is replaced by a text that begins alike, in particular
when the pattern ends there instead or its group closes.  In verbose mode there is
one exception: a comment at the end of the pattern goes on in the text that follows,
up to the next line feed.
-/

namespace CpuPinning.Pattern

variable {α β : Type} {mode later : Mode} {cs cs' d p rest t : List Char} {c : Char} {a : α}
  {b : β} {f : List Char → Option (α × List Char)} {g : List Char → Option (β × List Char)}

/-- Two texts that are the same up to some character begin with the same one. -/
theorem exists_cons_of_append_cons {b : Char} (h : d ++ c :: rest = b :: t) (x : List Char) :
    ∃ s, d ++ c :: x = b :: s := by
  cases d with
  | nil => exact ⟨x, congrArg (· :: x) (List.cons.inj h).1⟩
  | cons _ d => exact ⟨d ++ c :: x, congrArg (· :: (d ++ c :: x)) (List.cons.inj h).1⟩

/-! ## Blanks and comments -/

/-- What is skipped before a character is skipped before any text, and nothing is
skipped at the character. -/
theorem exists_skippedBlanks {inComment : Bool}
    (h : skipBlanks inComment cs = c :: rest) :
    ∃ e, cs = e ++ c :: rest ∧
      (∀ x, skipBlanks inComment (e ++ x) = skipBlanks false x) ∧
        ∀ x, skipBlanks false (c :: x) = c :: x := by
  induction cs generalizing inComment with
  | nil => exact absurd h nofun
  | cons b cs ih =>
      simp only [skipBlanks] at h
      split_ifs at h with hcomment hblank hsharp
      · obtain ⟨e, rfl, hskip, hstop⟩ := ih h
        exact ⟨b :: e, rfl, fun x => by simp [skipBlanks, hcomment, ← hskip], hstop⟩
      · obtain ⟨e, rfl, hskip, hstop⟩ := ih h
        exact ⟨b :: e, rfl, fun x => by simp [skipBlanks, hcomment, hblank, hskip], hstop⟩
      · obtain ⟨e, rfl, hskip, hstop⟩ := ih h
        refine ⟨b :: e, rfl, fun x => ?_, hstop⟩
        rw [List.cons_append, skipBlanks, if_neg hcomment, if_neg hblank, if_pos hsharp,
          hskip]
      · obtain ⟨rfl, rfl⟩ := List.cons.inj h
        obtain rfl : inComment = false := eq_false_of_ne_true hcomment
        exact ⟨[], rfl, fun x => rfl, fun x => by simp [skipBlanks, hblank, hsharp]⟩

/-- Skipping that goes through is in a comment at the end, or outside of one. -/
theorem exists_skipBlanks_append {inComment : Bool} (h : skipBlanks inComment cs = []) :
    ∃ atEnd, ∀ t, skipBlanks inComment (cs ++ t) = skipBlanks atEnd t := by
  induction cs generalizing inComment with
  | nil => exact ⟨inComment, fun t => rfl⟩
  | cons c cs ih =>
      simp only [List.cons_append, skipBlanks] at h ⊢
      split_ifs at h ⊢ with hcomment hblank hsharp
      · exact ih h
      · exact ih h
      · exact ih h

theorem skipBlanks_comment (ht : '\n' ∉ t) : skipBlanks true t = [] := by
  induction t with
  | nil => rfl
  | cons c t ih =>
      simp only [List.mem_cons, not_or] at ht
      have hc : decide (c ≠ '\n') = true := decide_eq_true (Ne.symm ht.1)
      rw [skipBlanks, if_pos rfl, hc]
      exact ih ht.2

namespace Mode

theorem skip_of_verbose (h : mode.verbose = true) (cs : List Char) :
    mode.skip cs = skipBlanks false cs := if_pos h

theorem skip_of_not_verbose (h : ¬mode.verbose = true) (cs : List Char) :
    mode.skip cs = cs := if_neg h

@[simp] theorem skip_nil : mode.skip [] = [] := by
  simp [Mode.skip, skipBlanks]

@[simp] theorem skip_paren : mode.skip (')' :: t) = ')' :: t := by
  simp [Mode.skip, skipBlanks, Text.isBlank]

theorem exists_skipped (h : mode.skip cs = c :: rest) :
    ∃ e, cs = e ++ c :: rest ∧ (∀ x, mode.skip (e ++ x) = mode.skip x) ∧
      ∀ x, mode.skip (c :: x) = c :: x := by
  by_cases hverbose : mode.verbose = true
  · simp only [skip_of_verbose hverbose] at h ⊢
    exact exists_skippedBlanks h
  · simp only [skip_of_not_verbose hverbose] at h ⊢
    exact ⟨[], h, fun x => rfl, fun x => trivial⟩

/-- The same is skipped when what follows a character is replaced. -/
theorem skip_split (h : mode.skip cs = c :: rest) :
    ∃ e, cs = e ++ c :: rest ∧ ∀ x, mode.skip (e ++ c :: x) = c :: x := by
  obtain ⟨e, hcs, hskip, hstop⟩ := exists_skipped h
  exact ⟨e, hcs, fun x => (hskip _).trans (hstop x)⟩

theorem skip_split_append (h : mode.skip cs = d ++ c :: rest) :
    ∃ e, cs = e ++ (d ++ c :: rest) ∧ ∀ x, mode.skip (e ++ (d ++ c :: x)) = d ++ c :: x := by
  cases d with
  | nil => exact skip_split h
  | cons b d =>
      obtain ⟨e, hcs, hskip⟩ := skip_split h
      exact ⟨e, hcs, fun x => hskip _⟩

/-- Taking characters of a kind ends at a character, whatever follows it. -/
theorem take_split {kind : Char → Bool} {fuel : Nat} {taken : List Char}
    (h : mode.take kind fuel cs = (taken, c :: rest)) (hlength : cs.length ≤ fuel) :
    ∃ e, cs = e ++ c :: rest ∧
      ∀ x fuel', e.length ≤ fuel' → mode.take kind fuel' (e ++ c :: x) = (taken, c :: x) := by
  induction fuel generalizing cs taken with
  | zero =>
      obtain rfl : cs = [] := List.length_eq_zero_iff.1 (Nat.le_zero.1 hlength)
      simp [Mode.take] at h
  | succ fuel ih =>
      cases cs with
      | nil => simp [Mode.take] at h
      | cons b cs =>
          rw [Mode.take] at h
          split_ifs at h with hb
          · obtain ⟨rfl, hrest⟩ := Prod.mk.inj h
            have hskipped : (mode.skip cs).length ≤ fuel :=
              Nat.le_trans (mode.length_skip_le cs) (Nat.le_of_succ_le_succ hlength)
            obtain ⟨e, he, hread⟩ := ih (Prod.ext rfl hrest) hskipped
            obtain ⟨e', rfl, hskip⟩ := skip_split_append he
            refine ⟨b :: (e' ++ e), by simp, fun x fuel' hfuel => ?_⟩
            obtain ⟨fuel', rfl⟩ : ∃ n, fuel' = n + 1 :=
              Nat.exists_eq_add_one.2 (Nat.lt_of_lt_of_le (Nat.succ_pos _) hfuel)
            have hfuel' : e.length ≤ fuel' := by
              simp only [List.length_cons, List.length_append] at hfuel
              omega
            rw [List.cons_append, Mode.take, List.append_assoc]
            simp only [if_pos hb, hskip, hread x fuel' hfuel']
          · obtain ⟨rfl, hrest⟩ := Prod.mk.inj h
            obtain ⟨rfl, rfl⟩ := List.cons.inj hrest
            refine ⟨[], rfl, fun x fuel' _ => ?_⟩
            cases fuel' with
            | zero => rfl
            | succ fuel' => exact if_neg hb

end Mode

/-! ## Texts that begin alike -/

/-- The text is over, or it goes on with a closing parenthesis. -/
def Closes (cs : List Char) : Prop := ∀ c ∈ cs.head?, c = ')'

@[simp] theorem closes_nil : Closes [] := by
  simp [Closes]

@[simp] theorem closes_cons : Closes (c :: cs) ↔ c = ')' := by
  simp [Closes]

theorem closes_paren (t : List Char) : Closes (')' :: t) := closes_cons.2 rfl

/-- Texts that no reader tells apart when it stops in front of them: both of them close,
or they begin with the same character.  What follows an opening brace is either a count
or the name of a word boundary, so that there the next character counts as well; it is
found in the mode of those who read on. -/
inductive Alike (later : Mode) : List Char → List Char → Prop where
  | closes {rest p : List Char} : Closes rest → Closes p → Alike later rest p
  | starts {c : Char} {rest p : List Char} :
      (c = '\x7b' → (later.skip p).head? = (later.skip rest).head?) →
      Alike later (c :: rest) (c :: p)

theorem Mode.skip_of_closes (h : Closes p) : mode.skip p = p := by
  cases p with
  | nil => exact Mode.skip_nil
  | cons c p =>
      obtain rfl := closes_cons.1 h
      exact Mode.skip_paren

theorem Alike.skip_eq_self (h : Alike later rest p) (hrest : mode.skip rest = rest) :
    mode.skip p = p := by
  cases h with
  | closes _ hp => exact Mode.skip_of_closes hp
  | starts _ =>
      obtain ⟨-, -, -, hstop⟩ := Mode.exists_skipped hrest
      exact hstop _

theorem Alike.ne_cons (h : Alike later rest p) (hrest : ∀ r, rest ≠ c :: r) (hc : c ≠ ')')
    (r : List Char) : p ≠ c :: r := by
  rintro rfl
  cases h with
  | closes _ hp => exact hc (closes_cons.1 hp)
  | starts _ => exact hrest _ rfl

theorem Alike.closes_of_nil (h : Alike later [] p) : Closes p := by
  cases h
  assumption

/-- Skipping stops before a text that begins alike, unless a comment is open. -/
theorem Mode.skip_cases (mode later : Mode) (cs : List Char) :
    (∃ e, cs = e ++ mode.skip cs ∧ ∀ {d rest p}, mode.skip cs = d ++ rest →
        Alike later rest p → mode.skip (e ++ (d ++ p)) = d ++ p) ∨
      mode.skip cs = [] ∧ ∀ t, '\n' ∉ t → mode.skip (cs ++ ')' :: t) = [] := by
  cases hskip : mode.skip cs with
  | cons c r =>
      obtain ⟨e, hcs, hmore, hstop⟩ := Mode.exists_skipped hskip
      refine .inl ⟨e, hcs, ?_⟩
      intro d rest p hsplit hp
      rw [hmore]
      cases d with
      | nil =>
          obtain rfl : c :: r = rest := hsplit
          exact hp.skip_eq_self (hstop r)
      | cons b d =>
          obtain rfl : c = b := (List.cons.inj hsplit).1
          exact hstop _
  | nil =>
      have hleft : (∀ p, mode.skip (cs ++ p) = mode.skip p) →
          ∃ e, cs = e ++ [] ∧ ∀ {d rest p : List Char}, [] = d ++ rest →
            Alike later rest p → mode.skip (e ++ (d ++ p)) = d ++ p := by
        intro hmore
        refine ⟨cs, (List.append_nil cs).symm, ?_⟩
        intro d rest p hsplit hp
        obtain ⟨rfl, rfl⟩ := List.append_eq_nil_iff.1 hsplit.symm
        exact (hmore p).trans (Mode.skip_of_closes hp.closes_of_nil)
      by_cases hverbose : mode.verbose = true
      · simp only [Mode.skip_of_verbose hverbose] at hskip hleft ⊢
        obtain ⟨atEnd, hend⟩ := exists_skipBlanks_append hskip
        cases atEnd with
        | false => exact .inl (hleft hend)
        | true =>
            refine .inr ⟨trivial, fun t ht => ?_⟩
            rw [hend]
            exact skipBlanks_comment (by simp [ht])
      · simp only [Mode.skip_of_not_verbose hverbose] at hskip hleft ⊢
        exact .inl (hleft fun p => by rw [hskip, List.nil_append])

/-! ## Readers -/

/-- What a reader that takes `a` from the front of a text and leaves `rest` does when
something else follows. -/
inductive Continues (later : Mode) (f : List Char → Option (α × List Char))
    (cs : List Char) (a : α) (rest : List Char) : Prop where
  /-- It takes `e` before any text that begins like `rest`. -/
  | leaves (e : List Char) : cs = e ++ rest →
      (∀ p, Alike later rest p → f (e ++ p) = some (a, p)) → Continues later f cs a rest
  /-- It skips what follows, in a comment that is open at the end. -/
  | skips : rest = [] → (∀ t, '\n' ∉ t → f (cs ++ ')' :: t) = some (a, [])) →
      Continues later f cs a rest

namespace Continues

/-- A reader that takes some text more than another one, and then leaves the same. -/
theorem behind (h : Continues later f cs a rest) (d : List Char) (hcs : cs' = d ++ cs)
    (hg : ∀ x r, f x = some (a, r) → g (d ++ x) = some (b, r)) :
    Continues later g cs' b rest := by
  subst hcs
  cases h with
  | leaves e hcs hread =>
      refine .leaves (d ++ e) (by rw [hcs, List.append_assoc]) fun p hp => ?_
      rw [List.append_assoc]
      exact hg _ _ (hread p hp)
  | skips hnil hread =>
      refine .skips hnil fun t ht => ?_
      rw [List.append_assoc]
      exact hg _ _ (hread t ht)

/-- Blanks and comments may come before what is read. -/
theorem behind_blanks (h : Continues later f (mode.skip cs) a rest)
    (hread : f (mode.skip cs) = some (a, rest)) :
    Continues later (fun cs => f (mode.skip cs)) cs a rest := by
  rcases mode.skip_cases later cs with ⟨e, hcs, hskip⟩ | ⟨hend, hskip⟩
  · cases h with
    | leaves e' hsplit hmore =>
        refine .leaves (e ++ e') (by rw [List.append_assoc, ← hsplit, ← hcs]) fun p hp => ?_
        rw [List.append_assoc, hskip hsplit hp]
        exact hmore p hp
    | skips hnil hmore =>
        refine .skips hnil fun t ht => ?_
        have hparen := hskip (List.append_nil _).symm (.closes closes_nil (closes_paren t))
        rw [← List.append_assoc, ← hcs] at hparen
        rw [hparen]
        exact hmore t ht
  · have hnil : rest = [] := by
      cases h with
      | leaves e hsplit _ =>
          rw [hend] at hsplit
          exact (List.append_eq_nil_iff.1 hsplit.symm).2
      | skips hnil _ => exact hnil
    refine .skips hnil fun t ht => ?_
    rw [hskip t ht, ← hend, hread, hnil, hend]

/-- Blanks and comments may come after what is read. -/
theorem before_blanks (d : List Char) (hcs : cs = d ++ rest)
    (h : ∀ x, f (d ++ x) = some (a, mode.skip x)) :
    Continues later f cs a (mode.skip rest) := by
  let left (cs : List Char) : Option (Unit × List Char) := some ((), cs)
  have hleft : Continues later left (mode.skip rest) () (mode.skip rest) :=
    .leaves [] rfl fun _ _ => rfl
  refine (hleft.behind_blanks rfl).behind d hcs fun x r hread => ?_
  obtain rfl : mode.skip x = r := (Prod.mk.inj (Option.some.inj hread)).2
  exact h x

end Continues

/-! ## Letters of modes -/

theorem Mode.readLetters_split {l l' : Mode.Letters} {stop : Char}
    (h : Mode.readLetters l cs = some (l', stop, rest)) :
    ∃ e, cs = e ++ rest ∧ ∀ x, Mode.readLetters l (e ++ x) = some (l', stop, x) := by
  fun_induction Mode.readLetters l cs with
  | case3 l c cs hstop hhyphen =>
      obtain ⟨rfl, rfl, rfl⟩ : l = l' ∧ c = stop ∧ cs = rest := by simpa using h
      refine ⟨[c], rfl, fun x => ?_⟩
      rw [List.singleton_append, Mode.readLetters, if_pos hstop, if_neg hhyphen]
  | case5 l cs hnegated hstop ih =>
      obtain ⟨e, rfl, hread⟩ := ih h
      refine ⟨'-' :: e, rfl, fun x => ?_⟩
      rw [List.cons_append, Mode.readLetters, if_neg hstop, if_pos rfl, if_neg hnegated,
        hread]
  | case8 l c cs hstop hc hseen mode hset ih =>
      obtain ⟨e, rfl, hread⟩ := ih h
      refine ⟨c :: e, rfl, fun x => ?_⟩
      rw [List.cons_append, Mode.readLetters, if_neg hstop, if_neg hc, if_neg hseen, hset]
      exact hread x
  | _ => cases h

theorem Mode.read?_split {mode' : Mode} {stop : Char}
    (h : mode.read? cs = some (mode', stop, rest)) :
    ∃ e, cs = e ++ rest ∧ ∀ x, mode.read? (e ++ x) = some (mode', stop, x) := by
  unfold Mode.read? at h
  split at h
  · cases h
  next l c r hletters =>
    split_ifs at h with hempty
    obtain ⟨e, rfl, hread⟩ := Mode.readLetters_split hletters
    cases h
    refine ⟨e, rfl, fun x => ?_⟩
    rw [Mode.read?, hread]
    exact if_neg hempty

end CpuPinning.Pattern
