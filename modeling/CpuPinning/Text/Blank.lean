/-!
# Blanks, fields and lines

Which characters are blank, and how a text falls into pieces: at a separator, into fields that
blanks keep apart, and into lines.  Everything here works on lists, so that the same splitting
serves characters and bytes.
-/

namespace CpuPinning.Text

/-- The white space characters of the Unicode standard. -/
def isBlank (c : Char) : Bool :=
  let n := c.toNat
  (9 ≤ n && n ≤ 13) || n == 0x20 || n == 0x85 || n == 0xA0 || n == 0x1680 ||
    (0x2000 ≤ n && n ≤ 0x200A) || n == 0x2028 || n == 0x2029 || n == 0x202F ||
    n == 0x205F || n == 0x3000

theorem isBlank_of_isDigit {c : Char} (h : c.isDigit = true) : isBlank c = false := by
  have hcode : 48 ≤ c.toNat ∧ c.toNat ≤ 57 := by simpa using Char.isDigit_iff_toNat.1 h
  simp only [isBlank, Bool.or_eq_false_iff, Bool.and_eq_false_iff, decide_eq_false_iff_not,
    beq_eq_false_iff_ne]
  omega

/-- The pieces between the separators, empty ones included; there is one more than separators. -/
def splitBy (sep : α → Bool) : List α → List (List α)
  | [] => [[]]
  | a :: as =>
      match splitBy sep as with
      | [] => [[]]
      | piece :: pieces => if sep a then [] :: piece :: pieces else (a :: piece) :: pieces

/-- The non-empty pieces between blanks. -/
def fields (cs : List Char) : List (List Char) :=
  (splitBy isBlank cs).filter (!·.isEmpty)

/-- A text without the blanks at both ends. -/
def trim (cs : List Char) : List Char :=
  ((cs.dropWhile isBlank).reverse.dropWhile isBlank).reverse

/-- The lines of a text.  A line feed ends a line, and what follows the last one is a line
only if it is not empty.  A carriage return before the line feed stays: every reader of
lines treats it as a blank. -/
def lines (cs : List Char) : List (List Char) :=
  let pieces := splitBy (· == '\n') cs
  if pieces.getLast? = some [] then pieces.dropLast else pieces

/-- What stands before and after the first occurrence of `sep`, if it occurs. -/
def splitOnce (sep : Char) : List Char → Option (List Char × List Char)
  | [] => none
  | c :: cs => if c = sep then some ([], cs) else (splitOnce sep cs).map fun (k, v) => (c :: k, v)

theorem splitBy_ne_nil (sep : α → Bool) (as : List α) : splitBy sep as ≠ [] := by
  cases as with
  | nil => simp [splitBy]
  | cons a as =>
      simp only [splitBy]
      split
      · simp
      · split <;> simp

theorem splitBy_cons_of_sep {sep : α → Bool} {a : α} (h : sep a = true) (as : List α) :
    splitBy sep (a :: as) = [] :: splitBy sep as := by
  have hne := splitBy_ne_nil sep as
  cases hs : splitBy sep as with
  | nil => exact absurd hs hne
  | cons piece pieces => simp [splitBy, hs, h]

theorem splitBy_eq_splitOnP (sep : α → Bool) (as : List α) :
    splitBy sep as = as.splitOnP sep := by
  induction as with
  | nil => rfl
  | cons a as ih =>
      obtain ⟨piece, pieces, hsplit⟩ := List.exists_cons_of_ne_nil (splitBy_ne_nil sep as)
      rw [List.splitOnP_cons_eq_if_modifyHead, ← ih, splitBy, hsplit]
      rfl

/-- A list without `s` has no separator, where only `s` is one. -/
theorem beq_eq_false_of_not_mem [BEq α] [LawfulBEq α] {s : α} {as : List α} (h : s ∉ as) :
    ∀ a ∈ as, (a == s) = false := by
  intro a ha
  rw [beq_eq_false_iff_ne]
  rintro rfl
  exact h ha

theorem splitBy_of_forall {sep : α → Bool} {as : List α} (h : ∀ a ∈ as, sep a = false) :
    splitBy sep as = [as] := by
  induction as with
  | nil => rfl
  | cons a as ih =>
      have hrest : splitBy sep as = [as] := ih fun b hb => h b (List.mem_cons_of_mem a hb)
      simp [splitBy, hrest, h a List.mem_cons_self]

theorem splitBy_append_cons {sep : α → Bool} {first second : List α} {s : α} (hs : sep s = true)
    (h : ∀ a ∈ first, sep a = false) :
    splitBy sep (first ++ s :: second) = first :: splitBy sep second := by
  induction first with
  | nil => exact splitBy_cons_of_sep hs second
  | cons a first ih =>
      have hrest := ih fun b hb => h b (List.mem_cons_of_mem a hb)
      simp [splitBy, hrest, h a List.mem_cons_self]

/-- What stands behind the last separator is the last piece. -/
theorem exists_splitBy_append {sep : α → Bool} {first last : List α}
    (hfirst : first = [] ∨ ∃ before s, sep s = true ∧ first = before ++ [s])
    (hlast : ∀ a ∈ last, sep a = false) :
    ∃ pieces, splitBy sep (first ++ last) = pieces ++ [last] := by
  rcases hfirst with rfl | ⟨before, s, hs, rfl⟩
  · exact ⟨[], splitBy_of_forall hlast⟩
  · refine ⟨splitBy sep before, ?_⟩
    rw [List.append_assoc, List.singleton_append, splitBy_eq_splitOnP,
      List.splitOnP_append_cons before last hs, ← splitBy_eq_splitOnP, ← splitBy_eq_splitOnP,
      splitBy_of_forall hlast]

/-- The first piece ends with the list, or at a separator before the other pieces. -/
theorem splitBy_eq_cons {sep : α → Bool} {as piece : List α} {pieces : List (List α)}
    (h : splitBy sep as = piece :: pieces) :
    (pieces = [] ∧ as = piece) ∨
      ∃ s rest, sep s = true ∧ as = piece ++ s :: rest ∧ splitBy sep rest = pieces := by
  induction as generalizing piece with
  | nil =>
      cases h
      exact .inl ⟨rfl, rfl⟩
  | cons a as ih =>
      by_cases ha : sep a = true
      · rw [splitBy_cons_of_sep ha] at h
        cases h
        exact .inr ⟨a, as, ha, rfl, rfl⟩
      · obtain ⟨next, more, hrest⟩ := List.exists_cons_of_ne_nil (splitBy_ne_nil sep as)
        rw [splitBy, hrest] at h
        simp only [ha, Bool.false_eq_true, if_false] at h
        cases h
        rcases ih hrest with ⟨rfl, rfl⟩ | ⟨s, rest, hs, rfl, hmore⟩
        · exact .inl ⟨rfl, rfl⟩
        · exact .inr ⟨s, rest, hs, rfl, hmore⟩

/-! ## A single separator -/

section Separator

variable [BEq α] [LawfulBEq α] {s a : α} {as : List α}

theorem splitBy_cons_self (s : α) (as : List α) :
    splitBy (· == s) (s :: as) = [] :: splitBy (· == s) as := by
  apply splitBy_cons_of_sep
  exact beq_self_eq_true s

theorem splitBy_cons_of_ne {piece : List α} {pieces : List (List α)} (hne : a ≠ s)
    (hsplit : splitBy (· == s) as = piece :: pieces) :
    splitBy (· == s) (a :: as) = (a :: piece) :: pieces := by
  rw [splitBy, hsplit]
  simp [hne]

/-- What has a separator behind each part but the last is split into the parts. -/
theorem splitBy_flatMap_append {first : List (List α)} {last : List α}
    (hfirst : ∀ part ∈ first, s ∉ part) (hlast : s ∉ last) :
    splitBy (· == s) (first.flatMap (· ++ [s]) ++ last) = first ++ [last] := by
  induction first with
  | nil => exact splitBy_of_forall (beq_eq_false_of_not_mem hlast)
  | cons part first ih =>
      obtain ⟨hpart, hrest⟩ := List.forall_mem_cons.1 hfirst
      have hsplit : (part :: first).flatMap (· ++ [s]) ++ last =
          part ++ s :: (first.flatMap (· ++ [s]) ++ last) := by
        simp
      have hcut : splitBy (· == s) (part ++ s :: (first.flatMap (· ++ [s]) ++ last)) =
          part :: splitBy (· == s) (first.flatMap (· ++ [s]) ++ last) :=
        splitBy_append_cons (beq_self_eq_true s) (beq_eq_false_of_not_mem hpart)
      rw [hsplit, hcut, ih hrest, List.cons_append]

/-- The pieces with a separator behind each are the whole with one more separator. -/
theorem flatMap_splitBy (s : α) (as : List α) :
    (splitBy (· == s) as).flatMap (· ++ [s]) = as ++ [s] := by
  induction as with
  | nil => rfl
  | cons a as ih =>
      by_cases ha : a = s
      · rw [ha, splitBy_cons_self, List.flatMap_cons, ih]
        rfl
      · obtain ⟨piece, pieces, hsplit⟩ := List.exists_cons_of_ne_nil (splitBy_ne_nil (· == s) as)
        rw [hsplit, List.flatMap_cons] at ih
        rw [splitBy_cons_of_ne ha hsplit, List.flatMap_cons, List.cons_append, List.cons_append, ih,
          List.cons_append]

/-- No piece holds a separator. -/
theorem not_mem_of_mem_splitBy {piece : List α} (h : piece ∈ splitBy (· == s) as) :
    s ∉ piece := by
  induction as generalizing piece with
  | nil =>
      rw [List.mem_singleton.1 h]
      exact List.not_mem_nil
  | cons a as ih =>
      by_cases ha : a = s
      · rw [ha, splitBy_cons_self] at h
        rcases List.mem_cons.1 h with rfl | hmem
        · exact List.not_mem_nil
        · exact ih hmem
      · obtain ⟨first, pieces, hsplit⟩ := List.exists_cons_of_ne_nil (splitBy_ne_nil (· == s) as)
        rw [splitBy_cons_of_ne ha hsplit] at h
        rw [hsplit] at ih
        rcases List.mem_cons.1 h with rfl | hmem
        · rw [List.mem_cons, not_or]
          exact ⟨Ne.symm ha, ih List.mem_cons_self⟩
        · exact ih (List.mem_cons_of_mem _ hmem)

end Separator

/-- Lines with a line feed behind each are the lines of the text, and so is what follows
them, unless it is empty. -/
theorem lines_flatMap_append {first : List (List Char)} {last : List Char}
    (hfirst : ∀ line ∈ first, '\n' ∉ line) (hlast : '\n' ∉ last) :
    lines (first.flatMap (· ++ ['\n']) ++ last) = if last = [] then first else first ++ [last] := by
  rw [lines, splitBy_flatMap_append hfirst hlast, List.getLast?_concat, List.dropLast_concat]
  simp only [Option.some.injEq]

/-! ## Fields -/

/-- A text has a field at its beginning, perhaps behind blanks.  The rest behind the field
is empty or begins with a blank. -/
inductive FirstField : List Char → List Char → List Char → Prop
  | intro {gap field rest : List Char} : (∀ c ∈ gap, isBlank c = true) → field ≠ [] →
      (∀ c ∈ field, isBlank c = false) → (∀ c ∈ rest.head?, isBlank c = true) →
      FirstField (gap ++ field ++ rest) field rest

/-- The second field of a text. -/
def SecondField (cs second : List Char) : Prop :=
  ∃ first rest rest', FirstField cs first rest ∧ FirstField rest second rest'

theorem fields_cons_of_blank {c : Char} (h : isBlank c = true) (cs : List Char) :
    fields (c :: cs) = fields cs := by
  rw [fields, splitBy_cons_of_sep h]
  rfl

theorem fields_append_of_blank {gap : List Char} (h : ∀ c ∈ gap, isBlank c = true)
    (cs : List Char) : fields (gap ++ cs) = fields cs := by
  induction gap with
  | nil => rfl
  | cons c gap ih =>
      obtain ⟨hc, hgap⟩ := List.forall_mem_cons.1 h
      rw [List.cons_append, fields_cons_of_blank hc, ih hgap]

theorem fields_of_blank {cs : List Char} (h : ∀ c ∈ cs, isBlank c = true) : fields cs = [] := by
  have hnone : fields (cs ++ []) = fields [] := fields_append_of_blank h []
  rwa [List.append_nil] at hnone

theorem FirstField.fields_eq {cs field rest : List Char} (h : FirstField cs field rest) :
    fields cs = field :: fields rest := by
  cases h with
  | @intro gap _ _ hgap hfield hseen hrest =>
      have hkept : (!field.isEmpty) = true := by simpa using hfield
      rw [List.append_assoc, fields_append_of_blank hgap]
      cases rest with
      | nil =>
          rw [List.append_nil, fields, splitBy_of_forall hseen, List.filter_cons, if_pos hkept]
          rfl
      | cons c rest =>
          have hc : isBlank c = true := hrest c rfl
          rw [fields_cons_of_blank hc, fields, splitBy_append_cons hc hseen, List.filter_cons,
            if_pos hkept, fields]

/-- A text is cut where the characters of one kind end. -/
theorem exists_append_of_kind (kind : Char → Bool) (cs : List Char) :
    ∃ front back, cs = front ++ back ∧ (∀ c ∈ front, kind c = true) ∧
      ∀ c ∈ back.head?, kind c = false := by
  induction cs with
  | nil => exact ⟨[], [], rfl, by simp, by simp⟩
  | cons c cs ih =>
      cases hc : kind c with
      | false => exact ⟨[], c :: cs, rfl, by simp, by simpa using hc⟩
      | true =>
          obtain ⟨front, back, rfl, hfront, hback⟩ := ih
          exact ⟨c :: front, back, rfl, List.forall_mem_cons.2 ⟨hc, hfront⟩, hback⟩

/-- A text is blank, or it has a first field. -/
theorem blank_or_firstField (cs : List Char) :
    (∀ c ∈ cs, isBlank c = true) ∨ ∃ field rest, FirstField cs field rest := by
  obtain ⟨gap, body, rfl, hgap, hbody⟩ := exists_append_of_kind isBlank cs
  obtain ⟨field, rest, rfl, hseen, hrest⟩ := exists_append_of_kind (!isBlank ·) body
  simp only [Bool.not_eq_true', Bool.not_eq_false'] at hseen hrest
  by_cases hfield : field = []
  · left
    subst hfield
    cases rest with
    | nil => simpa using hgap
    | cons c rest =>
        -- what ends the blanks is no blank, and what ends a field is one
        have hblank : isBlank c = true := hrest c rfl
        rw [hbody c rfl] at hblank
        cases hblank
  · right
    refine ⟨field, rest, ?_⟩
    rw [← List.append_assoc]
    exact .intro hgap hfield hseen hrest

theorem fields_eq_cons_iff {cs field : List Char} {more : List (List Char)} :
    fields cs = field :: more ↔ ∃ rest, FirstField cs field rest ∧ fields rest = more := by
  constructor
  · intro h
    rcases blank_or_firstField cs with hblank | ⟨first, rest, hfirst⟩
    · rw [fields_of_blank hblank] at h
      cases h
    · obtain ⟨rfl, hmore⟩ := List.cons.inj (hfirst.fields_eq.symm.trans h)
      exact ⟨rest, hfirst, hmore⟩
  · rintro ⟨rest, hfirst, rfl⟩
    exact hfirst.fields_eq

theorem secondField_iff {cs second : List Char} :
    SecondField cs second ↔ ∃ first more, fields cs = first :: second :: more := by
  simp only [SecondField, fields_eq_cons_iff]
  constructor
  · rintro ⟨first, rest, rest', hfirst, hsecond⟩
    exact ⟨first, fields rest', rest, hfirst, rest', hsecond, rfl⟩
  · rintro ⟨first, more, rest, hfirst, rest', hsecond, -⟩
    exact ⟨first, rest, rest', hfirst, hsecond⟩

theorem SecondField.unique {cs second second' : List Char} (h : SecondField cs second)
    (h' : SecondField cs second') : second = second' := by
  obtain ⟨first, more, hfields⟩ := secondField_iff.1 h
  obtain ⟨first', more', hfields'⟩ := secondField_iff.1 h'
  cases hfields.symm.trans hfields'
  rfl

/-! ## Blanks at the ends -/

/-- A text without blanks at its ends. -/
def IsBare (cs : List Char) : Prop :=
  cs.head?.any isBlank = false ∧ cs.getLast?.any isBlank = false

instance (cs : List Char) : Decidable (IsBare cs) := inferInstanceAs (Decidable (_ ∧ _))

theorem dropWhile_isBlank_of_head {cs : List Char}
    (h : cs.head?.any isBlank = false) : cs.dropWhile isBlank = cs := by
  cases cs with
  | nil => rfl
  | cons c cs =>
      have hc : isBlank c = false := h
      exact List.dropWhile_cons_of_neg (by simp [hc])

theorem all_isBlank_of_dropWhile {cs : List Char} (h : cs.dropWhile isBlank = []) :
    ∀ c ∈ cs, isBlank c = true := by
  have hall : cs.takeWhile isBlank = cs := by
    have hsplit : cs.takeWhile isBlank ++ cs.dropWhile isBlank = cs :=
      List.takeWhile_append_dropWhile
    rwa [h, List.append_nil] at hsplit
  intro c hc
  rw [← hall] at hc
  exact List.all_eq_true.1 List.all_takeWhile c hc

/-- Blanks around a text are taken off, and nothing else. -/
theorem trim_padded {front cs back : List Char} (hfront : ∀ c ∈ front, isBlank c = true)
    (hback : ∀ c ∈ back, isBlank c = true) (hbare : IsBare cs) :
    trim (front ++ cs ++ back) = cs := by
  have hreverse : ∀ c ∈ back.reverse, isBlank c = true := by
    intro c hc
    exact hback c (List.mem_reverse.1 hc)
  rw [trim, List.append_assoc, List.dropWhile_append_of_pos hfront]
  by_cases hcs : cs = []
  · have hnone : (back ++ []).dropWhile isBlank = [] := List.dropWhile_append_of_pos hback
    rw [List.append_nil] at hnone
    rw [hcs, List.nil_append, hnone]
    rfl
  · have hhead : (cs ++ back).head?.any isBlank = false := by
      obtain ⟨first, rest, rfl⟩ := List.exists_cons_of_ne_nil hcs
      exact hbare.1
    have hlast : cs.reverse.head?.any isBlank = false := by
      rw [List.head?_reverse]
      exact hbare.2
    rw [dropWhile_isBlank_of_head hhead, List.reverse_append,
      List.dropWhile_append_of_pos hreverse, dropWhile_isBlank_of_head hlast, List.reverse_reverse]

theorem trim_eq_nil_iff {cs : List Char} : trim cs = [] ↔ ∀ c ∈ cs, isBlank c = true := by
  constructor
  · intro h
    rw [trim, List.reverse_eq_nil_iff] at h
    have hrest := all_isBlank_of_dropWhile h
    intro c hc
    have hsplit : cs.takeWhile isBlank ++ cs.dropWhile isBlank = cs :=
      List.takeWhile_append_dropWhile
    rw [← hsplit, List.mem_append] at hc
    rcases hc with hc | hc
    · exact List.all_eq_true.1 List.all_takeWhile c hc
    · exact hrest c (List.mem_reverse.2 hc)
  · intro h
    have hpadded : trim (cs ++ [] ++ []) = [] := trim_padded h (by simp) (by simp [IsBare])
    rwa [List.append_nil, List.append_nil] at hpadded

/-! ## Splitting once -/

theorem splitOnce_append_cons {sep : Char} {before : List Char} (h : sep ∉ before)
    (after : List Char) : splitOnce sep (before ++ sep :: after) = some (before, after) := by
  induction before with
  | nil => exact if_pos rfl
  | cons c before ih =>
      obtain ⟨hc, hbefore⟩ := not_or.1 (mt List.mem_cons.2 h)
      rw [List.cons_append, splitOnce, if_neg (Ne.symm hc), ih hbefore]
      rfl

theorem splitOnce_of_not_mem {sep : Char} {cs : List Char} (h : sep ∉ cs) :
    splitOnce sep cs = none := by
  induction cs with
  | nil => rfl
  | cons c cs ih =>
      obtain ⟨hc, hcs⟩ := not_or.1 (mt List.mem_cons.2 h)
      rw [splitOnce, if_neg (Ne.symm hc), ih hcs]
      rfl

theorem splitOnce_eq_some_iff {sep : Char} {cs before after : List Char} :
    splitOnce sep cs = some (before, after) ↔ sep ∉ before ∧ cs = before ++ sep :: after := by
  constructor
  · intro h
    by_cases hsep : sep ∈ cs
    · obtain ⟨front, back, rfl, hfront⟩ := List.eq_append_cons_of_mem hsep
      rw [splitOnce_append_cons hfront] at h
      cases h
      exact ⟨hfront, rfl⟩
    · rw [splitOnce_of_not_mem hsep] at h
      cases h
  · rintro ⟨hbefore, rfl⟩
    exact splitOnce_append_cons hbefore after

end CpuPinning.Text
