import CpuPinning.Pattern.Span
import CpuPinning.Proofs.Relation.Chain

/-!
# Spans as relations

The rows of bits that are computed for an expression hold exactly the spans that
it matches.  Each operation on rows is one on relations, and each form of an
expression has its spans said in the same terms.
-/

namespace CpuPinning.Pattern

namespace Spans

/-- Bit `j` of row `i` is set. -/
def Holds (a : Spans) (i j : Nat) : Prop :=
  ∃ row, a[i]? = some row ∧ row.testBit j = true

variable {a b : Spans} {ps : List Place} {i j n : Nat}

/-! ## Rows -/

theorem length_rowsFrom (row : Nat → Place → Nat) (n : Nat) (ps : List Place) :
    (rowsFrom row n ps).length = ps.length := by
  induction ps generalizing n with
  | nil => rfl
  | cons p ps ih => rw [rowsFrom, List.length_cons, List.length_cons, ih]

theorem getElem?_rowsFrom (row : Nat → Place → Nat) (n i : Nat)
    (ps : List Place) :
    (rowsFrom row n ps)[i]? = ps[i]?.map (row (n + i)) := by
  induction ps generalizing n i with
  | nil => rfl
  | cons p ps ih =>
      cases i with
      | zero => rfl
      | succ i =>
          rw [rowsFrom, List.getElem?_cons_succ, List.getElem?_cons_succ, ih,
            Nat.succ_add_eq_add_succ]

theorem testBit_one_shiftLeft : (1 <<< n).testBit j = true ↔ j = n := by
  rw [Nat.one_shiftLeft, Nat.testBit_two_pow, decide_eq_true_iff, eq_comm]

theorem holds_stay {p : Place → Bool} :
    (stay p ps).Holds i j ↔ ∃ place, ps[i]? = some place ∧ p place = true ∧ j = i := by
  unfold Holds stay
  rw [getElem?_rowsFrom, Nat.zero_add]
  cases ps[i]? with
  | none => simp
  | some place =>
      simp only [Option.map_some, Option.some.injEq, exists_eq_left']
      by_cases hp : p place = true
      · simp only [hp, if_true, testBit_one_shiftLeft, true_and]
      · simp [hp]

theorem holds_step {p : Char → Bool} :
    (step p ps).Holds i j ↔
      ∃ place c, ps[i]? = some place ∧ place.next = some c ∧ p c = true ∧
        j = i + 1 := by
  unfold Holds step
  rw [getElem?_rowsFrom, Nat.zero_add]
  cases ps[i]? with
  | none => simp
  | some place =>
      cases hnext : place.next with
      | none => simp [hnext]
      | some c =>
          simp only [Option.map_some, Option.some.injEq, exists_eq_left', hnext,
            exists_and_left]
          by_cases hp : p c = true
          · simp only [hp, if_true, testBit_one_shiftLeft, true_and]
          · simp [hp]

theorem holds_union (h : a.length = b.length) :
    (union a b).Holds i j ↔ a.Holds i j ∨ b.Holds i j := by
  unfold Holds union
  rw [List.getElem?_zipWith]
  by_cases hi : i < a.length
  · have hib : i < b.length := h ▸ hi
    rw [List.getElem?_eq_getElem hi, List.getElem?_eq_getElem hib]
    simp
  · have hib : ¬ i < b.length := h ▸ hi
    rw [List.getElem?_eq_none (Nat.le_of_not_lt hi),
      List.getElem?_eq_none (Nat.le_of_not_lt hib)]
    simp

theorem select_zero (b : Spans) : select 0 b = 0 := by
  cases b with
  | nil => rfl
  | cons first b => rw [select, if_pos rfl]

/-- The rows that a row selects, by the bits of that row. -/
theorem holds_cons_iff {first : Nat} {row : Nat} :
    (∃ k, row.testBit k = true ∧ Holds (first :: b) k j) ↔
      (row % 2 = 1 ∧ first.testBit j = true) ∨
        ∃ k, (row / 2).testBit k = true ∧ Holds b k j := by
  constructor
  · rintro ⟨k, hrow, hk⟩
    cases k with
    | zero => exact .inl ⟨by simpa using hrow, by simpa [Holds] using hk⟩
    | succ k =>
        rw [Nat.testBit_succ] at hrow
        exact .inr ⟨k, hrow, by simpa [Holds] using hk⟩
  · rintro (⟨hrow, hfirst⟩ | ⟨k, hrow, hk⟩)
    · exact ⟨0, by simpa using hrow, by simpa [Holds] using hfirst⟩
    · refine ⟨k + 1, ?_, by simpa [Holds] using hk⟩
      rwa [Nat.testBit_succ]

theorem testBit_select {row : Nat} :
    (select row b).testBit j = true ↔ ∃ k, row.testBit k = true ∧ Holds b k j := by
  induction b generalizing row with
  | nil => simp [select, Holds]
  | cons first b ih =>
      rw [holds_cons_iff, ← ih, select]
      by_cases hzero : row = 0
      · simp [hzero, select_zero]
      · rw [if_neg hzero]
        by_cases hodd : row % 2 = 1
        · simp [hodd, Nat.testBit_or]
        · simp [hodd]

theorem holds_compose :
    (compose a b).Holds i j ↔ ∃ k, a.Holds i k ∧ b.Holds k j := by
  unfold compose
  constructor
  · rintro ⟨row, hrow, hbit⟩
    rw [List.getElem?_map, Option.map_eq_some_iff] at hrow
    obtain ⟨start, hstart, rfl⟩ := hrow
    obtain ⟨k, hk, hb⟩ := testBit_select.1 hbit
    exact ⟨k, ⟨start, hstart, hk⟩, hb⟩
  · rintro ⟨k, ⟨start, hstart, hk⟩, hb⟩
    refine ⟨select start b, ?_, testBit_select.2 ⟨k, hk, hb⟩⟩
    rw [List.getElem?_map, hstart, Option.map_some]

/-! ## Powers -/

theorem length_power {one : Spans} (n : Nat) :
    (power one a n).length = one.length := by
  induction n using Nat.strongRecOn with
  | ind n ih =>
      unfold power
      split
      · rfl
      · next hn =>
          have hhalf := ih (n / 2) (by omega)
          dsimp only
          split <;> simp [compose, hhalf]

/-- Powers are chains, if `one` leads from every place to itself. -/
theorem holds_power {one : Spans} {size : Nat}
    (hone : ∀ i j, one.Holds i j ↔ i = j ∧ i < size)
    (ha : ∀ i j, a.Holds i j → j < size) :
    (power one a n).Holds i j ↔ i < size ∧ Chain a.Holds n i j := by
  induction n using Nat.strongRecOn generalizing i j with
  | ind n ih =>
      unfold power
      split
      · next hn =>
          subst hn
          rw [hone, and_comm]
          rfl
      · next hn =>
          have heven : ∀ i j,
              (compose (power one a (n / 2)) (power one a (n / 2))).Holds i j ↔
                i < size ∧ Chain a.Holds (n / 2 + n / 2) i j := by
            intro i j
            rw [holds_compose, chain_add]
            constructor
            · rintro ⟨k, hfirst, hsecond⟩
              obtain ⟨hi, hfirst⟩ := (ih _ (by omega)).1 hfirst
              exact ⟨hi, k, hfirst, ((ih _ (by omega)).1 hsecond).2⟩
            · rintro ⟨hi, k, hfirst, hsecond⟩
              have hk : k < size := hfirst.lt ha hi
              exact ⟨k, (ih _ (by omega)).2 ⟨hi, hfirst⟩,
                (ih _ (by omega)).2 ⟨hk, hsecond⟩⟩
          dsimp only
          split
          · have hn' : n / 2 + n / 2 + 1 = n := by omega
            have hchain := chain_succ_last (R := a.Holds) (n := n / 2 + n / 2)
              (i := i) (j := j)
            rw [hn'] at hchain
            rw [holds_compose, hchain]
            simp only [heven, and_assoc, exists_and_left]
          · have hn' : n / 2 + n / 2 = n := by omega
            rw [heven, hn']

end Spans

end CpuPinning.Pattern
