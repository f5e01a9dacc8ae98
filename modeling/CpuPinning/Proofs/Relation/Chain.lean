/-!
# Chains of steps

Several steps of a relation in a row, with their number: from a process up to one of
its ancestors, or from one place of a text to another by the repetitions of an
expression.  A relation of numbers that only leads forwards needs no more steps from
one number to another than there are numbers between them, so that unbounded
repetition is bounded repetition on every single text.
-/

namespace CpuPinning

/-- From `i` to `j` in `n` steps of `R`. -/
def Chain {α : Type} (R : α → α → Prop) : Nat → α → α → Prop
  | 0, i, j => i = j
  | n + 1, i, j => ∃ k, R i k ∧ Chain R n k j

section

variable {α : Type} {R : α → α → Prop} {i j : α} {m n : Nat}

theorem chain_one : Chain R 1 i j ↔ R i j := by
  simp [Chain]

theorem chain_add :
    Chain R (m + n) i j ↔ ∃ k, Chain R m i k ∧ Chain R n k j := by
  induction m generalizing i with
  | zero => simp [Chain]
  | succ m ih =>
      rw [Nat.succ_add]
      constructor
      · rintro ⟨l, hstep, hrest⟩
        obtain ⟨k, hfirst, hsecond⟩ := ih.1 hrest
        exact ⟨k, ⟨l, hstep, hfirst⟩, hsecond⟩
      · rintro ⟨k, ⟨l, hstep, hfirst⟩, hsecond⟩
        exact ⟨l, hstep, ih.2 ⟨k, hfirst, hsecond⟩⟩

theorem chain_succ_last :
    Chain R (n + 1) i j ↔ ∃ k, Chain R n i k ∧ R k j := by
  rw [chain_add]
  simp only [chain_one]

end

/-! ## Steps that lead forwards -/

variable {R : Nat → Nat → Prop} {i j n : Nat}

/-- A chain of forward steps leads forwards. -/
theorem Chain.le (hR : ∀ i j, R i j → i ≤ j) (h : Chain R n i j) : i ≤ j := by
  induction n generalizing i with
  | zero =>
      have hsame : i = j := h
      exact Nat.le_of_eq hsame
  | succ n ih =>
      obtain ⟨k, hstep, hrest⟩ := h
      exact Nat.le_trans (hR i k hstep) (ih hrest)

theorem Chain.lt {size : Nat} (hR : ∀ i j, R i j → j < size)
    (h : Chain R n i j) (hi : i < size) : j < size := by
  induction n generalizing i with
  | zero =>
      have hsame : i = j := h
      rwa [← hsame]
  | succ n ih =>
      obtain ⟨k, hstep, hrest⟩ := h
      exact ih hrest (hR i k hstep)

/-- Steps that stay where they are can be left out of a chain. -/
theorem Chain.exists_short (hR : ∀ i j, R i j → i ≤ j) (h : Chain R n i j) :
    ∃ d, d ≤ j - i ∧ Chain R d i j := by
  induction n generalizing i with
  | zero => exact ⟨0, Nat.zero_le _, h⟩
  | succ n ih =>
      obtain ⟨k, hstep, hrest⟩ := h
      obtain ⟨d, hd, hshort⟩ := ih hrest
      have hik : i ≤ k := hR i k hstep
      have hkj : k ≤ j := hrest.le hR
      by_cases hsame : k = i
      · subst hsame
        exact ⟨d, hd, hshort⟩
      · exact ⟨d + 1, by omega, k, hstep, hshort⟩

/-- Where a step may also stay, a chain takes some of its steps. -/
theorem chain_or_stay {S : Nat → Nat → Prop} {size : Nat}
    (hR : ∀ i j, R i j → j < size)
    (hS : ∀ i j, S i j ↔ (i = j ∧ i < size) ∨ R i j) (hi : i < size) :
    Chain S n i j ↔ ∃ d, d ≤ n ∧ Chain R d i j := by
  induction n generalizing i with
  | zero =>
      constructor
      · intro h
        exact ⟨0, Nat.le_refl 0, h⟩
      · rintro ⟨d, hd, h⟩
        obtain rfl : d = 0 := by omega
        exact h
  | succ n ih =>
      constructor
      · rintro ⟨k, hstep, hrest⟩
        rcases (hS i k).1 hstep with ⟨rfl, -⟩ | hstep
        · obtain ⟨d, hd, h⟩ := (ih hi).1 hrest
          exact ⟨d, by omega, h⟩
        · obtain ⟨d, hd, h⟩ := (ih (hR i k hstep)).1 hrest
          exact ⟨d + 1, by omega, k, hstep, h⟩
      · rintro ⟨d, hd, h⟩
        cases d with
        | zero =>
            have hstay : S i i := (hS i i).2 (.inl ⟨rfl, hi⟩)
            exact ⟨i, hstay, (ih hi).2 ⟨0, Nat.zero_le _, h⟩⟩
        | succ d =>
            obtain ⟨k, hstep, hrest⟩ := h
            have hmove : S i k := (hS i k).2 (.inr hstep)
            exact ⟨k, hmove, (ih (hR i k hstep)).2 ⟨d, by omega, hrest⟩⟩

/-- At least `least` forward steps are `least` steps and then no more than there
are places. -/
theorem exists_chain_ge_iff {size least : Nat}
    (hR : ∀ i j, R i j → i ≤ j ∧ j < size) (hi : i < size) :
    (∃ n, least ≤ n ∧ Chain R n i j) ↔
      ∃ k, Chain R least i k ∧ ∃ d, d ≤ size ∧ Chain R d k j := by
  have hle : ∀ i j, R i j → i ≤ j := fun i j h => (hR i j h).1
  constructor
  · rintro ⟨n, hn, h⟩
    obtain ⟨d, rfl⟩ := Nat.exists_eq_add_of_le hn
    obtain ⟨k, hfirst, hrest⟩ := chain_add.1 h
    obtain ⟨d', hd', hshort⟩ := hrest.exists_short hle
    have hj : j < size := h.lt (fun i j hij => (hR i j hij).2) hi
    exact ⟨k, hfirst, d', by omega, hshort⟩
  · rintro ⟨k, hfirst, d, -, hrest⟩
    exact ⟨least + d, by omega, chain_add.2 ⟨k, hfirst, hrest⟩⟩

end CpuPinning
