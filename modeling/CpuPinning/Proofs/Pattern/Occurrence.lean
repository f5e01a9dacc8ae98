import CpuPinning.Proofs.Pattern.Match

/-!
# Computed spans

The rows of bits that are computed for an expression hold exactly what it
matches, as long as the bounds of its counts are in order.  A text therefore
passes the test for an occurrence if and only if the expression matches some
part of it.
-/

namespace CpuPinning.Pattern

open Spans (Holds)

variable {text : List Char} {r s : Regex} {i j n : Nat}

/-- No count of an expression has its bounds the wrong way round. -/
def Regex.BoundsInOrder : Regex → Prop
  | .empty => True
  | .set _ => True
  | .look _ => True
  | .group r => r.BoundsInOrder
  | .cat r s => r.BoundsInOrder ∧ s.BoundsInOrder
  | .alt r s => r.BoundsInOrder ∧ s.BoundsInOrder
  | .times r least most => r.BoundsInOrder ∧ ∀ m, most = some m → least ≤ m

/-! ## Places -/

theorem length_placesAfter (prev : Option Char) (text : List Char) :
    (placesAfter prev text).length = text.length + 1 := by
  induction text generalizing prev with
  | nil => rfl
  | cons c text ih => rw [placesAfter, List.length_cons, ih, List.length_cons]

theorem length_places (text : List Char) : (places text).length = text.length + 1 :=
  length_placesAfter none text

theorem getElem?_placesAfter (prev : Option Char) (text : List Char)
    (hi : i ≤ text.length) :
    (placesAfter prev text)[i]? =
      some ⟨(text.take i).getLast?.or prev, (text.drop i).head?⟩ := by
  induction text generalizing prev i with
  | nil =>
      obtain rfl : i = 0 := Nat.le_zero.1 hi
      rfl
  | cons c text ih =>
      cases i with
      | zero => rfl
      | succ i =>
          rw [placesAfter, List.getElem?_cons_succ,
            ih (some c) (Nat.le_of_succ_le_succ hi)]
          cases hlast : (text.take i).getLast? with
          | none => simp [List.getLast?_cons, hlast]
          | some d => simp [List.getLast?_cons, hlast]

theorem getElem?_places {place : Place} :
    (places text)[i]? = some place ↔
      i ≤ text.length ∧
        place = ⟨(text.take i).getLast?, (text.drop i).head?⟩ := by
  by_cases hi : i ≤ text.length
  · rw [places, getElem?_placesAfter none text hi]
    simp [hi, eq_comm]
  · have hlength : (places text).length ≤ i := by
      rw [length_places]
      omega
    rw [List.getElem?_eq_none hlength]
    simp [hi]

/-- The relation of every place to itself. -/
theorem holds_stay_true :
    Holds (Spans.stay (fun _ => true) (places text)) i j ↔
      i = j ∧ i < text.length + 1 := by
  rw [Spans.holds_stay]
  simp only [getElem?_places]
  constructor
  · rintro ⟨place, ⟨hi, -⟩, -, rfl⟩
    exact ⟨rfl, Nat.lt_succ_of_le hi⟩
  · rintro ⟨rfl, hi⟩
    exact ⟨_, ⟨Nat.le_of_lt_succ hi, rfl⟩, trivial, rfl⟩

/-! ## Repetition -/

theorem length_spans (ps : List Place) (r : Regex) :
    (spans ps r).length = ps.length := by
  induction r with
  | empty => exact Spans.length_rowsFrom _ _ _
  | set chars => exact Spans.length_rowsFrom _ _ _
  | look l => exact Spans.length_rowsFrom _ _ _
  | group r ih => exact ih
  | cat r s ihr _ => simpa [spans, Spans.compose] using ihr
  | alt r s ihr ihs => simp [spans, Spans.union, ihr, ihs]
  | times r least most ih =>
      simp [spans, Spans.compose, Spans.length_power, Spans.stay,
        Spans.length_rowsFrom]

/-- How many more repetitions than the least may be needed in a text with so many
places. -/
def extra (size least : Nat) : Option Nat → Nat
  | some most => most - least
  | none => size

theorem spans_times (ps : List Place) (r : Regex) (least : Nat)
    (most : Option Nat) :
    spans ps (.times r least most) =
      Spans.compose (Spans.power (Spans.stay (fun _ => true) ps) (spans ps r) least)
        (Spans.power (Spans.stay (fun _ => true) ps)
          (Spans.union (Spans.stay (fun _ => true) ps) (spans ps r))
          (extra ps.length least most)) := by
  cases most <;> rfl

/-- The rows of an expression that is repeated: the least number of times, and
then as often as may be needed. -/
theorem holds_times {least : Nat} {most : Option Nat}
    (hr : ∀ i j, Holds (spans (places text) r) i j ↔ Spanning text r i j) :
    Holds (spans (places text) (.times r least most)) i j ↔
      i ≤ text.length ∧ ∃ k, Chain (Spanning text r) least i k ∧
        ∃ d, d ≤ extra (places text).length least most ∧
          Chain (Spanning text r) d k j := by
  rw [spans_times]
  let one := Spans.stay (fun _ => true) (places text)
  let once := spans (places text) r
  have hone : ∀ i j, Holds one i j ↔ i = j ∧ i < text.length + 1 :=
    fun i j => holds_stay_true
  have hlength : one.length = once.length := by
    rw [length_spans]
    exact Spans.length_rowsFrom _ _ _
  have hbound : ∀ i j, Holds once i j → j < text.length + 1 := by
    intro i j h
    exact Nat.lt_succ_of_le ((hr i j).1 h).le_length
  have hunion : ∀ i j, Holds (Spans.union one once) i j ↔
      (i = j ∧ i < text.length + 1) ∨ Holds once i j := by
    intro i j
    rw [Spans.holds_union hlength, hone]
  have hmove : ∀ i j, Holds (Spans.union one once) i j → j < text.length + 1 := by
    intro i j h
    rcases (hunion i j).1 h with ⟨rfl, hi⟩ | h
    · exact hi
    · exact hbound i j h
  have hsame : Holds once = Spanning text r := by
    funext i j
    exact propext (hr i j)
  rw [Spans.holds_compose, ← hsame]
  constructor
  · rintro ⟨k, hfirst, hrest⟩
    obtain ⟨hi, hfirst⟩ := (Spans.holds_power hone hbound).1 hfirst
    obtain ⟨hk, hrest⟩ := (Spans.holds_power hone hmove).1 hrest
    exact ⟨Nat.le_of_lt_succ hi, k, hfirst, (chain_or_stay hbound hunion hk).1 hrest⟩
  · rintro ⟨hi, k, hfirst, hrest⟩
    have hi : i < text.length + 1 := Nat.lt_succ_of_le hi
    have hk : k < text.length + 1 := hfirst.lt hbound hi
    exact ⟨k, (Spans.holds_power hone hbound).2 ⟨hi, hfirst⟩,
      (Spans.holds_power hone hmove).2
        ⟨hk, (chain_or_stay hbound hunion hk).2 hrest⟩⟩

/-- So many more repetitions are enough. -/
theorem exists_allowed_iff {least : Nat} {most : Option Nat}
    (hbounds : ∀ m, most = some m → least ≤ m) (hi : i ≤ text.length) :
    (∃ n, Allowed least most n ∧ Chain (Spanning text r) n i j) ↔
      ∃ k, Chain (Spanning text r) least i k ∧
        ∃ d, d ≤ extra (places text).length least most ∧
          Chain (Spanning text r) d k j := by
  cases most with
  | some m =>
      have hleast : least ≤ m := hbounds m rfl
      constructor
      · rintro ⟨n, ⟨hn, hm⟩, h⟩
        have hnm : n ≤ m := hm m rfl
        obtain ⟨d, rfl⟩ := Nat.exists_eq_add_of_le hn
        obtain ⟨k, hfirst, hrest⟩ := chain_add.1 h
        exact ⟨k, hfirst, d, Nat.le_sub_of_add_le' hnm, hrest⟩
      · rintro ⟨k, hfirst, d, hd, hrest⟩
        refine ⟨least + d, ⟨Nat.le_add_right _ _, ?_⟩, chain_add.2 ⟨k, hfirst, hrest⟩⟩
        rintro _ ⟨⟩
        exact Nat.add_le_of_le_sub' hleast hd
  | none =>
      have hforward : ∀ i j, Spanning text r i j → i ≤ j ∧ j < (places text).length := by
        intro i j h
        rw [length_places]
        exact ⟨h.le, Nat.lt_succ_of_le h.le_length⟩
      have hstart : i < (places text).length := by
        rw [length_places]
        exact Nat.lt_succ_of_le hi
      have hchain : (∃ n, least ≤ n ∧ Chain (Spanning text r) n i j) ↔
          ∃ k, Chain (Spanning text r) least i k ∧
            ∃ d, d ≤ (places text).length ∧ Chain (Spanning text r) d k j :=
        exists_chain_ge_iff hforward hstart
      simpa [Allowed, extra] using hchain

/-! ## All expressions -/

/-- The rows that are computed for an expression hold what it matches. -/
theorem holds_spans_iff (hr : r.BoundsInOrder) :
    Holds (spans (places text) r) i j ↔ Spanning text r i j := by
  induction r generalizing i j with
  | empty =>
      rw [spans, holds_stay_true, spanning_empty, Nat.lt_succ_iff]
      constructor
      · rintro ⟨rfl, hi⟩
        exact ⟨hi, rfl⟩
      · rintro ⟨hi, rfl⟩
        exact ⟨rfl, hi⟩
  | set chars =>
      rw [spans, Spans.holds_step, spanning_set]
      simp only [getElem?_places]
      constructor
      · rintro ⟨place, c, ⟨hi, rfl⟩, hnext, hc, rfl⟩
        exact ⟨c, by simpa [List.head?_drop] using hnext, hc, rfl⟩
      · rintro ⟨c, hget, hc, rfl⟩
        have hi : i < text.length := (List.getElem?_eq_some_iff.1 hget).1
        exact ⟨_, c, ⟨Nat.le_of_lt hi, rfl⟩, by simpa [List.head?_drop] using hget,
          hc, rfl⟩
  | look l =>
      rw [spans, Spans.holds_stay, spanning_look]
      simp only [getElem?_places]
      constructor
      · rintro ⟨place, ⟨hi, rfl⟩, hl, rfl⟩
        exact ⟨hi, hl, rfl⟩
      · rintro ⟨hi, hl, rfl⟩
        exact ⟨_, ⟨hi, rfl⟩, hl, rfl⟩
  | group r ih =>
      rw [spans, spanning_group]
      exact ih hr
  | cat r s ihr ihs =>
      rw [spans, Spans.holds_compose, spanning_cat]
      simp only [ihr hr.1, ihs hr.2]
  | alt r s ihr ihs =>
      rw [spans, Spans.holds_union (by rw [length_spans, length_spans]),
        spanning_alt, ihr hr.1, ihs hr.2]
  | times r least most ih =>
      rw [holds_times fun i j => ih hr.1, spanning_times]
      exact and_congr_right fun hi => (exists_allowed_iff hr.2 hi).symm

/-- A text passes the test for an occurrence if some part of it is matched. -/
theorem occursIn_iff (hr : r.BoundsInOrder) :
    occursIn r text = true ↔ ∃ i j, Spanning text r i j := by
  have hrow : ∀ row : Nat, row ≠ 0 ↔ ∃ j, row.testBit j = true := by
    intro row
    constructor
    · exact Nat.exists_testBit_of_ne_zero
    · rintro ⟨j, hj⟩ rfl
      simp at hj
  simp only [← holds_spans_iff hr]
  unfold occursIn
  rw [List.any_eq_true]
  constructor
  · rintro ⟨row, hmem, hne⟩
    obtain ⟨i, hi⟩ := List.mem_iff_getElem?.1 hmem
    obtain ⟨j, hj⟩ := (hrow row).1 (by simpa using hne)
    exact ⟨i, j, row, hi, hj⟩
  · rintro ⟨i, j, row, hi, hj⟩
    exact ⟨row, List.mem_iff_getElem?.2 ⟨i, hi⟩, by simpa using (hrow row).2 ⟨j, hj⟩⟩

end CpuPinning.Pattern
