import CpuPinning.Proofs.Pattern.Span

/-!
# Matches between places

What an expression matches, said by the two places between which a match lies.
In these terms every form of an expression has a simple law, and the rows of
bits that are computed for an expression hold what it matches.
-/

namespace CpuPinning.Pattern

open Spans (Holds)

variable {text : List Char} {r s : Regex} {i j n : Nat}

/-- The expression matches what lies between two places of a text. -/
def Spanning (text : List Char) (r : Regex) (i j : Nat) : Prop :=
  ∃ before mid after, text = before ++ mid ++ after ∧ before.length = i ∧
    before.length + mid.length = j ∧ Matches r before mid after

theorem Spanning.le (h : Spanning text r i j) : i ≤ j := by
  obtain ⟨before, mid, after, -, rfl, rfl, -⟩ := h
  exact Nat.le_add_right _ _

theorem Spanning.le_length (h : Spanning text r i j) : j ≤ text.length := by
  obtain ⟨before, mid, after, rfl, -, rfl, -⟩ := h
  simp

/-- A match of a whole text. -/
theorem spanning_whole_iff :
    Spanning text r 0 text.length ↔ Matches r [] text [] := by
  constructor
  · rintro ⟨before, mid, after, htext, hbefore, hmid, h⟩
    obtain rfl := List.length_eq_zero_iff.1 hbefore
    have hlength : text.length = mid.length + after.length := by
      rw [htext]
      simp
    obtain rfl : after = [] := by
      apply List.length_eq_zero_iff.1
      simp only [List.length_nil] at hmid
      omega
    obtain rfl : text = mid := by simpa using htext
    exact h
  · intro h
    exact ⟨[], text, [], by simp, rfl, by simp, h⟩

/-- A match of nothing. -/
theorem spanning_self (hi : i ≤ text.length)
    (h : Matches r (text.take i) [] (text.drop i)) : Spanning text r i i := by
  have hlength : (text.take i).length = i := List.length_take_of_le hi
  exact ⟨text.take i, [], text.drop i, by simp, hlength, hlength, h⟩

/-! ## Forms of expressions -/

theorem spanning_empty : Spanning text .empty i j ↔ i ≤ text.length ∧ j = i := by
  constructor
  · rintro ⟨before, mid, after, rfl, rfl, rfl, h⟩
    cases h
    simp
  · rintro ⟨hi, rfl⟩
    exact spanning_self hi .empty

theorem spanning_look {l : Look} :
    Spanning text (.look l) i j ↔
      i ≤ text.length ∧ l.holds (text.take i).getLast? (text.drop i).head? = true ∧
        j = i := by
  constructor
  · rintro ⟨before, mid, after, rfl, rfl, rfl, h⟩
    cases h with
    | look hl => simpa using hl
  · rintro ⟨hi, hl, rfl⟩
    exact spanning_self hi (.look hl)

theorem spanning_set {chars : Unicode.CharSet} :
    Spanning text (.set chars) i j ↔
      ∃ c, text[i]? = some c ∧ chars.contains c.toNat = true ∧ j = i + 1 := by
  constructor
  · rintro ⟨before, mid, after, rfl, rfl, rfl, h⟩
    cases h with
    | @set _ _ c _ hc => exact ⟨c, by simp, hc, rfl⟩
  · rintro ⟨c, hget, hc, rfl⟩
    obtain ⟨hi, rfl⟩ := List.getElem?_eq_some_iff.1 hget
    have hlength : (text.take i).length = i := by simp [Nat.le_of_lt hi]
    refine ⟨text.take i, [text[i]], text.drop (i + 1), by simp, hlength, ?_,
      .set hc⟩
    rw [hlength]
    rfl

theorem spanning_group : Spanning text (.group r) i j ↔ Spanning text r i j := by
  constructor
  · rintro ⟨before, mid, after, htext, hi, hj, h⟩
    cases h with
    | group h => exact ⟨before, mid, after, htext, hi, hj, h⟩
  · rintro ⟨before, mid, after, htext, hi, hj, h⟩
    exact ⟨before, mid, after, htext, hi, hj, .group h⟩

theorem spanning_alt :
    Spanning text (.alt r s) i j ↔ Spanning text r i j ∨ Spanning text s i j := by
  constructor
  · rintro ⟨before, mid, after, htext, hi, hj, h⟩
    cases h with
    | altLeft h => exact .inl ⟨before, mid, after, htext, hi, hj, h⟩
    | altRight h => exact .inr ⟨before, mid, after, htext, hi, hj, h⟩
  · rintro (⟨before, mid, after, htext, hi, hj, h⟩ |
      ⟨before, mid, after, htext, hi, hj, h⟩)
    · exact ⟨before, mid, after, htext, hi, hj, .altLeft h⟩
    · exact ⟨before, mid, after, htext, hi, hj, .altRight h⟩

/-- Two matches in a row, the second one where the first one ends. -/
theorem exists_parts_of_spanning {k : Nat} (hr : Spanning text r i k)
    (hs : Spanning text s k j) :
    ∃ before mid mid' after, text = before ++ (mid ++ mid') ++ after ∧
      before.length = i ∧ before.length + (mid ++ mid').length = j ∧
      Matches r before mid (mid' ++ after) ∧ Matches s (before ++ mid) mid' after := by
  obtain ⟨before, mid, rest, rfl, rfl, rfl, hr⟩ := hr
  obtain ⟨start, mid', after, htext, hstart, rfl, hs⟩ := hs
  rw [List.append_assoc start] at htext
  obtain ⟨rfl, rfl⟩ := List.append_inj htext (by simp [hstart])
  refine ⟨before, mid, mid', after, by simp, rfl, ?_, hr, hs⟩
  simp only [List.length_append]
  omega

theorem spanning_cat :
    Spanning text (.cat r s) i j ↔
      ∃ k, Spanning text r i k ∧ Spanning text s k j := by
  constructor
  · rintro ⟨before, all, after, rfl, rfl, rfl, h⟩
    cases h with
    | @cat _ _ _ mid mid' _ hr hs =>
        refine ⟨before.length + mid.length,
          ⟨before, mid, mid' ++ after, by simp, rfl, rfl, hr⟩,
          before ++ mid, mid', after, by simp, by simp, ?_, hs⟩
        simp only [List.length_append]
        omega
  · rintro ⟨k, hr, hs⟩
    obtain ⟨before, mid, mid', after, htext, hi, hj, hr, hs⟩ :=
      exists_parts_of_spanning hr hs
    exact ⟨before, mid ++ mid', after, htext, hi, hj, .cat hr hs⟩

/-! ## Repetition -/

/-- The number of repetitions is within the bounds. -/
def Allowed (least : Nat) (most : Option Nat) (n : Nat) : Prop :=
  least ≤ n ∧ ∀ m, most = some m → n ≤ m

theorem allowed_succ_iff {least : Nat} {most : Option Nat} :
    Allowed least most (n + 1) ↔
      most ≠ some 0 ∧ Allowed (least - 1) (most.map (· - 1)) n := by
  unfold Allowed
  cases most with
  | none => simp
  | some m =>
      simp only [ne_eq, Option.some.injEq, Option.map_some, forall_eq']
      omega

theorem exists_chain_of_matches {least : Nat} {most : Option Nat}
    {before mid after : List Char}
    (h : Matches (.times r least most) before mid after) :
    ∃ n, Allowed least most n ∧
      Chain (Spanning (before ++ mid ++ after) r) n before.length
        (before.length + mid.length) := by
  generalize hq : Regex.times r least most = q at h
  induction h generalizing least most with
  | empty => cases hq
  | set _ => cases hq
  | look _ => cases hq
  | group _ _ => cases hq
  | cat _ _ _ _ => cases hq
  | altLeft _ _ => cases hq
  | altRight _ _ => cases hq
  | timesDone =>
      cases hq
      exact ⟨0, ⟨Nat.zero_le _, fun _ _ => Nat.zero_le _⟩, rfl⟩
  | @timesMore _ _ _ before mid mid' after hmost hr _ _ ih =>
      cases hq
      obtain ⟨n, hn, hchain⟩ := ih rfl
      refine ⟨n + 1, allowed_succ_iff.2 ⟨hmost, hn⟩, before.length + mid.length,
        ⟨before, mid, mid' ++ after, by simp, rfl, rfl, hr⟩, ?_⟩
      simpa [Nat.add_assoc] using hchain

theorem spanning_times_of_chain {least : Nat} {most : Option Nat}
    (hi : i ≤ text.length) (hn : Allowed least most n)
    (h : Chain (Spanning text r) n i j) : Spanning text (.times r least most) i j := by
  induction n generalizing least most i with
  | zero =>
      obtain rfl : i = j := h
      obtain rfl : least = 0 := Nat.le_zero.1 hn.1
      exact spanning_self hi .timesDone
  | succ n ih =>
      obtain ⟨k, hstep, hrest⟩ := h
      obtain ⟨hmost, hn⟩ := allowed_succ_iff.1 hn
      obtain ⟨before, mid, mid', after, htext, hi, hj, hr, hs⟩ :=
        exists_parts_of_spanning hstep (ih hstep.le_length hn hrest)
      exact ⟨before, mid ++ mid', after, htext, hi, hj, .timesMore hmost hr hs⟩

/-- Repetition is a chain of matches, of an allowed length. -/
theorem spanning_times {least : Nat} {most : Option Nat} :
    Spanning text (.times r least most) i j ↔
      i ≤ text.length ∧ ∃ n, Allowed least most n ∧ Chain (Spanning text r) n i j := by
  constructor
  · rintro ⟨before, mid, after, rfl, rfl, rfl, h⟩
    exact ⟨by simp, exists_chain_of_matches h⟩
  · rintro ⟨hi, n, hn, h⟩
    exact spanning_times_of_chain hi hn h

end CpuPinning.Pattern
