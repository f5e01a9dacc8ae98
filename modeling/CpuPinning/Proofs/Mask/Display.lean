import Mathlib.Data.List.Sort
import CpuPinning.Proofs.Mask.Grammar

/-!
# The text of a mask

The text of a mask lists its maximal runs of CPUs, in ascending order.  It is read
back as the mask it was made from, so that no two masks have the same text.
-/

namespace CpuPinning

/-! ## Runs -/

/-- The maximal runs of consecutive numbers among some numbers, in ascending order:
between two runs a number is missing. -/
structure AreRuns (ids : List Nat) (rs : List Region) : Prop where
  ordered : ∀ r ∈ rs, r.lo ≤ r.hi
  apart : rs.Pairwise fun r r' => r.hi + 1 < r'.lo
  covers : ∀ id, id ∈ ids ↔ ∃ r ∈ rs, r.lo ≤ id ∧ id ≤ r.hi

namespace AreRuns

variable {id : Nat} {ids : List Nat} {r : Region} {rs : List Region}

theorem nil : AreRuns [] [] where
  ordered := by simp
  apart := .nil
  covers := by simp

/-- A number right before the first run lengthens it. -/
theorem extend (h : AreRuns ids (r :: rs)) (hnext : r.lo = id + 1) :
    AreRuns (id :: ids) (⟨id, r.hi⟩ :: rs) where
  ordered := by
    obtain ⟨hr, hrs⟩ := List.forall_mem_cons.1 h.ordered
    refine List.forall_mem_cons.2 ⟨?_, hrs⟩
    change id ≤ r.hi
    omega
  apart := List.pairwise_cons.2 (List.pairwise_cons.1 h.apart)
  covers := by
    intro x
    have hr : r.lo ≤ r.hi := h.ordered r List.mem_cons_self
    simp only [List.mem_cons, h.covers, exists_eq_or_imp]
    have hfirst : (x = id ∨ (r.lo ≤ x ∧ x ≤ r.hi)) ↔ id ≤ x ∧ x ≤ r.hi := by omega
    rw [← or_assoc, hfirst]

/-- A number further before the first run is a run of its own. -/
theorem separate (h : AreRuns ids rs) (hbefore : ∀ r ∈ rs, id + 1 < r.lo) :
    AreRuns (id :: ids) (⟨id, id⟩ :: rs) where
  ordered := List.forall_mem_cons.2 ⟨Nat.le_refl id, h.ordered⟩
  apart := List.pairwise_cons.2 ⟨hbefore, h.apart⟩
  covers := by
    intro x
    simp only [List.mem_cons, h.covers, exists_eq_or_imp]
    have hfirst : x = id ↔ id ≤ x ∧ x ≤ id := by omega
    rw [hfirst]

theorem lo_mem (h : AreRuns ids rs) (hr : r ∈ rs) : r.lo ∈ ids :=
  (h.covers r.lo).2 ⟨r, hr, Nat.le_refl _, h.ordered r hr⟩

theorem hi_mem (h : AreRuns ids rs) (hr : r ∈ rs) : r.hi ∈ ids :=
  (h.covers r.hi).2 ⟨r, hr, h.ordered r hr, Nat.le_refl _⟩

end AreRuns

theorem areRuns_regions {ids : List Nat} (h : ids.Pairwise (· < ·)) :
    AreRuns ids (regions ids) := by
  induction ids with
  | nil => exact .nil
  | cons id ids ih =>
      obtain ⟨hfirst, hrest⟩ := List.pairwise_cons.1 h
      have hruns := ih hrest
      rw [regions]
      cases hregions : regions ids with
      | nil =>
          rw [hregions] at hruns
          exact hruns.separate (by simp)
      | cons r rs =>
          rw [hregions] at hruns
          have hlo : id < r.lo := hfirst _ (hruns.lo_mem List.mem_cons_self)
          dsimp only
          split
          · next hnext => exact hruns.extend hnext
          · next hgap =>
              have hr : id + 1 < r.lo := by omega
              have hle : r.lo ≤ r.hi := hruns.ordered r List.mem_cons_self
              apply hruns.separate
              rw [List.forall_mem_cons]
              refine ⟨hr, fun r' hr' => ?_⟩
              have hapart := (List.pairwise_cons.1 hruns.apart).1 r' hr'
              omega

/-! ## Texts of runs -/

/-- A text shows a run: a number by its digits, a longer run by its ends. -/
inductive Shows : List Char → Region → Prop
  | single (n : Nat) : Shows (Nat.toDigits 10 n) ⟨n, n⟩
  | range {lo hi : Nat} :
      lo < hi → Shows (Nat.toDigits 10 lo ++ '-' :: Nat.toDigits 10 hi) ⟨lo, hi⟩

theorem shows_text {r : Region} (h : r.lo ≤ r.hi) : Shows r.text.toList r := by
  obtain ⟨lo, hi⟩ := r
  unfold Region.text
  dsimp only at h ⊢
  split
  · next heq =>
      subst heq
      rw [Text.showNat, String.toList_ofList]
      exact .single lo
  · next hne =>
      have hlt : lo < hi := by omega
      have htext : (Text.showNat lo ++ "-" ++ Text.showNat hi).toList =
          Nat.toDigits 10 lo ++ '-' :: Nat.toDigits 10 hi := by
        simp [Text.showNat]
      rw [htext]
      exact .range hlt

/-- Neither blanks nor commas. -/
def Plain (cs : List Char) : Prop := ∀ c ∈ cs, Text.isBlank c = false ∧ c ≠ ','

theorem plain_toDigits (n : Nat) : Plain (Nat.toDigits 10 n) := by
  intro c hc
  have hdigit : c.isDigit = true := Nat.isDigit_of_mem_toDigits (by decide) (by decide) hc
  constructor
  · exact Text.isBlank_of_isDigit hdigit
  · rintro rfl
    exact absurd hdigit (by decide)

theorem Plain.filter_eq {cs : List Char} (h : Plain cs) :
    cs.filter (!Text.isBlank ·) = cs := by
  rw [List.filter_eq_self]
  intro c hc
  rw [(h c hc).1]
  rfl

namespace Shows

variable {cs : List Char} {r : Region}

theorem plain (h : Shows cs r) : Plain cs := by
  cases h with
  | single n => exact plain_toDigits n
  | @range lo hi hlt =>
      intro c hc
      rcases List.mem_append.1 hc with hc | hc
      · exact plain_toDigits lo c hc
      · rcases List.mem_cons.1 hc with rfl | hc
        · decide
        · exact plain_toDigits hi c hc

/-- What shows a run stands for it. -/
theorem isRegion (h : Shows cs r) (hbound : r.hi ≤ maxCpuId) : IsRegion cs r := by
  have hfilter : cs.filter (!Text.isBlank ·) = cs := h.plain.filter_eq
  cases h with
  | single n =>
      refine .single ?_ hbound
      rw [hfilter]
      exact Text.numeral_toDigits n
  | @range lo hi hlt =>
      exact .range hfilter (Text.numeral_toDigits lo) (Text.numeral_toDigits hi)
        (Nat.le_of_lt hlt) hbound

end Shows

namespace CpuMask

variable {mask other : CpuMask}

theorem eq_of_mem_iff (h : ∀ id, id ∈ mask ↔ id ∈ other) : mask = other := by
  have hids : mask.ids = other.ids := mask.ascending.eq_of_mem_iff other.ascending h
  cases mask
  cases other
  congr

theorem areRuns (mask : CpuMask) : AreRuns mask.ids (regions mask.ids) :=
  areRuns_regions mask.ascending

theorem hi_le {r : Region} (hr : r ∈ regions mask.ids) : r.hi ≤ maxCpuId :=
  mask.bounded r.hi (mask.areRuns.hi_mem hr)

theorem shows_of_mem {r : Region} (hr : r ∈ regions mask.ids) : Shows r.text.toList r :=
  shows_text (mask.areRuns.ordered r hr)

theorem regions_ne_nil (mask : CpuMask) : regions mask.ids ≠ [] := by
  intro hnil
  obtain ⟨id, hid⟩ := List.exists_mem_of_ne_nil _ mask.nonempty
  obtain ⟨r, hr, -⟩ := (mask.areRuns.covers id).1 hid
  rw [hnil] at hr
  cases hr

/-- The parts of the text of a mask are the texts of its runs. -/
theorem maskParts_text (mask : CpuMask) :
    maskParts mask.text = (regions mask.ids).map (·.text.toList) := by
  have hcomma : ∀ part ∈ (regions mask.ids).map (·.text.toList), ',' ∉ part := by
    intro part hpart hmem
    obtain ⟨r, hr, rfl⟩ := List.mem_map.1 hpart
    exact ((shows_of_mem hr).plain ',' hmem).2 rfl
  have hne : (regions mask.ids).map (·.text.toList) ≠ [] := by
    simpa using mask.regions_ne_nil
  rw [maskParts, text, String.toList_intercalate, List.map_map]
  exact List.splitOn_intercalate ',' hcomma hne

theorem forall₂_shows (mask : CpuMask) :
    List.Forall₂ Shows (maskParts mask.text) (regions mask.ids) := by
  rw [maskParts_text, List.forall₂_map_left_iff, List.forall₂_same]
  intro r hr
  exact shows_of_mem hr

/-- The text of a mask is read back as the mask. -/
theorem readMask_text_eq (mask : CpuMask) : readMask (.str mask.text) = .ok mask := by
  have hparts : List.Forall₂ IsRegion (maskParts mask.text) (regions mask.ids) := by
    rw [maskParts_text, List.forall₂_map_left_iff, List.forall₂_same]
    intro r hr
    exact (shows_of_mem hr).isRegion (hi_le hr)
  obtain ⟨found, hfound, hmem⟩ := exists_mask_of_regions hparts
  have hsame : found = mask :=
    eq_of_mem_iff fun id => (hmem id).trans (mask.areRuns.covers id).symm
  rw [hfound, hsame]

/-- The text of a mask shows its maximal runs in ascending order, and it is read back
as the mask.  So masks with the same text are equal, and a text that was made from a
mask, in whatever notation that one was given, is made from itself again. -/
theorem text_canonical :
    (∀ mask : CpuMask, readMask (.str mask.text) = .ok mask ∧
      ∃ rs, List.Forall₂ Shows (maskParts mask.text) rs ∧ AreRuns mask.ids rs) ∧
    (∀ mask other : CpuMask, mask.text = other.text ↔ mask = other) ∧
    ∀ v shown, (readMask v).map text = .ok shown →
      (readMask (.str shown)).map text = .ok shown := by
  refine ⟨?_, ?_, ?_⟩
  · intro mask
    exact ⟨mask.readMask_text_eq, regions mask.ids, mask.forall₂_shows, mask.areRuns⟩
  · intro mask other
    constructor
    · intro htext
      have hread := mask.readMask_text_eq
      rw [htext, other.readMask_text_eq] at hread
      exact (Except.ok.inj hread).symm
    · rintro rfl
      rfl
  · intro v shown h
    cases hread : readMask v with
    | error e =>
        rw [hread] at h
        cases h
    | ok mask =>
        rw [hread] at h
        obtain rfl : mask.text = shown := Except.ok.inj h
        rw [mask.readMask_text_eq]
        rfl

end CpuMask

namespace Sample

/-- The mask of the CPUs 2, 3 and 8. -/
def twoRuns : CpuMask where
  ids := [2, 3, 8]
  ascending := by decide
  nonempty := by decide
  bounded := by decide

end Sample

open Sample (twoRuns)

theorem CpuMask.text_canonical_sample :
    (readMask (.str "8,2-3")).map text = .ok "2-3,8" ∧
      (readMask (.str "2-3,8")).map text = .ok "2-3,8" := by
  have hparts : maskParts "8,2-3" = [Nat.toDigits 10 8,
      Nat.toDigits 10 2 ++ '-' :: Nat.toDigits 10 3] := by decide
  have hregions : List.Forall₂ IsRegion (maskParts "8,2-3") [⟨8, 8⟩, ⟨2, 3⟩] := by
    rw [hparts]
    exact .cons ((Shows.single 8).isRegion (by decide))
      (.cons ((Shows.range (by decide)).isRegion (by decide)) .nil)
  obtain ⟨mask, hmask, hmem⟩ := exists_mask_of_regions hregions
  have hids : mask = twoRuns := by
    apply eq_of_mem_iff
    intro id
    rw [hmem, mem_iff, twoRuns]
    simp only [List.mem_cons, List.not_mem_nil, or_false, exists_eq_or_imp, exists_eq_left]
    omega
  have hshown : (readMask (.str "8,2-3")).map text = .ok "2-3,8" := by
    have htext : twoRuns.text = "2-3,8" := by cbv
    rw [hmask, hids, ← htext]
    rfl
  exact ⟨hshown, text_canonical.2.2 _ _ hshown⟩

end CpuPinning
