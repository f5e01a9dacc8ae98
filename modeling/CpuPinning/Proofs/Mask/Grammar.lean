import Mathlib.Data.List.Forall2
import CpuPinning.Proofs.Mask.Reading

/-!
# The grammar of mask texts

A text stands for a mask if each of its parts between commas stands for a region: a
number, or two in order with a dash between them, after all blanks are taken out.
The mask is the union of the regions.  Of the other texts the first part that stands
for none is reported as it is written.
-/

namespace CpuPinning

/-- A part of a mask text stands for the region from one number to another.  Blanks in
it do not count, not even inside a number. -/
inductive IsRegion (part : List Char) : Region → Prop
  | single {n : Nat} :
      Text.Numeral (part.filter (!Text.isBlank ·)) n → n ≤ maxCpuId → IsRegion part ⟨n, n⟩
  | range {first second : List Char} {lo hi : Nat} :
      part.filter (!Text.isBlank ·) = first ++ '-' :: second →
      Text.Numeral first lo → Text.Numeral second hi → lo ≤ hi → hi ≤ maxCpuId →
      IsRegion part ⟨lo, hi⟩

variable {part : List Char} {parts : List (List Char)} {r : Region} {rs : List Region}

namespace IsRegion

theorem lo_le_hi (h : IsRegion part r) : r.lo ≤ r.hi := by
  cases h with
  | single hdigits hbound => exact Nat.le_refl _
  | range hword hfirst hsecond hle hbound => exact hle

theorem hi_le (h : IsRegion part r) : r.hi ≤ maxCpuId := by
  cases h with
  | single hdigits hbound => exact hbound
  | range hword hfirst hsecond hle hbound => exact hbound

end IsRegion

/-! ## Parts -/

namespace MaskForm

theorem region?_eq_some_iff_isRegion : region? part = some r ↔ IsRegion part r := by
  rw [region?_eq_some_iff]
  constructor
  · rintro ⟨hspans, hle, hbound⟩
    obtain ⟨lo, hi⟩ := r
    cases hspans with
    | single hdigits =>
        exact .single (Text.readDigits?_eq_some_iff.1 hdigits) hbound
    | range hword hfirst hsecond =>
        exact .range hword (Text.readDigits?_eq_some_iff.1 hfirst)
          (Text.readDigits?_eq_some_iff.1 hsecond) hle hbound
  · intro h
    refine ⟨?_, h.lo_le_hi, h.hi_le⟩
    cases h with
    | single hdigits hbound => exact .single (Text.readDigits?_eq_some_iff.2 hdigits)
    | range hword hfirst hsecond hle hbound =>
        exact .range hword (Text.readDigits?_eq_some_iff.2 hfirst)
          (Text.readDigits?_eq_some_iff.2 hsecond)

theorem region?_eq_none_iff : region? part = none ↔ ∀ r, ¬IsRegion part r := by
  simp only [Option.eq_none_iff_forall_ne_some, ne_eq, region?_eq_some_iff_isRegion]

theorem regionsOf_eq_ok_iff : regionsOf parts = .ok rs ↔ List.Forall₂ IsRegion parts rs := by
  induction parts generalizing rs with
  | nil =>
      rw [List.forall₂_nil_left_iff, regionsOf, Except.ok.injEq]
      exact eq_comm
  | cons part parts ih =>
      rw [regionsOf, List.forall₂_cons_left_iff]
      cases hpart : region? part with
      | none =>
          constructor
          · intro h
            cases h
          · rintro ⟨r, rest, hr, -, -⟩
            exact absurd hr (region?_eq_none_iff.1 hpart r)
      | some r =>
          constructor
          · intro h
            cases hrest : regionsOf parts with
            | error other =>
                rw [hrest] at h
                cases h
            | ok rest =>
                rw [hrest] at h
                exact ⟨r, rest, region?_eq_some_iff_isRegion.1 hpart, ih.1 hrest,
                  (Except.ok.inj h).symm⟩
          · rintro ⟨r', rest, hr, hrest, rfl⟩
            rw [← region?_eq_some_iff_isRegion, hpart] at hr
            obtain rfl := Option.some.inj hr
            rw [ih.2 hrest]
            rfl

theorem exists_of_regionsOf_eq_error (h : regionsOf parts = .error part) :
    ∃ before after, parts = before ++ part :: after ∧
      (∀ other ∈ before, ∃ r, IsRegion other r) ∧ ∀ r, ¬IsRegion part r := by
  induction parts with
  | nil => cases h
  | cons next parts ih =>
      rw [regionsOf] at h
      cases hnext : region? next with
      | none =>
          rw [hnext] at h
          obtain rfl := Except.error.inj h
          exact ⟨[], parts, rfl, by simp, region?_eq_none_iff.1 hnext⟩
      | some r =>
          rw [hnext] at h
          cases hrest : regionsOf parts with
          | ok rs =>
              rw [hrest] at h
              cases h
          | error other =>
              rw [hrest] at h
              obtain rfl : other = part := Except.error.inj h
              obtain ⟨before, after, rfl, hbefore, hpart⟩ := ih hrest
              refine ⟨next :: before, after, rfl, ?_, hpart⟩
              rw [List.forall_mem_cons]
              exact ⟨⟨r, region?_eq_some_iff_isRegion.1 hnext⟩, hbefore⟩

end MaskForm

theorem IsRegion.unique {r' : Region} (h : IsRegion part r) (h' : IsRegion part r') :
    r = r' := by
  rw [← MaskForm.region?_eq_some_iff_isRegion] at h h'
  exact Option.some.inj (h.symm.trans h')

theorem mem_regions_iff (h : List.Forall₂ IsRegion parts rs) :
    r ∈ rs ↔ ∃ part ∈ parts, IsRegion part r := by
  induction h with
  | nil => simp
  | @cons part first parts rs hfirst _ ih =>
      have hr : r = first ↔ IsRegion part r :=
        ⟨fun heq => heq ▸ hfirst, fun hr => hr.unique hfirst⟩
      simp only [List.mem_cons, ih, hr, or_and_right, exists_or, exists_eq_left]

theorem exists_isRegion_of_mem (h : List.Forall₂ IsRegion parts rs) (hpart : part ∈ parts) :
    ∃ r, IsRegion part r := by
  induction h with
  | nil => cases hpart
  | cons hfirst _ ih =>
      rcases List.mem_cons.1 hpart with rfl | hpart
      · exact ⟨_, hfirst⟩
      · exact ih hpart

/-! ## Texts -/

/-- The parts of a text between its commas. -/
def maskParts (s : String) : List (List Char) := s.toList.splitOn ','

theorem splitBy_comma (s : String) : Text.splitBy (· == ',') s.toList = maskParts s := by
  rw [Text.splitBy_eq_splitOnP, maskParts, List.splitOn_eq_splitOnP]

/-- A text whose parts stand for regions is accepted: its first region has a CPU. -/
theorem exists_mask_of_regions {s : String} (h : List.Forall₂ IsRegion (maskParts s) rs) :
    ∃ mask, readMask (.str s) = .ok mask ∧
      ∀ cpu, cpu ∈ mask ↔ ∃ r ∈ rs, r.lo ≤ cpu ∧ cpu ≤ r.hi := by
  have hany : ∀ cpu, (cpu ≤ maxCpuId ∧ rs.any (·.contains cpu) = true) ↔
      ∃ r ∈ rs, r.lo ≤ cpu ∧ cpu ≤ r.hi := by
    intro cpu
    simp only [List.any_eq_true, Region.contains, Bool.and_eq_true, decide_eq_true_eq]
    refine ⟨And.right, fun hcpu => ⟨?_, hcpu⟩⟩
    obtain ⟨r, hr, -, hhi⟩ := hcpu
    obtain ⟨part, -, hpart⟩ := (mem_regions_iff h).1 hr
    exact Nat.le_trans hhi hpart.hi_le
  obtain ⟨part, hpart⟩ := List.exists_mem_of_ne_nil _ (List.splitOn_ne_nil ',' s.toList)
  obtain ⟨r, hr⟩ := exists_isRegion_of_mem h hpart
  obtain ⟨hbound, hlo⟩ := (hany r.lo).2
    ⟨r, (mem_regions_iff h).2 ⟨part, hpart, hr⟩, Nat.le_refl _, hr.lo_le_hi⟩
  obtain ⟨mask, hmask⟩ :=
    CpuMask.exists_ofPred? (p := fun id => rs.any (·.contains id)) hbound hlo
  refine ⟨mask, ?_, fun cpu => (CpuMask.mem_ofPred? hmask).trans (hany cpu)⟩
  change (MaskForm.text s).mask = _
  simp only [MaskForm.mask, splitBy_comma, MaskForm.regionsOf_eq_ok_iff.2 h, hmask]

theorem exists_regions_of_ok {s : String} {mask : CpuMask}
    (h : readMask (.str s) = .ok mask) :
    ∃ rs, List.Forall₂ IsRegion (maskParts s) rs ∧
      ∀ cpu, cpu ∈ mask ↔ ∃ r ∈ rs, r.lo ≤ cpu ∧ cpu ≤ r.hi := by
  cases hregions : MaskForm.regionsOf (maskParts s) with
  | ok rs =>
      have hparts := MaskForm.regionsOf_eq_ok_iff.1 hregions
      obtain ⟨found, hfound, hmem⟩ := exists_mask_of_regions hparts
      obtain rfl : found = mask := Except.ok.inj (hfound.symm.trans h)
      exact ⟨rs, hparts, hmem⟩
  | error part =>
      change (MaskForm.text s).mask = _ at h
      simp only [MaskForm.mask, splitBy_comma, hregions] at h
      cases h

theorem exists_part_of_error {s : String} {e : MaskError}
    (h : readMask (.str s) = .error e) :
    ∃ before part after, maskParts s = before ++ part :: after ∧
      (∀ other ∈ before, ∃ r, IsRegion other r) ∧ (∀ r, ¬IsRegion part r) ∧
      e = .malformed (String.ofList part) s := by
  cases hregions : MaskForm.regionsOf (maskParts s) with
  | ok rs =>
      obtain ⟨mask, hmask, -⟩ :=
        exists_mask_of_regions (MaskForm.regionsOf_eq_ok_iff.1 hregions)
      rw [hmask] at h
      cases h
  | error part =>
      change (MaskForm.text s).mask = _ at h
      simp only [MaskForm.mask, splitBy_comma, hregions] at h
      obtain ⟨before, after, hsplit, hbefore, hpart⟩ :=
        MaskForm.exists_of_regionsOf_eq_error hregions
      exact ⟨before, part, after, hsplit, hbefore, hpart, (Except.error.inj h).symm⟩

/-- A text is accepted as a mask exactly if each part of it stands for a region, and
the mask is the union of these regions.  Otherwise the first part that stands for no
region is reported, as it is written, together with the text. -/
theorem readMask_text (s : String) :
    ((∃ mask, readMask (.str s) = .ok mask) ↔
      ∀ part ∈ maskParts s, ∃ r, IsRegion part r) ∧
    (∀ mask, readMask (.str s) = .ok mask → ∀ cpu, cpu ∈ mask ↔
      ∃ part ∈ maskParts s, ∃ r, IsRegion part r ∧ r.lo ≤ cpu ∧ cpu ≤ r.hi) ∧
    ∀ e, readMask (.str s) = .error e →
      ∃ before part after, maskParts s = before ++ part :: after ∧
        (∀ other ∈ before, ∃ r, IsRegion other r) ∧ (∀ r, ¬IsRegion part r) ∧
        e = .malformed (String.ofList part) s := by
  refine ⟨⟨?_, ?_⟩, ?_, ?_⟩
  · rintro ⟨mask, hmask⟩ part hpart
    obtain ⟨rs, hparts, -⟩ := exists_regions_of_ok hmask
    exact exists_isRegion_of_mem hparts hpart
  · intro hall
    cases hread : readMask (.str s) with
    | ok mask => exact ⟨mask, rfl⟩
    | error e =>
        obtain ⟨before, part, after, hsplit, -, hpart, -⟩ := exists_part_of_error hread
        obtain ⟨r, hr⟩ := hall part (hsplit ▸ List.mem_append_right _ List.mem_cons_self)
        exact absurd hr (hpart r)
  · intro mask hmask cpu
    obtain ⟨rs, hparts, hmem⟩ := exists_regions_of_ok hmask
    rw [hmem]
    constructor
    · rintro ⟨r, hr, hcpu⟩
      obtain ⟨part, hpart, hr⟩ := (mem_regions_iff hparts).1 hr
      exact ⟨part, hpart, r, hr, hcpu⟩
    · rintro ⟨part, hpart, r, hr, hcpu⟩
      exact ⟨r, (mem_regions_iff hparts).2 ⟨part, hpart, hr⟩, hcpu⟩
  · intro e he
    exact exists_part_of_error he

theorem readMask_text_sample :
    (∃ mask, readMask (.str "1 2,0-1") = .ok mask ∧ 12 ∈ mask ∧ 2 ∉ mask) ∧
      ∃ before part after, maskParts "3,1- ,x" = before ++ part :: after ∧
        (∀ other ∈ before, ∃ r, IsRegion other r) ∧ (∀ r, ¬IsRegion part r) ∧
        MaskError.malformed "1- " "3,1- ,x" = .malformed (String.ofList part) "3,1- ,x" := by
  obtain ⟨haccepted, hmem, -⟩ := readMask_text "1 2,0-1"
  obtain ⟨-, -, hreport⟩ := readMask_text "3,1- ,x"
  have hparts : maskParts "1 2,0-1" = [['1', ' ', '2'], ['0', '-', '1']] := by decide
  have htwelve : IsRegion ['1', ' ', '2'] ⟨12, 12⟩ := by
    have hword : ['1', ' ', '2'].filter (!Text.isBlank ·) = Nat.toDigits 10 12 := by decide
    refine .single ?_ (by decide)
    rw [hword]
    exact Text.numeral_toDigits 12
  have hrange : IsRegion ['0', '-', '1'] ⟨0, 1⟩ := by
    have hword : ['0', '-', '1'].filter (!Text.isBlank ·) =
        Nat.toDigits 10 0 ++ '-' :: Nat.toDigits 10 1 := by decide
    exact .range hword (Text.numeral_toDigits 0) (Text.numeral_toDigits 1) (by decide)
      (by decide)
  rw [hparts, List.forall_mem_cons, List.forall_mem_singleton] at haccepted
  obtain ⟨mask, hmask⟩ := haccepted.2 ⟨⟨_, htwelve⟩, _, hrange⟩
  have hunion := hmem mask hmask
  simp only [hparts, List.mem_cons, List.not_mem_nil, or_false, or_and_right, exists_or,
    exists_eq_left] at hunion
  refine ⟨⟨mask, hmask, (hunion 12).2 (.inl ⟨_, htwelve, by decide, by decide⟩), ?_⟩,
    hreport _ (by cbv)⟩
  intro htwo
  obtain ⟨r, hr, hlo, hhi⟩ | ⟨r, hr, hlo, hhi⟩ := (hunion 2).1 htwo
  · rw [hr.unique htwelve] at hlo
    exact absurd hlo (by decide)
  · rw [hr.unique hrange] at hhi
    exact absurd hhi (by decide)

end CpuPinning
