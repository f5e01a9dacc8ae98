import CpuPinning.Proofs.Mask.Display

/-!
# The two notations of a mask

Numbers can be given as a list, or as a text of their decimal forms with commas
between them.  The two are read by different rules: a list is compared with the
limits of a CPU id, and a text is taken apart at its dashes, of which the sign of a
negative number is one.  Both come to the same: the same mask, or a report about the
same number.
-/

namespace CpuPinning

/-- A number that a mask can hold. -/
def IsCpuId (n : Int) : Prop := 0 ≤ n ∧ n ≤ maxCpuId

instance (n : Int) : Decidable (IsCpuId n) :=
  inferInstanceAs (Decidable (0 ≤ n ∧ n ≤ maxCpuId))

variable {n : Int} {ns before after : List Int} {r : Region}

/-! ## Decimal forms -/

theorem toList_showInt_ofNat (k : Nat) :
    (Text.showInt (Int.ofNat k)).toList = Nat.toDigits 10 k := by
  simp [Text.showInt, Text.showNat]

theorem toList_showInt_negSucc (k : Nat) :
    (Text.showInt (Int.negSucc k)).toList = '-' :: Nat.toDigits 10 (k + 1) := by
  simp [Text.showInt, Text.showNat]

theorem plain_showInt (n : Int) : Plain (Text.showInt n).toList := by
  cases n with
  | ofNat k =>
      rw [toList_showInt_ofNat]
      exact plain_toDigits k
  | negSucc k =>
      rw [toList_showInt_negSucc]
      intro c hc
      rcases List.mem_cons.1 hc with rfl | hc
      · decide
      · exact plain_toDigits (k + 1) c hc

theorem Text.Numeral.dash_not_mem {cs : List Char} {k : Nat} (h : Text.Numeral cs k) :
    '-' ∉ cs := by
  intro hmem
  exact absurd (h.digits '-' hmem) (by decide)

/-- The digits of a number stand for the number alone. -/
theorem isRegion_toDigits_iff {k : Nat} :
    IsRegion (Nat.toDigits 10 k) r ↔ k ≤ maxCpuId ∧ r = ⟨k, k⟩ := by
  have hdigits : Text.Numeral (Nat.toDigits 10 k) k := Text.numeral_toDigits k
  constructor
  · intro h
    cases h with
    | @single m hnumeral hbound =>
        rw [(plain_toDigits k).filter_eq] at hnumeral
        obtain rfl : k = m := hdigits.value.symm.trans hnumeral.value
        exact ⟨hbound, rfl⟩
    | range hword hfirst hsecond hle hbound =>
        rw [(plain_toDigits k).filter_eq] at hword
        refine absurd ?_ hdigits.dash_not_mem
        rw [hword]
        exact List.mem_append_cons_self
  · rintro ⟨hbound, rfl⟩
    exact (Shows.single k).isRegion hbound

/-- A minus sign is a dash without a number before it. -/
theorem not_isRegion_dash (cs : List Char) : ¬IsRegion ('-' :: cs) r := by
  have hfilter : ('-' :: cs).filter (!Text.isBlank ·) =
      '-' :: cs.filter (!Text.isBlank ·) := rfl
  intro h
  cases h with
  | single hnumeral hbound =>
      rw [hfilter] at hnumeral
      exact hnumeral.dash_not_mem List.mem_cons_self
  | @range first second lo hi hword hfirst hsecond hle hbound =>
      rw [hfilter] at hword
      cases first with
      | nil => exact hfirst.nonempty rfl
      | cons c first =>
          obtain ⟨rfl, -⟩ := List.cons.inj hword
          exact hfirst.dash_not_mem List.mem_cons_self

/-- The decimal form of a number stands for a region exactly if the number is the id
of a CPU, and then for this id alone. -/
theorem isRegion_showInt_iff :
    IsRegion (Text.showInt n).toList r ↔ IsCpuId n ∧ r = ⟨n.toNat, n.toNat⟩ := by
  cases n with
  | ofNat k =>
      have hid : IsCpuId (Int.ofNat k) ↔ k ≤ maxCpuId := by
        simp [IsCpuId]
      rw [toList_showInt_ofNat, isRegion_toDigits_iff, hid]
      rfl
  | negSucc k =>
      have hid : ¬IsCpuId (Int.negSucc k) := by
        simp [IsCpuId]
      rw [toList_showInt_negSucc]
      exact ⟨fun h => absurd h (not_isRegion_dash _), fun h => absurd h.1 hid⟩

theorem exists_isRegion_showInt_iff :
    (∃ r, IsRegion (Text.showInt n).toList r) ↔ IsCpuId n := by
  simp only [isRegion_showInt_iff, exists_and_left, exists_eq, and_true]

namespace MaskForm

/-- The decimal forms of some numbers, with commas between them. -/
def commaText (ns : List Int) : String :=
  String.intercalate "," (ns.map Text.showInt)

theorem maskParts_commaText (h : ns ≠ []) :
    maskParts (commaText ns) = ns.map fun n => (Text.showInt n).toList := by
  have hcomma : ∀ part ∈ ns.map fun n => (Text.showInt n).toList, ',' ∉ part := by
    intro part hpart hmem
    obtain ⟨n, -, rfl⟩ := List.mem_map.1 hpart
    exact (plain_showInt n ',' hmem).2 rfl
  rw [maskParts, commaText, String.toList_intercalate, List.map_map]
  exact List.splitOn_intercalate ',' hcomma (by simpa using h)

/-! ## Numbers that are ids -/

theorem exists_mask_of_ids (h : ns ≠ []) (hall : ∀ n ∈ ns, IsCpuId n) :
    ∃ mask, (ids ns).mask = .ok mask ∧ ∀ cpu : Nat, cpu ∈ mask ↔ (cpu : Int) ∈ ns := by
  have hnone : ns.find? (fun n => n < 0 || (maxCpuId : Int) < n) = none := by
    rw [List.find?_eq_none]
    intro n hn
    have hid : 0 ≤ n ∧ n ≤ maxCpuId := hall n hn
    simp only [Bool.or_eq_true, decide_eq_true_eq]
    omega
  obtain ⟨n, hn⟩ := List.exists_mem_of_ne_nil ns h
  have hid : 0 ≤ n ∧ n ≤ maxCpuId := hall n hn
  have hcpu : ns.contains (n.toNat : Int) = true := by
    rw [List.contains_iff_mem, Int.toNat_of_nonneg hid.1]
    exact hn
  obtain ⟨mask, hmask⟩ :=
    CpuMask.exists_ofPred? (p := fun id => ns.contains (id : Int)) (by omega) hcpu
  have hok : (ids ns).mask = .ok mask := by
    simp only [MaskForm.mask, hnone, hmask]
  exact ⟨mask, hok, fun cpu => mem_of_ids hok⟩

theorem exists_mask_of_commaText (h : ns ≠ []) (hall : ∀ n ∈ ns, IsCpuId n) :
    ∃ mask, (text (commaText ns)).mask = .ok mask ∧
      ∀ cpu : Nat, cpu ∈ mask ↔ (cpu : Int) ∈ ns := by
  have hparts : List.Forall₂ IsRegion (maskParts (commaText ns))
      (ns.map fun n => ⟨n.toNat, n.toNat⟩) := by
    rw [maskParts_commaText h, List.forall₂_map_left_iff, List.forall₂_map_right_iff,
      List.forall₂_same]
    intro n hn
    exact isRegion_showInt_iff.2 ⟨hall n hn, rfl⟩
  obtain ⟨mask, hmask, hmem⟩ := exists_mask_of_regions hparts
  refine ⟨mask, hmask, ?_⟩
  intro cpu
  rw [hmem]
  constructor
  · rintro ⟨r, hr, hlo, hhi⟩
    obtain ⟨n, hn, rfl⟩ := List.mem_map.1 hr
    have hid : 0 ≤ n ∧ n ≤ maxCpuId := hall n hn
    obtain rfl : (cpu : Int) = n := by
      dsimp only at hlo hhi
      omega
    exact hn
  · intro hcpu
    exact ⟨_, List.mem_map_of_mem hcpu, Nat.le_refl _, Nat.le_refl _⟩

/-! ## A number that is none -/

/-- The first part that stands for no region is reported. -/
theorem regionsOf_append_cons {first rest : List (List Char)} {part : List Char}
    (hfirst : ∀ other ∈ first, ∃ r, IsRegion other r) (hpart : ∀ r, ¬IsRegion part r) :
    regionsOf (first ++ part :: rest) = .error part := by
  induction first with
  | nil => rw [List.nil_append, regionsOf, region?_eq_none_iff.2 hpart]
  | cons other first ih =>
      obtain ⟨⟨r, hr⟩, hothers⟩ := List.forall_mem_cons.1 hfirst
      rw [List.cons_append, regionsOf, region?_eq_some_iff_isRegion.2 hr, ih hothers]
      rfl

theorem ids_mask_append_cons (hbefore : ∀ m ∈ before, IsCpuId m) (hn : ¬IsCpuId n) :
    (ids (before ++ n :: after)).mask =
      .error (.malformed (Text.showInt n) (showIds (before ++ n :: after))) := by
  have hfirst : (before ++ n :: after).find? (fun n => n < 0 || (maxCpuId : Int) < n) =
      some n := by
    rw [List.find?_eq_some_iff_append]
    constructor
    · unfold IsCpuId at hn
      simp only [Bool.or_eq_true, decide_eq_true_eq]
      omega
    · refine ⟨before, after, rfl, ?_⟩
      intro m hm
      have hid : 0 ≤ m ∧ m ≤ maxCpuId := hbefore m hm
      simp only [Bool.not_eq_true', Bool.or_eq_false_iff, decide_eq_false_iff_not]
      omega
  simp only [MaskForm.mask, hfirst]

theorem commaText_mask_append_cons (hbefore : ∀ m ∈ before, IsCpuId m)
    (hn : ¬IsCpuId n) :
    (text (commaText (before ++ n :: after))).mask =
      .error (.malformed (Text.showInt n) (commaText (before ++ n :: after))) := by
  have hne : before ++ n :: after ≠ [] := by simp
  have hregions : regionsOf (maskParts (commaText (before ++ n :: after))) =
      .error (Text.showInt n).toList := by
    rw [maskParts_commaText hne, List.map_append, List.map_cons]
    apply regionsOf_append_cons
    · intro part hpart
      obtain ⟨m, hm, rfl⟩ := List.mem_map.1 hpart
      exact exists_isRegion_showInt_iff.2 (hbefore m hm)
    · intro r hr
      exact hn (exists_isRegion_showInt_iff.1 ⟨r, hr⟩)
  simp only [MaskForm.mask, splitBy_comma, hregions, String.ofList_toList]

/-! ## Both notations -/

/-- Numbers are either all ids of CPUs, or there is a first one that is none. -/
theorem all_or_first (ns : List Int) :
    (∀ n ∈ ns, IsCpuId n) ∨
      ∃ before n after, ns = before ++ n :: after ∧ (∀ m ∈ before, IsCpuId m) ∧
        ¬IsCpuId n := by
  induction ns with
  | nil => exact .inl (by simp)
  | cons m ns ih =>
      by_cases hm : IsCpuId m
      · rcases ih with hall | ⟨before, n, after, rfl, hbefore, hn⟩
        · exact .inl (List.forall_mem_cons.2 ⟨hm, hall⟩)
        · exact .inr ⟨m :: before, n, after, rfl,
            List.forall_mem_cons.2 ⟨hm, hbefore⟩, hn⟩
      · exact .inr ⟨[], m, ns, rfl, by simp, hm⟩

/-- Some numbers, as a list and as the text of their decimal forms, are the same
mask, namely that of exactly these numbers, or they are refused in both notations for
the same one of them: the first that is negative or too large. -/
theorem notations_agree (ns : List Int) (h : ns ≠ []) :
    ((∀ n ∈ ns, IsCpuId n) ∧
      ∃ mask, (ids ns).mask = .ok mask ∧ (text (commaText ns)).mask = .ok mask ∧
        ∀ cpu : Nat, cpu ∈ mask ↔ (cpu : Int) ∈ ns) ∨
    ∃ before n after, ns = before ++ n :: after ∧ (∀ m ∈ before, IsCpuId m) ∧
      (n < 0 ∨ (maxCpuId : Int) < n) ∧
      (ids ns).mask = .error (.malformed (Text.showInt n) (showIds ns)) ∧
      (text (commaText ns)).mask = .error (.malformed (Text.showInt n) (commaText ns)) := by
  rcases all_or_first ns with hall | ⟨before, n, after, rfl, hbefore, hn⟩
  · obtain ⟨mask, hmask, hmem⟩ := exists_mask_of_ids h hall
    obtain ⟨other, hother, hothers⟩ := exists_mask_of_commaText h hall
    have hsame : other = mask :=
      CpuMask.eq_of_mem_iff fun cpu => (hothers cpu).trans (hmem cpu).symm
    rw [hsame] at hother
    exact .inl ⟨hall, mask, hmask, hother, hmem⟩
  · have hout : n < 0 ∨ (maxCpuId : Int) < n := by
      unfold IsCpuId at hn
      omega
    exact .inr ⟨before, n, after, rfl, hbefore, hout, ids_mask_append_cons hbefore hn,
      commaText_mask_append_cons hbefore hn⟩

end MaskForm

namespace Sample

/-- Numbers of which the second is the least that fits in 64 bits. -/
def mixed : List Int := [3, -9223372036854775808, 2000]

end Sample

open Sample (mixed)

theorem MaskForm.notations_agree_sample :
    (∃ mask, (ids [8, 0, 8]).mask = .ok mask ∧ (text "8,0,8").mask = .ok mask ∧
      ∀ cpu : Nat, cpu ∈ mask ↔ (cpu : Int) ∈ ([8, 0, 8] : List Int)) ∧
    (ids mixed).mask = .error (.malformed "-9223372036854775808"
      "[3, -9223372036854775808, 2000]") ∧
    (text "3,-9223372036854775808,2000").mask = .error
      (.malformed "-9223372036854775808" "3,-9223372036854775808,2000") := by
  have htext : commaText [8, 0, 8] = "8,0,8" := by cbv
  have hmixed : commaText mixed = "3,-9223372036854775808,2000" := by cbv
  constructor
  · rcases notations_agree [8, 0, 8] (by decide) with
      ⟨-, mask, hids, hother, hmem⟩ | ⟨before, n, after, hsplit, -, hout, -, -⟩
    · rw [htext] at hother
      exact ⟨mask, hids, hother, hmem⟩
    · have hn : n ∈ ([8, 0, 8] : List Int) := hsplit ▸ List.mem_append_cons_self
      have hall : ∀ m ∈ ([8, 0, 8] : List Int), ¬(m < 0 ∨ (maxCpuId : Int) < m) := by
        decide
      exact absurd hout (hall n hn)
  · rcases notations_agree mixed (by decide) with
      ⟨hall, -⟩ | ⟨before, n, after, hsplit, hbefore, hout, hids, hother⟩
    · exact absurd hall (by decide)
    · have hn : n = -9223372036854775808 := by
        cases before with
        | nil =>
            obtain ⟨rfl, -⟩ := List.cons.inj hsplit
            exact absurd hout (by decide)
        | cons m before =>
            obtain ⟨rfl, hrest⟩ := List.cons.inj hsplit
            cases before with
            | nil => exact (List.cons.inj hrest).1.symm
            | cons m before =>
                obtain ⟨rfl, -⟩ := List.cons.inj hrest
                have hid : IsCpuId (-9223372036854775808) := hbefore _ (by simp)
                exact absurd hid (by decide)
      rw [hmixed, hn] at hother
      rw [hn] at hids
      exact ⟨hids, hother⟩

end CpuPinning
