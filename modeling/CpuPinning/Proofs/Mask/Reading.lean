import Mathlib.Data.List.Pairwise
import CpuPinning.Mask.Reading

/-!
# What masks name

The CPUs that the value of a mask names, said without any limit on their
numbers.  A value that is accepted as a mask has exactly the CPUs that it names:
the limit refuses values, it does not cut masks.
-/

namespace CpuPinning

/-! ## The CPUs that a value names -/

/-- A part of a mask text stands for the numbers from `lo` to `hi`.  Blanks in it
do not count. -/
inductive Spans (part : List Char) : Nat → Nat → Prop
  | single {n : Nat} :
      Text.readDigits? (part.filter (!Text.isBlank ·)) = some n → Spans part n n
  | range {first second : List Char} {lo hi : Nat} :
      part.filter (!Text.isBlank ·) = first ++ '-' :: second →
      Text.readDigits? first = some lo → Text.readDigits? second = some hi →
      Spans part lo hi

/-- A part of a mask text names a CPU. -/
def PartNames (part : List Char) (cpu : Nat) : Prop :=
  ∃ lo hi, Spans part lo hi ∧ lo ≤ cpu ∧ cpu ≤ hi

/-- A value names a CPU: as one of its numbers, or in a part of its text. -/
def Value.NamesCpu : Value → Nat → Prop
  | .arr items, cpu => .int cpu ∈ items
  | .str s, cpu => ∃ part ∈ Text.splitBy (· == ',') s.toList, PartNames part cpu
  | _, _ => False

/-! ## Regions -/

theorem ne_dash_of_readDigits? {cs : List Char} {n : Nat}
    (h : Text.readDigits? cs = some n) : ∀ c ∈ cs, (c == '-') = false := by
  intro c hc
  have hdigit : Text.isDigit c = true := Text.isDigit_of_readDigits? h c hc
  rw [beq_eq_false_iff_ne]
  rintro rfl
  exact absurd hdigit (by decide)

namespace MaskForm

theorem cpuId?_eq_some_iff {cs : List Char} {n : Nat} :
    cpuId? cs = some n ↔ Text.readDigits? cs = some n ∧ n ≤ maxCpuId := by
  simp [cpuId?, Option.filter_eq_some_iff]

/-- A part that is accepted stands for its region, and the region is within the
limit. -/
theorem spans_of_region? {part : List Char} {r : Region}
    (h : region? part = some r) : Spans part r.lo r.hi ∧ r.hi ≤ maxCpuId := by
  unfold region? at h
  split at h
  · next word hsplit =>
      obtain ⟨n, hn, rfl⟩ := Option.map_eq_some_iff.1 h
      obtain ⟨hdigits, hbound⟩ := cpuId?_eq_some_iff.1 hn
      rcases Text.splitBy_eq_cons hsplit with ⟨-, hword⟩ | ⟨s, rest, -, -, hrest⟩
      · rw [← hword] at hdigits
        exact ⟨.single hdigits, hbound⟩
      · exact absurd hrest (Text.splitBy_ne_nil _ rest)
  · next first second hsplit =>
      obtain ⟨lo, hlo, h⟩ := Option.bind_eq_some_iff.1 h
      obtain ⟨hi, hhi, h⟩ := Option.bind_eq_some_iff.1 h
      obtain ⟨hfirst, -⟩ := cpuId?_eq_some_iff.1 hlo
      obtain ⟨hsecond, hbound⟩ := cpuId?_eq_some_iff.1 hhi
      have hr : (⟨lo, hi⟩ : Region) = r := by
        split at h
        · exact Option.some.inj h
        · cases h
      subst hr
      rcases Text.splitBy_eq_cons hsplit with ⟨hnil, -⟩ | ⟨s, rest, hs, hword, hrest⟩
      · cases hnil
      · obtain rfl : s = '-' := by simpa using hs
        rcases Text.splitBy_eq_cons hrest with ⟨-, rfl⟩ | ⟨s', more, -, -, hmore⟩
        · exact ⟨.range hword hfirst hsecond, hbound⟩
        · exact absurd hmore (Text.splitBy_ne_nil _ more)
  · cases h

theorem cpuId?_of_readDigits? {cs : List Char} {n : Nat}
    (h : Text.readDigits? cs = some n) :
    cpuId? cs = if n ≤ maxCpuId then some n else none := by
  simp [cpuId?, h, Option.filter]

/-- A part that stands for some numbers is accepted if they ascend and are within
the limit. -/
theorem region?_of_spans {part : List Char} {lo hi : Nat} (h : Spans part lo hi) :
    region? part = if lo ≤ hi ∧ hi ≤ maxCpuId then some ⟨lo, hi⟩ else none := by
  unfold region?
  cases h with
  | single hdigits =>
      rw [Text.splitBy_of_forall (ne_dash_of_readDigits? hdigits)]
      simp only [cpuId?_of_readDigits? hdigits, Nat.le_refl, true_and]
      split <;> rfl
  | range hword hfirst hsecond =>
      rw [hword, Text.splitBy_append_cons rfl (ne_dash_of_readDigits? hfirst),
        Text.splitBy_of_forall (ne_dash_of_readDigits? hsecond)]
      simp only [cpuId?_of_readDigits? hfirst, cpuId?_of_readDigits? hsecond]
      by_cases hhi : hi ≤ maxCpuId
      · by_cases hle : lo ≤ hi
        · simp [Nat.le_trans hle hhi, hhi, hle]
        · simp [hhi, hle, Nat.not_le.1 hle]
      · simp [hhi]

theorem region?_eq_some_iff {part : List Char} {r : Region} :
    region? part = some r ↔ Spans part r.lo r.hi ∧ r.lo ≤ r.hi ∧ r.hi ≤ maxCpuId := by
  constructor
  · intro h
    obtain ⟨hspans, -⟩ := spans_of_region? h
    rw [region?_of_spans hspans] at h
    split at h
    · next hbounds => exact ⟨hspans, hbounds⟩
    · cases h
  · rintro ⟨hspans, hbounds⟩
    rw [region?_of_spans hspans, if_pos hbounds]

theorem contains_iff_partNames {part : List Char} {r : Region}
    (h : region? part = some r) {cpu : Nat} :
    r.contains cpu = true ↔ PartNames part cpu := by
  obtain ⟨hspans, -⟩ := spans_of_region? h
  simp only [Region.contains, Bool.and_eq_true, decide_eq_true_eq]
  constructor
  · rintro ⟨hlo, hhi⟩
    exact ⟨r.lo, r.hi, hspans, hlo, hhi⟩
  · rintro ⟨lo, hi, hother, hlo, hhi⟩
    have hbounds : lo ≤ hi ∧ hi ≤ maxCpuId := by
      by_contra hnot
      rw [region?_of_spans hother, if_neg hnot] at h
      cases h
    rw [region?_of_spans hother, if_pos hbounds] at h
    obtain rfl := Option.some.inj h
    exact ⟨hlo, hhi⟩

theorem partNames_le {part : List Char} {r : Region} (h : region? part = some r)
    {cpu : Nat} (hcpu : PartNames part cpu) : cpu ≤ maxCpuId := by
  obtain ⟨-, hbound⟩ := spans_of_region? h
  have hcontains := (contains_iff_partNames h).2 hcpu
  simp only [Region.contains, Bool.and_eq_true, decide_eq_true_eq] at hcontains
  exact Nat.le_trans hcontains.2 hbound

/-- The regions of a text have the CPUs that its parts name, all of them within
the limit. -/
theorem any_contains_iff {parts : List (List Char)} {rs : List Region}
    (h : regionsOf parts = .ok rs) {cpu : Nat} :
    (rs.any (·.contains cpu) = true ↔ ∃ part ∈ parts, PartNames part cpu) ∧
      ((∃ part ∈ parts, PartNames part cpu) → cpu ≤ maxCpuId) := by
  induction parts generalizing rs with
  | nil =>
      cases h
      simp
  | cons part parts ih =>
      rw [regionsOf] at h
      split at h
      · cases h
      · next r hr =>
          cases hrest : regionsOf parts with
          | error e =>
              rw [hrest] at h
              cases h
          | ok more =>
              rw [hrest] at h
              cases h
              obtain ⟨hany, hbound⟩ := ih hrest
              simp only [List.mem_cons, or_and_right, exists_or, exists_eq_left]
              constructor
              · rw [List.any_cons, Bool.or_eq_true, contains_iff_partNames hr,
                  hany]
              · rintro (hcpu | hcpu)
                · exact partNames_le hr hcpu
                · exact hbound hcpu

/-! ## Numbers -/

theorem mem_of_wholeNumbers {items : List Value} {ns : List Int}
    (h : wholeNumbers items = .ok ns) {n : Int} : n ∈ ns ↔ .int n ∈ items := by
  induction items generalizing ns with
  | nil =>
      cases h
      simp
  | cons v items ih =>
      rw [wholeNumbers] at h
      split at h
      · cases h
      · next m hm =>
          cases hrest : wholeNumbers items with
          | error e =>
              rw [hrest] at h
              cases h
          | ok more =>
              rw [hrest] at h
              cases h
              rw [List.mem_cons, List.mem_cons, ih hrest,
                Value.eq_int_of_toInt64? hm, Value.int.injEq]

theorem mem_of_ids {ns : List Int} {mask : CpuMask}
    (h : (ids ns).mask = .ok mask) {cpu : Nat} : cpu ∈ mask ↔ (cpu : Int) ∈ ns := by
  simp only [MaskForm.mask] at h
  split at h
  · cases h
  · next hwithin =>
      split at h
      · next found hfound =>
          obtain rfl : found = mask := Except.ok.inj h
          rw [CpuMask.mem_ofPred? hfound, List.contains_iff_mem]
          refine ⟨And.right, fun hmem => ⟨?_, hmem⟩⟩
          have hlimit := List.find?_eq_none.1 hwithin _ hmem
          simp only [Bool.or_eq_true, decide_eq_true_eq, not_or] at hlimit
          omega
      · cases h

theorem mem_of_text {s : String} {mask : CpuMask} (h : (text s).mask = .ok mask)
    {cpu : Nat} :
    cpu ∈ mask ↔
      ∃ part ∈ Text.splitBy (· == ',') s.toList, PartNames part cpu := by
  simp only [MaskForm.mask] at h
  split at h
  · cases h
  · next rs hrs =>
      split at h
      · next found hfound =>
          obtain rfl : found = mask := Except.ok.inj h
          obtain ⟨hany, hbound⟩ := any_contains_iff hrs
          rw [CpuMask.mem_ofPred? hfound, hany]
          exact ⟨And.right, fun hcpu => ⟨hbound hcpu, hcpu⟩⟩
      · cases h

end MaskForm

/-! ## Masks -/

theorem exists_of_ofValue_eq_ok {v : Value} {mask : CpuMask}
    (h : readMask v = .ok mask) :
    ∃ form, MaskForm.ofValue v = .ok form ∧ form.mask = .ok mask := by
  unfold readMask at h
  cases hform : MaskForm.ofValue v with
  | error e =>
      rw [hform] at h
      cases h
  | ok form =>
      rw [hform] at h
      exact ⟨form, rfl, h⟩

/-- A mask has exactly the CPUs that its value names. -/
theorem mem_iff_namesCpu {v : Value} {mask : CpuMask}
    (h : readMask v = .ok mask) {cpu : Nat} : cpu ∈ mask ↔ v.NamesCpu cpu := by
  obtain ⟨form, hform, hmask⟩ := exists_of_ofValue_eq_ok h
  unfold MaskForm.ofValue at hform
  split at hform
  · obtain rfl := Except.ok.inj hform
    exact MaskForm.mem_of_text hmask
  · split at hform
    · next ns hns =>
        obtain rfl := Except.ok.inj hform
        exact (MaskForm.mem_of_ids hmask).trans (MaskForm.mem_of_wholeNumbers hns)
    · cases hform
  · cases hform

namespace CpuMask

theorem getLast?_ids (mask : CpuMask) : mask.ids.getLast? = some mask.max :=
  List.getLast?_eq_some_getLast mask.nonempty

theorem max_mem (mask : CpuMask) : mask.max ∈ mask :=
  List.getLast_mem mask.nonempty

theorem le_max {mask : CpuMask} {cpu : Nat} (h : cpu ∈ mask) : cpu ≤ mask.max :=
  (mask.ascending.imp Nat.le_of_lt).rel_getLast h

theorem exceeds_eq_false_iff {mask : CpuMask} {count : Nat} :
    mask.exceeds count = false ↔ ∀ cpu ∈ mask, cpu ≤ count := by
  rw [exceeds, decide_eq_false_iff_not, Nat.not_lt]
  constructor
  · intro hmax cpu hcpu
    exact Nat.le_trans (le_max hcpu) hmax
  · intro hall
    exact hall _ mask.max_mem

end CpuMask

end CpuPinning
