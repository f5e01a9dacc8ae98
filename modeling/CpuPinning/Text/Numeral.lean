/-!
# Decimal numerals

Reading whole numbers written in ASCII digits, and writing them.  A numeral may carry any number of
leading zeros; its value is what the bound is compared with.
-/

namespace CpuPinning.Text

/-- An ASCII digit; digits of other scripts do not count. -/
def isDigit (c : Char) : Bool := '0' ≤ c && c ≤ '9'

/-- The value of an ASCII digit. -/
def digitValue (c : Char) : Nat := c.toNat - '0'.toNat

/-- The number that a digit string denotes, most significant digit first. -/
def digitsValue (cs : List Char) : Nat :=
  cs.foldl (fun n c => 10 * n + digitValue c) 0

/-- The value of a non-empty string of ASCII digits. -/
def readDigits? (cs : List Char) : Option Nat :=
  if cs.isEmpty || !cs.all isDigit then none else some (digitsValue cs)

theorem isDigit_of_readDigits? {cs : List Char} {n : Nat} (h : readDigits? cs = some n) :
    ∀ c ∈ cs, isDigit c = true := by
  unfold readDigits? at h
  split at h
  · cases h
  · next hdigits =>
    have hall : cs.all isDigit = true := by
      simp only [Bool.or_eq_true, not_or, Bool.not_eq_true', Bool.not_eq_false] at hdigits
      exact hdigits.2
    exact List.all_eq_true.1 hall

/-- Some ASCII digits stand for a number.  Zeros in front do not count. -/
structure Numeral (cs : List Char) (n : Nat) : Prop where
  nonempty : cs ≠ []
  digits : ∀ c ∈ cs, c.isDigit = true
  value : Nat.ofDigitChars 10 cs 0 = n

theorem readDigits?_eq_some_iff {cs : List Char} {n : Nat} :
    readDigits? cs = some n ↔ Numeral cs n := by
  have hvalue : digitsValue cs = Nat.ofDigitChars 10 cs 0 := rfl
  have hdigit : isDigit = Char.isDigit := rfl
  unfold readDigits?
  rw [hvalue, hdigit]
  constructor
  · intro h
    split at h
    · cases h
    · next hcs =>
      simp only [Bool.or_eq_true, not_or, Bool.not_eq_true', Bool.not_eq_false,
        List.isEmpty_iff] at hcs
      exact ⟨hcs.1, List.all_eq_true.1 hcs.2, Option.some.inj h⟩
  · rintro ⟨hne, hdigits, hn⟩
    have hall : cs.all Char.isDigit = true := List.all_eq_true.2 hdigits
    simp [hne, hall, hn]

/-- Reads digits after an optional plus sign, for a value below `bound`. -/
def readNat? (bound : Nat) (cs : List Char) : Option Nat :=
  let digits := match cs with
    | '+' :: rest => rest
    | _ => cs
  (readDigits? digits).filter (· < bound)

/-- A number below a bound, as it may be written: in digits, with or without a plus sign
before them. -/
inductive Written (bound : Nat) : List Char → Nat → Prop
  | plain {cs : List Char} {n : Nat} : Numeral cs n → n < bound → Written bound cs n
  | signed {cs : List Char} {n : Nat} : Numeral cs n → n < bound → Written bound ('+' :: cs) n

theorem Numeral.ne_plus {c : Char} {cs : List Char} {n : Nat} (h : Numeral (c :: cs) n) :
    c ≠ '+' := by
  rintro rfl
  have hdigit : '+'.isDigit = true := h.digits '+' List.mem_cons_self
  exact absurd hdigit (by decide)

theorem filter_lt_eq_some_iff {bound n : Nat} {cs : List Char} :
    (readDigits? cs).filter (· < bound) = some n ↔ Numeral cs n ∧ n < bound := by
  rw [Option.filter_eq_some_iff, readDigits?_eq_some_iff, decide_eq_true_iff]

theorem readNat?_signed (bound : Nat) (cs : List Char) :
    readNat? bound ('+' :: cs) = (readDigits? cs).filter (· < bound) := rfl

theorem readNat?_plain {cs : List Char} (bound : Nat) (h : ∀ rest, cs ≠ '+' :: rest) :
    readNat? bound cs = (readDigits? cs).filter (· < bound) := by
  unfold readNat?
  split
  · next rest => exact absurd rfl (h rest)
  · rfl

theorem readNat?_eq_some_iff {bound n : Nat} {cs : List Char} :
    readNat? bound cs = some n ↔ Written bound cs n := by
  by_cases hsign : ∃ rest, cs = '+' :: rest
  · obtain ⟨rest, rfl⟩ := hsign
    rw [readNat?_signed, filter_lt_eq_some_iff]
    constructor
    · rintro ⟨hdigits, hbound⟩
      exact .signed hdigits hbound
    · intro h
      cases h with
      | plain hdigits hbound => exact absurd rfl hdigits.ne_plus
      | signed hdigits hbound => exact ⟨hdigits, hbound⟩
  · rw [readNat?_plain bound fun rest hcs => hsign ⟨rest, hcs⟩, filter_lt_eq_some_iff]
    constructor
    · rintro ⟨hdigits, hbound⟩
      exact .plain hdigits hbound
    · intro h
      cases h with
      | plain hdigits hbound => exact ⟨hdigits, hbound⟩
      | signed hdigits hbound => exact absurd ⟨_, rfl⟩ hsign

/-- The numbers that fit in 32 bits. -/
def word32 : Nat := 0x100000000

/-- The numbers that fit in 64 bits. -/
def word64 : Nat := 0x10000000000000000

/-- The decimal digits of a number, without leading zeros. -/
def showNat (n : Nat) : String := String.ofList (Nat.toDigits 10 n)

theorem numeral_toDigits (n : Nat) : Numeral (Nat.toDigits 10 n) n where
  nonempty := Nat.toDigits_ne_nil
  digits := fun _ hc => Nat.isDigit_of_mem_toDigits (by decide) (by decide) hc
  value := Nat.ofDigitChars_ten_toDigits

/-- The decimal form of a whole number, with a minus sign before a negative one. -/
def showInt (n : Int) : String :=
  match n with
  | .ofNat n => showNat n
  | .negSucc n => "-" ++ showNat (n + 1)

end CpuPinning.Text
