import CpuPinning.Text.Utf8

/-!
# Texts as bytes

Strict decoding is the inverse of encoding: a byte string is decoded exactly if it
is the encoding of some text, and then to that text.  A byte below 128 stands for
itself wherever it occurs, so it cuts a text in the same place in both forms.
-/

namespace CpuPinning.Text

/-- The bytes of some text. -/
def IsText (bytes : List UInt8) : Prop := ∃ cs, bytes = encode cs

/-- The sequences of bytes that stand for the character of number `n`. -/
inductive Sequence (n : Nat) : List UInt8 → Prop
  | one {b : UInt8} : b < 0x80 → n = b.toNat → Sequence n [b]
  | two {b b₁ : UInt8} : continues 0xC2 0xDF b = true →
      continues 0x80 0xBF b₁ = true →
      n = b.toNat % 32 * 64 + payload b₁ → Sequence n [b, b₁]
  | three {b b₁ b₂ : UInt8} : continues 0xE0 0xEF b = true →
      continues (secondOfThree b).1 (secondOfThree b).2 b₁ = true →
      continues 0x80 0xBF b₂ = true →
      n = (b.toNat % 16 * 64 + payload b₁) * 64 + payload b₂ →
      Sequence n [b, b₁, b₂]
  | four {b b₁ b₂ b₃ : UInt8} : continues 0xF0 0xF4 b = true →
      continues (secondOfFour b).1 (secondOfFour b).2 b₁ = true →
      continues 0x80 0xBF b₂ = true → continues 0x80 0xBF b₃ = true →
      n = ((b.toNat % 8 * 64 + payload b₁) * 64 + payload b₂) * 64 + payload b₃ →
      Sequence n [b, b₁, b₂, b₃]

variable {b b₁ lo hi lo' hi' : UInt8} {bytes rest more first second : List UInt8}
  {c : Char} {cs : List Char} {n : Nat}

/-! ## Ranges of bytes -/

theorem continues_iff :
    continues lo hi b = true ↔ lo.toNat ≤ b.toNat ∧ b.toNat ≤ hi.toNat := by
  simp [continues, UInt8.le_iff_toNat_le]

theorem continuation_iff :
    continues 0x80 0xBF b = true ↔ 0x80 ≤ b.toNat ∧ b.toNat ≤ 0xBF :=
  continues_iff

theorem continues_eq_false (h : continues lo hi b = true) (hapart : hi' < lo) :
    continues lo' hi' b = false := by
  rw [Bool.eq_false_iff, ne_eq, continues_iff]
  rw [continues_iff] at h
  rw [UInt8.lt_iff_toNat_lt] at hapart
  omega

theorem not_ascii_of_continues (h : continues lo hi b = true) (hlo : 0x80 ≤ lo) :
    ¬b < 0x80 := by
  rw [continues_iff] at h
  rw [UInt8.le_iff_toNat_le] at hlo
  rw [UInt8.lt_iff_toNat_lt]
  omega

theorem secondOfThree_iff :
    continues (secondOfThree b).1 (secondOfThree b).2 b₁ = true ↔
      (0x80 ≤ b₁.toNat ∧ b₁.toNat ≤ 0xBF) ∧ (b.toNat = 0xE0 → 0xA0 ≤ b₁.toNat) ∧
        (b.toNat = 0xED → b₁.toNat ≤ 0x9F) := by
  rw [continues_iff, secondOfThree]
  simp only [beq_iff_eq, ← UInt8.toNat_inj, UInt8.reduceToNat]
  split
  · simp only [UInt8.reduceToNat]
    omega
  · split
    · simp only [UInt8.reduceToNat]
      omega
    · simp only [UInt8.reduceToNat]
      omega

theorem secondOfFour_iff :
    continues (secondOfFour b).1 (secondOfFour b).2 b₁ = true ↔
      (0x80 ≤ b₁.toNat ∧ b₁.toNat ≤ 0xBF) ∧ (b.toNat = 0xF0 → 0x90 ≤ b₁.toNat) ∧
        (b.toNat = 0xF4 → b₁.toNat ≤ 0x8F) := by
  rw [continues_iff, secondOfFour]
  simp only [beq_iff_eq, ← UInt8.toNat_inj, UInt8.reduceToNat]
  split
  · simp only [UInt8.reduceToNat]
    omega
  · split
    · simp only [UInt8.reduceToNat]
      omega
    · simp only [UInt8.reduceToNat]
      omega

/-! ## One character -/

theorem ofNat_eq_of_toNat {m : Nat} (h : m = b.toNat) : UInt8.ofNat m = b := by
  subst h
  exact UInt8.ofNat_toNat

theorem toNat_ofNat_of_valid (h : n.isValidChar) : (Char.ofNat n).val.toNat = n := by
  rw [Char.ofNat, dif_pos h]
  exact UInt32.toNat_ofNatLT

theorem Sequence.isValidChar (h : Sequence n bytes) : n.isValidChar := by
  unfold Nat.isValidChar
  cases h with
  | @one b hb hn =>
      have hlead : b.toNat < 0x80 := UInt8.lt_iff_toNat_lt.1 hb
      omega
  | @two b b₁ hb h₁ hn =>
      have hlead : 0xC2 ≤ b.toNat ∧ b.toNat ≤ 0xDF := continues_iff.1 hb
      unfold payload at hn
      omega
  | @three b b₁ b₂ hb h₁ h₂ hn =>
      have hlead : 0xE0 ≤ b.toNat ∧ b.toNat ≤ 0xEF := continues_iff.1 hb
      rw [secondOfThree_iff] at h₁
      unfold payload at hn
      omega
  | @four b b₁ b₂ b₃ hb h₁ h₂ h₃ hn =>
      have hlead : 0xF0 ≤ b.toNat ∧ b.toNat ≤ 0xF4 := continues_iff.1 hb
      rw [secondOfFour_iff] at h₁
      unfold payload at hn
      omega

/-- No other sequence stands for a character than its encoding. -/
theorem Sequence.eq_encode (h : Sequence n bytes) (hc : c.val.toNat = n) :
    bytes = String.utf8EncodeChar c := by
  unfold String.utf8EncodeChar
  simp only [hc]
  cases h with
  | @one b hb hn =>
      have hlead : b.toNat < 0x80 := UInt8.lt_iff_toNat_lt.1 hb
      rw [if_pos (by omega), ofNat_eq_of_toNat hn]
  | @two b b₁ hb h₁ hn =>
      have hlead : 0xC2 ≤ b.toNat ∧ b.toNat ≤ 0xDF := continues_iff.1 hb
      rw [continuation_iff] at h₁
      unfold payload at hn
      have hbyte : UInt8.ofNat (n / 64 % 32 + 192) = b :=
        ofNat_eq_of_toNat (by omega)
      have hbyte₁ : UInt8.ofNat (n % 64 + 128) = b₁ := ofNat_eq_of_toNat (by omega)
      rw [if_neg (by omega), if_pos (by omega), hbyte, hbyte₁]
  | @three b b₁ b₂ hb h₁ h₂ hn =>
      have hlead : 0xE0 ≤ b.toNat ∧ b.toNat ≤ 0xEF := continues_iff.1 hb
      rw [secondOfThree_iff] at h₁
      rw [continuation_iff] at h₂
      unfold payload at hn
      have hbyte : UInt8.ofNat (n / 4096 % 16 + 224) = b :=
        ofNat_eq_of_toNat (by omega)
      have hbyte₁ : UInt8.ofNat (n / 64 % 64 + 128) = b₁ :=
        ofNat_eq_of_toNat (by omega)
      have hbyte₂ : UInt8.ofNat (n % 64 + 128) = b₂ := ofNat_eq_of_toNat (by omega)
      rw [if_neg (by omega), if_neg (by omega), if_pos (by omega), hbyte, hbyte₁,
        hbyte₂]
  | @four b b₁ b₂ b₃ hb h₁ h₂ h₃ hn =>
      have hlead : 0xF0 ≤ b.toNat ∧ b.toNat ≤ 0xF4 := continues_iff.1 hb
      rw [secondOfFour_iff] at h₁
      rw [continuation_iff] at h₂ h₃
      unfold payload at hn
      have hbyte : UInt8.ofNat (n / 262144 % 8 + 240) = b :=
        ofNat_eq_of_toNat (by omega)
      have hbyte₁ : UInt8.ofNat (n / 4096 % 64 + 128) = b₁ :=
        ofNat_eq_of_toNat (by omega)
      have hbyte₂ : UInt8.ofNat (n / 64 % 64 + 128) = b₂ :=
        ofNat_eq_of_toNat (by omega)
      have hbyte₃ : UInt8.ofNat (n % 64 + 128) = b₃ := ofNat_eq_of_toNat (by omega)
      rw [if_neg (by omega), if_neg (by omega), if_neg (by omega), hbyte, hbyte₁,
        hbyte₂, hbyte₃]

theorem sequence_encode (c : Char) :
    Sequence c.toNat (String.utf8EncodeChar c) := by
  have hvalid : c.toNat < 0xD800 ∨ 0xDFFF < c.toNat ∧ c.toNat < 0x110000 := c.valid
  have hval : c.val.toNat = c.toNat := rfl
  have hbyte : ∀ m < 256, (UInt8.ofNat m).toNat = m :=
    fun m hm => UInt8.toNat_ofNat_of_lt' hm
  unfold String.utf8EncodeChar
  simp only [hval]
  generalize c.toNat = n at *
  split
  · have hb := hbyte n (by omega)
    refine .one (UInt8.lt_iff_toNat_lt.2 ?_) hb.symm
    rw [hb]
    exact Nat.lt_succ_of_le ‹n ≤ 0x7f›
  · split
    · have hb := hbyte (n / 64 % 32 + 192) (by omega)
      have h₁ := hbyte (n % 64 + 128) (by omega)
      refine .two (continues_iff.2 ?_) (continuation_iff.2 ?_) ?_
      · simp only [hb, UInt8.reduceToNat]
        omega
      · omega
      · rw [payload, hb, h₁]
        omega
    · split
      · have hb := hbyte (n / 4096 % 16 + 224) (by omega)
        have h₁ := hbyte (n / 64 % 64 + 128) (by omega)
        have h₂ := hbyte (n % 64 + 128) (by omega)
        refine .three (continues_iff.2 ?_) (secondOfThree_iff.2 ?_)
          (continuation_iff.2 ?_) ?_
        · simp only [hb, UInt8.reduceToNat]
          omega
        · omega
        · omega
        · rw [payload, payload, hb, h₁, h₂]
          omega
      · have hb := hbyte (n / 262144 % 8 + 240) (by omega)
        have h₁ := hbyte (n / 4096 % 64 + 128) (by omega)
        have h₂ := hbyte (n / 64 % 64 + 128) (by omega)
        have h₃ := hbyte (n % 64 + 128) (by omega)
        refine .four (continues_iff.2 ?_) (secondOfFour_iff.2 ?_)
          (continuation_iff.2 ?_) (continuation_iff.2 ?_) ?_
        · simp only [hb, UInt8.reduceToNat]
          omega
        · omega
        · omega
        · omega
        · rw [payload, payload, payload, hb, h₁, h₂, h₃]
          omega

/-- A byte below 128 stands alone. -/
theorem Sequence.eq_singleton (h : Sequence n bytes) (hmem : b ∈ bytes)
    (hb : b < 0x80) : bytes = [b] ∧ n = b.toNat := by
  cases h with
  | one hlead hn =>
      obtain rfl := List.mem_singleton.1 hmem
      exact ⟨rfl, hn⟩
  | two hlead h₁ hn =>
      simp only [List.mem_cons, List.not_mem_nil, or_false] at hmem
      rcases hmem with rfl | rfl
      · exact absurd hb (not_ascii_of_continues hlead (by decide))
      · exact absurd hb (not_ascii_of_continues h₁ (by decide))
  | three hlead h₁ h₂ hn =>
      simp only [List.mem_cons, List.not_mem_nil, or_false] at hmem
      rcases hmem with rfl | rfl | rfl
      · exact absurd hb (not_ascii_of_continues hlead (by decide))
      · rw [secondOfThree_iff] at h₁
        exact absurd (UInt8.lt_iff_toNat_lt.1 hb) (Nat.not_lt.2 h₁.1.1)
      · exact absurd hb (not_ascii_of_continues h₂ (by decide))
  | four hlead h₁ h₂ h₃ hn =>
      simp only [List.mem_cons, List.not_mem_nil, or_false] at hmem
      rcases hmem with rfl | rfl | rfl | rfl
      · exact absurd hb (not_ascii_of_continues hlead (by decide))
      · rw [secondOfFour_iff] at h₁
        exact absurd (UInt8.lt_iff_toNat_lt.1 hb) (Nat.not_lt.2 h₁.1.1)
      · exact absurd hb (not_ascii_of_continues h₂ (by decide))
      · exact absurd hb (not_ascii_of_continues h₃ (by decide))

theorem firstUnit_of_sequence (h : Sequence n bytes) (hbytes : b :: rest = bytes ++ more) :
    firstUnit b rest = (some (Char.ofNat n), more) := by
  cases h with
  | one hlead hn =>
      obtain ⟨rfl, rfl⟩ := List.cons.inj hbytes
      unfold firstUnit
      rw [if_pos hlead, hn]
  | two hlead h₁ hn =>
      obtain ⟨rfl, rfl⟩ := List.cons.inj hbytes
      have hascii := not_ascii_of_continues hlead (by decide)
      unfold continues at hlead
      simp only [firstUnit, if_neg hascii, hlead, if_true]
      simp [h₁, hn]
  | three hlead h₁ h₂ hn =>
      obtain ⟨rfl, rfl⟩ := List.cons.inj hbytes
      have hascii := not_ascii_of_continues hlead (by decide)
      have htwo : continues 0xC2 0xDF b = false := continues_eq_false hlead (by decide)
      unfold continues at hlead htwo
      simp only [firstUnit, if_neg hascii, hlead, htwo, if_true, Bool.false_eq_true, if_false]
      simp [h₁, h₂, hn]
  | four hlead h₁ h₂ h₃ hn =>
      obtain ⟨rfl, rfl⟩ := List.cons.inj hbytes
      have hascii := not_ascii_of_continues hlead (by decide)
      have htwo : continues 0xC2 0xDF b = false := continues_eq_false hlead (by decide)
      have hthree : continues 0xE0 0xEF b = false := continues_eq_false hlead (by decide)
      unfold continues at hlead htwo hthree
      simp only [firstUnit, if_neg hascii, hlead, htwo, hthree, if_true, Bool.false_eq_true,
        if_false]
      simp [h₁, h₂, h₃, hn]

theorem exists_sequence_of_firstUnit (h : firstUnit b rest = (some c, more)) :
    ∃ bytes n, Sequence n bytes ∧ b :: rest = bytes ++ more ∧ c = Char.ofNat n := by
  unfold firstUnit at h
  repeat' split at h
  all_goals
    simp only [Prod.mk.injEq, Option.some.injEq, reduceCtorEq, false_and] at h
  · obtain ⟨rfl, rfl⟩ := h
    exact ⟨[b], _, .one ‹_› rfl, rfl, rfl⟩
  · obtain ⟨rfl, rfl⟩ := h
    exact ⟨[b, _], _, .two ‹_› ‹_› rfl, rfl, rfl⟩
  · obtain ⟨rfl, rfl⟩ := h
    exact ⟨[b, _, _], _, .three ‹_› ‹_› ‹_› rfl, rfl, rfl⟩
  · obtain ⟨rfl, rfl⟩ := h
    exact ⟨[b, _, _, _], _, .four ‹_› ‹_› ‹_› ‹_› rfl, rfl, rfl⟩

/-- A unit that is a character is its encoding. -/
theorem firstUnit_eq_some_iff :
    firstUnit b rest = (some c, more) ↔ b :: rest = String.utf8EncodeChar c ++ more := by
  constructor
  · intro h
    obtain ⟨bytes, n, hseq, hbytes, rfl⟩ := exists_sequence_of_firstUnit h
    rw [hbytes, ← hseq.eq_encode (toNat_ofNat_of_valid hseq.isValidChar)]
  · intro h
    rw [firstUnit_of_sequence (sequence_encode c) h, Char.ofNat_toNat]

/-! ## Decoding -/

theorem decode?_nil : decode? [] = some [] := by
  rw [decode?, units]
  rfl

theorem decode?_cons (b : UInt8) (rest : List UInt8) :
    decode? (b :: rest) = (firstUnit b rest).1.bind fun c =>
      (decode? (firstUnit b rest).2).map (c :: ·) := by
  rw [decode?, units, List.mapM_cons]
  cases (firstUnit b rest).1 with
  | none => rfl
  | some c =>
      simp only [decode?]
      cases (units (firstUnit b rest).2).mapM id <;> rfl

/-- The encoding of a text begins with its first character. -/
theorem exists_firstUnit_encode_cons (c : Char) (cs : List Char) :
    ∃ b rest, encode (c :: cs) = b :: rest ∧ firstUnit b rest = (some c, encode cs) := by
  have hne : encode (c :: cs) ≠ [] := by
    intro hnil
    exact absurd (List.append_eq_nil_iff.1 hnil).1 String.utf8EncodeChar_ne_nil
  obtain ⟨b, rest, hbytes⟩ := List.exists_cons_of_ne_nil hne
  exact ⟨b, rest, hbytes, firstUnit_eq_some_iff.2 hbytes.symm⟩

theorem decode?_encode (cs : List Char) : decode? (encode cs) = some cs := by
  induction cs with
  | nil => exact decode?_nil
  | cons c cs ih =>
      obtain ⟨b, rest, hbytes, hfirst⟩ := exists_firstUnit_encode_cons c cs
      rw [hbytes, decode?_cons, hfirst]
      simp [ih]

theorem eq_of_encode_eq {cs ds : List Char} (h : encode cs = encode ds) : cs = ds := by
  have hdecoded := decode?_encode cs
  rw [h, decode?_encode] at hdecoded
  exact (Option.some.inj hdecoded).symm

/-- The encoding of a text has no fragments, so lenient decoding loses nothing of it. -/
theorem decodeLossy_encode (cs : List Char) : decodeLossy (encode cs) = cs := by
  induction cs with
  | nil =>
      rw [encode, List.flatMap_nil, decodeLossy, units]
      rfl
  | cons c cs ih =>
      obtain ⟨b, rest, hbytes, hfirst⟩ := exists_firstUnit_encode_cons c cs
      rw [hbytes, decodeLossy, units, hfirst, List.map_cons]
      exact congrArg (c :: ·) ih

theorem eq_encode_of_decode? (h : decode? bytes = some cs) : bytes = encode cs := by
  induction bytes using units.induct generalizing cs with
  | case1 =>
      rw [decode?_nil] at h
      cases h
      rfl
  | case2 b rest ih =>
      rw [decode?_cons] at h
      obtain ⟨c, hc, h⟩ := Option.bind_eq_some_iff.1 h
      obtain ⟨after, hafter, rfl⟩ := Option.map_eq_some_iff.1 h
      have hfirst : b :: rest = String.utf8EncodeChar c ++ (firstUnit b rest).2 :=
        firstUnit_eq_some_iff.1 (Prod.ext hc rfl)
      rw [hfirst, ih hafter]
      rfl

/-- A byte string is decoded exactly to the text whose encoding it is. -/
theorem decode?_eq_some_iff : decode? bytes = some cs ↔ bytes = encode cs := by
  constructor
  · exact eq_encode_of_decode?
  · rintro rfl
    exact decode?_encode cs

theorem isText_iff : IsText bytes ↔ ∃ cs, decode? bytes = some cs := by
  simp only [decode?_eq_some_iff, IsText]

theorem decode?_eq_none_iff : decode? bytes = none ↔ ¬IsText bytes := by
  simp only [Option.eq_none_iff_forall_ne_some, ne_eq, isText_iff, not_exists]

/-! ## Cutting between characters -/

/-- A text whose encoding is the beginning of that of another one begins it. -/
theorem isPrefix_of_encode_isPrefix {cs ds : List Char} (h : encode cs <+: encode ds) :
    cs <+: ds := by
  induction cs generalizing ds with
  | nil => exact List.nil_prefix
  | cons c cs ih =>
      obtain ⟨more, hmore⟩ := h
      cases ds with
      | nil =>
          obtain ⟨b, rest, hbytes, -⟩ := exists_firstUnit_encode_cons c cs
          rw [hbytes] at hmore
          cases hmore
      | cons d ds =>
          obtain ⟨b, rest, hbytes, hfirst⟩ := exists_firstUnit_encode_cons d ds
          have hother : b :: rest = String.utf8EncodeChar c ++ (encode cs ++ more) := by
            rw [← hbytes, ← hmore]
            exact List.append_assoc _ _ _
          obtain ⟨hchar, hrest⟩ :=
            Prod.mk.inj (hfirst.symm.trans (firstUnit_eq_some_iff.2 hother))
          obtain rfl := Option.some.inj hchar
          exact List.cons_prefix_cons.2 ⟨rfl, ih ⟨more, hrest.symm⟩⟩

theorem utf8ByteSize_ofList (cs : List Char) :
    (String.ofList cs).utf8ByteSize = (encode cs).length := by
  rw [String.utf8ByteSize, String.toByteArray_ofList]
  exact List.size_toByteArray

/-! ## Cutting at a byte below 128 -/

theorem encode_append (cs ds : List Char) : encode (cs ++ ds) = encode cs ++ encode ds :=
  List.flatMap_append

theorem encode_ascii (hb : b < 0x80) : String.utf8EncodeChar (Char.ofNat b.toNat) = [b] := by
  have hseq : Sequence b.toNat [b] := .one hb rfl
  exact (hseq.eq_encode (toNat_ofNat_of_valid hseq.isValidChar)).symm

theorem eq_singleton_of_mem_encode (hmem : b ∈ String.utf8EncodeChar c) (hb : b < 0x80) :
    String.utf8EncodeChar c = [b] ∧ c = Char.ofNat b.toNat := by
  obtain ⟨hbytes, hn⟩ := (sequence_encode c).eq_singleton hmem hb
  refine ⟨hbytes, ?_⟩
  rw [← hn, Char.ofNat_toNat]

/-- A text is cut wherever its encoding has a byte below 128. -/
theorem encode_eq_append_cons_iff (hb : b < 0x80) :
    encode cs = first ++ b :: second ↔
      ∃ before after, cs = before ++ Char.ofNat b.toNat :: after ∧ first = encode before ∧
        second = encode after := by
  constructor
  · intro h
    induction cs generalizing first with
    | nil => simp [encode] at h
    | cons c cs ih =>
        have hcons : String.utf8EncodeChar c ++ encode cs = first ++ b :: second := h
        rcases List.append_eq_append_iff.1 hcons with
          ⟨more, rfl, hmore⟩ | ⟨more, hchar, hmore⟩
        · obtain ⟨before, after, rfl, rfl, rfl⟩ := ih hmore
          exact ⟨c :: before, after, rfl, rfl, rfl⟩
        · cases more with
          | nil =>
              have hrest : encode cs = [] ++ b :: second := hmore.symm
              obtain ⟨before, after, rfl, hbefore, rfl⟩ := ih hrest
              refine ⟨c :: before, after, rfl, ?_, rfl⟩
              change first = String.utf8EncodeChar c ++ encode before
              rw [← hbefore, hchar, List.append_nil, List.append_nil]
          | cons b' more =>
              -- the byte is in the encoding of `c`, so it is all of it
              obtain ⟨rfl, rfl⟩ := List.cons.inj hmore
              obtain ⟨hsingle, rfl⟩ :=
                eq_singleton_of_mem_encode (c := c) (b := b) (by simp [hchar]) hb
              have hlength := congrArg List.length (hsingle.symm.trans hchar)
              simp only [List.length_append, List.length_cons, List.length_nil] at hlength
              obtain rfl : first = [] := List.eq_nil_of_length_eq_zero (by omega)
              obtain rfl : more = [] := List.eq_nil_of_length_eq_zero (by omega)
              exact ⟨[], cs, rfl, rfl, rfl⟩
  · rintro ⟨before, after, rfl, rfl, rfl⟩
    rw [encode_append]
    change encode before ++ (String.utf8EncodeChar _ ++ encode after) = _
    rw [encode_ascii hb]
    rfl

theorem mem_encode_ascii_iff (hb : b < 0x80) : b ∈ encode cs ↔ Char.ofNat b.toNat ∈ cs := by
  constructor
  · intro hmem
    obtain ⟨first, second, hcut⟩ := List.append_of_mem hmem
    obtain ⟨before, after, rfl, -, -⟩ := (encode_eq_append_cons_iff hb).1 hcut
    exact List.mem_append_cons_self
  · intro hmem
    obtain ⟨before, after, hcut⟩ := List.append_of_mem hmem
    rw [(encode_eq_append_cons_iff hb).2 ⟨before, after, hcut, rfl, rfl⟩]
    exact List.mem_append_cons_self

/-- A byte below 128 is decoded to itself, and what stands on both sides of it apart. -/
theorem decode?_append_cons (hb : b < 0x80) (first second : List UInt8) :
    decode? (first ++ b :: second) =
      (decode? first).bind fun before => (decode? second).map fun after =>
        before ++ Char.ofNat b.toNat :: after := by
  ext cs
  simp only [Option.bind_eq_some_iff, Option.map_eq_some_iff, decode?_eq_some_iff]
  constructor
  · intro h
    obtain ⟨before, after, hcs, hfirst, hsecond⟩ := (encode_eq_append_cons_iff hb).1 h.symm
    exact ⟨before, hfirst, after, hsecond, hcs.symm⟩
  · rintro ⟨before, hfirst, after, hsecond, hcs⟩
    exact ((encode_eq_append_cons_iff hb).2
      ⟨before, after, hcs.symm, hfirst, hsecond⟩).symm

end CpuPinning.Text
