/-!
# UTF-8

A byte string is cut into units: each is a character or a fragment, the longest start of a
character that breaks off or a byte that starts none.  Strict decoding refuses fragments,
and lenient decoding writes the replacement character for each.
-/

namespace CpuPinning.Text

/-- A continuation byte whose value lies in the given range. -/
def continues (lo hi : UInt8) (b : UInt8) : Bool := lo ≤ b && b ≤ hi

def payload (b : UInt8) : Nat := b.toNat % 64

/-- The range of the second byte that the first byte of a three-byte character allows. -/
def secondOfThree (b : UInt8) : UInt8 × UInt8 :=
  if b == 0xE0 then (0xA0, 0xBF) else if b == 0xED then (0x80, 0x9F) else (0x80, 0xBF)

/-- The range of the second byte that the first byte of a four-byte character allows. -/
def secondOfFour (b : UInt8) : UInt8 × UInt8 :=
  if b == 0xF0 then (0x90, 0xBF) else if b == 0xF4 then (0x80, 0x8F) else (0x80, 0xBF)

/-- The unit that starts with the byte `b`, and the bytes after it. -/
def firstUnit (b : UInt8) (rest : List UInt8) : Option Char × List UInt8 :=
  if b < 0x80 then
    (some (Char.ofNat b.toNat), rest)
  else if 0xC2 ≤ b && b ≤ 0xDF then
    match rest with
    | b₁ :: rest₁ =>
        if continues 0x80 0xBF b₁ then
          (some (Char.ofNat (b.toNat % 32 * 64 + payload b₁)), rest₁)
        else (none, rest)
    | [] => (none, rest)
  else if 0xE0 ≤ b && b ≤ 0xEF then
    match rest with
    | b₁ :: rest₁ =>
        if continues (secondOfThree b).1 (secondOfThree b).2 b₁ then
          match rest₁ with
          | b₂ :: rest₂ =>
              if continues 0x80 0xBF b₂ then
                (some (Char.ofNat ((b.toNat % 16 * 64 + payload b₁) * 64 + payload b₂)), rest₂)
              else (none, rest₁)
          | [] => (none, rest₁)
        else (none, rest)
    | [] => (none, rest)
  else if 0xF0 ≤ b && b ≤ 0xF4 then
    match rest with
    | b₁ :: rest₁ =>
        if continues (secondOfFour b).1 (secondOfFour b).2 b₁ then
          match rest₁ with
          | b₂ :: rest₂ =>
              if continues 0x80 0xBF b₂ then
                match rest₂ with
                | b₃ :: rest₃ =>
                    if continues 0x80 0xBF b₃ then
                      (some (Char.ofNat (((b.toNat % 8 * 64 + payload b₁) * 64 + payload b₂) * 64 +
                        payload b₃)), rest₃)
                    else (none, rest₂)
                | [] => (none, rest₂)
              else (none, rest₁)
          | [] => (none, rest₁)
        else (none, rest)
    | [] => (none, rest)
  else (none, rest)

theorem length_firstUnit_le (b : UInt8) (rest : List UInt8) :
    (firstUnit b rest).2.length ≤ rest.length := by
  unfold firstUnit
  repeat' split
  all_goals
    simp only [List.length_cons]
    omega

/-- The units of a byte string, `none` standing for a fragment. -/
def units : List UInt8 → List (Option Char)
  | [] => []
  | b :: rest => (firstUnit b rest).1 :: units (firstUnit b rest).2
termination_by bytes => bytes.length
decreasing_by
  have := length_firstUnit_le b rest
  simp only [List.length_cons]
  omega

/-- The text of a byte string without fragments. -/
def decode? (bytes : List UInt8) : Option (List Char) :=
  (units bytes).mapM id

/-- The text of any byte string, with U+FFFD in the place of each fragment. -/
def decodeLossy (bytes : List UInt8) : List Char :=
  (units bytes).map (·.getD '\uFFFD')

/-- The bytes of a text. -/
def encode (cs : List Char) : List UInt8 :=
  cs.flatMap String.utf8EncodeChar

end CpuPinning.Text
