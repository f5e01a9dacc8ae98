import CpuPinning.Json.Number

/-!
# JSON tokens

A text is cut into brackets, separators and scalar values.  Each step takes at least one
character, so the cutting ends with the text.
-/

namespace CpuPinning.Json

/-- A piece of JSON text. -/
inductive Token where
  | openArr
  | closeArr
  | openObj
  | closeObj
  | comma
  | colon
  | scalar (v : Value)
deriving Repr

/-- The value of a hexadecimal digit. -/
def hexValue? (c : Char) : Option Nat :=
  if '0' ≤ c && c ≤ '9' then some (c.toNat - '0'.toNat)
  else if 'a' ≤ c && c ≤ 'f' then some (c.toNat - 'a'.toNat + 10)
  else if 'A' ≤ c && c ≤ 'F' then some (c.toNat - 'A'.toNat + 10)
  else none

/-- The 16-bit unit that four hexadecimal digits denote. -/
def hexUnit? (a b c d : Char) : Option Nat := do
  return ((← hexValue? a) * 16 + (← hexValue? b)) * 256 + (← hexValue? c) * 16 + (← hexValue? d)

/-- The character of an escape that has one letter. -/
def shortEscape? : Char → Option Char
  | '"' => some '"'
  | '\\' => some '\\'
  | '/' => some '/'
  | 'b' => some '\x08'
  | 'f' => some '\x0c'
  | 'n' => some '\n'
  | 'r' => some '\r'
  | 't' => some '\t'
  | _ => none

/-- The character of a hexadecimal escape, given what follows the letter.  A high surrogate
needs the escape of a low one behind it; a surrogate without its partner is refused. -/
def hexEscape? : List Char → Option (Char × List Char)
  | a :: b :: c :: d :: rest =>
      match hexUnit? a b c d with
      | none => none
      | some unit =>
          if 0xD800 ≤ unit && unit < 0xDC00 then
            match rest with
            | '\\' :: 'u' :: e :: f :: g :: h :: rest =>
                match hexUnit? e f g h with
                | none => none
                | some low =>
                    if 0xDC00 ≤ low && low < 0xE000 then
                      some (Char.ofNat (0x10000 + (unit - 0xD800) * 0x400 + (low - 0xDC00)), rest)
                    else none
            | _ => none
          else if 0xDC00 ≤ unit && unit < 0xE000 then none
          else some (Char.ofNat unit, rest)
  | _ => none

theorem length_hexEscape?_lt {cs rest : List Char} {c : Char} (h : hexEscape? cs = some (c, rest)) :
    rest.length < cs.length := by
  unfold hexEscape? at h
  repeat' split at h
  all_goals first
    | contradiction
    | (obtain ⟨-, rfl⟩ := Prod.mk.injEq .. ▸ Option.some.injEq .. ▸ h
       simp only [List.length_cons]
       omega)

/-- The text up to the closing quotation mark, and what follows the mark. -/
def quoted? : List Char → Option (List Char × List Char)
  | [] => none
  | c :: rest =>
      if c = '"' then some ([], rest)
      else if c = '\\' then
        match rest with
        | [] => none
        | 'u' :: rest =>
            match _h : hexEscape? rest with
            | none => none
            | some (c, after) => (quoted? after).map fun (cs, r) => (c :: cs, r)
        | e :: rest =>
            match shortEscape? e with
            | none => none
            | some c => (quoted? rest).map fun (cs, r) => (c :: cs, r)
      else if c.toNat < 0x20 then none
      else (quoted? rest).map fun (cs, r) => (c :: cs, r)
termination_by cs => cs.length
decreasing_by
  · have := length_hexEscape?_lt _h
    simp only [List.length_cons]
    omega
  · simp only [List.length_cons]
    omega
  · simp only [List.length_cons]
    omega

theorem length_quoted?_lt (cs : List Char) {text rest : List Char}
    (h : quoted? cs = some (text, rest)) : rest.length < cs.length := by
  fun_induction quoted? cs generalizing text with
  | case1 => contradiction
  | case2 rest' =>
      obtain ⟨-, rfl⟩ := Prod.mk.injEq .. ▸ Option.some.injEq .. ▸ h
      simp
  | case3 => contradiction
  | case4 => contradiction
  | case5 rest' d after hd _ ih =>
      obtain ⟨⟨cs, r⟩, hq, he⟩ := Option.map_eq_some_iff.1 h
      obtain ⟨-, rfl⟩ := Prod.mk.injEq .. ▸ he
      have := length_hexEscape?_lt hd
      have := ih hq
      simp only [List.length_cons]
      omega
  | case6 => contradiction
  | case7 e rest' _ _ d _ ih =>
      obtain ⟨⟨cs, r⟩, hq, he⟩ := Option.map_eq_some_iff.1 h
      obtain ⟨-, rfl⟩ := Prod.mk.injEq .. ▸ he
      have := ih hq
      simp only [List.length_cons]
      omega
  | case8 => contradiction
  | case9 c rest' _ _ _ ih =>
      obtain ⟨⟨cs, r⟩, hq, he⟩ := Option.map_eq_some_iff.1 h
      obtain ⟨-, rfl⟩ := Prod.mk.injEq .. ▸ he
      have := ih hq
      simp only [List.length_cons]
      omega

def isSpace (c : Char) : Bool := c = ' ' || c = '\t' || c = '\n' || c = '\r'

private def isNumberChar (c : Char) : Bool :=
  Text.isDigit c || c = '+' || c = '-' || c = '.' || c = 'e' || c = 'E'

private def isWordChar (c : Char) : Bool := 'a' ≤ c && c ≤ 'z'

/-- The tokens of a text, blanks skipped; `none` if some piece is no token. -/
def tokens? : List Char → Option (List Token)
  | [] => some []
  | c :: rest =>
      if isSpace c then tokens? rest
      else if c = '[' then (tokens? rest).map (.openArr :: ·)
      else if c = ']' then (tokens? rest).map (.closeArr :: ·)
      else if c = '\x7b' then (tokens? rest).map (.openObj :: ·)
      else if c = '\x7d' then (tokens? rest).map (.closeObj :: ·)
      else if c = ',' then (tokens? rest).map (.comma :: ·)
      else if c = ':' then (tokens? rest).map (.colon :: ·)
      else if c = '"' then
        match _h : quoted? rest with
        | none => none
        | some (text, after) => (tokens? after).map (.scalar (.str (String.ofList text)) :: ·)
      else if c = '-' || Text.isDigit c then
        match number? (c :: rest.takeWhile isNumberChar) with
        | none => none
        | some v => (tokens? (rest.dropWhile isNumberChar)).map (.scalar v :: ·)
      else
        let after := rest.dropWhile isWordChar
        match String.ofList (c :: rest.takeWhile isWordChar) with
        | "null" => (tokens? after).map (.scalar .null :: ·)
        | "true" => (tokens? after).map (.scalar (.bool true) :: ·)
        | "false" => (tokens? after).map (.scalar (.bool false) :: ·)
        | _ => none
termination_by cs => cs.length
decreasing_by
  all_goals simp only [List.length_cons]
  all_goals have hNumber := (List.dropWhile_suffix isNumberChar (l := rest)).length_le
  all_goals have hWord := (List.dropWhile_suffix isWordChar (l := rest)).length_le
  all_goals first
    | omega
    | exact Nat.lt_succ_of_lt (length_quoted?_lt _ _h)

end CpuPinning.Json
