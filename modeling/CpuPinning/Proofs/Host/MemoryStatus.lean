import Mathlib.Data.Option.Basic
import CpuPinning.Host.Memory

/-!
# Keys of the memory status

The memory status takes each quantity from the lines with its own key.  Of these lines the
last one with a number counts, and there is a status if each of the six keys has such a
line.  All other lines may be left out, and lines with different keys may change places.
-/

namespace CpuPinning.Host

open Text (FirstField Written word64)

variable {line a b text : List Char} {lines lines' : List (List Char)} {q : Quantity}
  {n bytes : Nat} {s : MemoryScan} {m : MemoryStatus}

/-! ## A line -/

/-- A line has some key: what stands before its first colon. -/
def HasKey (line key : List Char) : Prop := ':' ∉ key ∧ ∃ value, line = key ++ ':' :: value

/-- A line tells the number of a quantity: it has the key of the quantity, and the first
field of its value is the number. -/
inductive Tells : List Char → Quantity → Nat → Prop
  | intro {q : Quantity} {value field rest : List Char} {n : Nat} :
      FirstField value field rest → Written word64 field n → Tells (q.key ++ ':' :: value) q n

/-- A line that tells nothing: it has no key, a key of no quantity, or a value that does not
begin with a number. -/
inductive Idle : List Char → Prop
  | noKey {line : List Char} : ':' ∉ line → Idle line
  | otherKey {line key : List Char} : HasKey line key → (∀ q : Quantity, q.key ≠ key) → Idle line
  | noNumber {key value : List Char} : ':' ∉ key →
      (∀ field rest, FirstField value field rest → ∀ n, ¬Written word64 field n) →
      Idle (key ++ ':' :: value)

theorem Tells.hasKey (h : Tells line q n) : HasKey line q.key := by
  cases h with
  | intro hfirst hwritten => exact ⟨q.colon_not_mem_key, _, rfl⟩

theorem reading?_eq_some_iff : reading? line = some (q, n) ↔ Tells line q n := by
  simp only [reading?, Option.bind_eq_bind, Option.bind_eq_some_iff, Prod.exists,
    Text.splitOnce_eq_some_iff, Quantity.ofKey?_eq_some_iff, Proc.firstNumber?_eq_some_iff,
    Option.pure_def, Option.some.injEq, Prod.mk.injEq]
  constructor
  · rintro ⟨key, value, ⟨hcolon, rfl⟩, q, rfl, n, ⟨field, rest, hfirst, hwritten⟩, rfl, rfl⟩
    exact .intro hfirst hwritten
  · rintro ⟨hfirst, hwritten⟩
    exact ⟨q.key, _, ⟨q.colon_not_mem_key, rfl⟩, q, rfl, n, ⟨_, _, hfirst, hwritten⟩, rfl, rfl⟩

theorem reading?_of_idle (h : Idle line) : reading? line = none := by
  cases h with
  | noKey hcolon => rw [reading?, Text.splitOnce_of_not_mem hcolon]; rfl
  | @otherKey line key hkey hother =>
      obtain ⟨hcolon, value, rfl⟩ := hkey
      have hnone : Quantity.ofKey? key = none := by
        rw [Option.eq_none_iff_forall_ne_some]
        intro q hq
        exact hother q (Quantity.ofKey?_eq_some_iff.1 hq)
      simp [reading?, Text.splitOnce_append_cons hcolon, hnone]
  | @noNumber key value hcolon hunread =>
      have hnone : Proc.firstNumber? value = none := by
        rw [Option.eq_none_iff_forall_ne_some]
        intro n hn
        obtain ⟨field, rest, hfirst, hwritten⟩ := Proc.firstNumber?_eq_some_iff.1 hn
        exact hunread field rest hfirst n hwritten
      simp [reading?, Text.splitOnce_append_cons hcolon, hnone]

namespace MemoryScan

theorem readLine_of_idle (h : Idle line) : s.readLine line = s := by
  rw [readLine, reading?_of_idle h]

/-- What is known of a quantity behind a line is what the line tells of it, or else what was
known before. -/
theorem get_readLine :
    (s.readLine line).get q = some bytes ↔
      (∃ n, Tells line q n ∧ wordProduct n 1024 = bytes) ∨
        (∀ n, ¬Tells line q n) ∧ s.get q = some bytes := by
  simp only [readLine, ← reading?_eq_some_iff]
  cases hreading : reading? line with
  | none => simp
  | some told =>
      obtain ⟨q', n⟩ := told
      by_cases hq : q' = q
      · subst hq
        simp [Quantities.get_set_self]
      · simp [Quantities.get_set_of_ne (Ne.symm hq), hq]

end MemoryScan

/-! ## The last line of a key -/

/-- No line tells a quantity. -/
def Untold (lines : List (List Char)) (q : Quantity) : Prop :=
  ∀ line ∈ lines, ∀ n, ¬Tells line q n

/-- The last line that tells a quantity tells the number `n`. -/
def LastTold (lines : List (List Char)) (q : Quantity) (n : Nat) : Prop :=
  ∃ before line after, lines = before ++ line :: after ∧ Tells line q n ∧ Untold after q

theorem lastTold_cons :
    LastTold (line :: lines) q n ↔ LastTold lines q n ∨ Tells line q n ∧ Untold lines q := by
  constructor
  · rintro ⟨before, last, after, hlines, htells, hafter⟩
    cases before with
    | nil =>
        obtain ⟨rfl, rfl⟩ := List.cons.inj hlines
        exact .inr ⟨htells, hafter⟩
    | cons first before =>
        obtain ⟨-, rfl⟩ := List.cons.inj hlines
        exact .inl ⟨before, last, after, rfl, htells, hafter⟩
  · rintro (⟨before, last, after, rfl, htells, hafter⟩ | ⟨htells, huntold⟩)
    · exact ⟨line :: before, last, after, rfl, htells, hafter⟩
    · exact ⟨[], line, lines, rfl, htells, huntold⟩

theorem untold_cons : Untold (line :: lines) q ↔ (∀ n, ¬Tells line q n) ∧ Untold lines q :=
  List.forall_mem_cons

theorem exists_lastTold_iff :
    (∃ n, LastTold lines q n) ↔ ∃ line ∈ lines, ∃ n, Tells line q n := by
  constructor
  · rintro ⟨n, before, line, after, rfl, htells, -⟩
    exact ⟨line, by simp, n, htells⟩
  · induction lines with
    | nil => simp
    | cons first lines ih =>
        rintro ⟨line, hmem, n, htells⟩
        by_cases htold : ∃ line ∈ lines, ∃ n, Tells line q n
        · obtain ⟨n, hlast⟩ := ih htold
          exact ⟨n, lastTold_cons.2 (.inl hlast)⟩
        · have huntold : Untold lines q := by simpa [Untold] using htold
          rcases List.mem_cons.1 hmem with rfl | hmem
          · exact ⟨n, lastTold_cons.2 (.inr ⟨htells, huntold⟩)⟩
          · exact absurd htells (huntold line hmem n)

/-- What is known of a quantity behind some lines is what the last line that tells it says,
or else what was known before. -/
theorem get_foldl_readLine :
    (lines.foldl MemoryScan.readLine s).get q = some bytes ↔
      (∃ n, LastTold lines q n ∧ wordProduct n 1024 = bytes) ∨
        Untold lines q ∧ s.get q = some bytes := by
  induction lines generalizing s with
  | nil => simp [LastTold, Untold]
  | cons line lines ih =>
      rw [List.foldl_cons, ih, MemoryScan.get_readLine]
      simp only [lastTold_cons, untold_cons]
      constructor
      · rintro (⟨n, hlast, hbytes⟩ | ⟨huntold, ⟨n, htells, hbytes⟩ | ⟨hnone, hbefore⟩⟩)
        · exact .inl ⟨n, .inl hlast, hbytes⟩
        · exact .inl ⟨n, .inr ⟨htells, huntold⟩, hbytes⟩
        · exact .inr ⟨⟨hnone, huntold⟩, hbefore⟩
      · rintro (⟨n, hlast | ⟨htells, huntold⟩, hbytes⟩ | ⟨⟨hnone, huntold⟩, hbefore⟩)
        · exact .inl ⟨n, hlast, hbytes⟩
        · exact .inr ⟨huntold, .inl ⟨n, htells, hbytes⟩⟩
        · exact .inr ⟨huntold, .inr ⟨hnone, hbefore⟩⟩

theorem memoryStatus?_eq_some_iff :
    memoryStatus? text = some m ↔
      ∀ q, ∃ n, LastTold (Text.lines text) q n ∧ wordProduct n 1024 = m.get q := by
  rw [memoryStatus?, MemoryScan.status?_eq_some_iff]
  simp only [get_foldl_readLine, MemoryScan.get_start, reduceCtorEq, and_false, or_false]

theorem exists_memoryStatus?_iff :
    (∃ m, memoryStatus? text = some m) ↔
      ∀ q, ∃ line ∈ Text.lines text, ∃ n, Tells line q n := by
  simp only [memoryStatus?, MemoryScan.exists_status?_iff, get_foldl_readLine,
    MemoryScan.get_start, reduceCtorEq, and_false, or_false, ← exists_lastTold_iff]
  refine forall_congr' fun q => ?_
  constructor
  · rintro ⟨bytes, n, hlast, -⟩
    exact ⟨n, hlast⟩
  · rintro ⟨n, hlast⟩
    exact ⟨_, n, hlast, rfl⟩

/-! ## Other orders of the lines -/

/-- No key is the key of both lines. -/
def DifferentKeys (a b : List Char) : Prop := ∀ key, HasKey a key → ¬HasKey b key

/-- Lines with different keys change places, any number of times. -/
inductive Reordered : List (List Char) → List (List Char) → Prop
  | refl (lines : List (List Char)) : Reordered lines lines
  | cons (line : List Char) {lines lines' : List (List Char)} :
      Reordered lines lines' → Reordered (line :: lines) (line :: lines')
  | swap {a b : List Char} (lines : List (List Char)) : DifferentKeys a b →
      Reordered (a :: b :: lines) (b :: a :: lines)
  | trans {lines lines' lines'' : List (List Char)} :
      Reordered lines lines' → Reordered lines' lines'' → Reordered lines lines''

theorem hasKey_iff {key : List Char} :
    HasKey line key ↔ (Text.splitOnce ':' line).map Prod.fst = some key := by
  simp only [HasKey, Option.map_eq_some_iff, Prod.exists, Text.splitOnce_eq_some_iff]
  constructor
  · rintro ⟨hcolon, value, hline⟩
    exact ⟨key, value, ⟨hcolon, hline⟩, rfl⟩
  · rintro ⟨key, value, ⟨hcolon, hline⟩, rfl⟩
    exact ⟨hcolon, value, hline⟩

instance (a b : List Char) : Decidable (DifferentKeys a b) :=
  decidable_of_iff
    (∀ key ∈ (Text.splitOnce ':' a).map Prod.fst, (Text.splitOnce ':' b).map Prod.fst ≠ some key)
    (by simp only [DifferentKeys, hasKey_iff, Option.mem_def, ne_eq])

theorem DifferentKeys.symm (h : DifferentKeys a b) : DifferentKeys b a :=
  fun key hb ha => h key ha hb

/-- Lines that all have different keys can be put in any order. -/
theorem Reordered.of_perm (h : lines.Perm lines') (hkeys : lines.Pairwise DifferentKeys) :
    Reordered lines lines' := by
  induction h with
  | nil => exact .refl []
  | cons line _ ih => exact .cons line (ih (List.pairwise_cons.1 hkeys).2)
  | swap a b lines => exact .swap lines ((List.pairwise_cons.1 hkeys).1 a List.mem_cons_self)
  | trans h _ ih ih' =>
      have hkeys' := (h.pairwise_iff DifferentKeys.symm).1 hkeys
      exact .trans (ih hkeys) (ih' hkeys')

theorem MemoryScan.readLine_comm (h : DifferentKeys a b) (s : MemoryScan) :
    (s.readLine a).readLine b = (s.readLine b).readLine a := by
  simp only [MemoryScan.readLine]
  cases ha : reading? a with
  | none => rfl
  | some told =>
      cases hb : reading? b with
      | none => rfl
      | some told' =>
          have hne : told.1 ≠ told'.1 := by
            intro hq
            have hkey : HasKey b told.1.key := by
              rw [hq]
              exact (reading?_eq_some_iff.1 hb).hasKey
            exact h _ (reading?_eq_some_iff.1 ha).hasKey hkey
          exact Quantities.set_comm hne s _ _

theorem Reordered.foldl_readLine (h : Reordered lines lines') (s : MemoryScan) :
    lines.foldl MemoryScan.readLine s = lines'.foldl MemoryScan.readLine s := by
  induction h generalizing s with
  | refl => rfl
  | cons line _ ih => exact ih (s.readLine line)
  | @swap a b lines hkeys =>
      simp only [List.foldl_cons, MemoryScan.readLine_comm hkeys]
  | trans _ _ ih ih' => exact (ih s).trans (ih' s)

/-! ## The status -/

/-- The memory status takes each quantity from its own lines only.  There is a status exactly
if each of the six quantities is told by some line, and then each of its fields has the
number of the last line that tells it, in bytes.  A line without a key, with the key of no
quantity or without a number may be left out, and lines with different keys may change
places. -/
theorem memoryStatus_by_keys
    (hfit : ∀ line ∈ Text.lines text, ∀ q n, Tells line q n → n * 1024 < word64) :
    ((∃ m, memoryStatus? text = some m) ↔
      ∀ q, ∃ line ∈ Text.lines text, ∃ n, Tells line q n) ∧
    (∀ m, memoryStatus? text = some m →
      ∀ q, ∃ n, LastTold (Text.lines text) q n ∧ m.get q = 1024 * n) ∧
    (∀ before line after text', Text.lines text = before ++ line :: after → Idle line →
      Text.lines text' = before ++ after → memoryStatus? text' = memoryStatus? text) ∧
    (∀ text', Reordered (Text.lines text) (Text.lines text') →
      memoryStatus? text' = memoryStatus? text) ∧
    ∀ text', (Text.lines text).Perm (Text.lines text') →
      (Text.lines text).Pairwise DifferentKeys → memoryStatus? text' = memoryStatus? text := by
  have hreordered : ∀ text', Reordered (Text.lines text) (Text.lines text') →
      memoryStatus? text' = memoryStatus? text := by
    intro text' h
    rw [memoryStatus?, memoryStatus?, h.foldl_readLine]
  refine ⟨exists_memoryStatus?_iff, ?_, ?_, hreordered, ?_⟩
  · intro m hm q
    obtain ⟨n, hlast, hbytes⟩ := memoryStatus?_eq_some_iff.1 hm q
    have hlt : n * 1024 < word64 := by
      obtain ⟨before, line, after, hlines, htells, -⟩ := hlast
      exact hfit line (by simp [hlines]) q n htells
    refine ⟨n, hlast, ?_⟩
    rw [← hbytes, wordProduct_of_lt hlt, Nat.mul_comm]
  · intro before line after text' hlines hidle hlines'
    rw [memoryStatus?, memoryStatus?, hlines, hlines', List.foldl_append, List.foldl_append,
      List.foldl_cons, MemoryScan.readLine_of_idle hidle]
  · intro text' hperm hkeys
    exact hreordered text' (.of_perm hperm hkeys)

namespace Sample

/-- A text of some lines. -/
def textOfLines (lines : List (List Char)) : List Char := lines.flatMap (· ++ ['\n'])

theorem lines_textOfLines (h : ∀ line ∈ lines, '\n' ∉ line) :
    Text.lines (textOfLines lines) = lines := by
  have hlines := Text.lines_flatMap_append h List.not_mem_nil
  rwa [List.append_nil, if_pos rfl] at hlines

def totalLine : List Char := "MemTotal:       16 kB".toList

def cachedLine : List Char := "Cached: 5 kB".toList

/-- Lines that tell all other quantities, and the cached memory once more; a later line for
it has no number. -/
def moreLines : List (List Char) :=
  ["MemAvailable:\t4 kB\r", "Buffers:1", "Cached: +3 kB", "Cached: x kB", "SwapTotal: 2",
    "SwapFree: 01 kB", "SwapCached: 9 kB"].map String.toList

def statusLines : List (List Char) := totalLine :: cachedLine :: moreLines

end Sample

open Host.Sample (textOfLines lines_textOfLines totalLine cachedLine moreLines statusLines)

theorem memoryStatus_by_keys_sample :
    (∀ line ∈ statusLines, ∀ q n, Tells line q n → n * 1024 < word64) ∧
      (∃ n, LastTold statusLines .cached n ∧ 3072 = 1024 * n) ∧
      memoryStatus? (textOfLines statusLines.dropLast) = memoryStatus? (textOfLines statusLines) ∧
      memoryStatus? (textOfLines (cachedLine :: totalLine :: moreLines)) =
        memoryStatus? (textOfLines statusLines) := by
  have hfit : ∀ line ∈ statusLines, ∀ q n, Tells line q n → n * 1024 < word64 := by
    have hall : statusLines.all (fun line =>
        (reading? line).all fun told => decide (told.2 * 1024 < word64)) = true := by decide
    intro line hmem q n htells
    have hline := List.all_eq_true.1 hall line hmem
    rw [reading?_eq_some_iff.2 htells] at hline
    exact of_decide_eq_true hline
  have hlines : Text.lines (textOfLines statusLines) = statusLines := lines_textOfLines (by decide)
  have hdrop : Text.lines (textOfLines statusLines.dropLast) = statusLines.dropLast :=
    lines_textOfLines (by decide)
  have hswap : Text.lines (textOfLines (cachedLine :: totalLine :: moreLines)) =
      cachedLine :: totalLine :: moreLines := lines_textOfLines (by decide)
  have hstatus : memoryStatus? (textOfLines statusLines) =
      some ⟨16384, 4096, 3072, 1024, 2048, 1024⟩ := by decide
  have hfits : ∀ line ∈ Text.lines (textOfLines statusLines), ∀ q n, Tells line q n →
      n * 1024 < word64 := by rwa [hlines]
  have hsample := memoryStatus_by_keys hfits
  rw [hlines] at hsample
  obtain ⟨-, hlast, hidle, hreordered, -⟩ := hsample
  refine ⟨hfit, hlast _ hstatus .cached, ?_, ?_⟩
  · have hkey : HasKey "SwapCached: 9 kB".toList "SwapCached".toList :=
      hasKey_iff.2 (by decide)
    have hother : Idle "SwapCached: 9 kB".toList :=
      .otherKey hkey (by intro q; cases q <;> decide)
    refine hidle statusLines.dropLast _ [] _ (by decide) hother ?_
    rw [hdrop, List.append_nil]
  · apply hreordered
    rw [hswap]
    exact .swap moreLines (by decide)

end CpuPinning.Host
