import Mathlib.Data.Finset.Card
import CpuPinning.Host.Core

/-!
# Counting cores

The description of the processors is a text of blocks, each with blank lines behind it but
the last, which may have none.  A block says what package and what core its processor is
on; the last value of a key counts, and the package is `0` where it is not named.  Reading
the text line by line finds each pair of package and core once, whatever the order of the
blocks, and nothing that one block says is kept for another.
-/

namespace CpuPinning.Host

open Text (isBlank IsBare)

/-! ## Descriptions of processors -/

/-- Blanks in a line. -/
structure Padding where
  chars : List Char
  blank : ∀ c ∈ chars, isBlank c = true
  in_line : '\n' ∉ chars

namespace Padding

def empty : Padding := ⟨[], List.all_eq_true.1 (by decide), by decide⟩

def one : Padding := ⟨[' '], List.all_eq_true.1 (by decide), by decide⟩

end Padding

/-- A text in a line, without blanks at its ends. -/
structure Label where
  chars : List Char
  bare : IsBare chars
  in_line : '\n' ∉ chars

/-- A line of a block. -/
inductive BlockLine where
  /-- A key and a value with a colon between them; there may be blanks around both. -/
  | entry (front : Padding) (key : Label) (no_colon : ':' ∉ key.chars) (middle : Padding)
      (space : Padding) (value : Label) (back : Padding)
  /-- A line without a colon that is not blank. -/
  | remark (text : List Char) (no_colon : ':' ∉ text) (in_line : '\n' ∉ text)
      (seen : ∃ c ∈ text, isBlank c = false)

namespace BlockLine

def text : BlockLine → List Char
  | entry front key _ middle space value back =>
      front.chars ++ key.chars ++ middle.chars ++ ':' :: (space.chars ++ value.chars ++ back.chars)
  | remark text _ _ _ => text

/-- The value that a line gives to a key, if it is about this key. -/
def valueOf? (name : List Char) : BlockLine → Option (List Char)
  | entry _ key _ _ _ value _ => if key.chars = name then some value.chars else none
  | remark .. => none

end BlockLine

/-- The lines about one processor. -/
abbrev Block := List BlockLine

namespace Block

/-- The last value of a key in a block. -/
def value? (name : List Char) (b : Block) : Option (List Char) :=
  (b.filterMap (·.valueOf? name)).getLast?

/-- The core of a processor, if it is named. -/
def core? (b : Block) : Option CoreName :=
  (b.value? coreKey).map fun core => ((b.value? packageKey).getD ['0'], core)

end Block

/-- A block with the blank lines behind it, of which there is at least one. -/
structure EndedBlock where
  block : Block
  blank : Padding
  more : List Padding

def EndedBlock.lines (e : EndedBlock) : List (List Char) :=
  e.block.map (·.text) ++ e.blank.chars :: e.more.map (·.chars)

/-- The blocks of all processors.  The last one has no blank line behind it, and may be
empty. -/
structure Processors where
  ended : List EndedBlock
  last : Block

namespace Processors

def blocks (d : Processors) : List Block := d.ended.map (·.block) ++ [d.last]

def lines (d : Processors) : List (List Char) :=
  d.ended.flatMap (·.lines) ++ d.last.map (·.text)

/-- The cores that the blocks name. -/
def cores (d : Processors) : Finset CoreName := (d.blocks.filterMap (·.core?)).toFinset

/-- A line feed stands behind each line of a text, behind the last one perhaps not. -/
def IsText (d : Processors) (text : List Char) : Prop :=
  text = d.lines.flatMap (· ++ ['\n']) ∨ text ++ ['\n'] = d.lines.flatMap (· ++ ['\n'])

end Processors

/-! ## Reading blocks -/

namespace CoreScan

variable {s : CoreScan}

/-- A line of a block says what package or what core it is, or nothing of both. -/
theorem readLine_text (l : BlockLine) :
    s.readLine l.text =
      { s with
        package := (l.valueOf? packageKey).or s.package
        core := (l.valueOf? coreKey).or s.core } := by
  cases l with
  | remark text hcolon hline hseen => exact readLine_of_remark hseen hcolon
  | entry front key hcolon middle space value back =>
      have hfree : ∀ p : Padding, ':' ∉ p.chars := by
        intro p hmem
        have hblank : isBlank ':' = true := p.blank _ hmem
        exact absurd hblank (by decide)
      have hbefore : ':' ∉ front.chars ++ key.chars ++ middle.chars := by
        simp only [List.mem_append, not_or]
        exact ⟨⟨hfree front, hcolon⟩, hfree middle⟩
      have hread : s.readLine (BlockLine.entry front key hcolon middle space value back).text =
          s.note key.chars value.chars := by
        rw [BlockLine.text, readLine_of_entry hbefore,
          Text.trim_padded front.blank middle.blank key.bare,
          Text.trim_padded space.blank back.blank value.bare]
      rw [hread, BlockLine.valueOf?, BlockLine.valueOf?]
      by_cases hpackage : key.chars = packageKey
      · rw [hpackage, note_package, if_pos rfl, if_neg packageKey_ne_coreKey]
        rfl
      · by_cases hcore : key.chars = coreKey
        · rw [hcore, note_core, if_pos rfl, if_neg packageKey_ne_coreKey.symm]
          rfl
        · rw [note_other hpackage hcore, if_neg hpackage, if_neg hcore]
          rfl

theorem value?_cons (name : List Char) (l : BlockLine) (b : Block) :
    Block.value? name (l :: b) = (b.value? name).or (l.valueOf? name) := by
  rw [Block.value?, Block.value?]
  cases hvalue : l.valueOf? name with
  | none => rw [List.filterMap_cons_none hvalue, Option.or_none]
  | some value =>
      rw [List.filterMap_cons_some hvalue, List.getLast?_cons]
      cases (b.filterMap (·.valueOf? name)).getLast? <;> rfl

/-- The lines of a block leave what the block says last, or else what was known before. -/
theorem foldl_block (b : Block) (s : CoreScan) :
    (b.map (·.text)).foldl readLine s =
      { s with
        package := (b.value? packageKey).or s.package
        core := (b.value? coreKey).or s.core } := by
  induction b generalizing s with
  | nil => rfl
  | cons l b ih =>
      rw [List.map_cons, List.foldl_cons, ih, readLine_text, value?_cons, value?_cons,
        Option.or_assoc, Option.or_assoc]

/-! ## Between blocks -/

/-- Between blocks nothing is pending, and the cores that were found are those that the
blocks so far name, once each. -/
structure Settled (blocks : List Block) (s : CoreScan) : Prop where
  no_package : s.package = none
  no_core : s.core = none
  nodup : s.cores.Nodup
  mem_cores : ∀ c, c ∈ s.cores ↔ ∃ b ∈ blocks, b.core? = some c

namespace Settled

variable {blocks : List Block}

theorem start : Settled [] .start where
  no_package := rfl
  no_core := rfl
  nodup := List.nodup_nil
  mem_cores c := by simp [CoreScan.start]

/-- Another blank line changes nothing. -/
theorem endBlock (h : Settled blocks s) : s.endBlock = s := by
  obtain ⟨cores, package, core⟩ := s
  obtain rfl : package = none := h.no_package
  obtain rfl : core = none := h.no_core
  rfl

theorem foldl_blanks (h : Settled blocks s) (blanks : List Padding) :
    (blanks.map (·.chars)).foldl readLine s = s := by
  induction blanks with
  | nil => rfl
  | cons blank blanks ih =>
      rw [List.map_cons, List.foldl_cons, readLine_of_blank blank.blank, h.endBlock, ih]

/-- The end of a block adds the core that the block names. -/
theorem block (h : Settled blocks s) (b : Block) :
    Settled (blocks ++ [b]) ((b.map (·.text)).foldl readLine s).endBlock := by
  have hread : (b.map (·.text)).foldl readLine s =
      ⟨s.cores, b.value? packageKey, b.value? coreKey⟩ := by
    rw [foldl_block, h.no_package, h.no_core, Option.or_none, Option.or_none]
  have hblocks : ∀ c, (∃ b' ∈ blocks ++ [b], b'.core? = some c) ↔
      c ∈ s.cores ∨ b.core? = some c := by
    intro c
    rw [h.mem_cores]
    simp only [List.mem_append, List.mem_singleton, or_and_right, exists_or, exists_eq_left]
  rw [hread]
  cases hcore : b.value? coreKey with
  | none =>
      have hnone : b.core? = none := by rw [Block.core?, hcore, Option.map_none]
      refine ⟨rfl, rfl, h.nodup, ?_⟩
      intro c
      rw [hblocks, hnone]
      simp [CoreScan.endBlock]
  | some core =>
      have hsome : b.core? = some ((b.value? packageKey).getD ['0'], core) := by
        rw [Block.core?, hcore, Option.map_some]
      refine ⟨rfl, rfl, h.nodup.insert, ?_⟩
      intro c
      rw [hblocks, hsome, Option.some.injEq, eq_comm, or_comm]
      exact List.mem_insert_iff

theorem ended (h : Settled blocks s) (e : EndedBlock) :
    Settled (blocks ++ [e.block]) (e.lines.foldl readLine s) := by
  have hblock := h.block e.block
  rw [EndedBlock.lines, List.foldl_append, List.foldl_cons, readLine_of_blank e.blank.blank,
    hblock.foldl_blanks]
  exact hblock

theorem foldl_ended (h : Settled blocks s) (es : List EndedBlock) :
    Settled (blocks ++ es.map (·.block)) ((es.flatMap (·.lines)).foldl readLine s) := by
  induction es generalizing blocks s with
  | nil => simpa using h
  | cons e es ih =>
      have hrest := ih (h.ended e)
      rw [List.append_assoc, List.singleton_append] at hrest
      rw [List.flatMap_cons, List.foldl_append, List.map_cons]
      exact hrest

end Settled

/-- What is known at the end of the text. -/
theorem settled_lines (d : Processors) :
    Settled d.blocks ((d.lines ++ [[]]).foldl readLine .start) := by
  have hended := (Settled.start.foldl_ended d.ended).block d.last
  rw [Processors.lines, List.foldl_append, List.foldl_append, List.foldl_cons, List.foldl_nil,
    readLine_nil]
  exact hended

end CoreScan

/-! ## Reading a text -/

namespace Processors

variable {d : Processors} {text : List Char}

theorem in_line_of_text (l : BlockLine) : '\n' ∉ l.text := by
  cases l with
  | remark text hcolon hline hseen => exact hline
  | entry front key hcolon middle space value back =>
      simp only [BlockLine.text, List.mem_append, List.mem_cons, not_or]
      exact ⟨⟨⟨front.in_line, key.in_line⟩, middle.in_line⟩, by decide,
        ⟨space.in_line, value.in_line⟩, back.in_line⟩

theorem in_line_of_mem_lines {line : List Char} (h : line ∈ d.lines) : '\n' ∉ line := by
  rw [lines, List.mem_append, List.mem_flatMap, List.mem_map] at h
  rcases h with ⟨e, -, hline⟩ | ⟨l, -, rfl⟩
  · rw [EndedBlock.lines, List.mem_append, List.mem_map, List.mem_cons, List.mem_map] at hline
    rcases hline with ⟨l, -, rfl⟩ | rfl | ⟨blank, -, rfl⟩
    · exact in_line_of_text l
    · exact e.blank.in_line
    · exact blank.in_line
  · exact in_line_of_text l

/-- Reading the text is reading the lines. -/
theorem IsText.foldl_lines (h : d.IsText text) :
    (Text.lines text ++ [[]]).foldl CoreScan.readLine .start =
      (d.lines ++ [[]]).foldl CoreScan.readLine .start := by
  have hlines : ∀ line ∈ d.lines, '\n' ∉ line := fun line => in_line_of_mem_lines
  rcases h with rfl | htext
  · have hall := Text.lines_flatMap_append hlines List.not_mem_nil
    rw [List.append_nil, if_pos rfl] at hall
    rw [hall]
  · rcases d.lines.eq_nil_or_concat' with hnil | ⟨first, last, hsplit⟩
    · rw [hnil] at htext
      simp at htext
    · rw [hsplit] at hlines htext ⊢
      rw [List.flatMap_append, List.flatMap_singleton, ← List.append_assoc] at htext
      obtain rfl := List.append_cancel_right htext
      have hfirst : ∀ line ∈ first, '\n' ∉ line := fun line hline =>
        hlines line (List.mem_append_left _ hline)
      rw [Text.lines_flatMap_append hfirst (hlines last (by simp))]
      by_cases hlast : last = []
      · -- the last line feed is missing behind an empty line, which is then no line
        rw [if_pos hlast, hlast]
        simp only [List.foldl_append, List.foldl_cons, List.foldl_nil, CoreScan.readLine_nil,
          CoreScan.endBlock_endBlock]
      · rw [if_neg hlast]

theorem mem_cores {c : CoreName} : c ∈ d.cores ↔ ∃ b ∈ d.blocks, b.core? = some c := by
  rw [cores, List.mem_toFinset, List.mem_filterMap]

/-- Cores are counted if there are any. -/
theorem physicalCores?_eq (h : d.IsText text) :
    physicalCores? text = if d.cores = ∅ then none else some d.cores.card := by
  have hsettled := CoreScan.settled_lines d
  rw [← h.foldl_lines] at hsettled
  rw [physicalCores?]
  generalize (Text.lines text ++ [[]]).foldl CoreScan.readLine .start = scan at hsettled
  have hcores : scan.cores.toFinset = d.cores := by
    ext c
    rw [List.mem_toFinset, mem_cores]
    exact hsettled.mem_cores c
  rw [← hcores, List.toFinset_card_of_nodup hsettled.nodup]
  simp only [List.isEmpty_iff, List.toFinset_eq_empty_iff]

theorem cores_eq_empty_iff : d.cores = ∅ ↔ ∀ b ∈ d.blocks, b.value? coreKey = none := by
  simp only [Finset.eq_empty_iff_forall_notMem, mem_cores, Block.core?, Option.map_eq_some_iff,
    not_exists, not_and]
  constructor
  · intro h b hb
    rw [Option.eq_none_iff_forall_ne_some]
    intro core hcore
    exact h _ b hb core hcore rfl
  · intro h c b hb core hcore
    rw [h b hb] at hcore
    cases hcore

/-- Empty blocks name no core. -/
theorem cores_eq_of_blocks {d' : Processors}
    (h : ∀ b ≠ [], b ∈ d'.blocks ↔ b ∈ d.blocks) : d'.cores = d.cores := by
  have hsome : ∀ b : Block, ∀ c, b.core? = some c → b ≠ [] := by
    rintro b c hc rfl
    cases hc
  ext c
  rw [mem_cores, mem_cores]
  refine exists_congr fun b => ?_
  constructor
  · rintro ⟨hb, hc⟩
    exact ⟨(h b (hsome b c hc)).1 hb, hc⟩
  · rintro ⟨hb, hc⟩
    exact ⟨(h b (hsome b c hc)).2 hb, hc⟩

/-- Cores are counted as pairs of the last package and the last core that a block names, each
pair once.  There is no answer exactly if no block names a core.  The order of the
blocks does not count, nor how often a block comes, nor what another block says. -/
theorem physicalCores_distinct (h : d.IsText text) :
    (physicalCores? text = none ↔ ∀ b ∈ d.blocks, b.value? coreKey = none) ∧
    (∀ b ∈ d.blocks, b.value? coreKey ≠ none → physicalCores? text = some d.cores.card) ∧
    ∀ d' : Processors, ∀ text', d'.IsText text' → (∀ b ≠ [], b ∈ d'.blocks ↔ b ∈ d.blocks) →
      physicalCores? text' = physicalCores? text := by
  rw [physicalCores?_eq h]
  refine ⟨?_, ?_, ?_⟩
  · rw [← cores_eq_empty_iff]
    by_cases hnone : d.cores = ∅
    · simp [hnone]
    · simp [hnone]
  · intro b hb hcore
    have hsome : d.cores ≠ ∅ := by
      intro hempty
      exact hcore (cores_eq_empty_iff.1 hempty b hb)
    exact if_neg hsome
  · intro d' text' h' hblocks
    rw [physicalCores?_eq h', cores_eq_of_blocks hblocks]

end Processors

namespace Sample

/-- A line with nothing but one blank around its key and its value. -/
def plainLine (key value : Label) (h : ':' ∉ key.chars) : BlockLine :=
  .entry .empty key h .empty .one value .empty

def packageLine (package : Label) : BlockLine :=
  plainLine ⟨packageKey, by decide, by decide⟩ package (by decide)

def coreLine (core : Label) : BlockLine :=
  plainLine ⟨coreKey, by decide, by decide⟩ core (by decide)

/-- Four processors on three cores: the first two share one, the third names no package,
and the last is on another core of the same package. -/
def fourProcessors : Processors where
  ended := [
    ⟨[packageLine seven, coreLine zero], .empty, [.one]⟩,
    ⟨[.remark ['f'] (by decide) (by decide) ⟨'f', by decide⟩, coreLine zero, packageLine seven],
      .one, []⟩,
    ⟨[coreLine zero], .empty, []⟩]
  last := [coreLine one, packageLine seven]
where
  zero : Label := ⟨['0'], by decide, by decide⟩
  one : Label := ⟨['1'], by decide, by decide⟩
  seven : Label := ⟨['7'], by decide, by decide⟩

/-- Their description, without a line feed at the end. -/
def fourProcessorsText : String :=
  "physical id: 7\ncore id: 0\n\n \nf\ncore id: 0\nphysical id: 7\n \n" ++
    "core id: 0\n\ncore id: 1\nphysical id: 7"

end Sample

open Host.Sample (fourProcessors fourProcessorsText)

theorem Processors.physicalCores_distinct_sample :
    fourProcessors.IsText fourProcessorsText.toList ∧
      physicalCores? fourProcessorsText.toList = some 3 := by
  have htext : fourProcessors.IsText fourProcessorsText.toList := .inr (by cbv)
  have hcards : fourProcessors.cores.card = 3 := by decide
  obtain ⟨-, hcount, -⟩ := physicalCores_distinct htext
  refine ⟨htext, ?_⟩
  rw [← hcards]
  exact hcount _ (List.mem_append_right _ List.mem_cons_self) (by decide)

end CpuPinning.Host
