import Mathlib.Data.List.Basic
import CpuPinning.Proc.CommandLine
import CpuPinning.Proc.Process
import CpuPinning.Proofs.Text.Utf8

/-!
# Arguments of a process

The kernel keeps the arguments of a process as one byte string, with a null byte
behind each.  It is split into the same arguments again, empty ones included, in all
cases but one: a single argument that is empty cannot be told from none.  The other
way round, the arguments that a text is split into make up the text again, with the
null byte at the end that it may lack.
-/

namespace CpuPinning.Proc

open Text (IsText encode)

variable {parts : List (List UInt8)} {args : List String} {bytes : List UInt8} {cs : List Char}

/-- Arguments as the kernel keeps them: a null byte stands behind each. -/
def commandBytes (args : List String) : List UInt8 :=
  (args.map fun arg => encode arg.toList).flatMap (· ++ [0])

/-! ## From the arguments -/

theorem dropTerminator_concat (bytes : List UInt8) :
    dropTerminator (bytes ++ [0]) = bytes := by
  simp [dropTerminator]

/-- Parts with a null byte behind each are found again, unless there is nothing but
a single null byte. -/
theorem splitCommandLine_flatMap (hnull : ∀ part ∈ parts, 0 ∉ part) (hne : parts ≠ [[]]) :
    splitCommandLine (parts.flatMap (· ++ [0])) =
      parts.map fun part => String.ofList (Text.decodeLossy part) := by
  rcases parts.eq_nil_or_concat' with rfl | ⟨first, last, rfl⟩
  · rfl
  · have hbytes : (first ++ [last]).flatMap (· ++ [0]) =
        (first.flatMap (· ++ [0]) ++ last) ++ [0] := by
      simp
    have hbody : first.flatMap (· ++ [0]) ++ last ≠ [] := by
      intro hnil
      obtain ⟨hfirst, rfl⟩ := List.append_eq_nil_iff.1 hnil
      cases first with
      | nil => exact hne rfl
      | cons part first => simp at hfirst
    have hfirst : ∀ part ∈ first, 0 ∉ part := by
      intro part hpart
      exact hnull part (List.mem_append_left _ hpart)
    have hlast : 0 ∉ last := hnull last (by simp)
    rw [hbytes, splitCommandLine, dropTerminator_concat]
    simp only [List.isEmpty_iff, hbody, if_false, Text.splitBy_flatMap_append hfirst hlast]

/-- The bytes of some arguments are split into the arguments. -/
theorem splitCommandLine_commandBytes (hnull : ∀ arg ∈ args, '\x00' ∉ arg.toList)
    (hne : args ≠ [""]) : splitCommandLine (commandBytes args) = args := by
  have hparts : ∀ part ∈ args.map fun arg => encode arg.toList, 0 ∉ part := by
    intro part hpart hmem
    obtain ⟨arg, harg, rfl⟩ := List.mem_map.1 hpart
    exact hnull arg harg ((Text.mem_encode_ascii_iff (by decide)).1 hmem)
  have hempty : (args.map fun arg => encode arg.toList) ≠ [[]] := by
    intro hmap
    obtain ⟨arg, rfl, harg⟩ := List.map_eq_singleton_iff.1 hmap
    have hchars : arg.toList = [] := Text.eq_of_encode_eq harg
    rw [String.toList_eq_nil_iff] at hchars
    rw [hchars] at hne
    exact hne rfl
  rw [commandBytes, splitCommandLine_flatMap hparts hempty, List.map_map]
  have hid : ∀ arg ∈ args, String.ofList (Text.decodeLossy (encode arg.toList)) = arg := by
    intro arg _
    rw [Text.decodeLossy_encode, String.ofList_toList]
  exact (List.map_congr_left hid).trans args.map_id

/-- A single argument that is empty is taken for none. -/
theorem splitCommandLine_commandBytes_empty : splitCommandLine (commandBytes [""]) = [] := rfl

/-! ## From the bytes -/

theorem encode_flatMap_null (pieces : List (List Char)) :
    encode (pieces.flatMap (· ++ ['\x00'])) = (pieces.map encode).flatMap (· ++ [0]) := by
  induction pieces with
  | nil => rfl
  | cons piece pieces ih =>
      rw [List.flatMap_cons, Text.encode_append, Text.encode_append, ih]
      rfl

/-- The bytes of a text are split at the null bytes into the bytes of its pieces. -/
theorem splitBy_encode (cs : List Char) :
    Text.splitBy (· == 0) (encode cs) = (Text.splitBy (· == '\x00') cs).map encode := by
  have hnull : ∀ piece ∈ Text.splitBy (· == '\x00') cs, 0 ∉ encode piece := by
    intro piece hpiece hmem
    exact Text.not_mem_of_mem_splitBy hpiece ((Text.mem_encode_ascii_iff (by decide)).1 hmem)
  have hjoin := Text.flatMap_splitBy '\x00' cs
  obtain ⟨first, last, hpieces⟩ :=
    (Text.splitBy (· == '\x00') cs).eq_nil_or_concat'.resolve_left (Text.splitBy_ne_nil _ cs)
  rw [hpieces] at hnull hjoin ⊢
  have hwhole : first.flatMap (· ++ ['\x00']) ++ last = cs := by
    rw [List.flatMap_append, List.flatMap_singleton, ← List.append_assoc] at hjoin
    exact List.append_cancel_right hjoin
  have hbytes : encode cs = (first.map encode).flatMap (· ++ [0]) ++ encode last := by
    rw [← hwhole, Text.encode_append, encode_flatMap_null]
  have hfirst : ∀ part ∈ first.map encode, 0 ∉ part := by
    intro part hpart
    obtain ⟨piece, hpiece, rfl⟩ := List.mem_map.1 hpart
    exact hnull piece (List.mem_append_left _ hpiece)
  have hlast : 0 ∉ encode last := hnull last (by simp)
  rw [hbytes, Text.splitBy_flatMap_append hfirst hlast, List.map_append, List.map_singleton]

/-- The arguments of a text make up the text with a null byte behind it, if it had none there. -/
theorem commandBytes_split (cs : List Char) :
    commandBytes ((Text.splitBy (· == 0) (encode cs)).map fun arg =>
      String.ofList (Text.decodeLossy arg)) = encode cs ++ [0] := by
  have hargs : ((Text.splitBy (· == 0) (encode cs)).map fun arg =>
      String.ofList (Text.decodeLossy arg)).map (fun arg => encode arg.toList) =
      (Text.splitBy (· == '\x00') cs).map encode := by
    rw [splitBy_encode, List.map_map, List.map_map]
    apply List.map_congr_left
    intro piece _
    simp only [Function.comp_apply, Text.decodeLossy_encode, String.toList_ofList]
  rw [commandBytes, hargs, ← encode_flatMap_null, Text.flatMap_splitBy, Text.encode_append]
  rfl

theorem splitCommandLine_of_terminated (hne : bytes ≠ []) :
    splitCommandLine (bytes ++ [0]) =
      (Text.splitBy (· == 0) bytes).map fun arg => String.ofList (Text.decodeLossy arg) := by
  rw [splitCommandLine, dropTerminator_concat]
  simp only [List.isEmpty_iff, hne, if_false]

theorem splitCommandLine_of_open (hne : bytes ≠ []) (hopen : bytes.getLast? ≠ some 0) :
    splitCommandLine bytes =
      (Text.splitBy (· == 0) bytes).map fun arg => String.ofList (Text.decodeLossy arg) := by
  have hbytes : dropTerminator bytes = bytes := if_neg hopen
  rw [splitCommandLine, hbytes]
  simp only [List.isEmpty_iff, hne, if_false]

/-- The arguments that a text is split into make up the text, but for the null byte at
its end. -/
theorem commandBytes_splitCommandLine (htext : IsText bytes) (hne : bytes ≠ [])
    (hlone : bytes ≠ [0]) :
    commandBytes (splitCommandLine bytes) =
      if bytes.getLast? = some 0 then bytes else bytes ++ [0] := by
  obtain ⟨cs, rfl⟩ := htext
  by_cases hlast : (encode cs).getLast? = some 0
  · obtain ⟨body, hbody⟩ := List.getLast?_eq_some_iff.1 hlast
    obtain ⟨before, _, -, rfl, -⟩ := (Text.encode_eq_append_cons_iff (by decide)).1 hbody
    have hsome : encode before ≠ [] := by
      intro hnil
      rw [hnil] at hbody
      exact hlone hbody
    rw [if_pos hlast, hbody, splitCommandLine_of_terminated hsome, commandBytes_split]
  · rw [if_neg hlast, splitCommandLine_of_open hne hlast, commandBytes_split]

/-- Splitting a command line undoes putting a null byte behind each argument, unless there
is nothing but one empty argument; the joined command line is the same even then.  And
putting null bytes behind the arguments of a text undoes the splitting, where a null
byte that the text lacks at its end is added. -/
theorem command_line_round_trips :
    (∀ args : List String, (∀ arg ∈ args, '\x00' ∉ arg.toList) →
      (args ≠ [""] → splitCommandLine (commandBytes args) = args) ∧
      (args = [""] → splitCommandLine (commandBytes args) = []) ∧
      ∀ pid name, (ProcessInfo.mk pid name (splitCommandLine (commandBytes args))).joined =
        String.intercalate " " args) ∧
    ∀ bytes, IsText bytes → bytes ≠ [] → bytes ≠ [0] →
      commandBytes (splitCommandLine bytes) =
        if bytes.getLast? = some 0 then bytes else bytes ++ [0] := by
  constructor
  · intro args hnull
    by_cases hempty : args = [""]
    · subst hempty
      refine ⟨fun hne => absurd rfl hne, fun _ => splitCommandLine_commandBytes_empty, ?_⟩
      intro pid name
      rw [ProcessInfo.joined, splitCommandLine_commandBytes_empty]
      rfl
    · have hsplit := splitCommandLine_commandBytes hnull hempty
      refine ⟨fun _ => hsplit, fun h => absurd h hempty, ?_⟩
      intro pid name
      rw [ProcessInfo.joined, hsplit]
  · intro bytes htext hne hlone
    exact commandBytes_splitCommandLine htext hne hlone

theorem command_line_round_trips_sample :
    splitCommandLine (commandBytes ["", "caf\u00e9", "", ""]) = ["", "caf\u00e9", "", ""] ∧
      commandBytes (splitCommandLine [0, 0x61, 0, 0, 0x62]) = [0, 0x61, 0, 0, 0x62, 0] := by
  obtain ⟨hargs, hbytes⟩ := command_line_round_trips
  constructor
  · exact (hargs _ (by decide)).1 (by decide)
  · have htext : IsText [0, 0x61, 0, 0, 0x62] := ⟨['\x00', 'a', '\x00', '\x00', 'b'], by decide⟩
    exact hbytes _ htext (by decide) (by decide)

end CpuPinning.Proc
