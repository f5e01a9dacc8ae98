import CpuPinning.Proc.Memory

/-!
# Memory of the host

The memory status is a text with a line for each quantity: a key, a colon and a number of kilobytes.
Six of the keys are needed.  The text is read line by line; a line that has one of these keys and a
number replaces what was known of its quantity, and all other lines are passed over.
-/

namespace CpuPinning.Host

open Decimal (Binary64)

/-- The quantities that the memory status tells. -/
inductive Quantity where
  | total
  | available
  | cached
  | buffers
  | swapTotal
  | swapFree
deriving DecidableEq, Repr

namespace Quantity

/-- The key of a quantity. -/
def key : Quantity → List Char
  | total => "MemTotal".toList
  | available => "MemAvailable".toList
  | cached => "Cached".toList
  | buffers => "Buffers".toList
  | swapTotal => "SwapTotal".toList
  | swapFree => "SwapFree".toList

/-- The quantity of a key, if the key is needed. -/
def ofKey? (key : List Char) : Option Quantity :=
  [total, available, cached, buffers, swapTotal, swapFree].find? (·.key == key)

theorem ofKey?_eq_some_iff {key : List Char} {q : Quantity} :
    ofKey? key = some q ↔ q.key = key := by
  constructor
  · intro h
    rw [ofKey?] at h
    have hfound := List.find?_some h
    exact beq_iff_eq.1 hfound
  · rintro rfl
    cases q <;> decide

theorem colon_not_mem_key (q : Quantity) : ':' ∉ q.key := by
  cases q <;> decide

end Quantity

/-- A value for each quantity. -/
structure Quantities (α : Type) where
  total : α
  available : α
  cached : α
  buffers : α
  swapTotal : α
  swapFree : α
deriving DecidableEq, Repr

namespace Quantities

variable {s s' : Quantities α} {q q' : Quantity}

def get (s : Quantities α) : Quantity → α
  | .total => s.total
  | .available => s.available
  | .cached => s.cached
  | .buffers => s.buffers
  | .swapTotal => s.swapTotal
  | .swapFree => s.swapFree

def set (s : Quantities α) (q : Quantity) (a : α) : Quantities α :=
  match q with
  | .total => { s with total := a }
  | .available => { s with available := a }
  | .cached => { s with cached := a }
  | .buffers => { s with buffers := a }
  | .swapTotal => { s with swapTotal := a }
  | .swapFree => { s with swapFree := a }

theorem get_set_self (s : Quantities α) (q : Quantity) (a : α) : (s.set q a).get q = a := by
  cases q <;> rfl

theorem get_set_of_ne (h : q' ≠ q) (s : Quantities α) (a : α) : (s.set q a).get q' = s.get q' := by
  cases q <;> cases q' <;> first | rfl | exact absurd rfl h

theorem ext_get (h : ∀ q, s.get q = s'.get q) : s = s' := by
  obtain ⟨total, available, cached, buffers, swapTotal, swapFree⟩ := s
  obtain ⟨total', available', cached', buffers', swapTotal', swapFree'⟩ := s'
  obtain rfl : total = total' := h .total
  obtain rfl : available = available' := h .available
  obtain rfl : cached = cached' := h .cached
  obtain rfl : buffers = buffers' := h .buffers
  obtain rfl : swapTotal = swapTotal' := h .swapTotal
  obtain rfl : swapFree = swapFree' := h .swapFree
  rfl

/-- Setting one quantity and then another is the same the other way round. -/
theorem set_comm (h : q ≠ q') (s : Quantities α) (a a' : α) :
    (s.set q a).set q' a' = (s.set q' a').set q a := by
  apply ext_get
  intro p
  by_cases hp : p = q
  · rw [hp, get_set_of_ne h, get_set_self, get_set_self]
  · by_cases hp' : p = q'
    · rw [hp', get_set_self, get_set_of_ne h.symm, get_set_self]
    · rw [get_set_of_ne hp', get_set_of_ne hp, get_set_of_ne hp, get_set_of_ne hp']

end Quantities

/-- The memory of the host, in bytes. -/
abbrev MemoryStatus := Quantities Nat

/-- What is known of the memory after some lines. -/
abbrev MemoryScan := Quantities (Option Nat)

namespace MemoryScan

def start : MemoryScan := ⟨none, none, none, none, none, none⟩

/-- The status, if no quantity is missing. -/
def status? (s : MemoryScan) : Option MemoryStatus := do
  return {
    total := ← s.total
    available := ← s.available
    cached := ← s.cached
    buffers := ← s.buffers
    swapTotal := ← s.swapTotal
    swapFree := ← s.swapFree }

variable {s : MemoryScan} {m : MemoryStatus}

theorem get_start (q : Quantity) : start.get q = none := by
  cases q <;> rfl

theorem status?_eq_some_iff : s.status? = some m ↔ ∀ q, s.get q = some (m.get q) := by
  constructor
  · intro h
    simp only [status?, Option.bind_eq_bind, Option.bind_eq_some_iff, Option.pure_def,
      Option.some.injEq] at h
    obtain ⟨total, htotal, available, havailable, cached, hcached, buffers, hbuffers,
      swapTotal, hswapTotal, swapFree, hswapFree, rfl⟩ := h
    intro q
    cases q <;> assumption
  · intro h
    have htotal : s.total = some m.total := h .total
    have havailable : s.available = some m.available := h .available
    have hcached : s.cached = some m.cached := h .cached
    have hbuffers : s.buffers = some m.buffers := h .buffers
    have hswapTotal : s.swapTotal = some m.swapTotal := h .swapTotal
    have hswapFree : s.swapFree = some m.swapFree := h .swapFree
    rw [status?, htotal, havailable, hcached, hbuffers, hswapTotal, hswapFree]
    rfl

/-- There is a status if every quantity is known. -/
theorem exists_status?_iff : (∃ m, s.status? = some m) ↔ ∀ q, ∃ bytes, s.get q = some bytes := by
  constructor
  · rintro ⟨m, hm⟩ q
    exact ⟨m.get q, status?_eq_some_iff.1 hm q⟩
  · intro h
    obtain ⟨total, htotal⟩ := h .total
    obtain ⟨available, havailable⟩ := h .available
    obtain ⟨cached, hcached⟩ := h .cached
    obtain ⟨buffers, hbuffers⟩ := h .buffers
    obtain ⟨swapTotal, hswapTotal⟩ := h .swapTotal
    obtain ⟨swapFree, hswapFree⟩ := h .swapFree
    refine ⟨⟨total, available, cached, buffers, swapTotal, swapFree⟩, status?_eq_some_iff.2 ?_⟩
    intro q
    cases q <;> assumption

end MemoryScan

/-- The quantity that a line is about, and its number. -/
def reading? (line : List Char) : Option (Quantity × Nat) := do
  let (key, value) ← Text.splitOnce ':' line
  let q ← Quantity.ofKey? key
  let kilobytes ← Proc.firstNumber? value
  return (q, kilobytes)

/-- Reads a line. -/
def MemoryScan.readLine (s : MemoryScan) (line : List Char) : MemoryScan :=
  match reading? line with
  | some (q, kilobytes) => s.set q (some (wordProduct kilobytes 1024))
  | none => s

/-- The memory status that a text tells, if it tells all quantities. -/
def memoryStatus? (text : List Char) : Option MemoryStatus :=
  ((Text.lines text).foldl MemoryScan.readLine .start).status?

/-- What is reported when a quantity is missing. -/
def memoryStatusMissing : String := "Failed to parse required fields from /proc/meminfo"

/-- The part of the memory that is not available, in percent. -/
def MemoryStatus.usedPercent (m : MemoryStatus) : Binary64 :=
  if m.total = 0 then .zero
  else ((Binary64.ofNat (m.total - m.available)).mul (.ofNat 100)).div (.ofNat m.total)

end CpuPinning.Host
