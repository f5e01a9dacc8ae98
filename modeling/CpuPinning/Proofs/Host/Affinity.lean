import CpuPinning.Host.Affinity

/-!
# Kernel sets

Every mask fits into the sets that the system call takes.  A set that is filled
with a mask has the CPUs of the mask and no others, so that a task which is
restricted to a mask always gets the answer of the kernel.
-/

namespace CpuPinning.Host

namespace CpuSets

variable {κ : Type} {sets : CpuSets κ}

/-- Sets as the kernel documents them: there is a place for every CPU below the
number of places, and a set has what was added to it and nothing else. -/
structure Lawful (sets : CpuSets κ) : Prop where
  has_empty (cpu : Nat) : sets.has sets.empty cpu = false
  insert_ok (set : κ) {cpu : Nat} :
    cpu < places → ∃ next, sets.insert set cpu = .ok next
  has_insert {set next : κ} {cpu : Nat} : sets.insert set cpu = .ok next →
    ∀ other, sets.has next other = true ↔ other = cpu ∨ sets.has set other = true

theorem Lawful.fill_eq_ok (h : sets.Lawful) {cpus : List Nat}
    (hcpus : ∀ cpu ∈ cpus, cpu < places) (set : κ) :
    ∃ full, sets.fill set cpus = .ok full ∧
      ∀ other, sets.has full other = true ↔
        other ∈ cpus ∨ sets.has set other = true := by
  induction cpus generalizing set with
  | nil => exact ⟨set, rfl, fun other => by simp⟩
  | cons cpu cpus ih =>
      obtain ⟨hcpu, hrest⟩ := List.forall_mem_cons.1 hcpus
      obtain ⟨next, hnext⟩ := h.insert_ok set hcpu
      obtain ⟨full, hfull, hhas⟩ := ih hrest next
      refine ⟨full, ?_, fun other => ?_⟩
      · rw [fill, hnext]
        exact hfull
      · rw [hhas, h.has_insert hnext, List.mem_cons, or_assoc]
        exact or_left_comm

/-- A set that was filled with the CPUs of a mask. -/
structure Holds (sets : CpuSets κ) (mask : CpuMask) (set : κ) : Prop where
  filled : sets.fill sets.empty mask.ids = .ok set
  has_iff (cpu : Nat) : sets.has set cpu = true ↔ cpu ∈ mask

theorem Lawful.exists_holds (h : sets.Lawful) (mask : CpuMask) :
    ∃ set, sets.Holds mask set := by
  have hfits : ∀ cpu ∈ mask.ids, cpu < places := by
    intro cpu hcpu
    have hbound : cpu ≤ maxCpuId := mask.bounded cpu hcpu
    unfold maxCpuId at hbound
    unfold places
    omega
  obtain ⟨set, hset, hhas⟩ := h.fill_eq_ok hfits sets.empty
  refine ⟨set, hset, fun cpu => ?_⟩
  rw [hhas, h.has_empty]
  simp [CpuMask.mem_iff]

/-- A mask that fits is submitted, and the answer is that of the kernel. -/
theorem Holds.restrictTask_eq {σ : Type} {mask : CpuMask} {set : κ}
    (h : sets.Holds mask set) (call : AffinityCall σ κ) (s : σ) (id : Nat) :
    restrictTask sets call s id mask = submit call s id set := by
  rw [restrictTask, h.filled]

end CpuSets

theorem kernelSets_lawful : kernelSets.Lawful where
  has_empty cpu := BitVec.getLsbD_zero
  insert_ok set cpu h := ⟨_, if_pos h⟩
  has_insert {set next cpu} h other := by
    unfold kernelSets at h ⊢
    dsimp only at h ⊢
    split at h
    · next hplace =>
        obtain rfl := Except.ok.inj h
        rw [BitVec.getLsbD_or, BitVec.getLsbD_twoPow, Bool.or_eq_true,
          Bool.and_eq_true, decide_eq_true_eq, decide_eq_true_eq]
        constructor
        · rintro (hset | ⟨-, rfl⟩)
          · exact .inr hset
          · exact .inl rfl
        · rintro (rfl | hset)
          · exact .inr ⟨hplace, rfl⟩
          · exact .inl hset
    · cases h

end CpuPinning.Host
