import CpuPinning.Proofs.Host.Affinity
import CpuPinning.Proofs.Mask.Reading
import CpuPinning.Proofs.Pass.Log
import CpuPinning.Proofs.Pass.Questions
import CpuPinning.Proofs.Rule.Compilation

/-!
# What reaches the kernel

The masks that a pass over compiled rules sets are those that the pin file has
written down.  Each has a CPU, and all its CPUs are within the limit and within
the count.  Such a mask always fits into a set of the kernel.
-/

namespace CpuPinning

open Host (CpuSets restrictTask submit)

/-! ## The masks of a document -/

/-- A value stands in a document where a mask is expected. -/
def Value.WritesMask (raw v : Value) : Prop :=
  ∃ m ∈ executables raw.members, ∃ f ∈ m.2.members,
    ("parent", v) ∈ f.2.members ∨
      ∃ threads, ("threads", threads) ∈ f.2.members ∧
        ∃ pattern, (pattern, v) ∈ threads.members

theorem mem_of_lastMember? {key : String} {v : Value}
    {fields : List (String × Value)} (h : lastMember? key fields = some v) :
    (key, v) ∈ fields := by
  induction fields with
  | nil => cases h
  | cons f fields ih =>
      rw [lastMember?] at h
      rcases Option.or_eq_some_iff.1 h with hlater | ⟨-, hfirst⟩
      · exact List.mem_cons_of_mem _ (ih hlater)
      · split at hfirst
        · next hkey =>
            cases hfirst
            rw [← hkey]
            exact List.mem_cons_self
        · cases hfirst

theorem exists_of_forall₂_mem {α β : Type} {R : α → β → Prop} {as : List α}
    {bs : List β} (h : List.Forall₂ R as bs) {b : β} (hb : b ∈ bs) :
    ∃ a ∈ as, R a b := by
  induction h with
  | nil => cases hb
  | @cons a _ as _ hhead _ ih =>
      cases hb with
      | head => exact ⟨a, List.mem_cons_self, hhead⟩
      | tail _ hb =>
          obtain ⟨a', ha', hab⟩ := ih hb
          exact ⟨a', List.mem_cons_of_mem _ ha', hab⟩

/-- A mask of a rule is written in one of the fields that denote the rule. -/
theorem exists_field_of_hasMask {v : Value} {rule : CommandRule}
    (h : DenotesRule v rule) {mask : CpuMask} (hmask : rule.HasMask mask) :
    ∃ w, readMask w = .ok mask ∧
      (("parent", w) ∈ v.members ∨
        ∃ threads, ("threads", threads) ∈ v.members ∧
          ∃ pattern, (pattern, w) ∈ threads.members) := by
  obtain ⟨fields, rfl, hparent, hthreads⟩ := h
  rcases hmask with hown | ⟨rules, hrules, r, hr, rfl⟩
  · rw [hown] at hparent
    generalize hfield : lastMember? "parent" fields = field at hparent
    cases hparent with
    | @some w _ hread => exact ⟨w, hread, .inl (mem_of_lastMember? hfield)⟩
  · rw [hrules] at hthreads
    generalize hfield : lastMember? "threads" fields = field at hthreads
    cases hthreads with
    | some hdenotes =>
        obtain ⟨members, rfl, hmembers⟩ := hdenotes
        obtain ⟨m, hm, -, hread⟩ := exists_of_forall₂_mem hmembers hr
        exact ⟨m.2, hread, .inr ⟨_, mem_of_lastMember? hfield, m.1, hm⟩⟩

/-- A mask of a compiled rule set is written in the document. -/
theorem exists_writesMask {raw : Value} {rules : RuleSet}
    (h : compile raw = .ok rules) {mask : CpuMask} (hmask : rules.HasMask mask) :
    ∃ v, raw.WritesMask v ∧ readMask v = .ok mask := by
  obtain ⟨p, hp, f, hf, hrule⟩ := hmask
  obtain ⟨m, hm, -, fragments, hvalue, hfragments⟩ :=
    exists_of_forall₂_mem (forall₂_of_compile h) hp
  obtain ⟨g, hg, -, hdenotes⟩ := exists_of_forall₂_mem hfragments hf
  obtain ⟨w, hread, hfield⟩ := exists_field_of_hasMask hdenotes hrule
  refine ⟨w, ⟨m, hm, g, ?_, hfield⟩, hread⟩
  rw [hvalue]
  exact hg

/-! ## Settings -/

/-- A mask that may be set: it has exactly the CPUs that a value of the document
names, at least one, and none above the limit or above the count. -/
structure Sane (raw : Value) (count : Nat) (mask : CpuMask) : Prop where
  written : ∃ v, raw.WritesMask v ∧ ∀ cpu, cpu ∈ mask ↔ v.NamesCpu cpu
  nonempty : ∃ cpu, cpu ∈ mask
  le_maxCpuId : ∀ cpu ∈ mask, cpu ≤ maxCpuId
  le_count : ∀ cpu ∈ mask, cpu ≤ count

theorem sane_of_hasMask {raw : Value} {rules : RuleSet}
    (h : compile raw = .ok rules) {mask : CpuMask} (hmask : rules.HasMask mask)
    {count : Nat} (hrange : mask.exceeds count = false) : Sane raw count mask := by
  obtain ⟨v, hv, hread⟩ := exists_writesMask h hmask
  exact {
    written := ⟨v, hv, fun cpu => mem_iff_namesCpu hread⟩
    nonempty := ⟨mask.max, mask.max_mem⟩
    le_maxCpuId := mask.bounded
    le_count := CpuMask.exceeds_eq_false_iff.1 hrange }

/-- Whatever the system answers, a pass over a compiled document sets sane masks
only.  Setting one always comes to a call: the set that is submitted holds just
the CPUs of the mask, and so it is not empty.  The range checks compare with
the highest CPU that the document names for a mask; there always is one. -/
theorem run_masks_sane {raw : Value} {rules : RuleSet}
    (h : compile raw = .ok rules) {κ : Type} {sets : CpuSets κ}
    (hsets : sets.Lawful) {σ : Type} (t : Table σ) (s : σ) (opts : Options) :
    (∀ e ∈ ((run rules opts).exec t s).events, ∀ id mask,
      e.query = .setAffinity id mask →
        Sane raw opts.cpuCount mask ∧
        ∃ set, sets.Holds mask set ∧ (∃ cpu, sets.has set cpu = true) ∧
          ∀ {τ : Type} (call : Host.AffinityCall τ κ) (u : τ),
            restrictTask sets call u id mask = submit call u id set) ∧
    ∀ mask, rules.HasMask mask →
      mask.ids.getLast? = some mask.max ∧
      ∃ v, raw.WritesMask v ∧ v.NamesCpu mask.max ∧
        ∀ cpu, v.NamesCpu cpu → cpu ≤ mask.max := by
  refine ⟨fun e he id mask hquery => ?_, fun mask hmask => ?_⟩
  · have hasked := (run_asksOnly rules opts).exec t s e he
    rw [hquery] at hasked
    obtain ⟨hmask, hrange⟩ := hasked
    have hsane : Sane raw opts.cpuCount mask := sane_of_hasMask h hmask hrange
    obtain ⟨set, hset⟩ := hsets.exists_holds mask
    obtain ⟨cpu, hcpu⟩ := hsane.nonempty
    exact ⟨hsane, set, hset, ⟨cpu, (hset.has_iff cpu).2 hcpu⟩,
      fun call u => hset.restrictTask_eq call u id⟩
  · obtain ⟨v, hv, hread⟩ := exists_writesMask h hmask
    have hnames {cpu : Nat} : cpu ∈ mask ↔ v.NamesCpu cpu := mem_iff_namesCpu hread
    exact ⟨mask.getLast?_ids, v, hv, hnames.1 mask.max_mem,
      fun cpu hcpu => CpuMask.le_max (hnames.2 hcpu)⟩

namespace Sample

/-- Both forms of a mask, for the family of a process and for a thread. -/
def maskDoc : Value :=
  .obj [("worker", .obj [("", .obj [("parent", .str "0 - 1, 3"),
    ("threads", .obj [("io", .arr [.int 2, .int 2])])])])]

/-- The settings of a pass over the small system, with the CPUs of each. -/
def settingsOf (rules : RuleSet) : List (Nat × List Nat) :=
  (settings ((run rules opts).exec Snapshot.table snapshot).events).map
    fun x => (x.1, x.2.ids)

end Sample

theorem run_masks_sane_sample :
    ∃ rules mask, compile Sample.maskDoc = .ok rules ∧ mask.ids = [2] ∧
      (∃ e ∈ ((run rules Sample.opts).exec Snapshot.table Sample.snapshot).events,
        e.query = .setAffinity 11 mask) ∧
      rules.HasMask mask ∧ Host.kernelSets.Lawful ∧ Sane Sample.maskDoc 4 mask ∧
      (∃ set, Host.kernelSets.Holds mask set ∧
        (∃ cpu, Host.kernelSets.has set cpu = true) ∧
        ∀ {τ : Type} (call : Host.AffinityCall τ _) (u : τ),
          restrictTask Host.kernelSets call u 11 mask = submit call u 11 set) ∧
      mask.ids.getLast? = some mask.max ∧
      ∃ v, Sample.maskDoc.WritesMask v ∧ v.NamesCpu mask.max ∧
        ∀ cpu, v.NamesCpu cpu → cpu ≤ mask.max := by
  have hsettings : (compile Sample.maskDoc).toOption.map Sample.settingsOf =
      some [(20, [0, 1, 3]), (10, [0, 1, 3]), (11, [0, 1, 3]), (11, [2])] := by
    decide +kernel
  cases hcompiled : compile Sample.maskDoc with
  | error e =>
      rw [hcompiled] at hsettings
      cases hsettings
  | ok rules =>
      rw [hcompiled] at hsettings
      have hlisted : Sample.settingsOf rules = _ := Option.some.inj hsettings
      have hlast : (11, [2]) ∈ Sample.settingsOf rules := by
        rw [hlisted]
        decide
      obtain ⟨⟨id, mask⟩, hset, hpair⟩ := List.mem_map.1 hlast
      obtain ⟨rfl, hids⟩ := Prod.mk.inj hpair
      obtain ⟨e, he, hsetting⟩ := List.mem_filterMap.1 hset
      obtain ⟨answer, rfl⟩ := Event.exists_of_setting? hsetting
      obtain ⟨hsets, hmasks⟩ := run_masks_sane hcompiled Host.kernelSets_lawful
        Snapshot.table Sample.snapshot Sample.opts
      obtain ⟨hsane, hsubmitted⟩ := hsets _ he _ mask rfl
      have hmask : rules.HasMask mask :=
        ((run_asksOnly rules Sample.opts).exec Snapshot.table Sample.snapshot _ he).1
      exact ⟨rules, mask, rfl, hids, ⟨_, he, rfl⟩, hmask, Host.kernelSets_lawful,
        hsane, hsubmitted, hmasks mask hmask⟩

end CpuPinning
