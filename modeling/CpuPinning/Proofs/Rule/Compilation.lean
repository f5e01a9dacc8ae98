import CpuPinning.Proofs.Rule.Schema

/-!
# Compiling pin files

The compiler accepts exactly the pin files.  The rules that it makes are those
that the file denotes, and where it refuses a document it blames the first
fault in the order of the document.
-/

namespace CpuPinning

/-! ## Readings and their faults -/

section Finds

variable {α β : Type}

/-- A reading goes through if there are no faults, and blames the first one
otherwise. -/
def Finds (x : Except PinError α) (faults : List PinError) : Prop :=
  match x with
  | .ok _ => faults = []
  | .error e => faults.head? = some e

namespace Finds

variable {x : Except PinError α} {faults more : List PinError}

theorem ok (a : α) : Finds (.ok a) [] :=
  rfl

theorem error (e : PinError) : Finds (.error e : Except PinError α) [e] :=
  rfl

theorem bind {f : α → Except PinError β} (hx : Finds x faults)
    (hf : ∀ a, x = .ok a → Finds (f a) more) :
    Finds (x >>= f) (faults ++ more) := by
  cases x with
  | ok a =>
      have hnil : faults = [] := hx
      rw [hnil, List.nil_append]
      exact hf a rfl
  | error e =>
      have hhead : faults.head? = some e := hx
      change (faults ++ more).head? = some e
      rw [List.head?_append, hhead]
      rfl

/-- What is done with the value of a reading is no fault. -/
theorem map (hx : Finds x faults) (f : α → β) :
    Finds (x >>= fun a => pure (f a)) faults := by
  have h : Finds (x >>= fun a => pure (f a)) (faults ++ []) :=
    hx.bind fun a _ => ok (f a)
  rwa [List.append_nil] at h

theorem isOk_iff (hx : Finds x faults) : (∃ a, x = .ok a) ↔ faults = [] := by
  cases x with
  | ok a => exact ⟨fun _ => hx, fun _ => ⟨a, rfl⟩⟩
  | error e =>
      have hhead : faults.head? = some e := hx
      constructor
      · rintro ⟨a, ha⟩
        cases ha
      · rintro rfl
        cases hhead

theorem eq_error_iff (hx : Finds x faults) {e : PinError} :
    x = .error e ↔ faults.head? = some e := by
  cases x with
  | ok a =>
      have hnil : faults = [] := hx
      simp [hnil]
  | error e' =>
      have hhead : faults.head? = some e' := hx
      simp [hhead]

end Finds

/-- A reading of the members of an object finds their faults. -/
theorem finds_asObject {v : Value} (what : String)
    {k : List (String × Value) → Except PinError α}
    {faults : String × Value → List PinError}
    (h : ∀ members, v = .obj members → Finds (k members) (members.flatMap faults)) :
    Finds (asObject v what >>= k) (objectFaults what faults v) := by
  cases v with
  | obj members => exact h members rfl
  | null => exact .error _
  | bool b => exact .error _
  | int n => exact .error _
  | float x => exact .error _
  | str s => exact .error _
  | arr items => exact .error _

end Finds

theorem finds_asMask (v : Value) : Finds (asMask v) (maskFaults v) := by
  unfold asMask maskFaults
  cases readMask v with
  | ok mask => exact .ok mask
  | error e => exact .error _

theorem finds_make (text : String) (mask : CpuMask) :
    Finds (ThreadRule.make text mask) (patternFaults text) := by
  unfold ThreadRule.make patternFaults
  split
  · next hnone =>
      rw [hnone]
      exact .error _
  · next regex hsome =>
      rw [if_pos (by rw [hsome]; rfl)]
      exact .ok _

theorem finds_compileThreads (members : List (String × Value)) :
    Finds (compileThreads members) (members.flatMap threadFaults) := by
  induction members with
  | nil => exact .ok []
  | cons m members ih =>
      obtain ⟨text, value⟩ := m
      rw [List.flatMap_cons, threadFaults, List.append_assoc]
      refine (finds_asMask value).bind fun mask _ => ?_
      exact (finds_make text mask).bind fun rule _ => ih.map (rule :: ·)

section Fields

variable {process fragment : String} {rule : CommandRule}
  {rest : List (String × Value)}

theorem compileFields_parent {value : Value} :
    compileFields process fragment rule (("parent", value) :: rest) =
      asMask value >>= fun mask =>
        compileFields process fragment { rule with parent := some mask } rest :=
  rfl

theorem compileFields_threads {value : Value} :
    compileFields process fragment rule (("threads", value) :: rest) =
      (asObject value ("threads of " ++ place process fragment) >>=
        compileThreads) >>= fun threads =>
          compileFields process fragment { rule with threads := some threads }
            rest := by
  rw [bind_assoc]
  rfl

theorem compileFields_other {field : String} {value : Value}
    (hparent : field ≠ "parent") (hthreads : field ≠ "threads") :
    compileFields process fragment rule ((field, value) :: rest) =
      compileFields process fragment rule rest >>= fun found =>
        pure (found.1, ⟨process, fragment, field⟩ :: found.2) := by
  rw [compileFields.eq_4 process fragment rule field value rest hparent hthreads]

end Fields

theorem finds_compileFields (process fragment : String) (rule : CommandRule)
    (fields : List (String × Value)) :
    Finds (compileFields process fragment rule fields)
      (fields.flatMap (fieldFaults process fragment)) := by
  induction fields generalizing rule with
  | nil => exact .ok (rule, [])
  | cons f fields ih =>
      obtain ⟨field, value⟩ := f
      rw [List.flatMap_cons]
      by_cases hparent : field = "parent"
      · subst hparent
        rw [compileFields_parent, fieldFaults, if_pos rfl]
        exact (finds_asMask value).bind fun mask _ => ih _
      · by_cases hthreads : field = "threads"
        · subst hthreads
          rw [compileFields_threads, fieldFaults, if_neg hparent, if_pos rfl]
          have hread := finds_asObject ("threads of " ++ place process fragment)
            fun members (_ : value = .obj members) => finds_compileThreads members
          exact hread.bind fun threads _ => ih _
        · rw [compileFields_other hparent hthreads, fieldFaults, if_neg hparent,
            if_neg hthreads]
          exact (ih rule).map _

theorem compileFragments_cons {process : String} {f : String × Value}
    {rest : List (String × Value)} :
    compileFragments process (f :: rest) =
      (asObject f.2 (place process f.1) >>=
        compileFields process f.1 .none) >>= fun found =>
          compileFragments process rest >>= fun more =>
            pure ((f.1, found.1) :: more.1, found.2 ++ more.2) := by
  rw [bind_assoc]
  rfl

theorem finds_compileFragments (process : String)
    (fragments : List (String × Value)) :
    Finds (compileFragments process fragments)
      (fragments.flatMap (fragmentFaults process)) := by
  induction fragments with
  | nil => exact .ok ([], [])
  | cons f fragments ih =>
      rw [List.flatMap_cons, compileFragments_cons, fragmentFaults]
      have hread := finds_asObject (place process f.1)
        fun fields (_ : f.2 = .obj fields) => finds_compileFields process f.1 .none fields
      exact hread.bind fun found _ => ih.map _

theorem compileProcesses_comment {value : Value}
    {rest : List (String × Value)} :
    compileProcesses ((commentKey, value) :: rest) = compileProcesses rest :=
  if_pos rfl

theorem compileProcesses_cons {m : String × Value}
    {rest : List (String × Value)} (h : m.1 ≠ commentKey) :
    compileProcesses (m :: rest) =
      (asObject m.2 ("process '" ++ m.1 ++ "'") >>=
        compileFragments m.1) >>= fun found =>
          compileProcesses rest >>= fun more =>
            pure ((m.1, found.1) :: more.1, found.2 ++ more.2) := by
  rw [bind_assoc]
  exact if_neg h

theorem finds_compileProcesses (members : List (String × Value)) :
    Finds (compileProcesses members) (members.flatMap processFaults) := by
  induction members with
  | nil => exact .ok ([], [])
  | cons m members ih =>
      rw [List.flatMap_cons, processFaults]
      by_cases hcomment : m.1 = commentKey
      · obtain ⟨process, value⟩ := m
        obtain rfl : process = commentKey := hcomment
        rw [compileProcesses_comment, if_pos rfl]
        exact ih
      · rw [compileProcesses_cons hcomment, if_neg hcomment]
        have hread := finds_asObject ("process '" ++ m.1 ++ "'")
          fun fragments (_ : m.2 = .obj fragments) => finds_compileFragments m.1 fragments
        exact hread.bind fun found _ => ih.map _

/-- The compiler blames the first fault of a document. -/
theorem finds_compile (raw : Value) : Finds (compile raw) (pinFileFaults raw) :=
  finds_asObject _ fun members _ =>
    (finds_compileProcesses members).map fun found => RuleSet.mk found.1 found.2

/-! ## The rules of documents without faults -/

section Images

variable {α β : Type}

theorem exists_of_map_eq_ok {x : Except PinError α} {f : α → β} {b : β}
    (h : (x >>= fun a => pure (f a)) = .ok b) : ∃ a, x = .ok a ∧ f a = b := by
  obtain ⟨a, ha, hb⟩ := exists_of_bind_eq_ok h
  exact ⟨a, ha, Except.ok.inj hb⟩

theorem exists_of_asObject_eq_ok {v : Value} {what : String}
    {k : List (String × Value) → Except PinError α} {a : α}
    (h : (asObject v what >>= k) = .ok a) :
    ∃ members, v = .obj members ∧ k members = .ok a := by
  cases v with
  | obj members => exact ⟨members, rfl, h⟩
  | null => cases h
  | bool b => cases h
  | int n => cases h
  | float x => cases h
  | str s => cases h
  | arr items => cases h

end Images

theorem readMask_of_asMask {v : Value} {mask : CpuMask}
    (h : asMask v = .ok mask) : readMask v = .ok mask := by
  unfold asMask at h
  cases hread : readMask v with
  | ok found =>
      rw [hread] at h
      cases h
      rfl
  | error e =>
      rw [hread] at h
      cases h

theorem make_eq_ok {text : String} {mask : CpuMask} {rule : ThreadRule}
    (h : ThreadRule.make text mask = .ok rule) :
    rule.pattern = text ∧ rule.mask = mask := by
  unfold ThreadRule.make at h
  split at h
  · cases h
  · cases h
    exact ⟨rfl, rfl⟩

theorem forall₂_of_compileThreads {members : List (String × Value)}
    {rules : List ThreadRule} (h : compileThreads members = .ok rules) :
    List.Forall₂ (fun m rule => rule.pattern = m.1 ∧ readMask m.2 = .ok rule.mask)
      members rules := by
  induction members generalizing rules with
  | nil =>
      cases h
      exact .nil
  | cons m members ih =>
      obtain ⟨mask, hmask, hrest⟩ := exists_of_bind_eq_ok h
      obtain ⟨rule, hrule, hmore⟩ := exists_of_bind_eq_ok hrest
      obtain ⟨others, hothers, rfl⟩ := exists_of_map_eq_ok hmore
      obtain ⟨hpattern, rfl⟩ := make_eq_ok hrule
      exact .cons ⟨hpattern, readMask_of_asMask hmask⟩ (ih hothers)

/-- A part of a rule after some fields have been read: what its field denotes,
or what it was before if there is no such field. -/
def Updates {β : Type} (R : Value → β → Prop) (old : Option β) :
    Option Value → Option β → Prop
  | some v, new => ∃ b, R v b ∧ new = some b
  | none, new => new = old

namespace Updates

variable {β : Type} {R : Value → β → Prop} {old new : Option β}
  {later : Option Value}

/-- A field that is read first counts if no later one does. -/
theorem cons {v : Value} {b : β} (hv : R v b)
    (h : Updates R (some b) later new) : Updates R old (later.or (some v)) new := by
  cases later with
  | none => exact ⟨b, hv, h⟩
  | some w => exact h

theorem rel (h : Updates R none later new) : Option.Rel R later new := by
  cases later with
  | none =>
      have hnone : new = none := h
      rw [hnone]
      exact .none
  | some v =>
      obtain ⟨b, hv, rfl⟩ := h
      exact .some hv

end Updates

/-- Fields that are read give a rule its parts, and the fields without a meaning
are all named. -/
theorem updates_of_compileFields {process fragment : String}
    {rule next : CommandRule} {fields : List (String × Value)}
    {unknown : List UnknownField}
    (h : compileFields process fragment rule fields = .ok (next, unknown)) :
    Updates (fun v mask => readMask v = .ok mask) rule.parent
        (lastMember? "parent" fields) next.parent ∧
      Updates DenotesThreads rule.threads (lastMember? "threads" fields)
        next.threads ∧
      unknown = unknownOf process (fragment, .obj fields) := by
  induction fields generalizing rule next unknown with
  | nil =>
      cases h
      exact ⟨rfl, rfl, rfl⟩
  | cons f fields ih =>
      obtain ⟨field, value⟩ := f
      by_cases hparent : field = "parent"
      · subst hparent
        rw [compileFields_parent] at h
        obtain ⟨mask, hmask, hrest⟩ := exists_of_bind_eq_ok h
        obtain ⟨hparent, hthreads, hunknown⟩ := ih hrest
        rw [lastMember?_cons_self, lastMember?_cons_of_ne (by decide)]
        exact ⟨hparent.cons (readMask_of_asMask hmask), hthreads, hunknown⟩
      · by_cases hthreads : field = "threads"
        · subst hthreads
          rw [compileFields_threads] at h
          obtain ⟨threads, hobject, hrest⟩ := exists_of_bind_eq_ok h
          obtain ⟨members, hvalue, hmembers⟩ := exists_of_asObject_eq_ok hobject
          have hdenotes : DenotesThreads value threads :=
            ⟨members, hvalue, forall₂_of_compileThreads hmembers⟩
          obtain ⟨hparent, hthreads, hunknown⟩ := ih hrest
          rw [lastMember?_cons_self, lastMember?_cons_of_ne (by decide)]
          exact ⟨hparent, hthreads.cons hdenotes, hunknown⟩
        · rw [compileFields_other hparent hthreads] at h
          obtain ⟨found, hfound, hnext⟩ := exists_of_map_eq_ok h
          cases hnext
          obtain ⟨hparent', hthreads', hunknown⟩ := ih hfound
          rw [lastMember?_cons_of_ne hparent, lastMember?_cons_of_ne hthreads,
            hunknown]
          refine ⟨hparent', hthreads', ?_⟩
          simp [unknownOf, Value.members, hparent, hthreads]

theorem forall₂_of_compileFragments {process : String}
    {fragments : List (String × Value)} {rules : ProcessRule}
    {unknown : List UnknownField}
    (h : compileFragments process fragments = .ok (rules, unknown)) :
    List.Forall₂ (fun f rule => rule.1 = f.1 ∧ DenotesRule f.2 rule.2)
        fragments rules ∧
      unknown = fragments.flatMap (unknownOf process) := by
  induction fragments generalizing rules unknown with
  | nil =>
      cases h
      exact ⟨.nil, rfl⟩
  | cons f fragments ih =>
      rw [compileFragments_cons] at h
      obtain ⟨found, hobject, hrest⟩ := exists_of_bind_eq_ok h
      obtain ⟨more, hmore, hrules⟩ := exists_of_map_eq_ok hrest
      cases hrules
      obtain ⟨fields, hvalue, hfields⟩ := exists_of_asObject_eq_ok hobject
      obtain ⟨hparent, hthreads, hunknown⟩ := updates_of_compileFields hfields
      obtain ⟨hrules, hothers⟩ := ih hmore
      have hrule : DenotesRule f.2 found.1 :=
        ⟨fields, hvalue, hparent.rel, hthreads.rel⟩
      refine ⟨.cons ⟨rfl, hrule⟩ hrules, ?_⟩
      rw [hunknown, hothers, List.flatMap_cons, ← hvalue]

theorem forall₂_of_compileProcesses {members : List (String × Value)}
    {rules : List (String × ProcessRule)} {unknown : List UnknownField}
    (h : compileProcesses members = .ok (rules, unknown)) :
    List.Forall₂ (fun m rule => rule.1 = m.1 ∧ DenotesProcess m.2 rule.2)
        (executables members) rules ∧
      unknown = unknownFields members := by
  induction members generalizing rules unknown with
  | nil =>
      cases h
      exact ⟨.nil, rfl⟩
  | cons m members ih =>
      by_cases hcomment : m.1 = commentKey
      · obtain ⟨process, value⟩ := m
        obtain rfl : process = commentKey := hcomment
        rw [compileProcesses_comment] at h
        have hsame : executables ((commentKey, value) :: members) =
            executables members := by
          simp [executables]
        rw [unknownFields, hsame]
        exact ih h
      · rw [compileProcesses_cons hcomment] at h
        obtain ⟨found, hobject, hrest⟩ := exists_of_bind_eq_ok h
        obtain ⟨more, hmore, hrules⟩ := exists_of_map_eq_ok hrest
        cases hrules
        obtain ⟨fragments, hvalue, hfragments⟩ := exists_of_asObject_eq_ok hobject
        obtain ⟨hrule, hunknown⟩ := forall₂_of_compileFragments hfragments
        obtain ⟨hrules, hothers⟩ := ih hmore
        have hfirst : executables (m :: members) = m :: executables members := by
          simp [executables, hcomment]
        rw [unknownFields, hfirst]
        refine ⟨.cons ⟨rfl, fragments, hvalue, hrule⟩ hrules, ?_⟩
        rw [hunknown, hothers, List.flatMap_cons, hvalue]
        rfl

/-! ## The compiler -/

theorem keys_eq_of_forall₂ {α β : Type} {P : String × α → String × β → Prop}
    {ms : List (String × α)} {rs : List (String × β)}
    (h : List.Forall₂ (fun m r => r.1 = m.1 ∧ P m r) ms rs) :
    rs.map (·.1) = ms.map (·.1) := by
  induction h with
  | nil => rfl
  | cons hhead _ ih => rw [List.map_cons, List.map_cons, hhead.1, ih]

/-- The executables of a rule set are those of its document, in their order. -/
theorem forall₂_of_compile {raw : Value} {rules : RuleSet}
    (h : compile raw = .ok rules) :
    List.Forall₂ (fun m rule => rule.1 = m.1 ∧ DenotesProcess m.2 rule.2)
      (executables raw.members) rules.processes := by
  obtain ⟨members, rfl, hmembers⟩ := exists_of_asObject_eq_ok h
  obtain ⟨found, hfound, rfl⟩ := exists_of_map_eq_ok hmembers
  exact (forall₂_of_compileProcesses hfound).1

/-- The compiler accepts exactly the pin files.  What it makes of a pin file has
the executables of the file without the remark, for each of them the fragments
in the order of the file, for each of those the rule that its fields denote in
any order, and a warning for each field without a meaning.  What it says of any
other document is the first of the faults in the order of the document. -/
theorem compile_faithful (raw : Value) :
    ((∃ rules, compile raw = .ok rules) ↔ IsPinFile raw) ∧
    (∀ rules, compile raw = .ok rules →
      ∃ members, raw = .obj members ∧
        rules.names.Perm ((executables members).map (·.1)) ∧
        List.Forall₂ (fun m rule => rule.1 = m.1 ∧ DenotesProcess m.2 rule.2)
          (executables members) rules.processes ∧
        rules.warnings = unknownFields members) ∧
    (∀ fields fields' rule, fields.Perm fields' → (fields.map (·.1)).Nodup →
      (DenotesRule (.obj fields) rule ↔ DenotesRule (.obj fields') rule)) ∧
    ∀ e, compile raw = .error e ↔ (pinFileFaults raw).head? = some e := by
  refine ⟨?_, ?_, ?_, ?_⟩
  · rw [(finds_compile raw).isOk_iff, pinFileFaults_eq_nil_iff]
  · intro rules h
    obtain ⟨members, hraw, hmembers⟩ := exists_of_asObject_eq_ok h
    obtain ⟨found, hfound, rfl⟩ := exists_of_map_eq_ok hmembers
    obtain ⟨hrules, hunknown⟩ := forall₂_of_compileProcesses hfound
    refine ⟨members, hraw, ?_, hrules, hunknown⟩
    rw [← keys_eq_of_forall₂ hrules]
    exact List.mergeSort_perm _ _
  · intro fields fields' rule hperm hnodup
    exact denotesRule_perm hperm hnodup
  · intro e
    exact (finds_compile raw).eq_error_iff

end CpuPinning
