import Mathlib.Data.List.Nodup
import CpuPinning.Pass.Match
import CpuPinning.Proofs.Rule.Compilation

/-!
# Matches of a pin file

Which matches a document asks for, said on the document and the list of the
processes, without the compiler and the matcher.  The matcher lists exactly
these, each once, by the places of the processes and then by the places of the
fragments in the document.
-/

namespace CpuPinning

/-! ## What a document asks for -/

/-- The value of a key of an object. -/
def Value.get? (key : String) (v : Value) : Option Value :=
  member? key v.members

/-- A text that stands somewhere in another one. -/
def OccursIn (part whole : String) : Prop :=
  ∃ before after, whole = before ++ part ++ after

/-- A document asks for a match at a place, which is the place of the process in
the list and the place of the fragment in the document. -/
structure Selects (raw : Value) (processes : List ProcessInfo)
    (place : Nat × Nat) (m : Match) : Prop where
  process : processes[place.1]? = some m.process
  name_ne : m.process.name ≠ commentKey
  rule : ∃ fragments fields,
    raw.get? m.process.name = some (.obj fragments) ∧
    fragments[place.2]? = some (m.fragment, fields) ∧ DenotesRule fields m.rule
  occurs : OccursIn m.fragment m.process.joined

/-- A document asks for a match, read by the keys of the document alone. -/
structure Asks (raw : Value) (m : Match) : Prop where
  name_ne : m.process.name ≠ commentKey
  rule : ∃ fields,
    (raw.get? m.process.name).bind (Value.get? m.fragment) = some fields ∧
    DenotesRule fields m.rule
  occurs : OccursIn m.fragment m.process.joined

/-- No executable has a fragment twice. -/
def Value.DistinctFragments (raw : Value) : Prop :=
  ∀ m ∈ raw.members, (m.2.members.map (·.1)).Nodup

/-- Only objects have values for keys. -/
theorem Value.exists_eq_obj_of_get? {key : String} {v w : Value}
    (h : v.get? key = some w) :
    ∃ members, v = .obj members ∧ member? key members = some w := by
  cases v with
  | obj members => exact ⟨members, rfl, h⟩
  | null => cases h
  | bool b => cases h
  | int n => cases h
  | float x => cases h
  | str s => cases h
  | arr items => cases h

theorem occursIn_iff {part whole : String} :
    OccursIn part whole ↔ Text.occurs part.toList whole.toList = true := by
  rw [Text.occurs_iff]
  constructor
  · rintro ⟨before, after, rfl⟩
    exact ⟨before.toList, after.toList, by simp only [String.toList_append]⟩
  · rintro ⟨before, after, h⟩
    refine ⟨String.ofList before, String.ofList after, String.toList_inj.1 ?_⟩
    simp only [String.toList_append, String.toList_ofList, h]

theorem Value.DistinctFragments.nodup {raw : Value} (h : raw.DistinctFragments)
    {name : String} {fragments : List (String × Value)}
    (hget : raw.get? name = some (.obj fragments)) :
    (fragments.map (·.1)).Nodup :=
  h _ (mem_of_member? hget)

/-- Where fragments are distinct, the place of a fragment says no more than its
key does. -/
theorem exists_selects_iff {raw : Value} (h : raw.DistinctFragments)
    {processes : List ProcessInfo} {i : Nat} {m : Match} :
    (∃ j, Selects raw processes (i, j) m) ↔
      processes[i]? = some m.process ∧ Asks raw m := by
  constructor
  · rintro ⟨j, hprocess, hname, ⟨fragments, fields, hget, hplace, hrule⟩, hoccurs⟩
    refine ⟨hprocess, hname, ⟨fields, ?_, hrule⟩, hoccurs⟩
    rw [hget, Option.bind_some, Value.get?]
    exact (member?_eq_some_iff (h.nodup hget)).2 (List.mem_of_getElem? hplace)
  · rintro ⟨hprocess, hname, ⟨fields, hfields, hrule⟩, hoccurs⟩
    obtain ⟨v, hget, hfields⟩ := Option.bind_eq_some_iff.1 hfields
    obtain ⟨fragments, rfl, hfield⟩ := Value.exists_eq_obj_of_get? hfields
    have hmem := (member?_eq_some_iff (h.nodup hget)).1 hfield
    obtain ⟨j, hplace⟩ := List.mem_iff_getElem?.1 hmem
    exact ⟨j, hprocess, hname, ⟨fragments, fields, hget, hplace, hrule⟩, hoccurs⟩

theorem Selects.place_eq {raw : Value} (h : raw.DistinctFragments)
    {processes : List ProcessInfo} {place place' : Nat × Nat} {m m' : Match}
    (hm : Selects raw processes place m) (hm' : Selects raw processes place' m')
    (hprocess : place.1 = place'.1) (hfragment : m.fragment = m'.fragment) :
    place = place' := by
  obtain ⟨i, j⟩ := place
  obtain ⟨i', j'⟩ := place'
  obtain rfl : i = i' := hprocess
  have hsame : m.process = m'.process :=
    Option.some.inj (hm.process.symm.trans hm'.process)
  obtain ⟨fragments, fields, hget, hplace, -⟩ := hm.rule
  obtain ⟨fragments', fields', hget', hplace', -⟩ := hm'.rule
  rw [hsame, hget', Option.some.injEq, Value.obj.injEq] at hget
  subst hget
  have hkey : (fragments'.map (·.1))[j]? = some m.fragment := by
    rw [List.getElem?_map, hplace]
    rfl
  have hkey' : (fragments'.map (·.1))[j']? = some m.fragment := by
    rw [List.getElem?_map, hplace', hfragment]
    rfl
  have hlt : j < (fragments'.map (·.1)).length :=
    (List.getElem?_eq_some_iff.1 hkey).1
  rw [(List.getElem?_inj hlt (h.nodup hget')).1 (hkey.trans hkey'.symm)]

/-! ## A document denotes one rule for a fragment -/

section Rel

variable {α β : Type} {R : α → β → Prop} {o : Option α} {p : Option β}

theorem exists_of_rel_some {b : β} (h : Option.Rel R o (some b)) :
    ∃ a, o = some a ∧ R a b := by
  cases h with
  | some hab => exact ⟨_, rfl, hab⟩

theorem exists_of_some_rel {a : α} (h : Option.Rel R (some a) p) :
    ∃ b, p = some b ∧ R a b := by
  cases h with
  | some hab => exact ⟨_, rfl, hab⟩

theorem rightUnique_option (hR : Relator.RightUnique R) :
    Relator.RightUnique (Option.Rel R) := by
  intro o p q hp hq
  cases o with
  | none =>
      cases hp
      cases hq
      rfl
  | some a =>
      obtain ⟨b, rfl, hb⟩ := exists_of_some_rel hp
      obtain ⟨c, rfl, hc⟩ := exists_of_some_rel hq
      rw [hR hb hc]

theorem rel_getElem? {as : List α} {bs : List β} (h : List.Forall₂ R as bs)
    (i : Nat) : Option.Rel R as[i]? bs[i]? := by
  induction h generalizing i with
  | nil => exact .none
  | cons hhead _ ih =>
      cases i with
      | zero => exact .some hhead
      | succ i => exact ih i

theorem rel_member? {ms : List (String × α)} {rs : List (String × β)}
    (h : List.Forall₂ (fun m r => r.1 = m.1 ∧ R m.2 r.2) ms rs) (key : String) :
    Option.Rel R (member? key ms) (member? key rs) := by
  induction h with
  | nil => exact .none
  | @cons m r ms rs hhead _ ih =>
      obtain ⟨hkey, hvalue⟩ := hhead
      by_cases hm : m.1 = key
      · rw [member?, if_pos hm, member?, if_pos (hkey.trans hm)]
        exact .some hvalue
      · rw [member?, if_neg hm, member?, if_neg (hkey.trans_ne hm)]
        exact ih

end Rel

theorem ThreadRule.eq_of_pattern_mask {rule other : ThreadRule}
    (hpattern : rule.pattern = other.pattern) (hmask : rule.mask = other.mask) :
    rule = other := by
  obtain ⟨pattern, regex, mask, compiled⟩ := rule
  obtain ⟨pattern', regex', mask', compiled'⟩ := other
  obtain rfl : pattern = pattern' := hpattern
  obtain rfl : mask = mask' := hmask
  obtain rfl : regex = regex' := Option.some.inj (compiled.symm.trans compiled')
  rfl

theorem readMask_rightUnique :
    Relator.RightUnique fun (v : Value) (mask : CpuMask) =>
      readMask v = .ok mask := by
  intro v mask mask' h h'
  exact Except.ok.inj (h.symm.trans h')

theorem denotesThreads_rightUnique : Relator.RightUnique DenotesThreads := by
  rintro v rules rules' ⟨members, rfl, h⟩ ⟨members', hv, h'⟩
  obtain rfl : members = members' := Value.obj.inj hv
  refine Relator.RightUnique.forall₂ ?_ h h'
  rintro m rule rule' ⟨hpattern, hmask⟩ ⟨hpattern', hmask'⟩
  exact ThreadRule.eq_of_pattern_mask (hpattern.trans hpattern'.symm)
    (readMask_rightUnique hmask hmask')

theorem denotesRule_rightUnique : Relator.RightUnique DenotesRule := by
  rintro v ⟨parent, threads⟩ ⟨parent', threads'⟩ ⟨fields, rfl, hp, ht⟩
    ⟨fields', hv, hp', ht'⟩
  obtain rfl : fields = fields' := Value.obj.inj hv
  obtain rfl : parent = parent' :=
    rightUnique_option readMask_rightUnique hp hp'
  obtain rfl : threads = threads' :=
    rightUnique_option denotesThreads_rightUnique ht ht'
  rfl

/-! ## Looking up compiled rules -/

theorem member?_executables {name : String} (h : name ≠ commentKey)
    (members : List (String × Value)) :
    member? name (executables members) = member? name members := by
  induction members with
  | nil => rfl
  | cons m members ih =>
      unfold executables at ih ⊢
      by_cases hcomment : m.1 = commentKey
      · rw [List.filter_cons_of_neg (by simpa using hcomment), ih, member?,
          if_neg (hcomment.trans_ne h.symm)]
      · rw [List.filter_cons_of_pos (by simpa using hcomment), member?, ih,
          member?]

theorem member?_executables_commentKey (members : List (String × Value)) :
    member? commentKey (executables members) = none := by
  induction members with
  | nil => rfl
  | cons m members ih =>
      unfold executables at ih ⊢
      by_cases hcomment : m.1 = commentKey
      · rw [List.filter_cons_of_neg (by simpa using hcomment), ih]
      · rw [List.filter_cons_of_pos (by simpa using hcomment), member?,
          if_neg hcomment, ih]

section Compiled

variable {raw : Value} {rules : RuleSet} {name : String}

/-- A rule set answers for the executables of its document. -/
theorem rel_get? (h : compile raw = .ok rules) (hname : name ≠ commentKey) :
    Option.Rel DenotesProcess (raw.get? name) (rules.get? name) := by
  have hrel := rel_member? (forall₂_of_compile h) name
  rwa [member?_executables hname] at hrel

theorem get?_commentKey (h : compile raw = .ok rules) :
    rules.get? commentKey = none := by
  have hrel := rel_member? (forall₂_of_compile h) commentKey
  rw [member?_executables_commentKey] at hrel
  change Option.Rel DenotesProcess none (rules.get? commentKey) at hrel
  generalize rules.get? commentKey = entries at hrel
  cases hrel
  rfl

/-- The rules of an executable; none if the pin file does not name it. -/
def RuleSet.rulesFor (rules : RuleSet) (name : String) : ProcessRule :=
  (rules.get? name).getD []

/-- The rules of an executable stand where the document has their fragments. -/
theorem rulesFor_getElem?_iff (h : compile raw = .ok rules) {fragment : String}
    {j : Nat} {rule : CommandRule} :
    (rules.rulesFor name)[j]? = some (fragment, rule) ↔
      name ≠ commentKey ∧ ∃ fragments fields,
        raw.get? name = some (.obj fragments) ∧
        fragments[j]? = some (fragment, fields) ∧ DenotesRule fields rule := by
  unfold RuleSet.rulesFor
  constructor
  · intro hrule
    have hname : name ≠ commentKey := by
      rintro rfl
      rw [get?_commentKey h] at hrule
      cases hrule
    cases hget : rules.get? name with
    | none =>
        rw [hget] at hrule
        cases hrule
    | some entries =>
        have hrel := rel_get? h hname
        rw [hget] at hrule hrel
        obtain ⟨v, hv, fragments, rfl, hfragments⟩ := exists_of_rel_some hrel
        have hplace := rel_getElem? hfragments j
        rw [Option.getD_some] at hrule
        rw [hrule] at hplace
        obtain ⟨f, hf, rfl, hdenotes⟩ := exists_of_rel_some hplace
        exact ⟨hname, fragments, f.2, hv, hf, hdenotes⟩
  · rintro ⟨hname, fragments, fields, hv, hf, hdenotes⟩
    have hrel := rel_get? h hname
    rw [hv] at hrel
    obtain ⟨entries, hget, fragments', heq, hfragments⟩ := exists_of_some_rel hrel
    obtain rfl : fragments = fragments' := Value.obj.inj heq
    have hplace := rel_getElem? hfragments j
    rw [hf] at hplace
    obtain ⟨⟨fragment', rule'⟩, hrule, hkey, hdenotes'⟩ :=
      exists_of_some_rel hplace
    obtain rfl : fragment' = fragment := hkey
    obtain rfl : rule' = rule := denotesRule_rightUnique hdenotes' hdenotes
    rw [hget, Option.getD_some, hrule]

end Compiled

/-! ## The places of matches -/

/-- The matches of a process, each with the place of its fragment. -/
def placedOf (process : ProcessInfo) (rules : ProcessRule) : List (Nat × Match) :=
  (rules.zipIdx.filter fun x =>
    Text.occurs x.1.1.toList process.joined.toList).map
      fun x => (x.2, ⟨process, x.1.1, x.1.2⟩)

/-- All matches, each with the places of its process and of its fragment. -/
def placed (rules : RuleSet) (processes : List ProcessInfo) :
    List ((Nat × Nat) × Match) :=
  processes.zipIdx.flatMap fun x =>
    (placedOf x.1 (rules.rulesFor x.1.name)).map fun y => ((x.2, y.1), y.2)

theorem placedOf_map_snd (process : ProcessInfo) (rules : ProcessRule) :
    (placedOf process rules).map (·.2) = matchesOf process rules := by
  conv_rhs => rw [matchesOf, ← List.zipIdx_map_fst 0 rules]
  rw [placedOf, List.filter_map, List.map_map, List.map_map]
  rfl

theorem placed_map_snd (rules : RuleSet) (processes : List ProcessInfo) :
    (placed rules processes).map (·.2) = matchProcesses rules processes := by
  have hmatches : matchProcesses rules processes =
      processes.flatMap fun process =>
        matchesOf process (rules.rulesFor process.name) := by
    refine List.flatMap_congr fun process _ => ?_
    unfold RuleSet.rulesFor
    cases rules.get? process.name with
    | none => rfl
    | some entries => rfl
  conv_rhs => rw [hmatches, ← List.zipIdx_map_fst 0 processes, List.flatMap_map]
  rw [placed, List.map_flatMap]
  refine List.flatMap_congr fun x _ => ?_
  rw [List.map_map, ← placedOf_map_snd]
  rfl

theorem pairwise_zipIdx {α : Type} (as : List α) :
    as.zipIdx.Pairwise fun x y => x.2 < y.2 := by
  rw [← List.pairwise_map (f := Prod.snd), List.zipIdx_map_snd]
  exact List.pairwise_lt_range' 1

theorem placedOf_pairwise (process : ProcessInfo) (rules : ProcessRule) :
    (placedOf process rules).Pairwise fun x y => x.1 < y.1 :=
  ((pairwise_zipIdx rules).filter _).map _ fun _ _ h => h

theorem placed_pairwise (rules : RuleSet) (processes : List ProcessInfo) :
    ((placed rules processes).map (·.1)).Pairwise
      (Prod.Lex (· < ·) (· < ·)) := by
  rw [List.pairwise_map, placed, List.pairwise_flatMap]
  constructor
  · intro x _
    exact (placedOf_pairwise _ _).map _ fun _ _ h => .right _ h
  · refine (pairwise_zipIdx processes).imp fun {x y} hxy => ?_
    intro m hm n hn
    obtain ⟨_, -, rfl⟩ := List.mem_map.1 hm
    obtain ⟨_, -, rfl⟩ := List.mem_map.1 hn
    exact .left _ _ hxy

theorem mem_placedOf_iff {process : ProcessInfo} {rules : ProcessRule} {j : Nat}
    {m : Match} :
    (j, m) ∈ placedOf process rules ↔
      m.process = process ∧ rules[j]? = some (m.fragment, m.rule) ∧
        OccursIn m.fragment process.joined := by
  simp only [placedOf, List.mem_map, List.mem_filter, occursIn_iff]
  constructor
  · rintro ⟨⟨entry, place⟩, ⟨hmem, hoccurs⟩, heq⟩
    cases heq
    exact ⟨rfl, List.mk_mem_zipIdx_iff_getElem?.1 hmem, hoccurs⟩
  · rintro ⟨rfl, hplace, hoccurs⟩
    exact ⟨((m.fragment, m.rule), j),
      ⟨List.mk_mem_zipIdx_iff_getElem?.2 hplace, hoccurs⟩, rfl⟩

theorem mem_placed_iff {rules : RuleSet} {processes : List ProcessInfo}
    {place : Nat × Nat} {m : Match} :
    (place, m) ∈ placed rules processes ↔
      processes[place.1]? = some m.process ∧
      (rules.rulesFor m.process.name)[place.2]? = some (m.fragment, m.rule) ∧
      OccursIn m.fragment m.process.joined := by
  simp only [placed, List.mem_flatMap, List.mem_map]
  constructor
  · rintro ⟨⟨process, i⟩, hmem, ⟨j, found⟩, hfound, heq⟩
    cases heq
    obtain ⟨rfl, hplace, hoccurs⟩ := mem_placedOf_iff.1 hfound
    exact ⟨List.mk_mem_zipIdx_iff_getElem?.1 hmem, hplace, hoccurs⟩
  · rintro ⟨hprocess, hplace, hoccurs⟩
    exact ⟨(m.process, place.1), List.mk_mem_zipIdx_iff_getElem?.2 hprocess,
      (place.2, m), mem_placedOf_iff.2 ⟨rfl, hplace, hoccurs⟩, rfl⟩

/-! ## The matcher -/

theorem mem_placed_iff_selects {raw : Value} {rules : RuleSet}
    (h : compile raw = .ok rules) {processes : List ProcessInfo}
    {place : Nat × Nat} {m : Match} :
    (place, m) ∈ placed rules processes ↔ Selects raw processes place m := by
  rw [mem_placed_iff, rulesFor_getElem?_iff h]
  constructor
  · rintro ⟨hprocess, ⟨hname, hrule⟩, hoccurs⟩
    exact ⟨hprocess, hname, hrule, hoccurs⟩
  · rintro ⟨hprocess, hname, hrule, hoccurs⟩
    exact ⟨hprocess, ⟨hname, hrule⟩, hoccurs⟩

/-- The matches for the rules of a document are the matches that the document
asks for, each once, by the places of the processes and then by the places of the
fragments in the document.  Where fragments are distinct, keys take the part of
places: a process and a fragment have one match at most, and they have one if the
name and the fragment lead to a rule whose fragment occurs in the command line. -/
theorem matchProcesses_compiled {raw : Value} {rules : RuleSet}
    (h : compile raw = .ok rules) (processes : List ProcessInfo) :
    ∃ found : List ((Nat × Nat) × Match),
      found.map (·.2) = matchProcesses rules processes ∧
      (found.map (·.1)).Pairwise (Prod.Lex (· < ·) (· < ·)) ∧
      (∀ place m, (place, m) ∈ found ↔ Selects raw processes place m) ∧
      (raw.DistinctFragments →
        (found.map fun x => (x.1.1, x.2.fragment)).Nodup ∧
        ∀ i m, (∃ j, ((i, j), m) ∈ found) ↔
          processes[i]? = some m.process ∧ Asks raw m) := by
  have hmem {place : Nat × Nat} {m : Match} :
      (place, m) ∈ placed rules processes ↔ Selects raw processes place m :=
    mem_placed_iff_selects h
  have hpairwise := placed_pairwise rules processes
  refine ⟨placed rules processes, placed_map_snd rules processes, hpairwise,
    fun place m => hmem, fun hdistinct => ⟨?_, fun i m => ?_⟩⟩
  · have hplaces : ((placed rules processes).map (·.1)).Nodup :=
      hpairwise.imp fun {x y} hlex => by
        rintro rfl
        cases hlex with
        | left _ _ hlt => exact Nat.lt_irrefl _ hlt
        | right _ hlt => exact Nat.lt_irrefl _ hlt
    refine List.Nodup.map_on (fun x hx y hy hkeys => ?_) (hplaces.of_map _)
    obtain ⟨hprocess, hfragment⟩ := Prod.mk.inj hkeys
    refine List.inj_on_of_nodup_map hplaces hx hy ?_
    exact (hmem.1 hx).place_eq hdistinct (hmem.1 hy) hprocess hfragment
  · simp only [hmem]
    exact exists_selects_iff hdistinct

namespace Sample

/-- A remark, and two fragments of one executable. -/
def matchingDoc : Value :=
  .obj [("_comment", .obj [("", .null)]),
    ("worker", .obj [("--fast io", .obj [("parent", .str "0-1")]), ("", .obj [])])]

/-- Two processes with one id, and one that has the name of the remark. -/
def matchingProcesses : List ProcessInfo :=
  [⟨7, "worker", ["worker", "--fast", "io"]⟩, ⟨7, "worker", []⟩,
    ⟨8, "_comment", []⟩]

end Sample

theorem matchProcesses_compiled_sample :
    ∃ rules, compile Sample.matchingDoc = .ok rules ∧
      ((matchProcesses rules Sample.matchingProcesses).map
        fun m => (m.process.pid, m.fragment)) =
          [(7, "--fast io"), (7, ""), (7, "")] ∧
      ∃ found : List ((Nat × Nat) × Match),
        found.map (·.2) = matchProcesses rules Sample.matchingProcesses ∧
        (found.map (·.1)).Pairwise (Prod.Lex (· < ·) (· < ·)) ∧
        (∀ place m, (place, m) ∈ found ↔
          Selects Sample.matchingDoc Sample.matchingProcesses place m) ∧
        (found.map fun x => (x.1.1, x.2.fragment)).Nodup ∧
        ∀ i m, (∃ j, ((i, j), m) ∈ found) ↔
          Sample.matchingProcesses[i]? = some m.process ∧
            Asks Sample.matchingDoc m := by
  have hshown : (compile Sample.matchingDoc).toOption.map (fun rules =>
      (matchProcesses rules Sample.matchingProcesses).map
        fun m => (m.process.pid, m.fragment)) =
      some [(7, "--fast io"), (7, ""), (7, "")] := by
    decide +kernel
  have hdistinct : Sample.matchingDoc.DistinctFragments := by
    unfold Value.DistinctFragments
    decide
  cases hcompiled : compile Sample.matchingDoc with
  | error e =>
      rw [hcompiled] at hshown
      cases hshown
  | ok rules =>
      rw [hcompiled] at hshown
      obtain ⟨found, hfound, hplaces, hselects, hkeys⟩ :=
        matchProcesses_compiled hcompiled Sample.matchingProcesses
      exact ⟨rules, rfl, Option.some.inj hshown, found, hfound, hplaces, hselects,
        hkeys hdistinct⟩

end CpuPinning
