import Mathlib.Data.List.Perm.Basic
import CpuPinning.Proofs.Rule.Compilation
import CpuPinning.Report

/-!
# The order of executables

The executables of a pin file may stand in any order.  They are compiled one by
one and without regard to each other, so that another order gives the same parts
of a rule set in another order, and whoever uses a rule set looks its parts up by
name: the list of names is sorted, the rules are found by key, and a pass asks
for nothing else.
-/

namespace CpuPinning

/-! ## Executables are compiled one by one -/

/-- What an entry of a pin file adds to a rule set, rules and warnings. -/
abbrev Compiled := List (String × ProcessRule) × List UnknownField

/-- What a single entry of a pin file adds to the rule set. -/
def compileMember (m : String × Value) : Except PinError Compiled :=
  if m.1 = commentKey then .ok ([], [])
  else do
    let found ← asObject m.2 ("process '" ++ m.1 ++ "'") >>= compileFragments m.1
    return ([(m.1, found.1)], found.2)

theorem compileProcesses_cons_member (m : String × Value)
    (rest : List (String × Value)) :
    compileProcesses (m :: rest) =
      compileMember m >>= fun part =>
        compileProcesses rest >>= fun more =>
          pure (part.1 ++ more.1, part.2 ++ more.2) := by
  obtain ⟨process, value⟩ := m
  by_cases hcomment : process = commentKey
  · subst hcomment
    rw [compileProcesses_comment, compileMember, if_pos rfl]
    cases compileProcesses rest with
    | ok more => rfl
    | error e => rfl
  · rw [compileProcesses_cons hcomment, compileMember, if_neg hcomment]
    simp only [bind_assoc, pure_bind, List.singleton_append]

/-- The rules and warnings of a document are those of its entries, one after the
other. -/
theorem compileProcesses_eq_ok_iff {members : List (String × Value)}
    {found : Compiled} :
    compileProcesses members = .ok found ↔
      ∃ parts, List.Forall₂ (fun m part => compileMember m = .ok part)
          members parts ∧
        found = (parts.flatMap (·.1), parts.flatMap (·.2)) := by
  induction members generalizing found with
  | nil =>
      constructor
      · intro h
        exact ⟨[], .nil, (Except.ok.inj h).symm⟩
      · rintro ⟨parts, hparts, rfl⟩
        cases hparts
        rfl
  | cons m members ih =>
      rw [compileProcesses_cons_member]
      constructor
      · intro h
        obtain ⟨part, hpart, hrest⟩ := exists_of_bind_eq_ok h
        obtain ⟨more, hmore, rfl⟩ := exists_of_map_eq_ok hrest
        obtain ⟨parts, hparts, rfl⟩ := ih.1 hmore
        exact ⟨part :: parts, .cons hpart hparts, by simp⟩
      · rintro ⟨parts, hparts, rfl⟩
        cases hparts with
        | cons hpart hparts =>
            rw [hpart, ih.2 ⟨_, hparts, rfl⟩]
            simp [bind, Except.bind, pure, Except.pure]

/-- Entries in another order are compiled to the same parts in another order. -/
theorem compileProcesses_perm {members members' : List (String × Value)}
    (hperm : members.Perm members') {found : Compiled}
    (h : compileProcesses members = .ok found) :
    ∃ found', compileProcesses members' = .ok found' ∧
      found'.1.Perm found.1 ∧ found'.2.Perm found.2 := by
  obtain ⟨parts, hparts, rfl⟩ := compileProcesses_eq_ok_iff.1 h
  obtain ⟨parts', hparts', hsame⟩ := List.perm_comp_forall₂ hperm.symm hparts
  refine ⟨_, compileProcesses_eq_ok_iff.2 ⟨parts', hparts', rfl⟩, ?_, ?_⟩
  · exact hsame.flatMap_right _
  · exact hsame.flatMap_right _

theorem compile_eq_ok_iff {members : List (String × Value)} {rules : RuleSet} :
    compile (.obj members) = .ok rules ↔
      compileProcesses members = .ok (rules.processes, rules.warnings) := by
  constructor
  · intro h
    obtain ⟨found, hfound, rfl⟩ := exists_of_map_eq_ok h
    exact hfound
  · intro h
    change compileProcesses members >>= (fun found => pure (RuleSet.mk found.1 found.2)) =
      .ok rules
    rw [h]
    rfl

/-! ## Rule sets with the same rules by name -/

namespace RuleSet

/-- Two rule sets have the same names, and the same rules for each name. -/
structure SameRules (rules rules' : RuleSet) : Prop where
  names_eq : rules.names = rules'.names
  get?_eq : ∀ name, rules.get? name = rules'.get? name

variable {rules rules' : RuleSet}

/-- A sorted list of names does not show the order of the executables. -/
theorem names_perm (h : rules.processes.Perm rules'.processes) :
    rules.names = rules'.names := by
  have hsorted (names : List String) :
      (names.mergeSort fun a b => decide (a ≤ b)).Pairwise (· ≤ ·) := by
    refine (List.pairwise_mergeSort ?_ ?_ names).imp of_decide_eq_true
    · intro a b c hab hbc
      have hac : a ≤ c :=
        String.le_trans (of_decide_eq_true hab) (of_decide_eq_true hbc)
      exact decide_eq_true hac
    · intro a b
      have htotal : a ≤ b ∨ b ≤ a := String.le_total a b
      simpa using htotal
  have hperm : rules.names.Perm rules'.names := by
    have hnames := h.map (·.1)
    exact (List.mergeSort_perm _ _).trans
      (hnames.trans (List.mergeSort_perm _ _).symm)
  exact hperm.eq_of_pairwise (fun a b _ _ hab hba => String.le_antisymm hab hba)
    (hsorted _) (hsorted _)

theorem sameRules_of_perm (h : rules.processes.Perm rules'.processes)
    (hdistinct : (rules.processes.map (·.1)).Nodup) : SameRules rules rules' where
  names_eq := names_perm h
  get?_eq name := member?_perm h hdistinct name

namespace SameRules

theorem ofRules_eq (h : SameRules rules rules') :
    Report.ofRules rules = Report.ofRules rules' := by
  unfold Report.ofRules
  rw [h.names_eq]
  refine List.flatMap_congr fun name _ => ?_
  rw [h.get?_eq name]

theorem matchProcesses_eq (h : SameRules rules rules')
    (processes : List ProcessInfo) :
    matchProcesses rules processes = matchProcesses rules' processes := by
  refine List.flatMap_congr fun process _ => ?_
  rw [h.get?_eq process.name]

/-- The pass that rules ask for is fixed by the rules for each name. -/
theorem run_eq (h : SameRules rules rules') (opts : Options) :
    run rules opts = run rules' opts := by
  unfold run
  simp only [h.matchProcesses_eq]

end SameRules

end RuleSet

/-! ## Pin files with another order of executables -/

/-- The keys of compiled rules are among the keys of the document, in the same
order. -/
theorem nodup_of_compile {members : List (String × Value)} {rules : RuleSet}
    (h : compile (.obj members) = .ok rules)
    (hdistinct : (members.map (·.1)).Nodup) :
    (rules.processes.map (·.1)).Nodup := by
  rw [keys_eq_of_forall₂ (forall₂_of_compile h)]
  have hsublist : (executables members).Sublist members := List.filter_sublist
  exact hdistinct.sublist (hsublist.map _)

/-- Two pin files that list the same entries in different orders are accepted or
refused alike.  If they are accepted they have the same names, the same rules for
every name, the same warnings up to their order and the same report of the rules,
and on every system they lead to the same pass with the same questions, result
and final state. -/
theorem compile_perm {members members' : List (String × Value)}
    (hperm : members.Perm members') (hdistinct : (members.map (·.1)).Nodup) :
    ((∃ rules, compile (.obj members) = .ok rules) ↔
      ∃ rules', compile (.obj members') = .ok rules') ∧
    ∀ rules rules', compile (.obj members) = .ok rules →
      compile (.obj members') = .ok rules' →
        rules.names = rules'.names ∧
        (∀ name, rules.get? name = rules'.get? name) ∧
        rules.warnings.Perm rules'.warnings ∧
        Report.ofRules rules = Report.ofRules rules' ∧
        ∀ (σ : Type) (t : Table σ) (opts : Options) (s : σ),
          (run rules opts).exec t s = (run rules' opts).exec t s := by
  have hother {ms ms' : List (String × Value)} (h : ms.Perm ms') {rules : RuleSet}
      (hrules : compile (.obj ms) = .ok rules) :
      ∃ rules', compile (.obj ms') = .ok rules' ∧
        rules'.processes.Perm rules.processes ∧
        rules'.warnings.Perm rules.warnings := by
    obtain ⟨found, hfound, hsame⟩ :=
      compileProcesses_perm h (compile_eq_ok_iff.1 hrules)
    exact ⟨⟨found.1, found.2⟩, compile_eq_ok_iff.2 hfound, hsame⟩
  refine ⟨⟨?_, ?_⟩, ?_⟩
  · rintro ⟨rules, hrules⟩
    obtain ⟨rules', hrules', -⟩ := hother hperm hrules
    exact ⟨rules', hrules'⟩
  · rintro ⟨rules', hrules'⟩
    obtain ⟨rules, hrules, -⟩ := hother hperm.symm hrules'
    exact ⟨rules, hrules⟩
  · intro rules rules' hrules hrules'
    obtain ⟨other, hcompiled, hprocesses, hwarnings⟩ := hother hperm hrules
    obtain rfl : other = rules' := Except.ok.inj (hcompiled.symm.trans hrules')
    have hsame : rules.SameRules other :=
      RuleSet.sameRules_of_perm hprocesses.symm (nodup_of_compile hrules hdistinct)
    refine ⟨hsame.names_eq, hsame.get?_eq, hwarnings.symm, hsame.ofRules_eq, ?_⟩
    intro σ t opts s
    rw [hsame.run_eq opts]

namespace Sample

/-- Two executables with a field that has no meaning each, and a remark. -/
def orderedMembers : List (String × Value) :=
  [("worker", .obj [("", .obj [("parent", .str "0-1"), ("nice", .int 5)])]),
    ("_comment", .null),
    ("app", .obj [("--fast", .obj [("prio", .int 1)])])]

end Sample

theorem compile_perm_sample :
    (Sample.orderedMembers.map (·.1)).Nodup ∧
      ∃ rules rules', compile (.obj Sample.orderedMembers) = .ok rules ∧
        compile (.obj Sample.orderedMembers.reverse) = .ok rules' ∧
        rules.processes.map (·.1) = ["worker", "app"] ∧
        rules'.processes.map (·.1) = ["app", "worker"] ∧
        rules.names = rules'.names ∧ rules.warnings.Perm rules'.warnings := by
  have hdistinct : (Sample.orderedMembers.map (·.1)).Nodup := by decide
  obtain ⟨-, hlaw⟩ :=
    compile_perm (List.reverse_perm Sample.orderedMembers).symm hdistinct
  have hkeys : (compile (.obj Sample.orderedMembers)).toOption.map (fun rules =>
      rules.processes.map (·.1)) = some ["worker", "app"] := by
    decide +kernel
  have hkeys' : (compile (.obj Sample.orderedMembers.reverse)).toOption.map
      (fun rules => rules.processes.map (·.1)) = some ["app", "worker"] := by
    decide +kernel
  cases hrules : compile (.obj Sample.orderedMembers) with
  | error e =>
      rw [hrules] at hkeys
      cases hkeys
  | ok rules =>
      cases hrules' : compile (.obj Sample.orderedMembers.reverse) with
      | error e =>
          rw [hrules'] at hkeys'
          cases hkeys'
      | ok rules' =>
          rw [hrules] at hkeys
          rw [hrules'] at hkeys'
          obtain ⟨hnames, -, hwarnings, -⟩ := hlaw rules rules' hrules hrules'
          exact ⟨hdistinct, rules, rules', rfl, rfl, Option.some.inj hkeys,
            Option.some.inj hkeys', hnames, hwarnings⟩

end CpuPinning
