import CpuPinning.Pass.Snapshot
import CpuPinning.Program

/-!
# Exit codes

What the exit code tells of a run whose arguments name a pin file, on a host
whose CPUs can be counted.  Unless exit codes are strict it tells nothing.  A
strict exit code tells a run that had to stop from one that went through, and of
those that made a pass over the processes it tells which of them had something
to warn of.  A run that only shows its rules exits as if it had warned of
nothing, although its warnings are printed.
-/

namespace CpuPinning

namespace Program

section Runs

variable {σ : Type}

/-! ## What a run comes to -/

/-- The pin file at a path holds these rules. -/
def Loads (env : Environment σ) (path : String) (rules : RuleSet) : Prop :=
  ∃ document, PinFile.load path (env.fileText path) = .ok (document, rules)

/-- The pass over the processes that rules and arguments ask for. -/
def passOf (env : Environment σ) (args : Arguments) (cpuCount : Nat)
    (rules : RuleSet) (s : σ) : Execution σ RunReport :=
  (run rules ⟨cpuCount, args.policy⟩).exec env.table s

/-- The run has to stop: there are no rules in its pin file, or the pass that
they ask for fails. -/
inductive Stops (env : Environment σ) (args : Arguments) (path : String)
    (cpuCount : Nat) (s : σ) : Prop
  | unloaded {e : LoadError} :
      PinFile.load path (env.fileText path) = .error e →
      Stops env args path cpuCount s
  | aborted {rules : RuleSet} {e : PinError} :
      Loads env path rules → args.checkConfig = false →
      (passOf env args cpuCount rules s).result = .error e →
      Stops env args path cpuCount s

/-- The run has to warn with this line: a field of the pin file has no meaning,
or a step of the pass was left out because of its mask or its rules. -/
inductive Warns (env : Environment σ) (args : Arguments) (path : String)
    (cpuCount : Nat) (s : σ) : String → Prop
  | unknownField {rules : RuleSet} {w : UnknownField} :
      Loads env path rules → w ∈ rules.warnings →
      Warns env args path cpuCount s w.message
  | outcome {rules : RuleSet} {report : RunReport} {m : MatchReport}
      {o : Outcome} {line : String} :
      Loads env path rules → args.checkConfig = false →
      (passOf env args cpuCount rules s).result = .ok report →
      m ∈ report.reports → o ∈ m.outcomes →
      Report.warning? m.pid o = some line →
      Warns env args path cpuCount s line

variable {env : Environment σ} {args : Arguments} {path line : String}
  {cpuCount : Nat} {rules : RuleSet} {report : RunReport} {s : σ}

theorem Loads.unique {rules' : RuleSet} (h : Loads env path rules)
    (h' : Loads env path rules') : rules = rules' := by
  obtain ⟨document, hload⟩ := h
  obtain ⟨document', hload'⟩ := h'
  rw [hload] at hload'
  exact (Prod.mk.inj (Except.ok.inj hload')).2

/-- A pin file has rules, or there is a reason why it has none. -/
theorem loads_or_error (env : Environment σ) (path : String) :
    (∃ rules, Loads env path rules) ∨
      ∃ e, PinFile.load path (env.fileText path) = .error e := by
  cases h : PinFile.load path (env.fileText path) with
  | ok found => exact .inl ⟨found.2, found.1, h⟩
  | error e => exact .inr ⟨e, rfl⟩

/-- A run that only shows its rules stops for want of rules alone. -/
theorem not_stops_of_checkConfig (hload : Loads env path rules)
    (hcheck : args.checkConfig = true) : ¬ Stops env args path cpuCount s := by
  rintro (herror | ⟨-, hlive, -⟩)
  · obtain ⟨document, hok⟩ := hload
    rw [hok] at herror
    cases herror
  · rw [hcheck] at hlive
    cases hlive

theorem not_stops_of_ok (hload : Loads env path rules)
    (hpass : (passOf env args cpuCount rules s).result = .ok report) :
    ¬ Stops env args path cpuCount s := by
  rintro (herror | ⟨hload', -, hfail⟩)
  · obtain ⟨document, hok⟩ := hload
    rw [hok] at herror
    cases herror
  · obtain rfl := hload.unique hload'
    rw [hpass] at hfail
    cases hfail

/-! ## Warnings are counted as they are printed -/

/-- The outcomes that count as warnings are those with a line of their own. -/
theorem isSome_warning? (pid : Nat) (o : Outcome) :
    (Report.warning? pid o).isSome = o.isWarning := by
  cases o <;> rfl

theorem warningCount_ne_zero_iff :
    report.warningCount ≠ 0 ↔
      ∃ m ∈ report.reports, ∃ o ∈ m.outcomes, o.isWarning = true := by
  have hpos : report.warningCount ≠ 0 ↔
      ∃ o ∈ report.outcomes, o.isWarning = true := by
    rw [RunReport.warningCount, ← Nat.pos_iff_ne_zero, List.countP_pos_iff]
  rw [hpos, RunReport.outcomes]
  constructor
  · rintro ⟨o, ho, hwarning⟩
    obtain ⟨m, hm, hmem⟩ := List.mem_flatMap.1 ho
    exact ⟨m, hm, o, hmem, hwarning⟩
  · rintro ⟨m, hm, o, hmem, hwarning⟩
    exact ⟨o, List.mem_flatMap.2 ⟨m, hm, hmem⟩, hwarning⟩

/-- After a pass that went through there is a warning if and only if the two
counts do not both vanish. -/
theorem exists_warns_iff (hload : Loads env path rules)
    (hcheck : args.checkConfig = false)
    (hpass : (passOf env args cpuCount rules s).result = .ok report) :
    (∃ line, Warns env args path cpuCount s line) ↔
      report.warningCount + rules.warnings.length ≠ 0 := by
  have hcounts : report.warningCount + rules.warnings.length ≠ 0 ↔
      report.warningCount ≠ 0 ∨ rules.warnings ≠ [] := by
    rw [ne_eq, ne_eq, ne_eq, Nat.add_eq_zero_iff, List.length_eq_zero_iff,
      Classical.not_and_iff_not_or_not]
  rw [hcounts, warningCount_ne_zero_iff]
  constructor
  · rintro ⟨line, hline⟩
    cases hline with
    | unknownField hload' hw =>
        obtain rfl := hload.unique hload'
        exact .inr (List.ne_nil_of_mem hw)
    | @outcome _ _ m o _ hload' _ hpass' hm ho hwarning =>
        obtain rfl := hload.unique hload'
        obtain rfl := Except.ok.inj (hpass.symm.trans hpass')
        refine .inl ⟨m, hm, o, ho, ?_⟩
        rw [← isSome_warning? m.pid, hwarning, Option.isSome_some]
  · rintro (⟨m, hm, o, ho, hwarning⟩ | hne)
    · rw [← isSome_warning? m.pid] at hwarning
      obtain ⟨line, hline⟩ := Option.isSome_iff_exists.1 hwarning
      exact ⟨line, .outcome hload hcheck hpass hm ho hline⟩
    · obtain ⟨w, hw⟩ := List.exists_mem_of_ne_nil _ hne
      exact ⟨w.message, .unknownField hload hw⟩

/-! ## The exit code of each part of a run -/

theorem applyRules_of_ok
    (hpass : (passOf env args cpuCount rules s).result = .ok report) :
    (applyRules env args cpuCount rules s).exitCode =
        (if report.warningCount + rules.warnings.length = 0 then 0
          else exitCode args warningCode) ∧
      ∀ line ∈ Report.ofRun report,
        line ∈ (applyRules env args cpuCount rules s).lines := by
  unfold passOf at hpass
  unfold applyRules
  simp only [hpass]
  refine ⟨trivial, fun line hline => ?_⟩
  apply List.mem_append_right
  apply List.mem_cons_of_mem
  exact List.mem_append_left _ hline

theorem applyRules_of_error {e : PinError}
    (hpass : (passOf env args cpuCount rules s).result = .error e) :
    (applyRules env args cpuCount rules s).exitCode = exitCode args fatalCode := by
  unfold passOf at hpass
  unfold applyRules
  simp only [hpass]

theorem withRules_of_checkConfig (hcheck : args.checkConfig = true) :
    (withRules env args cpuCount rules s).exitCode = 0 := by
  unfold withRules
  simp only [hcheck, if_true]

/-- A run that does not stop at its rules ends as its pass does, and prints what
the pass prints. -/
theorem withRules_of_not_checkConfig (hcheck : args.checkConfig = false) :
    (withRules env args cpuCount rules s).exitCode =
        (applyRules env args cpuCount rules s).exitCode ∧
      ∀ line ∈ (applyRules env args cpuCount rules s).lines,
        line ∈ (withRules env args cpuCount rules s).lines := by
  unfold withRules
  rw [hcheck]
  refine ⟨rfl, fun line hline => ?_⟩
  apply List.mem_append_right
  exact List.mem_cons_of_mem _ hline

theorem withArguments_of_cpuCount (args : Arguments) (path : String) (s : σ)
    (hcount : env.cpuCount = .ok cpuCount) :
    (withArguments env args path s).exitCode =
        (withPinFile env args path cpuCount s).exitCode ∧
      ∀ line ∈ (withPinFile env args path cpuCount s).lines,
        line ∈ (withArguments env args path s).lines := by
  unfold withArguments
  rw [hcount]
  refine ⟨rfl, fun line hline => ?_⟩
  apply List.mem_cons_of_mem
  exact List.mem_append_right _ hline

theorem withPinFile_of_loads (hload : Loads env path rules) :
    (withPinFile env args path cpuCount s).exitCode =
        (withRules env args cpuCount rules s).exitCode ∧
      ∀ line ∈ (withRules env args cpuCount rules s).lines,
        line ∈ (withPinFile env args path cpuCount s).lines := by
  obtain ⟨document, hok⟩ := hload
  unfold withPinFile
  rw [hok]
  exact ⟨rfl, fun line hline => List.mem_cons_of_mem _ hline⟩

theorem withPinFile_of_error {e : LoadError}
    (hload : PinFile.load path (env.fileText path) = .error e) :
    (withPinFile env args path cpuCount s).exitCode = exitCode args fatalCode := by
  unfold withPinFile
  rw [hload]

/-- What a run has to warn of, it prints. -/
theorem Warns.mem_lines (h : Warns env args path cpuCount s line) :
    line ∈ (withPinFile env args path cpuCount s).lines := by
  cases h with
  | @unknownField rules w hload hw =>
      apply (withPinFile_of_loads hload).2
      apply List.mem_append_left
      exact List.mem_map_of_mem hw
  | @outcome rules report m o _ hload hcheck hpass hm ho hwarning =>
      apply (withPinFile_of_loads hload).2
      apply (withRules_of_not_checkConfig hcheck).2
      apply (applyRules_of_ok hpass).2
      apply List.mem_append_left
      exact List.mem_flatMap.2 ⟨m, hm, List.mem_filterMap.2 ⟨o, ho, hwarning⟩⟩

/-! ## The exit code of a run -/

theorem exitCode_of_strict (hstrict : args.strictExitCodes = true) (code : Nat) :
    exitCode args code = code :=
  if_pos hstrict

theorem exitCode_of_lax (hlax : args.strictExitCodes = false) (code : Nat) :
    exitCode args code = 0 :=
  if_neg (by rw [hlax]; exact Bool.false_ne_true)

/-- The courses of a run with a pin file, each with its exit code. -/
theorem withPinFile_cases (env : Environment σ) (args : Arguments)
    (path : String) (cpuCount : Nat) (s : σ) :
    let code := (withPinFile env args path cpuCount s).exitCode
    (Stops env args path cpuCount s ∧ code = exitCode args fatalCode) ∨
      ¬ Stops env args path cpuCount s ∧
        ((args.checkConfig = true ∧ code = 0) ∨
          args.checkConfig = false ∧
            (((∃ line, Warns env args path cpuCount s line) ∧
                code = exitCode args warningCode) ∨
              (¬ (∃ line, Warns env args path cpuCount s line) ∧ code = 0))) := by
  intro code
  rcases loads_or_error env path with ⟨rules, hload⟩ | ⟨e, hload⟩
  · have hcode : code = (withRules env args cpuCount rules s).exitCode :=
      (withPinFile_of_loads hload).1
    cases hcheck : args.checkConfig with
    | true =>
        rw [withRules_of_checkConfig hcheck] at hcode
        exact .inr ⟨not_stops_of_checkConfig hload hcheck, .inl ⟨rfl, hcode⟩⟩
    | false =>
        rw [(withRules_of_not_checkConfig hcheck).1] at hcode
        cases hpass : (passOf env args cpuCount rules s).result with
        | error e =>
            rw [applyRules_of_error hpass] at hcode
            exact .inl ⟨.aborted hload hcheck hpass, hcode⟩
        | ok report =>
            refine .inr ⟨not_stops_of_ok hload hpass, .inr ⟨rfl, ?_⟩⟩
            rw [(applyRules_of_ok hpass).1] at hcode
            have hwarns := exists_warns_iff hload hcheck hpass
            by_cases hzero : report.warningCount + rules.warnings.length = 0
            · rw [if_pos hzero] at hcode
              exact .inr ⟨fun hline => hwarns.1 hline hzero, hcode⟩
            · rw [if_neg hzero] at hcode
              exact .inl ⟨hwarns.2 hzero, hcode⟩
  · exact .inl ⟨.unloaded hload, withPinFile_of_error hload⟩

/-- The exit code of a run whose arguments name a pin file, where the CPUs can be
counted.  If exit codes are not strict it is always zero.  If they are, it is one
if and only if the run has to stop; of the runs that go through, those that make
a pass exit with two if there is a warning and with zero if there is none, and
those that only show their rules exit with zero in either case.  All warnings are
printed. -/
theorem execute_exitCode (env : Environment σ) {words : List String}
    {args : Arguments} {path : String} {cpuCount : Nat} (s : σ)
    (hargs : Arguments.read words = .ok args) (hpath : args.pinFile = some path)
    (hcount : env.cpuCount = .ok cpuCount) :
    let finish := execute env words s
    (args.strictExitCodes = false → finish.exitCode = 0) ∧
    (args.strictExitCodes = true →
      (finish.exitCode = 1 ↔ Stops env args path cpuCount s) ∧
      (¬ Stops env args path cpuCount s →
        (args.checkConfig = false →
          (finish.exitCode = 2 ↔ ∃ line, Warns env args path cpuCount s line) ∧
          (finish.exitCode = 0 ↔
            ¬ ∃ line, Warns env args path cpuCount s line)) ∧
        (args.checkConfig = true → finish.exitCode = 0))) ∧
    ∀ line, Warns env args path cpuCount s line → line ∈ finish.lines := by
  intro finish
  have hfinish : finish = withArguments env args path s := by
    change execute env words s = _
    unfold execute
    simp only [hargs, hpath]
  obtain ⟨hcode, hlines⟩ := withArguments_of_cpuCount args path s hcount
  rw [← hfinish] at hcode hlines
  have hcases := withPinFile_cases env args path cpuCount s
  rw [← hcode] at hcases
  refine ⟨fun hlax => ?_, fun hstrict => ?_, fun line hline => ?_⟩
  · rw [exitCode_of_lax hlax, exitCode_of_lax hlax] at hcases
    rcases hcases with ⟨-, h⟩ | ⟨-, ⟨-, h⟩ | ⟨-, ⟨-, h⟩ | ⟨-, h⟩⟩⟩ <;> exact h
  · rw [exitCode_of_strict hstrict, exitCode_of_strict hstrict] at hcases
    rcases hcases with ⟨hstops, h⟩ | ⟨hgoes, ⟨hcheck, h⟩ | ⟨hcheck, hw⟩⟩
    · simp [h, hstops, fatalCode]
    · simp [h, hgoes, hcheck]
    · rcases hw with ⟨hw, h⟩ | ⟨hw, h⟩
      · simp [h, hgoes, hcheck, hw, warningCode]
      · simp [h, hgoes, hcheck, hw]
  · exact hlines line hline.mem_lines

end Runs

end Program

namespace Sample

/-- A pin file with a field that has no meaning. -/
def checkedText : List Char := "\x7b\"app\":\x7b\"\":\x7b\"prio\":5\x7d\x7d\x7d".toList

/-- A host without processes, where every file is the pin file. -/
def checkedHost : Environment Snapshot where
  fileText _ := .ok checkedText
  cpuCount := .ok 4
  table := Snapshot.table
  reportMatch _ := []

def checkWords : List String :=
  ["-p", "pins.json", "--check-config", "--strict-exit-codes"]

def checkArguments : Arguments where
  pinFile := some "pins.json"
  logLevel := .info
  checkConfig := true
  policy := .abort
  strictExitCodes := true

end Sample

namespace Program

/-- Strict exit codes do not show a warning of a run that only shows its rules. -/
theorem execute_exitCode_checkConfig :
    Arguments.read Sample.checkWords = .ok Sample.checkArguments ∧
      (execute Sample.checkedHost Sample.checkWords .empty).exitCode = 0 ∧
      (UnknownField.mk "app" "" "prio").message ∈
        (execute Sample.checkedHost Sample.checkWords .empty).lines := by
  have hargs : Arguments.read Sample.checkWords = .ok Sample.checkArguments := rfl
  have hcount : Sample.checkedHost.cpuCount = .ok 4 := rfl
  have hloaded : ((PinFile.load "pins.json" (.ok Sample.checkedText)).toOption.map
      fun found => found.2.warnings) = some [⟨"app", "", "prio"⟩] := by
    decide +kernel
  cases hfound : PinFile.load "pins.json" (.ok Sample.checkedText) with
  | error e =>
      rw [hfound] at hloaded
      cases hloaded
  | ok found =>
      have hload : Loads Sample.checkedHost "pins.json" found.2 := ⟨found.1, hfound⟩
      have hwarnings : found.2.warnings = [⟨"app", "", "prio"⟩] := by
        rw [hfound] at hloaded
        exact Option.some.inj hloaded
      have hwarning : UnknownField.mk "app" "" "prio" ∈ found.2.warnings := by
        rw [hwarnings]
        exact List.mem_singleton_self _
      obtain ⟨-, hstrict, hlines⟩ :=
        execute_exitCode Sample.checkedHost .empty hargs rfl hcount
      have hgoes : ¬ Stops Sample.checkedHost Sample.checkArguments "pins.json" 4
          Snapshot.empty := not_stops_of_checkConfig hload rfl
      exact ⟨hargs, ((hstrict rfl).2 hgoes).2 rfl,
        hlines _ (.unknownField hload hwarning)⟩

end Program

end CpuPinning
