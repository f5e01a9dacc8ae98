import Mathlib.Data.List.Forall2
import CpuPinning.Rule.Compile

/-!
# The form of pin files

Which documents are pin files, what is wrong with those that are not, and what
rules a pin file denotes, each said without the compiler.  A document without
faults is a pin file, and the order of the fields of a fragment does not matter
for the rule that they denote.
-/

namespace CpuPinning

/-! ## Pin files -/

/-- A value that denotes a mask. -/
def IsMask (v : Value) : Prop :=
  ∃ mask, readMask v = .ok mask

/-- A text that thread rules accept as a pattern. -/
def IsPattern (text : String) : Prop :=
  (Pattern.compileAnchored? text.toList).isSome = true

/-- A value of the field for thread rules: masks by pattern. -/
def IsThreads (v : Value) : Prop :=
  ∃ members, v = .obj members ∧ ∀ m ∈ members, IsMask m.2 ∧ IsPattern m.1

/-- A value of a fragment: the two fields have their forms if they are there,
and all other fields are free. -/
def IsFields (v : Value) : Prop :=
  ∃ fields, v = .obj fields ∧ ∀ f ∈ fields,
    (f.1 = "parent" → IsMask f.2) ∧ (f.1 = "threads" → IsThreads f.2)

/-- A value of an executable: fields by fragment. -/
def IsFragments (v : Value) : Prop :=
  ∃ fragments, v = .obj fragments ∧ ∀ f ∈ fragments, IsFields f.2

/-- A pin file: fragments by executable, and a remark that is free. -/
def IsPinFile (v : Value) : Prop :=
  ∃ members, v = .obj members ∧
    ∀ m ∈ members, m.1 ≠ commentKey → IsFragments m.2

/-! ## Faults in the order of the document -/

/-- The faults of the members of an object, one after the other; a value that is
no object is a fault itself. -/
def objectFaults (what : String) (faults : String × Value → List PinError) :
    Value → List PinError
  | .obj members => members.flatMap faults
  | _ => [.notObject what]

def maskFaults (v : Value) : List PinError :=
  match readMask v with
  | .ok _ => []
  | .error e => [.mask e]

def patternFaults (text : String) : List PinError :=
  if (Pattern.compileAnchored? text.toList).isSome then [] else [.pattern text]

/-- The faults of a thread rule; the mask counts before the pattern. -/
def threadFaults (m : String × Value) : List PinError :=
  maskFaults m.2 ++ patternFaults m.1

def fieldFaults (process fragment : String) (f : String × Value) :
    List PinError :=
  if f.1 = "parent" then maskFaults f.2
  else if f.1 = "threads" then
    objectFaults ("threads of " ++ place process fragment) threadFaults f.2
  else []

def fragmentFaults (process : String) (f : String × Value) : List PinError :=
  objectFaults (place process f.1) (fieldFaults process f.1) f.2

def processFaults (m : String × Value) : List PinError :=
  if m.1 = commentKey then []
  else objectFaults ("process '" ++ m.1 ++ "'") (fragmentFaults m.1) m.2

/-- All faults of a document, in its order. -/
def pinFileFaults (v : Value) : List PinError :=
  objectFaults "pin file root" processFaults v

/-! ## The rules of a pin file -/

/-- The value of a field; of several with one name the last one counts. -/
def lastMember? (key : String) : List (String × Value) → Option Value
  | [] => none
  | (k, v) :: rest =>
      (lastMember? key rest).or (if k = key then some v else none)

/-- The thread rules that an object denotes, in its order. -/
def DenotesThreads (v : Value) (rules : List ThreadRule) : Prop :=
  ∃ members, v = .obj members ∧
    List.Forall₂ (fun m rule => rule.pattern = m.1 ∧ readMask m.2 = .ok rule.mask)
      members rules

/-- The rule that the fields of a fragment denote: each of the two parts is there
if and only if its field is. -/
def DenotesRule (v : Value) (rule : CommandRule) : Prop :=
  ∃ fields, v = .obj fields ∧
    Option.Rel (fun v mask => readMask v = .ok mask)
      (lastMember? "parent" fields) rule.parent ∧
    Option.Rel DenotesThreads (lastMember? "threads" fields) rule.threads

/-- The rules that the fragments of an executable denote, in their order. -/
def DenotesProcess (v : Value) (rules : ProcessRule) : Prop :=
  ∃ fragments, v = .obj fragments ∧
    List.Forall₂ (fun f rule => rule.1 = f.1 ∧ DenotesRule f.2 rule.2)
      fragments rules

/-- The executables of a document, without the remark. -/
def executables (members : List (String × Value)) : List (String × Value) :=
  members.filter fun m => m.1 ≠ commentKey

/-- The members of a value that is an object. -/
def Value.members : Value → List (String × Value)
  | .obj members => members
  | _ => []

/-- The fields of a fragment that have no meaning. -/
def unknownOf (process : String) (f : String × Value) : List UnknownField :=
  (f.2.members.filter fun field => field.1 ≠ "parent" ∧ field.1 ≠ "threads").map
    fun field => ⟨process, f.1, field.1⟩

/-- The fields without a meaning in a whole document, in its order. -/
def unknownFields (members : List (String × Value)) : List UnknownField :=
  (executables members).flatMap fun m => m.2.members.flatMap (unknownOf m.1)

/-! ## Documents without faults -/

theorem objectFaults_eq_nil_iff {what : String}
    {faults : String × Value → List PinError} {v : Value} :
    objectFaults what faults v = [] ↔
      ∃ members, v = .obj members ∧ ∀ m ∈ members, faults m = [] := by
  cases v with
  | obj members => simp [objectFaults]
  | null => simp [objectFaults]
  | bool b => simp [objectFaults]
  | int n => simp [objectFaults]
  | float x => simp [objectFaults]
  | str s => simp [objectFaults]
  | arr items => simp [objectFaults]

theorem maskFaults_eq_nil_iff {v : Value} : maskFaults v = [] ↔ IsMask v := by
  unfold maskFaults IsMask
  cases readMask v with
  | ok mask => simp
  | error e => simp

theorem patternFaults_eq_nil_iff {text : String} :
    patternFaults text = [] ↔ IsPattern text := by
  unfold patternFaults IsPattern
  split
  · next hsome => simp [hsome]
  · next hnone => simp [hnone]

theorem fieldFaults_eq_nil_iff {process fragment : String} {f : String × Value} :
    fieldFaults process fragment f = [] ↔
      (f.1 = "parent" → IsMask f.2) ∧ (f.1 = "threads" → IsThreads f.2) := by
  have hthreads : objectFaults ("threads of " ++ place process fragment)
      threadFaults f.2 = [] ↔ IsThreads f.2 := by
    simp only [objectFaults_eq_nil_iff, threadFaults, List.append_eq_nil_iff,
      maskFaults_eq_nil_iff, patternFaults_eq_nil_iff, IsThreads]
  unfold fieldFaults
  by_cases hp : f.1 = "parent"
  · simp [hp, maskFaults_eq_nil_iff]
  · by_cases ht : f.1 = "threads"
    · simp [ht, hthreads]
    · simp [hp, ht]

theorem processFaults_eq_nil_iff {m : String × Value} :
    processFaults m = [] ↔ (m.1 ≠ commentKey → IsFragments m.2) := by
  have hfragments : objectFaults ("process '" ++ m.1 ++ "'")
      (fragmentFaults m.1) m.2 = [] ↔ IsFragments m.2 := by
    simp only [objectFaults_eq_nil_iff, fragmentFaults, fieldFaults_eq_nil_iff,
      IsFragments, IsFields]
  unfold processFaults
  by_cases hcomment : m.1 = commentKey
  · simp [hcomment]
  · simp [hcomment, hfragments]

theorem pinFileFaults_eq_nil_iff {raw : Value} :
    pinFileFaults raw = [] ↔ IsPinFile raw := by
  simp only [pinFileFaults, objectFaults_eq_nil_iff, processFaults_eq_nil_iff,
    IsPinFile]

/-! ## The order of fields -/

theorem lastMember?_cons_self (key : String) (v : Value)
    (rest : List (String × Value)) :
    lastMember? key ((key, v) :: rest) = (lastMember? key rest).or (some v) := by
  rw [lastMember?, if_pos rfl]

theorem lastMember?_cons_of_ne {key other : String} (h : other ≠ key) (v : Value)
    (rest : List (String × Value)) :
    lastMember? key ((other, v) :: rest) = lastMember? key rest := by
  rw [lastMember?, if_neg h, Option.or_none]

/-- Where names are not used twice, a field counts wherever it stands. -/
theorem lastMember?_eq_some_iff {key : String} {v : Value}
    {fields : List (String × Value)} (h : (fields.map (·.1)).Nodup) :
    lastMember? key fields = some v ↔ (key, v) ∈ fields := by
  induction fields generalizing v with
  | nil => simp [lastMember?]
  | cons f fields ih =>
      obtain ⟨name, value⟩ := f
      obtain ⟨hnew, hrest⟩ := List.nodup_cons.1 h
      by_cases hname : name = key
      · subst hname
        have hnone : lastMember? name fields = none := by
          rw [Option.eq_none_iff_forall_ne_some]
          intro w hw
          exact hnew (List.mem_map.2 ⟨_, (ih hrest).1 hw, rfl⟩)
        have hmem : (name, v) ∉ fields := fun hmem =>
          hnew (List.mem_map.2 ⟨_, hmem, rfl⟩)
        rw [lastMember?_cons_self, hnone]
        simp [hmem, eq_comm]
      · rw [lastMember?_cons_of_ne hname, ih hrest]
        simp [Ne.symm hname]

theorem lastMember?_perm {fields fields' : List (String × Value)}
    (hperm : fields.Perm fields') (h : (fields.map (·.1)).Nodup) (key : String) :
    lastMember? key fields = lastMember? key fields' := by
  have h' : (fields'.map (·.1)).Nodup := (hperm.map _).nodup_iff.1 h
  apply Option.ext
  intro v
  rw [lastMember?_eq_some_iff h, lastMember?_eq_some_iff h', hperm.mem_iff]

/-- Fields in another order denote the same rule. -/
theorem denotesRule_perm {fields fields' : List (String × Value)}
    (hperm : fields.Perm fields') (h : (fields.map (·.1)).Nodup)
    {rule : CommandRule} :
    DenotesRule (.obj fields) rule ↔ DenotesRule (.obj fields') rule := by
  simp only [DenotesRule, Value.obj.injEq, exists_eq_left']
  rw [lastMember?_perm hperm h, lastMember?_perm hperm h]

end CpuPinning
