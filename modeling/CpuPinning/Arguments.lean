import CpuPinning.Pass.Apply
import CpuPinning.Text.Blank

/-!
# Arguments

What the words behind the command mean.  They are taken from the left, and the first one
that is wrong decides.  The value of an option is judged late: when the next option comes,
or at the end.
-/

namespace CpuPinning

/-- How much is logged. -/
inductive LogLevel where
  | off
  | error
  | warn
  | info
  | debug
  | trace
deriving DecidableEq, Repr

/-- What the arguments ask for. -/
structure Arguments where
  pinFile : Option String
  logLevel : LogLevel
  /-- Only to show the rules of the pin file. -/
  checkConfig : Bool
  policy : AmbiguityPolicy
  strictExitCodes : Bool
deriving DecidableEq

/-- Why arguments are refused. -/
inductive Misuse where
  /-- A value is missing, empty or not among those that are possible. -/
  | invalidValue
  | unknownArgument
  /-- An option is given twice. -/
  | repeated
  /-- A value for an option that takes none. -/
  | unneededValue
deriving DecidableEq, Repr

/-- Why no pass follows. -/
inductive Refusal where
  /-- Help was asked for, in full or in short. -/
  | help (full : Bool)
  | version
  | misuse (m : Misuse)
deriving DecidableEq, Repr

namespace Arguments

/-- The options that take a value. -/
inductive Setting where
  | pinFile
  | logLevel
  | policy
deriving DecidableEq, Repr

/-- The options without a value. -/
inductive Switch where
  | checkConfig
  | strictExitCodes
  | help
  | version
deriving DecidableEq, Repr

/-- What a long name stands for. -/
def longName? : String → Option (Setting ⊕ Switch)
  | "pinfile" => some (.inl .pinFile)
  | "log-level" => some (.inl .logLevel)
  | "ambiguous-threads" => some (.inl .policy)
  | "check-config" => some (.inr .checkConfig)
  | "strict-exit-codes" => some (.inr .strictExitCodes)
  | "help" => some (.inr .help)
  | "version" => some (.inr .version)
  | _ => none

/-- What a letter stands for. -/
def letter? : Char → Option (Setting ⊕ Switch)
  | 'p' => some (.inl .pinFile)
  | 'h' => some (.inr .help)
  | 'V' => some (.inr .version)
  | _ => none

def logLevel? : String → Option LogLevel
  | "off" => some .off
  | "error" => some .error
  | "warn" => some .warn
  | "info" => some .info
  | "debug" => some .debug
  | "trace" => some .trace
  | _ => none

def policy? : String → Option AmbiguityPolicy
  | "abort" => some .abort
  | "skip" => some .skipThread
  | _ => none

/-- What has been given so far. -/
structure Given where
  pinFile : Option String
  logLevel : Option LogLevel
  policy : Option AmbiguityPolicy
  checkConfig : Bool
  strictExitCodes : Bool

namespace Given

def nothing : Given := ⟨none, none, none, false, false⟩

/-- The arguments with what is assumed where nothing was given. -/
def complete (g : Given) : Arguments where
  pinFile := g.pinFile
  logLevel := g.logLevel.getD .info
  checkConfig := g.checkConfig
  policy := g.policy.getD .abort
  strictExitCodes := g.strictExitCodes

def has (g : Given) : Setting → Bool
  | .pinFile => g.pinFile.isSome
  | .logLevel => g.logLevel.isSome
  | .policy => g.policy.isSome

/-- Takes the value of an option; that the option is given twice counts before what the value is. -/
def set (g : Given) (s : Setting) (value : String) : Except Refusal Given :=
  if g.has s then .error (.misuse .repeated)
  else match s with
    | .pinFile =>
        if value.isEmpty then .error (.misuse .invalidValue)
        else .ok { g with pinFile := some value }
    | .logLevel =>
        match logLevel? value with
        | some level => .ok { g with logLevel := some level }
        | none => .error (.misuse .invalidValue)
    | .policy =>
        match policy? value with
        | some policy => .ok { g with policy := some policy }
        | none => .error (.misuse .invalidValue)

/-- Takes an option without a value. -/
def switch (g : Given) (full : Bool) : Switch → Except Refusal Given
  | .checkConfig =>
      if g.checkConfig then .error (.misuse .repeated)
      else .ok { g with checkConfig := true }
  | .strictExitCodes =>
      if g.strictExitCodes then .error (.misuse .repeated)
      else .ok { g with strictExitCodes := true }
  | .help => .error (.help full)
  | .version => .error .version

end Given

/-- What has been given, and the option whose value is not judged yet, with the value if it
was given. -/
structure Reading where
  given : Given
  pending : Option (Setting × Option String)

namespace Reading

/-- Judges the option that is pending. -/
def settle (r : Reading) : Except Refusal Given :=
  match r.pending with
  | none => .ok r.given
  | some (_, none) => .error (.misuse .invalidValue)
  | some (s, some value) => r.given.set s value

/-- An option with a value in the same word. -/
def attach (r : Reading) (s : Setting) (value : String) : Except Refusal Reading := do
  return ⟨← (← r.settle).set s value, none⟩

/-- An option whose value is the next word. -/
def await (r : Reading) (s : Setting) : Except Refusal Reading := do
  return ⟨← r.settle, some (s, none)⟩

/-- An option without a value. -/
def switch (r : Reading) (full : Bool) (s : Switch) : Except Refusal Reading := do
  return ⟨← (← r.settle).switch full s, none⟩

/-- A word behind two dashes: a long name, with or without a value behind an equals sign. -/
def long (r : Reading) (word : List Char) : Except Refusal Reading :=
  let (name, value) := match Text.splitOnce '=' word with
    | some (name, value) => (name, some (String.ofList value))
    | none => (word, none)
  match longName? (String.ofList name), value with
  | some (.inl s), some value => r.attach s value
  | some (.inl s), none => r.await s
  | some (.inr _), some _ => .error (.misuse .unneededValue)
  | some (.inr s), none => r.switch true s
  | none, _ => .error (.misuse .unknownArgument)

/-- Letters behind one dash; what follows the letter of an option with a value is the value. -/
def letters (r : Reading) : List Char → Except Refusal Reading
  | [] => .ok r
  | c :: cs =>
      match letter? c with
      | none => .error (.misuse .unknownArgument)
      | some (.inr s) => do letters (← r.switch false s) cs
      | some (.inl s) =>
          match cs with
          | [] => r.await s
          | '=' :: value => r.attach s (String.ofList value)
          | value => r.attach s (String.ofList value)

/-- A word that is no option: the value of the option before it. -/
def word (r : Reading) (w : String) : Except Refusal Reading :=
  match r.pending with
  | some (s, none) => .ok { r with pending := some (s, some w) }
  | _ => .error (.misuse .unknownArgument)

/-- Takes one word. -/
def next (r : Reading) (w : String) : Except Refusal Reading :=
  match w.toList with
  | '-' :: '-' :: name => r.long name
  | '-' :: c :: cs => r.letters (c :: cs)
  | _ => r.word w

end Reading

/-- Reads the words that are left; behind two dashes alone there may be none. -/
def readFrom (r : Reading) : List String → Except Refusal Arguments
  | [] => r.settle.map (·.complete)
  | w :: ws =>
      if w = "--" then
        if ws.isEmpty then r.settle.map (·.complete) else .error (.misuse .unknownArgument)
      else
        match r.next w with
        | .ok r => readFrom r ws
        | .error e => .error e

/-- The arguments that words denote. -/
def read (ws : List String) : Except Refusal Arguments := readFrom ⟨.nothing, none⟩ ws

end Arguments

end CpuPinning
