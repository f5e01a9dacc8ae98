import CpuPinning.Json.Reader
import CpuPinning.Rule.Compile
import CpuPinning.Text.Path
import CpuPinning.Toml.Reader
import CpuPinning.Yaml.Reader

/-!
# Pin files

A pin file is read as text, taken as a document in the format that its name asks for, and
compiled.  An error tells how far this got.
-/

namespace CpuPinning

/-- The formats of pin files. -/
inductive FileFormat where
  | json
  | yaml
  | toml
deriving DecidableEq, Repr

/-- The name of a format in messages. -/
def FileFormat.name : FileFormat → String
  | json => "JSON"
  | yaml => "YAML"
  | toml => "TOML"

/-- The document that a text in a format denotes. -/
def FileFormat.read? : FileFormat → List Char → Option Value
  | json => Json.read?
  | yaml => Yaml.read?
  | toml => Toml.read?

namespace PinFile

/-- The format that a path asks for; without an extension that is known it is JSON. -/
def format (path : String) : FileFormat :=
  match ((Text.fileName? path.toList).bind Text.extension?).map String.ofList with
  | some "yaml" => .yaml
  | some "yml" => .yaml
  | some "toml" => .toml
  | _ => .json

end PinFile

/-- Why there are no rules from a pin file. -/
inductive LoadError where
  | unreadable (path : String) (cause : IoFailure)
  /-- The text is no document of the format. -/
  | illFormed (path : String) (format : FileFormat)
  /-- The document does not denote rules. -/
  | refused (path : String) (document : Value) (cause : PinError)

namespace LoadError

/-- What was being done. -/
def context : LoadError → String
  | unreadable path _ => "Failed to read pin file " ++ path
  | illFormed path format => "Invalid " ++ format.name ++ " in " ++ path
  | refused path _ _ => "Invalid pin file " ++ path

/-- What was being done and, where a message tells it, why it failed. -/
def message : LoadError → String
  | unreadable path cause => (unreadable path cause).context ++ ": " ++ cause.message
  | illFormed path format => (illFormed path format).context
  | refused path document cause => (refused path document cause).context ++ ": " ++ cause.message

end LoadError

namespace PinFile

/-- The document in a file, given the outcome of reading the file as text. -/
def document (path : String) (content : Except IoFailure (List Char)) : Except LoadError Value :=
  match content with
  | .error e => .error (.unreadable path e)
  | .ok cs =>
      match (format path).read? cs with
      | some v => .ok v
      | none => .error (.illFormed path (format path))

/-- The document in a file and the rules that it denotes. -/
def load (path : String) (content : Except IoFailure (List Char)) :
    Except LoadError (Value × RuleSet) := do
  let v ← document path content
  match compile v with
  | .ok rules => return (v, rules)
  | .error e => throw (.refused path v e)

end PinFile

end CpuPinning
