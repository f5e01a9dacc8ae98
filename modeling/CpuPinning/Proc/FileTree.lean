import CpuPinning.Fault.Basic
import CpuPinning.Text.Blank
import CpuPinning.Text.Utf8

/-!
# File trees

A tree of directories, files and symbolic links, and what reading it answers.  Paths are
followed through links, and the kernel's error numbers say why a path leads nowhere.
-/

namespace CpuPinning.Proc

theorem toOption_eq_some_iff {ε α : Type} {x : Except ε α} {a : α} :
    x.toOption = some a ↔ x = .ok a := by
  cases x with
  | ok b => simp [Except.toOption]
  | error e => simp [Except.toOption]

/-- A file, a symbolic link, or a directory with its entries. -/
inductive Node where
  | file (bytes : List UInt8)
  | link (target : String)
  | dir (entries : List (String × Node))
deriving Inhabited

/-- The names along a path. -/
def pathParts (path : String) : List String :=
  (Text.splitBy (· == '/') path.toList).map String.ofList

namespace Node

def entries : Node → List (String × Node)
  | dir es => es
  | _ => []

/-- Changes what is at a path, making the directories on the way. -/
def change (f : Node → Node) : List String → Node → Node
  | [], node => f node
  | name :: rest, node =>
      let es := node.entries
      dir (setMember name (change f rest ((member? name es).getD (dir []))) es)

/-- Removes what is at a path; `none` if there is nothing. -/
def remove? : List String → Node → Option Node
  | [], _ => none
  | [name], dir es => (member? name es).map fun _ => dir (es.filter (·.1 ≠ name))
  | name :: rest, dir es =>
      match member? name es with
      | some node => (remove? rest node).map fun node => dir (setMember name node es)
      | none => none
  | _, _ => none

end Node

/-- The error numbers of paths that lead nowhere. -/
def noEntry : IoFailure := .errno 2
def notDirectory : IoFailure := .errno 20
def isDirectory : IoFailure := .errno 21
def notLink : IoFailure := .errno 22
def nameTooLong : IoFailure := .errno 36
def tooManyLinks : IoFailure := .errno 40

/-- A null character would end a path early, so no path may hold one. -/
def nullInName : IoFailure := .described .invalidInput "file name contained an unexpected NUL byte"

/-- How many links one path may pass. -/
def linkLimit : Nat := 40

/-- How many bytes one name may have. -/
def nameSizeLimit : Nat := 255

/-- How many bytes a path may have. -/
def pathSizeLimit : Nat := 4095

/-- A place in a tree: the directories from there up to the root, and the node itself. -/
structure Position where
  above : List Node
  node : Node
deriving Inhabited

namespace Position

/-- The place above; the root is its own. -/
def up (p : Position) : Position :=
  match p.above with
  | [] => p
  | parent :: above => ⟨above, parent⟩

/-- The root. -/
def top (p : Position) : Position := ⟨[], p.above.getLastD p.node⟩

/-- Follows the parts of a path as far as the first link that it passes, from where `follow`
goes on with the parts of the link and the rest.  A link at the end is passed too, unless
`last` says that it is meant itself. -/
def walkToLink (last : Bool) (follow : Position → List String → Except IoFailure Position)
    (p : Position) : List String → Except IoFailure Position
  | [] => .ok p
  | part :: rest =>
      match p.node with
      | .file _ => .error notDirectory
      | .link _ => .error notDirectory
      | .dir es =>
          if part = "" || part = "." then walkToLink last follow p rest
          else if part = ".." then walkToLink last follow p.up rest
          else if nameSizeLimit < part.utf8ByteSize then .error nameTooLong
          else match member? part es with
            | none => .error noEntry
            | some (.link target) =>
                if last && rest.isEmpty then .ok ⟨p.node :: p.above, .link target⟩
                else follow (if target.startsWith "/" then p.top else p) (pathParts target ++ rest)
            | some node => walkToLink last follow ⟨p.node :: p.above, node⟩ rest

/-- Follows the parts of a path, passing at most `links` links. -/
def walk (last : Bool) : Nat → Position → List String → Except IoFailure Position
  | 0 => walkToLink last fun _ _ => .error tooManyLinks
  | links + 1 => walkToLink last (walk last links)

end Position

/-- A tree with the directory that paths start from. -/
structure FileTree where
  root : Node
  here : List String

namespace FileTree

/-- What a path leads to; `last` says that a link at its end is meant itself. -/
def find (last : Bool) (t : FileTree) (path : String) : Except IoFailure Node :=
  if '\x00' ∈ path.toList then .error nullInName
  else if path.isEmpty then .error noEntry
  else if pathSizeLimit < path.utf8ByteSize then .error nameTooLong
  else
    let start : List String := if path.startsWith "/" then [] else t.here
    (Position.walk last linkLimit ⟨[], t.root⟩ (start ++ pathParts path)).map (·.node)

/-- Whether a path leads to a file or directory. -/
def exists? (t : FileTree) (path : String) : Bool := (t.find false path).toOption.isSome

/-- The bytes of a file. -/
def readBytes (t : FileTree) (path : String) : Except IoFailure (List UInt8) :=
  match t.find false path with
  | .ok (.file bytes) => .ok bytes
  | .ok _ => .error isDirectory
  | .error e => .error e

/-- The text of a file. -/
def readText (t : FileTree) (path : String) : Except IoFailure (List Char) :=
  match t.readBytes path with
  | .ok bytes =>
      match Text.decode? bytes with
      | some cs => .ok cs
      | none => .error .notText
  | .error e => .error e

/-- The names in a directory. -/
def list (t : FileTree) (path : String) : Except IoFailure (List String) :=
  match t.find false path with
  | .ok (.dir es) => .ok (es.map (·.1))
  | .ok _ => .error notDirectory
  | .error e => .error e

/-- Where a link points. -/
def readLink (t : FileTree) (path : String) : Except IoFailure String :=
  match t.find true path with
  | .ok (.link target) => .ok target
  | .ok _ => .error notLink
  | .error e => .error e

/-- Puts a file or link at a path. -/
def put (t : FileTree) (path : String) (node : Node) : FileTree :=
  { t with root := Node.change (fun _ => node) (t.here ++ pathParts path) t.root }

/-- Makes a directory at a path, unless there is one. -/
def makeDirectory (t : FileTree) (path : String) : FileTree :=
  { t with root := Node.change (fun node => .dir node.entries) (t.here ++ pathParts path) t.root }

/-- Removes what is at a path; `none` if there is nothing. -/
def remove? (t : FileTree) (path : String) : Option FileTree :=
  (Node.remove? (t.here ++ pathParts path) t.root).map fun root => { t with root := root }

end FileTree

end CpuPinning.Proc
