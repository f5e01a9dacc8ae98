import CpuPinning.Yaml.Layout
import CpuPinning.Yaml.Node

/-!
# From tokens to a tree

The tokens of a document are taken one by one.  The nodes that are still open lie on a
stack, the innermost on top; a node that is complete goes into the innermost of them.
Items, keys and values may be left out, which shows only at the token after them.
-/

namespace CpuPinning.Yaml

/-- A node before its names are looked up. -/
abbrev NamedNode := Node (List Char)

/-- What stands before such a node. -/
abbrev NamedProperties := Properties (List Char)

/-- How the extent of a list or an object shows. -/
inductive Extent where
  /-- By indentation. -/
  | indented
  /-- By brackets. -/
  | bracketed
  /-- By nothing: a list as indented as its key, or a single entry as an item in brackets. -/
  | bare
deriving DecidableEq, Repr

/-- A node that is open, with what it holds so far in reverse, and what is due in it. -/
inductive Frame where
  /-- The document; an empty one needs a mark at its start. -/
  | root (marked : Bool)
  /-- The document is complete. -/
  | whole (n : NamedNode)
  /-- Behind an anchor or a tag: the node that it belongs to. -/
  | described (p : NamedProperties)
  /-- In a list: the dash, comma or end behind an item. -/
  | items (e : Extent) (p : NamedProperties) (done : List NamedNode)
  /-- In a list: an item. -/
  | item (e : Extent) (p : NamedProperties) (done : List NamedNode)
  /-- In an object: a key mark, a comma or the end. -/
  | entries (e : Extent) (p : NamedProperties) (done : List (NamedNode × NamedNode))
  /-- In an object between brackets: an entry. -/
  | entry (p : NamedProperties) (done : List (NamedNode × NamedNode))
  /-- In an object: a key. -/
  | key (e : Extent) (p : NamedProperties) (done : List (NamedNode × NamedNode))
  /-- In an object: the colon behind a key. -/
  | colon (e : Extent) (p : NamedProperties) (done : List (NamedNode × NamedNode)) (k : NamedNode)
  /-- In an object: a value. -/
  | value (e : Extent) (p : NamedProperties) (done : List (NamedNode × NamedNode)) (k : NamedNode)

/-- Puts a complete node into the innermost open one; a bare entry is then complete too. -/
def put? (n : NamedNode) : List Frame → Option (List Frame)
  | .root _ :: fs => some (.whole n :: fs)
  | .item e p done :: fs => some (.items e p (n :: done) :: fs)
  | .entry p done :: fs => some (.entries .bracketed p ((n, .omitted .none) :: done) :: fs)
  | .key e p done :: fs => some (.colon e p done n :: fs)
  | .value .bare p done k :: fs => put? (.map p ((k, n) :: done).reverse) fs
  | .value e p done k :: fs => some (.entries e p ((k, n) :: done) :: fs)
  | _ => none

/-- Whether a node is due, so that one may begin. -/
def Frame.awaitsNode : Frame → Bool
  | .root _ => true
  | .item .. => true
  | .entry .. => true
  | .key .. => true
  | .value .. => true
  | _ => false

/-- Whether a list or an object that shows by indentation may begin. -/
def Frame.admitsIndented : Frame → Bool
  | .root _ => true
  | .item e .. => e ≠ .bracketed
  | .key e .. => e = .indented
  | .value e .. => e = .indented
  | _ => false

/-- Whether a list may begin that is as indented as what it belongs to. -/
def Frame.admitsBare : Frame → Bool
  | .key e .. => e = .indented
  | .value e .. => e = .indented
  | _ => false

/-- Whether a token shows that the node which is due was left out. -/
def Frame.omitsAt (t : Token) : Frame → Bool
  | .root marked =>
      marked && (match t with
        | .version .. | .tagHandle .. | .documentStart | .documentEnd | .finish => true
        | _ => false)
  | .item .indented .. => t = .dash || t = .dedent
  | .item .bare .. => t = .dash || t = .key || t = .colon || t = .dedent
  | .key .indented .. => t = .key || t = .colon || t = .dedent
  | .key .bracketed .. => t = .colon || t = .comma || t = .closeMap
  | .value .indented .. => t = .key || t = .colon || t = .dedent
  | .value .bracketed .. => t = .comma || t = .closeMap
  | .value .bare .. => t = .comma || t = .closeSeq
  | _ => false

/-- Whether a node begins with a token, apart from its anchor and tag. -/
def Frame.beginsAt (t : Token) (f : Frame) : Bool :=
  f.awaitsNode && (match t with
    | .scalar .. | .openSeq | .openMap => true
    | .indentSeq | .indentMap => f.admitsIndented
    | .dash => f.admitsBare
    | _ => false)

/-- Puts in a node that a token shows to be left out. -/
private def fillNode? (t : Token) : List Frame → Option (List Frame)
  | .described p :: f :: fs =>
      let continues := match t with
        | .anchor _ => p.anchor.isNone
        | .tag _ => p.tag.isNone
        | _ => f.beginsAt t
      if continues then some (.described p :: f :: fs) else put? (.omitted p) (f :: fs)
  | f :: fs => if f.omitsAt t then put? (.omitted .none) (f :: fs) else some (f :: fs)
  | [] => some []

/-- Ends a bare list if a token shows that no item follows. -/
private def endBare? (t : Token) : List Frame → Option (List Frame)
  | .items .bare p done :: fs =>
      if t = .dash then some (.items .bare p done :: fs) else put? (.seq p done.reverse) fs
  | fs => some fs

/-- Puts in the value of a key that no colon follows. -/
private def fillValue? (t : Token) : List Frame → Option (List Frame)
  | .colon e p done k :: fs =>
      if t = .colon then some (.colon e p done k :: fs)
      else put? (.omitted .none) (.value e p done k :: fs)
  | fs => some fs

/-- Begins a node with a token. -/
private def begin? (handles : Handles) (t : Token) (p : NamedProperties) (fs : List Frame) :
    Option (List Frame) :=
  match t with
  | .scalar plain text => put? (.ofScalar p plain text) fs
  | .openSeq => some (.item .bracketed p [] :: fs)
  | .openMap => some (.entry p [] :: fs)
  | .indentSeq => some (.items .indented p [] :: fs)
  | .indentMap => some (.entries .indented p [] :: fs)
  | .dash => some (.item .bare p [] :: fs)
  | .anchor name => some (.described { p with anchor := some name } :: fs)
  | .tag tag => (tag.resolve? handles).map fun tag => .described { p with tag := some tag } :: fs
  | _ => none

/-- Begins the node that is due. -/
private def beginDue? (handles : Handles) (t : Token) (f : Frame) (fs : List Frame) :
    Option (List Frame) :=
  match t with
  | .alias name => put? (.alias name) (f :: fs)
  | .anchor _ | .tag _ => if f.awaitsNode then begin? handles t .none (f :: fs) else none
  | _ => if f.beginsAt t then begin? handles t .none (f :: fs) else none

/-- Takes a token when all that it shows to be left out has been put in. -/
private def take? (handles : Handles) (t : Token) : List Frame → Option (List Frame)
  | [] => none
  | f :: fs =>
      match f, t with
      | .whole _, .documentEnd | .whole _, .finish => some (f :: fs)
      | .described p, _ => begin? handles t p fs
      | .items .bracketed p done, .comma => some (.item .bracketed p done :: fs)
      | .items .indented p done, .dash => some (.item .indented p done :: fs)
      | .items .bare p done, .dash => some (.item .bare p done :: fs)
      | .items .bracketed p done, .closeSeq => put? (.seq p done.reverse) fs
      | .items .indented p done, .dedent => put? (.seq p done.reverse) fs
      | .item .bracketed p done, .closeSeq => put? (.seq p done.reverse) fs
      | .item .bracketed _ _, .key => some (.key .bare .none [] :: f :: fs)
      | .entries .bracketed p done, .comma => some (.entry p done :: fs)
      | .entries .indented p done, .key => some (.key .indented p done :: fs)
      | .entries .bracketed p done, .closeMap => put? (.map p done.reverse) fs
      | .entries .indented p done, .dedent => put? (.map p done.reverse) fs
      | .entry p done, .closeMap => put? (.map p done.reverse) fs
      | .entry p done, .key => some (.key .bracketed p done :: fs)
      -- The token that shows a bare key to be left out goes with it.
      | .key .bare _ _, .colon | .key .bare _ _, .comma | .key .bare _ _, .closeSeq =>
          put? (.omitted .none) (f :: fs)
      | .colon e p done k, .colon => some (.value e p done k :: fs)
      | _, _ => beginDue? handles t f fs

/-- Takes one token. -/
def accept? (handles : Handles) (fs : List Frame) (t : Token) : Option (List Frame) := do
  let fs ← fillNode? t fs
  let fs ← endBare? t fs
  let fs ← fillValue? t fs
  take? handles t fs

/-- The head of a document: what its directives say, and whether its start is marked. -/
structure Head where
  version : Bool
  handles : Handles
  marked : Bool

/-- Reads the head of a document; directives need a mark behind them, and none may be repeated. -/
def Head.read? (h : Head) : List Token → Option (Head × List Token)
  | .version major minor :: ts =>
      if h.version || major ≠ 1 || (minor ≠ 1 && minor ≠ 2) then none
      else read? { h with version := true } ts
  | .tagHandle handle stem :: ts =>
      if (h.handles.lookup handle).isSome then none
      else read? { h with handles := (handle, stem) :: h.handles } ts
  | .documentStart :: ts => some ({ h with marked := true }, ts)
  | ts => if h.version || !h.handles.isEmpty then none else some (h, ts)

/-- The one document that tokens describe; without any content it is a plain scalar that is
empty. -/
def NamedNode.ofTokens? (ts : List Token) : Option NamedNode := do
  let (head, ts) ← Head.read? ⟨false, [], false⟩ ts
  if !head.marked && ts = [.finish] then return .omitted .none
  match ← ts.foldlM (accept? (head.handles ++ standardHandles)) [.root head.marked] with
  | [.whole n] => some n
  | _ => none

end CpuPinning.Yaml
