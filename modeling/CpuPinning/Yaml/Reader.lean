import CpuPinning.Yaml.Schema
import CpuPinning.Yaml.Tree

/-!
# Reading YAML

A text holds one document.  Its aliases are looked up, and the tree is turned into a value;
an object takes the last value of a key that is repeated, and any scalar may be a key.  How
deep nodes may lie inside each other is limited, and so is how often aliases are followed,
because a few of them can make a text stand for a huge tree.
-/

namespace CpuPinning.Yaml

/-- The anchors seen so far, with the number of the node that each one names. -/
abbrev AnchorNumbers := List (List Char × Nat)

/-- Gives an anchor its number, which is the count of the names before it.  A name that is
used again counts once, so that its new number may be that of the next new name as well. -/
def AnchorNumbers.define (name : List Char) (ns : AnchorNumbers) : Nat × AnchorNumbers :=
  (ns.length, (name, ns.length) :: ns.filter (·.1 ≠ name))

/-- A node whose names are looked up. -/
abbrev NumberedNode := Node Nat

/-- Numbers the anchor of a node. -/
private def numberProperties (p : NamedProperties) : StateT AnchorNumbers Option (Properties Nat) :=
  match p.anchor with
  | none => pure ⟨none, p.tag⟩
  | some name => do
      let (n, ns) := (← get).define name
      set ns
      return ⟨some n, p.tag⟩

mutual

/-- Numbers the anchors of a tree in the order of the text; an alias needs its anchor before it. -/
def number : NamedNode → StateT AnchorNumbers Option NumberedNode
  | .alias name => do
      match (← get).lookup name with
      | some n => return .alias n
      | none => failure
  | .scalar p plain text => do return .scalar (← numberProperties p) plain text
  | .seq p items => do
      let p ← numberProperties p
      return .seq p (← numberItems items)
  | .map p entries => do
      let p ← numberProperties p
      return .map p (← numberEntries entries)

def numberItems : List NamedNode → StateT AnchorNumbers Option (List NumberedNode)
  | [] => return []
  | n :: ns => do
      let n ← number n
      return n :: (← numberItems ns)

def numberEntries : List (NamedNode × NamedNode) →
    StateT AnchorNumbers Option (List (NumberedNode × NumberedNode))
  | [] => return []
  | (k, v) :: es => do
      let k ← number k
      let v ← number v
      return (k, v) :: (← numberEntries es)

end

/-- The node with its number, if it has an anchor. -/
private def own (p : Properties Nat) (n : NumberedNode) : List (Nat × NumberedNode) :=
  p.anchor.toList.map (·, n)

mutual

/-- The nodes with anchors in a tree, in the order of the text. -/
def anchored : NumberedNode → List (Nat × NumberedNode)
  | .alias _ => []
  | .scalar p plain text => own p (.scalar p plain text)
  | .seq p items => own p (.seq p items) ++ anchoredItems items
  | .map p entries => own p (.map p entries) ++ anchoredEntries entries

def anchoredItems : List NumberedNode → List (Nat × NumberedNode)
  | [] => []
  | n :: ns => anchored n ++ anchoredItems ns

def anchoredEntries : List (NumberedNode × NumberedNode) → List (Nat × NumberedNode)
  | [] => []
  | (k, v) :: es => anchored k ++ anchored v ++ anchoredEntries es

end

mutual

/-- The size of a tree as it is written: a scalar or an alias counts once, a list or an
object twice. -/
def weight : NumberedNode → Nat
  | .alias _ => 1
  | .scalar .. => 1
  | .seq _ items => 2 + weightItems items
  | .map _ entries => 2 + weightEntries entries

def weightItems : List NumberedNode → Nat
  | [] => 0
  | n :: ns => weight n + weightItems ns

def weightEntries : List (NumberedNode × NumberedNode) → Nat
  | [] => 0
  | (k, v) :: es => weight k + weight v + weightEntries es

end

/-- How often an alias may be followed for each unit of a tree's weight. -/
def followsPerUnit : Nat := 100

/-- A reading that can fail, with the number of aliases that may still be followed. -/
abbrev Reading := StateT Nat Option

/-- The node itself, or the one that it is an alias of: of two with one number, the last. -/
private def follow (table : List (Nat × NumberedNode)) : NumberedNode → Reading NumberedNode
  | .alias n => do
      match ← get with
      | 0 => failure
      | budget + 1 =>
          set budget
          match table.lookup n with
          | some node => return node
          | none => failure
  | node => return node

/-- The text of a key; its type and tag do not count. -/
private def keyText (table : List (Nat × NumberedNode)) (n : NumberedNode) : Reading String := do
  match ← follow table n with
  | .scalar _ _ text => return String.ofList text
  | _ => failure

private def ownTypeFree (p : Properties Nat) : Bool := p.tag.all (!isOwnType ·)

/-- The value of a tree with at most `depth` lists and objects inside each other. -/
def valueWithin (table : List (Nat × NumberedNode)) (depth : Nat) (n : NumberedNode) :
    Reading Value := do
  match ← follow table n, depth with
  | .scalar p plain text, _ => StateT.lift (scalarValue? p.tag plain text)
  | .seq p items, depth + 1 =>
      guard (ownTypeFree p)
      return .arr (← items.mapM (valueWithin table depth))
  | .map p entries, depth + 1 =>
      guard (ownTypeFree p)
      let members ← entries.foldlM (fun members (k, v) => do
        let key ← keyText table k
        return setMember key (← valueWithin table depth v) members) []
      return .obj members
  | _, _ => failure

/-- How many lists and objects may stand inside each other. -/
def depthLimit : Nat := 128

/-- The value of a document. -/
def NamedNode.value? (n : NamedNode) : Option Value := do
  let (n, _) ← (number n).run []
  let (v, _) ← (valueWithin (anchored n).reverse depthLimit n).run (followsPerUnit * weight n)
  return v

/-- The value that a text denotes. -/
def read? (cs : List Char) : Option Value := tokens? cs >>= NamedNode.ofTokens? >>= NamedNode.value?

end CpuPinning.Yaml
