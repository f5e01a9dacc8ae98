import CpuPinning.Yaml.Tag

/-!
# YAML nodes

The tree that a document describes before names are looked up and scalars are given values.
-/

namespace CpuPinning.Yaml

/-- What stands before a node: its anchor and its full tag. -/
structure Properties (ν : Type) where
  anchor : Option ν
  tag : Option (List UInt8)
deriving Repr

/-- No anchor and no tag. -/
def Properties.none {ν : Type} : Properties ν := ⟨.none, .none⟩

/-- A node, with its anchors and aliases in `ν`. -/
inductive Node (ν : Type) where
  | alias (name : ν)
  | scalar (properties : Properties ν) (plain : Bool) (text : List Char)
  | seq (properties : Properties ν) (items : List (Node ν))
  | map (properties : Properties ν) (entries : List (Node ν × Node ν))

/-- What stands where a node is left out. -/
def Node.omitted {ν : Type} (properties : Properties ν) : Node ν := .scalar properties true []

/-- A scalar that is written out; the bare tag says nothing about it. -/
def Node.ofScalar {ν : Type} (p : Properties ν) (plain : Bool) (text : List Char) : Node ν :=
  .scalar ⟨p.anchor, p.tag.filter (· ≠ bareTag)⟩ plain text

end CpuPinning.Yaml
