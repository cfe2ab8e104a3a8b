import Gatehouse.Yaml.Token

/-!
# Nodes: the tree that the tokens of a document spell

A node is a scalar, a sequence or a mapping, each with an optional anchor
and an optional tag, or a reference to an anchored node.  The type of
references is a parameter: names as written, or numbers once every name has
been looked up.
-/

namespace Gatehouse.Yaml

/-- What may stand in front of a node: its anchor and its tag in octets. -/
structure Properties where
  anchor : Option String
  tag : Option (List UInt8)
  deriving DecidableEq, Repr

/-- No anchor and no tag. -/
def Properties.bare : Properties :=
  ⟨none, none⟩

/-- A node of a document whose references are of type `Target`. -/
inductive Node (Target : Type) where
  | reference (target : Target)
  | scalar (properties : Properties) (text : String) (style : ScalarStyle)
  | sequence (properties : Properties) (items : List (Node Target))
  | mapping (properties : Properties)
      (entries : List (Node Target × Node Target))

namespace Node

/-- The scalar that stands where nothing is written. -/
def empty {Target : Type} : Node Target :=
  .scalar .bare "" .plain

mutual

/-- How many marks and scalars it takes to spell a node. -/
def size {Target : Type} : Node Target → Nat
  | .reference _ => 1
  | .scalar _ _ _ => 1
  | .sequence _ items => 2 + itemsSize items
  | .mapping _ entries => 2 + entriesSize entries

/-- The size of the items of a sequence. -/
def itemsSize {Target : Type} : List (Node Target) → Nat
  | [] => 0
  | item :: rest => size item + itemsSize rest

/-- The size of the entries of a mapping. -/
def entriesSize {Target : Type} : List (Node Target × Node Target) → Nat
  | [] => 0
  | (key, value) :: rest => size key + size value + entriesSize rest

end

end Node

end Gatehouse.Yaml
