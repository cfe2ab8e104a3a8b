import Gatehouse.Yaml.Node

/-!
# References between nodes

Every reference is looked up among the anchors in front of it.  An anchor
gets the number of names known before it, so an anchor that reuses a name
shares its number with the next new name, and the later of the two nodes is
the one that both numbers mean.
-/

namespace Gatehouse.Yaml

/-- The anchors met so far. -/
structure Anchors where
  /-- The number each name stands for at present. -/
  names : List (String × Nat)
  /-- For each number the place of the anchored node, latest first. -/
  places : List (Nat × Nat)
  /-- The finished nodes by their place. -/
  nodes : List (Nat × Node Nat)

namespace Anchors

/-- No anchor at all. -/
def bare : Anchors :=
  ⟨[], [], []⟩

/-- Give a name to the next anchored node and return its place. -/
def define (anchors : Anchors) (name : String) : Nat × Anchors :=
  let number := anchors.names.length
  let place := anchors.places.length
  let names :=
    if anchors.names.any (·.1 == name) then
      anchors.names.map fun entry =>
        if entry.1 == name then (name, number) else entry
    else anchors.names ++ [(name, number)]
  (place, { anchors with names, places := (number, place) :: anchors.places })

/-- Record the node at a place. -/
def finish (anchors : Anchors) (place : Nat) (node : Node Nat) : Anchors :=
  { anchors with nodes := (place, node) :: anchors.nodes }

/-- The node that a number means. -/
def target? (anchors : Anchors) (number : Nat) : Option (Node Nat) :=
  (anchors.places.lookup number).bind fun place => anchors.nodes.lookup place

end Anchors

namespace Node

/-- Register the anchor of a node around the linking of its content. -/
def anchored (properties : Properties) (anchors : Anchors)
    (link : Anchors → Except ReadError (Node Nat × Anchors)) : Except ReadError (Node Nat × Anchors) :=
  match properties.anchor with
  | none => link anchors
  | some name => do
    let (place, anchors) := anchors.define name
    let (node, anchors) ← link anchors
    return (node, anchors.finish place node)

mutual

/-- Look up the references of a node. -/
def link : Node String → Anchors → Except ReadError (Node Nat × Anchors)
  | .reference name, anchors =>
    match anchors.names.lookup name with
    | some number => .ok (.reference number, anchors)
    | none => .error .unknownAnchor
  | .scalar properties text style, anchors =>
    anchored properties anchors fun anchors =>
      .ok (.scalar properties text style, anchors)
  | .sequence properties items, anchors =>
    anchored properties anchors fun anchors => do
      let (items, anchors) ← linkItems items anchors
      return (.sequence properties items, anchors)
  | .mapping properties entries, anchors =>
    anchored properties anchors fun anchors => do
      let (entries, anchors) ← linkEntries entries anchors
      return (.mapping properties entries, anchors)

/-- Look up the references of the items of a sequence. -/
def linkItems : List (Node String) → Anchors → Except ReadError (List (Node Nat) × Anchors)
  | [], anchors => .ok ([], anchors)
  | item :: rest, anchors => do
    let (item, anchors) ← link item anchors
    let (items, anchors) ← linkItems rest anchors
    return (item :: items, anchors)

/-- Look up the references of the entries of a mapping. -/
def linkEntries : List (Node String × Node String) → Anchors →
    Except ReadError (List (Node Nat × Node Nat) × Anchors)
  | [], anchors => .ok ([], anchors)
  | (key, value) :: rest, anchors => do
    let (key, anchors) ← link key anchors
    let (value, anchors) ← link value anchors
    let (entries, anchors) ← linkEntries rest anchors
    return ((key, value) :: entries, anchors)

end

end Node

end Gatehouse.Yaml
