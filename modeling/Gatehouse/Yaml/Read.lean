import Gatehouse.Yaml.Node.Link
import Gatehouse.Yaml.Node.OfTokens
import Gatehouse.Yaml.Scalar
import Gatehouse.Yaml.Token.Lexer

/-!
# Reading a YAML document

`Yaml.read` turns a text into the value of its only document.  Collections
may nest 128 deep, references expand to a copy of the node they mean, and
the number of expansions is bounded by a multiple of the size of the
document.
-/

namespace Gatehouse.Yaml

/-- How deep collections may nest. -/
def depthLimit : Nat := 128

/-- How often references may be expanded, for each mark of the document. -/
def expansionFactor : Nat := 100

/-- The local tag that octets spell, without its exclamation mark. -/
def localTag? (bytes : List UInt8) : Option String :=
  match bytes with
  | 0x21 :: rest =>
    let spelled := if rest.isEmpty then bytes else rest
    (String.fromUTF8? ⟨spelled.toArray⟩).map fun text =>
      match text.toList with
      | '!' :: first :: more => String.ofList (first :: more)
      | _ => text
  | _ => none

/-- Whether octets spell a tag of the core schema. -/
def isCoreTag (bytes : List UInt8) (name : String) : Bool :=
  bytes == ("tag:yaml.org,2002:" ++ name).toUTF8.toList

/-- The value of a plain scalar without a tag. -/
def untaggedValue (text : String) : Except ReadError Value :=
  match Scalar.read text with
  | .value value => .ok value
  | .wide _ => .error .unreadableScalar

/-- A value that a core tag demands. -/
def demanded (value : Option Value) : Except ReadError Value :=
  match value with
  | some value => .ok value
  | none => .error .unreadableScalar

/-- The value of a scalar, by its tag unless the tag has been used already. -/
def scalarValue (tag : Option (List UInt8)) (text : String)
    (style : ScalarStyle) : Except ReadError Value :=
  match tag with
  | none => if style = .plain then untaggedValue text else .ok (.string text)
  | some bytes =>
    if isCoreTag bytes "bool" then
      demanded ((Scalar.bool? text).map .bool)
    else if isCoreTag bytes "int" then
      demanded (((Scalar.integer? text.toList).filter Scalar.isNarrow).map .int)
    else if isCoreTag bytes "float" then
      demanded ((Scalar.float? text).map fun value => .number (.float value))
    else if isCoreTag bytes "null" then
      demanded (if Scalar.isNullWord text then some .null else none)
    else if bytes.head? == some 0x21 && style = .plain then untaggedValue text
    else .ok (.string text)

/-- Run a reading step over a list from left to right. -/
def expandEach {Item Result : Type} (step : Item → Nat → Except ReadError (Result × Nat)) :
    List Item → Nat → Except ReadError ((List Result) × Nat)
  | [], count => .ok ([], count)
  | item :: rest, count => do
    let (result, count) ← step item count
    let (results, count) ← expandEach step rest count
    return (result :: results, count)

/-- Run two reading steps over the entries of a mapping, refusing a repeated key. -/
def expandEntries (key value : Node Nat → Nat → Except ReadError (Value × Nat)) :
    List (Node Nat × Node Nat) → Mapping → Nat → Except ReadError (Mapping × Nat)
  | [], entries, count => .ok (entries.reverse, count)
  | (keyNode, valueNode) :: rest, entries, count => do
    let (name, count) ← key keyNode count
    if List.any entries (fun entry => entry.1.sameKey name) then
      throw .repeatedKey
    let (content, count) ← value valueNode count
    expandEntries key value rest ((name, content) :: entries) count

namespace Node

/-- The node itself, or the one a reference means, at the cost of one expansion. -/
def expanded (anchors : Anchors) (limit : Nat) (used : Bool) (count : Nat) :
    Node Nat → Except ReadError ((Bool × Node Nat) × Nat)
  | .reference number =>
    if limit < count + 1 then .error .tooManyAliases
    else
      match anchors.target? number with
      | some node => .ok ((false, node), count + 1)
      | none => .error .unknownAnchor
  | node => .ok ((used, node), count)

/-- The tag of a node in octets. -/
def tag : Node Nat → Option (List UInt8)
  | .reference _ => none
  | .scalar properties _ _ => properties.tag
  | .sequence properties _ => properties.tag
  | .mapping properties _ => properties.tag

/--
The value of a node.  `used` says that the tag in front of it has been taken
into account.
-/
def toValue (anchors : Anchors) (limit : Nat) :
    Nat → Bool → Node Nat → Nat → Except ReadError (Value × Nat)
  | depth, used, node, count => do
    let ((used, node), count) ← expanded anchors limit used count node
    let wrapper := if used then none else node.tag.bind localTag?
    let used := used || wrapper.isSome
    let (value, count) ←
      match node with
      | .reference _ => throw .unknownAnchor
      | .scalar properties text style => do
        let tag := if used then none else properties.tag
        pure (← scalarValue tag text style, count)
      | .sequence _ items =>
        match depth with
        | 0 => throw .tooDeep
        | depth + 1 => do
          let (values, count) ←
            expandEach (toValue anchors limit depth false) items count
          pure (.sequence values, count)
      | .mapping _ entries =>
        match depth with
        | 0 => throw .tooDeep
        | depth + 1 => do
          let (entries, count) ←
            expandEntries (toValue anchors limit depth false)
              (toValue anchors limit depth false) entries [] count
          pure (.mapping entries, count)
    return (match wrapper with
      | some tag => .tagged tag value
      | none => value, count)

end Node

/-- The value of the only document of a text; an empty text is null. -/
def read (text : String) : Except ReadError Value := do
  let tokens ← tokenize text.toList
  match ← Node.documentOfTokens tokens with
  | none => return .null
  | some node =>
    let (linked, anchors) ← node.link .bare
    let limit := expansionFactor * linked.size
    let (value, _) ← linked.toValue anchors limit depthLimit false 0
    return value

end Gatehouse.Yaml
