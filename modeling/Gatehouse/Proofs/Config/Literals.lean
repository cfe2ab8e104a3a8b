import Gatehouse.Proofs.Config.Filling
import Gatehouse.Proofs.Template.Escaping

/-!
# Documents that stand for themselves

Every value can be written literally, whatever it holds: with its strings
escaped, at any depth, filling it in gives the value again under any
variables.  A string stays the string that was meant, also where it spells a
number or a boolean, since an escaped string never looks like one variable
and nothing else.  Strings without an opening need no escape at all.
-/

namespace Gatehouse.Yaml.Value

mutual

/-- A value with its strings escaped; keys are never filled in. -/
def escaped : Value → Value
  | .string text => .string (Template.escape text)
  | .sequence items => .sequence (escapedItems items)
  | .mapping entries => .mapping (escapedEntries entries)
  | .tagged tag value => .tagged tag (escaped value)
  | .null => .null
  | .bool value => .bool value
  | .number value => .number value

/-- The items of a sequence with their strings escaped. -/
def escapedItems : List Value → List Value
  | [] => []
  | item :: rest => escaped item :: escapedItems rest

/-- The entries of a mapping with the strings of their values escaped. -/
def escapedEntries : List (Value × Value) → List (Value × Value)
  | [] => []
  | (key, value) :: rest => (key, escaped value) :: escapedEntries rest

end

end Gatehouse.Yaml.Value

namespace Gatehouse.Config

open Gatehouse.Yaml

/-- A text in which no dollar sign opens a brace. -/
def OpensNothing (text : String) : Prop :=
  ¬ ['$', '\x7b'] <:+: text.toList

theorem resolveString_escape (lookup : Variables) (text : String) :
    resolveString lookup (Template.escape text) = .ok (.string text) := by
  unfold resolveString
  split
  · rw [Template.render_escape, Template.isSingleVariable_escape]
    rfl
  · rename_i noDollar
    have plain : '$' ∉ (Template.escape text).toList := by
      simpa using noDollar
    have alone := Template.render_of_plain lookup plain
    rw [Template.render_escape] at alone
    rw [← Except.ok.inj alone]

mutual

/-- A value with its strings escaped is filled in to the value. -/
theorem interpolate_escaped (lookup : Variables) (keyPath : String) :
    ∀ value : Value,
      interpolate lookup keyPath value.escaped = .ok value
  | .null => rfl
  | .bool _ => rfl
  | .number _ => rfl
  | .string text => by
      rw [Value.escaped, interpolate, resolveString_escape]
      rfl
  | .sequence items => by
      rw [Value.escaped, interpolate,
        interpolateItems_escaped lookup keyPath 0 items]
      rfl
  | .mapping entries => by
      rw [Value.escaped, interpolate,
        interpolateEntries_escaped lookup (keyPath ++ ".") entries]
      rfl
  | .tagged _ value => by
      rw [Value.escaped, interpolate,
        interpolate_escaped lookup keyPath value]
      rfl

theorem interpolateItems_escaped (lookup : Variables) (keyPath : String)
    (index : Nat) :
    ∀ items : List Value,
      interpolateItems lookup keyPath index (Value.escapedItems items) =
        .ok items
  | [] => rfl
  | item :: rest => by
      rw [Value.escapedItems, interpolateItems,
        interpolate_escaped lookup _ item,
        interpolateItems_escaped lookup keyPath (index + 1) rest]
      rfl

theorem interpolateEntries_escaped (lookup : Variables) (outer : String) :
    ∀ entries : List (Value × Value),
      interpolateEntries lookup outer (Value.escapedEntries entries) =
        .ok entries
  | [] => rfl
  | (key, value) :: rest => by
      rw [Value.escapedEntries, interpolateEntries,
        interpolate_escaped lookup _ value,
        interpolateEntries_escaped lookup outer rest]
      rfl

end

mutual

/-- Without an opening in its strings a value is escaped as it is. -/
theorem escaped_of_opensNothing :
    ∀ value : Value, (∀ text ∈ value.leaves, OpensNothing text) →
      value.escaped = value
  | .null, _ => rfl
  | .bool _, _ => rfl
  | .number _, _ => rfl
  | .string text, plain => by
      rw [Value.escaped, Template.escape_of_plain
        (plain text List.mem_cons_self)]
  | .sequence items, plain => by
      rw [Value.escaped, escapedItems_of_opensNothing items plain]
  | .mapping entries, plain => by
      rw [Value.escaped, escapedEntries_of_opensNothing entries plain]
  | .tagged _ value, plain => by
      rw [Value.escaped, escaped_of_opensNothing value plain]

theorem escapedItems_of_opensNothing :
    ∀ items : List Value,
      (∀ text ∈ Value.itemLeaves items, OpensNothing text) →
        Value.escapedItems items = items
  | [], _ => rfl
  | item :: rest, plain => by
      rw [Value.itemLeaves, List.forall_mem_append] at plain
      rw [Value.escapedItems, escaped_of_opensNothing item plain.1,
        escapedItems_of_opensNothing rest plain.2]

theorem escapedEntries_of_opensNothing :
    ∀ entries : List (Value × Value),
      (∀ text ∈ Value.entryLeaves entries, OpensNothing text) →
        Value.escapedEntries entries = entries
  | [], _ => rfl
  | (_, value) :: rest, plain => by
      rw [Value.entryLeaves, List.forall_mem_append] at plain
      rw [Value.escapedEntries, escaped_of_opensNothing value plain.1,
        escapedEntries_of_opensNothing rest plain.2]

end

/--
An escaped text names no variable, does not look like one, and stands for
the text; and a document whose strings are escaped, at any depth, is filled
in to the document itself, its strings still being strings.  Texts without
an opening are their own escape, so a document of such texts does not change
when it is filled in.
-/
theorem interpolateDocument_escaped (lookup : Variables) :
    (∀ text, Template.render lookup (Template.escape text) = .ok text ∧
      Template.isSingleVariable (Template.escape text) = false ∧
      ∀ name fallback, .named name fallback ∉
        Template.segments (Template.escape text).toList) ∧
    (∀ text, OpensNothing text → Template.escape text = text ∧
      Template.render lookup text = .ok text) ∧
    (∀ entries : Mapping,
      interpolateDocument lookup (Value.escapedEntries entries) =
        .ok entries) ∧
    ∀ entries : Mapping,
      (∀ text ∈ Value.entryLeaves entries, OpensNothing text) →
        interpolateDocument lookup entries = .ok entries := by
  refine ⟨?_, ?_, ?_, ?_⟩
  · intro text
    exact ⟨Template.render_escape lookup text,
      Template.isSingleVariable_escape text,
      Template.not_named_of_reads_escape (Template.reads_segments _)⟩
  · intro text plain
    have same := Template.escape_of_plain plain
    refine ⟨same, ?_⟩
    have rendered := Template.render_escape lookup text
    rwa [same] at rendered
  · intro entries
    exact interpolateEntries_escaped lookup "" entries
  · intro entries plain
    have filled := interpolateEntries_escaped lookup "" entries
    rwa [escapedEntries_of_opensNothing entries plain] at filled

/-- The name of a variable that is set stays a text, and so does a price. -/
theorem interpolateDocument_escaped_port :
    interpolateDocument (fun _ => some "80")
        [(.string "port", .sequence [.string "$$\x7bPORT\x7d"])] =
      .ok [(.string "port", .sequence [.string "$\x7bPORT\x7d"])] ∧
    OpensNothing "\x7b$5" ∧
    interpolateDocument (fun _ => some "80")
        [(.string "price", .string "\x7b$5")] =
      .ok [(.string "price", .string "\x7b$5")] := by
  have price : OpensNothing "\x7b$5" := by
    unfold OpensNothing
    decide
  have exactly := interpolateDocument_escaped fun _ => some "80"
  refine ⟨exactly.2.2.1
    [(.string "port", .sequence [.string "$\x7bPORT\x7d"])], price,
    exactly.2.2.2 _ ?_⟩
  intro text member
  cases List.mem_singleton.mp member
  exact price

end Gatehouse.Config
