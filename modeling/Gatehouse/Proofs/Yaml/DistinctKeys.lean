import Gatehouse.Proofs.Outcome
import Gatehouse.Yaml.Read

/-!
# A mapping that has been read names no key twice

Reading refuses a mapping as soon as a key is the same as an earlier one, so
whatever mapping a document holds, its keys are distinct.  The main
statement is about the top of a document; it rests on the same fact about
the step that reads the entries of one mapping.
-/

namespace Gatehouse.Yaml

open Gatehouse.Outcome

/-- No two entries of a mapping name the same key. -/
def Mapping.Distinct (entries : Mapping) : Prop :=
  entries.Pairwise fun former latter => former.1.sameKey latter.1 = false

namespace Mapping.Distinct

theorem nil : Mapping.Distinct [] :=
  List.Pairwise.nil

/-- Leaving entries out keeps the other keys distinct. -/
theorem drop {entries : Mapping} (distinct : Mapping.Distinct entries)
    (key : String) : Mapping.Distinct (Mapping.drop entries key) := by
  exact List.Pairwise.sublist List.filter_sublist distinct

end Mapping.Distinct

/--
The entries read so far, latest first, stay distinct while the rest of a
mapping is read.
-/
theorem expandEntries_distinct
    {key value : Node Nat → Nat → Except ReadError (Value × Nat)}
    {nodes : List (Node Nat × Node Nat)}
    {sofar result : Mapping} {count after : Nat}
    (distinct : Mapping.Distinct sofar.reverse)
    (found :
      expandEntries key value nodes sofar count = .ok (result, after)) :
    Mapping.Distinct result := by
  induction nodes generalizing sofar count with
  | nil =>
      simp only [expandEntries, Except.ok.injEq, Prod.mk.injEq] at found
      rw [← found.1]
      exact distinct
  | cons node rest induction =>
      rcases node with ⟨keyNode, valueNode⟩
      simp only [expandEntries] at found
      rcases bind_eq_ok_iff.mp found with ⟨⟨name, afterKey⟩, _, found⟩
      by_cases repeated :
          List.any sofar (fun entry => entry.1.sameKey name) = true
      · rw [if_pos repeated] at found
        cases found
      · rw [if_neg repeated] at found
        rcases bind_eq_ok_iff.mp found with
          ⟨⟨content, afterValue⟩, _, found⟩
        refine induction ?_ found
        rw [List.reverse_cons]
        refine List.pairwise_append.mpr
          ⟨distinct, List.pairwise_singleton _ _, ?_⟩
        intro entry member latest isLatest
        rw [List.mem_singleton] at isLatest
        subst isLatest
        have absent : ∀ held ∈ sofar, held.1.sameKey name = false := by
          simpa using repeated
        exact absent entry (List.mem_reverse.mp member)

/-! ## Scalars are never mappings -/

theorem Scalar.readOther_ne_mapping (text : String) (entries : Mapping) :
    Scalar.readOther text ≠ .mapping entries := by
  rw [Scalar.readOther]
  split
  · simp
  · split <;> simp

theorem Scalar.read_ne_mapping (text : String) (entries : Mapping) :
    Scalar.read text ≠ .value (.mapping entries) := by
  rw [Scalar.read]
  repeat' split
  all_goals
    simp [Scalar.readOther_ne_mapping, Value.int]

theorem untaggedValue_ne_mapping (text : String) (entries : Mapping) :
    untaggedValue text ≠ .ok (.mapping entries) := by
  rw [untaggedValue]
  split
  · rename_i value reading
    intro equal
    rw [Except.ok.injEq] at equal
    subst equal
    exact Scalar.read_ne_mapping text entries reading
  · simp

theorem demanded_ne_mapping {value : Option Value} {entries : Mapping}
    (absent : value ≠ some (.mapping entries)) :
    demanded value ≠ .ok (.mapping entries) := by
  cases value with
  | none => simp [demanded]
  | some held => simpa [demanded] using absent

theorem scalarValue_ne_mapping (tag : Option (List UInt8))
    (text : String) (style : ScalarStyle) (entries : Mapping) :
    scalarValue tag text style ≠ .ok (.mapping entries) := by
  simp only [scalarValue]
  repeat' split
  all_goals first
    | exact untaggedValue_ne_mapping text entries
    | exact demanded_ne_mapping (by simp [Value.int])
    | simp

/-! ## Mappings in a document -/

/-- A mapping has no tag around it. -/
theorem eq_mapping_of_wrapped {wrapper : Option String} {value : Value}
    {entries : Mapping} {count after : Nat}
    (found :
      (pure (match wrapper with
        | some tag => Value.tagged tag value
        | none => value, count) :
        Except ReadError (Value × Nat)) = .ok (.mapping entries, after)) :
    value = .mapping entries := by
  have equal := congrArg Prod.fst (pure_eq_ok_iff.mp found)
  cases wrapper with
  | none => exact equal
  | some tag => cases equal

/-- The mapping that a node stands for has distinct keys. -/
theorem Node.toValue_distinct
    {anchors : Anchors} {limit depth count after : Nat} {used : Bool}
    {node : Node Nat} {entries : Mapping}
    (found :
      node.toValue anchors limit depth used count =
        .ok (.mapping entries, after)) :
    Mapping.Distinct entries := by
  rw [Node.toValue] at found
  rcases bind_eq_ok_iff.mp found with ⟨⟨⟨used, target⟩, count⟩, _, found⟩
  cases target with
  | reference number => cases found
  | scalar properties text style =>
      rcases bind_eq_ok_iff.mp found with ⟨value, scalar, found⟩
      have equal := eq_mapping_of_wrapped found
      rw [equal] at scalar
      exact (scalarValue_ne_mapping _ _ _ _ scalar).elim
  | sequence properties items =>
      cases depth with
      | zero => cases found
      | succ depth =>
          rcases bind_eq_ok_iff.mp found with ⟨⟨values, count⟩, _, found⟩
          cases eq_mapping_of_wrapped found
  | mapping properties nodes =>
      cases depth with
      | zero => cases found
      | succ depth =>
          rcases bind_eq_ok_iff.mp found with
            ⟨⟨held, count⟩, expanded, found⟩
          have equal := eq_mapping_of_wrapped found
          rw [Value.mapping.injEq] at equal
          subst equal
          refine expandEntries_distinct ?_ expanded
          exact Mapping.Distinct.nil

/-- The mapping at the top of a document names no key twice. -/
theorem read_distinct {text : String} {entries : Mapping}
    (found : Yaml.read text = .ok (.mapping entries)) :
    Mapping.Distinct entries := by
  unfold Yaml.read at found
  rcases bind_eq_ok_iff.mp found with ⟨tokens, _, found⟩
  rcases bind_eq_ok_iff.mp found with ⟨document, _, found⟩
  cases document with
  | none => cases found
  | some node =>
      rcases bind_eq_ok_iff.mp found with ⟨⟨linked, anchors⟩, _, found⟩
      rcases bind_eq_ok_iff.mp found with ⟨⟨value, count⟩, valued, found⟩
      have equal : value = .mapping entries := pure_eq_ok_iff.mp found
      subst equal
      exact Node.toValue_distinct valued

end Gatehouse.Yaml
