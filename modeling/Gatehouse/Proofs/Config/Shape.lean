import Gatehouse.Proofs.Config.Paths

/-!
# Filling in keeps the shape of a document

Whatever the variables hold, only strings change, and a string turns into
nothing but a string, a boolean or a number.  Keys, tags, lengths and order
stay at every depth.  A document that is refused is refused for the first
string that cannot be filled in, and the refusal names its path.
-/

namespace Gatehouse.Config

open Gatehouse.Outcome
open Gatehouse.Yaml

/-! ## What becomes of a string -/

/-- A text that is one variable in its braces and nothing else. -/
def IsToken (text : String) : Prop :=
  ∃ name fallback, Template.Reads text.toList [.named name fallback]

/-- What becomes of a string of a document. -/
inductive LeafFills (lookup : Variables) (text : String) : Value → Prop where
  | plain (noDollar : '$' ∉ text.toList) :
      LeafFills lookup text (.string text)
  | string {rendered : String} (dollar : '$' ∈ text.toList)
      (done : Template.render lookup text = .ok rendered) :
      LeafFills lookup text (.string rendered)
  | bool {rendered : String} {value : Bool} (dollar : '$' ∈ text.toList)
      (token : IsToken text)
      (done : Template.render lookup text = .ok rendered)
      (spelled : Yaml.read rendered = .ok (.bool value)) :
      LeafFills lookup text (.bool value)
  | number {rendered : String} {value : Number}
      (dollar : '$' ∈ text.toList) (token : IsToken text)
      (done : Template.render lookup text = .ok rendered)
      (spelled : Yaml.read rendered = .ok (.number value)) :
      LeafFills lookup text (.number value)

theorem scalarOf?_eq_some {text : String} {value : Value}
    (found : scalarOf? text = some value) :
    (∃ held, Yaml.read text = .ok (.bool held) ∧ value = .bool held) ∨
      ∃ held, Yaml.read text = .ok (.number held) ∧
        value = .number held := by
  unfold scalarOf? at found
  split at found
  · rename_i held read
    cases found
    exact .inl ⟨held, read, rfl⟩
  · rename_i held read
    cases found
    exact .inr ⟨held, read, rfl⟩
  · cases found

theorem leafFills_of_resolveString {lookup : Variables} {text : String}
    {value : Value} (found : resolveString lookup text = .ok value) :
    LeafFills lookup text value := by
  unfold resolveString at found
  by_cases dollar : '$' ∈ text.toList
  · rw [if_pos (List.contains_iff_mem.mpr dollar)] at found
    rcases bind_eq_ok_iff.mp found with ⟨rendered, done, found⟩
    by_cases single : Template.isSingleVariable text = true
    · have token : IsToken text :=
        Template.reads_of_isSingleVariable single done
      rw [if_pos single] at found
      have equal := pure_eq_ok_iff.mp found
      cases spelled : scalarOf? rendered with
      | none =>
          rw [spelled] at equal
          subst equal
          exact .string dollar done
      | some scalar =>
          rw [spelled] at equal
          subst equal
          rcases scalarOf?_eq_some spelled with
            ⟨held, read, rfl⟩ | ⟨held, read, rfl⟩
          · exact .bool dollar token done read
          · exact .number dollar token done read
    · rw [if_neg single] at found
      have equal := pure_eq_ok_iff.mp found
      subst equal
      exact .string dollar done
  · rw [if_neg (by simpa using dollar)] at found
    cases found
    exact .plain dollar

/-! ## What becomes of a value -/

mutual

/-- What becomes of a value, in which only strings change. -/
inductive KeepsShape (lookup : Variables) : Value → Value → Prop where
  | null : KeepsShape lookup .null .null
  | bool (value : Bool) : KeepsShape lookup (.bool value) (.bool value)
  | number (value : Number) :
      KeepsShape lookup (.number value) (.number value)
  | string {text : String} {filled : Value}
      (leaf : LeafFills lookup text filled) :
      KeepsShape lookup (.string text) filled
  | sequence {items filled : List Value}
      (each : ItemsKeepShape lookup items filled) :
      KeepsShape lookup (.sequence items) (.sequence filled)
  | mapping {entries filled : List (Value × Value)}
      (each : EntriesKeepShape lookup entries filled) :
      KeepsShape lookup (.mapping entries) (.mapping filled)
  | tagged {tag : String} {value filled : Value}
      (inner : KeepsShape lookup value filled) :
      KeepsShape lookup (.tagged tag value) (.tagged tag filled)

inductive ItemsKeepShape (lookup : Variables) :
    List Value → List Value → Prop where
  | nil : ItemsKeepShape lookup [] []
  | cons {item filled : Value} {rest others : List Value}
      (first : KeepsShape lookup item filled)
      (tail : ItemsKeepShape lookup rest others) :
      ItemsKeepShape lookup (item :: rest) (filled :: others)

inductive EntriesKeepShape (lookup : Variables) :
    List (Value × Value) → List (Value × Value) → Prop where
  | nil : EntriesKeepShape lookup [] []
  | cons {key value filled : Value} {rest others : List (Value × Value)}
      (first : KeepsShape lookup value filled)
      (tail : EntriesKeepShape lookup rest others) :
      EntriesKeepShape lookup ((key, value) :: rest)
        ((key, filled) :: others)

end

mutual

theorem interpolate_keepsShape {lookup : Variables} {keyPath : String} :
    ∀ {value filled : Value},
      interpolate lookup keyPath value = .ok filled →
        KeepsShape lookup value filled
  | .null, _, done => by
      cases done
      exact .null
  | .bool _, _, done => by
      cases done
      exact .bool _
  | .number _, _, done => by
      cases done
      exact .number _
  | .string _, _, done => by
      rw [interpolate, mapError_eq_ok_iff] at done
      exact .string (leafFills_of_resolveString done)
  | .sequence _, _, done => by
      rw [interpolate, bind_eq_ok_iff] at done
      rcases done with ⟨others, each, equal⟩
      cases equal
      exact .sequence (interpolateItems_keepsShape each)
  | .mapping _, _, done => by
      rw [interpolate, bind_eq_ok_iff] at done
      rcases done with ⟨others, each, equal⟩
      cases equal
      exact .mapping (interpolateEntries_keepsShape each)
  | .tagged _ _, _, done => by
      rw [interpolate, bind_eq_ok_iff] at done
      rcases done with ⟨inner, each, equal⟩
      cases equal
      exact .tagged (interpolate_keepsShape each)

theorem interpolateItems_keepsShape {lookup : Variables}
    {keyPath : String} :
    ∀ {index : Nat} {items filled : List Value},
      interpolateItems lookup keyPath index items = .ok filled →
        ItemsKeepShape lookup items filled
  | _, [], _, done => by
      cases done
      exact .nil
  | _, _ :: _, _, done => by
      rw [interpolateItems, bind_eq_ok_iff] at done
      rcases done with ⟨first, found, done⟩
      rcases bind_eq_ok_iff.mp done with ⟨others, remaining, equal⟩
      cases equal
      exact .cons (interpolate_keepsShape found)
        (interpolateItems_keepsShape remaining)

theorem interpolateEntries_keepsShape {lookup : Variables}
    {outer : String} :
    ∀ {entries filled : List (Value × Value)},
      interpolateEntries lookup outer entries = .ok filled →
        EntriesKeepShape lookup entries filled
  | [], _, done => by
      cases done
      exact .nil
  | (_, _) :: _, _, done => by
      rw [interpolateEntries, bind_eq_ok_iff] at done
      rcases done with ⟨first, found, done⟩
      rcases bind_eq_ok_iff.mp done with ⟨others, remaining, equal⟩
      cases equal
      exact .cons (interpolate_keepsShape found)
        (interpolateEntries_keepsShape remaining)

end

/-! ## Documents -/

/--
Filling in a document changes its strings only, each of them into a string
or, where one variable is all that is written, into a boolean or a number.
It is refused for the first string of the document that cannot be filled in,
with the path that leads to that string.
-/
theorem interpolateDocument_exact (lookup : Variables) (entries : Mapping) :
    (∀ filled, interpolateDocument lookup entries = .ok filled →
      EntriesKeepShape lookup entries filled) ∧
    (∀ fault, interpolateDocument lookup entries = .error fault ↔
      ∃ front steps text behind cause,
        locatedEntries entries = front ++ (steps, text) :: behind ∧
        (∀ earlier ∈ front, Renders lookup earlier.2) ∧
        Template.render lookup text = .error cause ∧
        fault = Error.ofTemplate (pathText steps) cause) ∧
    ∀ steps text, (steps, text) ∈ locatedEntries entries ↔
      Lies (.mapping entries) steps text := by
  refine ⟨?_, ?_, ?_⟩
  · intro filled done
    exact interpolateEntries_keepsShape done
  · intro fault
    exact interpolateDocument_eq_error_iff
  · intro steps text
    have listed : (steps, text) ∈ located (.mapping entries) ↔
        Lies (.mapping entries) steps text := mem_located_iff
    rwa [located] at listed

/-- A list with a text around a variable. -/
theorem interpolateDocument_default :
    interpolateDocument (fun _ => none)
        [(.string "hosts", .sequence
          [.string "http://$\x7bHOST:-local\x7d", .null])] =
      .ok [(.string "hosts", .sequence [.string "http://local", .null])] ∧
    EntriesKeepShape (fun _ => none)
      [(.string "hosts", .sequence
        [.string "http://$\x7bHOST:-local\x7d", .null])]
      [(.string "hosts", .sequence [.string "http://local", .null])] := by
  have behind : Template.Reads
      ("$\x7b".toList ++ ("HOST:-local".toList ++ ['\x7d']))
      [.named "HOST".toList (some "local".toList)] :=
    @Template.Reads.named "HOST:-local".toList "HOST".toList []
      (some "local".toList) [] (by decide)
      (@Template.Splits.cut "HOST".toList "local".toList (by decide))
      (by decide) .done
  have reads : Template.Reads "http://$\x7bHOST:-local\x7d".toList
      [.literal "http://".toList,
        .named "HOST".toList (some "local".toList)] :=
    @Template.Reads.literal "http://".toList _ _ (by decide) (by decide)
      (fun _ first => (Option.some.inj first).symm) behind
  have rendered :
      Template.render (fun _ => none) "http://$\x7bHOST:-local\x7d" =
        .ok "http://local" := by
    rw [Template.render_of_reads _ reads]
    rfl
  have single :
      Template.isSingleVariable "http://$\x7bHOST:-local\x7d" = false := by
    decide
  have resolved :
      resolveString (fun _ => none) "http://$\x7bHOST:-local\x7d" =
        .ok (.string "http://local") := by
    rw [resolveString, if_pos (by decide), rendered]
    simp only [single]
    rfl
  have done :
      interpolateDocument (fun _ => none)
        [(.string "hosts", .sequence
          [.string "http://$\x7bHOST:-local\x7d", .null])] =
      .ok [(.string "hosts",
        .sequence [.string "http://local", .null])] := by
    simp only [interpolateDocument, interpolateEntries, interpolate,
      interpolateItems, resolved]
    rfl
  exact ⟨done, (interpolateDocument_exact _ _).1 _ done⟩

end Gatehouse.Config
