import Gatehouse.Proofs.Config.Filling

/-!
# The strings of a document and their paths

The strings of a value stand in the order of the document, each with the
steps that lead to it.  Filling in a value is refused exactly as filling in
these strings one after the other is, so the refusal is that of the first
one at fault and carries its path.
-/

namespace Gatehouse.Config

open Gatehouse.Outcome
open Gatehouse.Yaml

/-- A step from a collection to something in it. -/
inductive Step where
  | entry (key : Value)
  | item (index : Nat)

/-- How the steps from a value on are shown behind the path of the value. -/
def stepsText : List Step → String
  | [] => ""
  | .entry key :: rest => "." ++ keyLabel key ++ stepsText rest
  | .item index :: rest => "[" ++ toString index ++ "]" ++ stepsText rest

/-- How the path of something in a document is shown. -/
def pathText : List Step → String
  | .entry key :: rest => keyLabel key ++ stepsText rest
  | steps => stepsText steps

/-- A string lies in a value, behind some steps. -/
inductive Lies : Value → List Step → String → Prop where
  | here (text : String) : Lies (.string text) [] text
  | tagged {tag : String} {value : Value} {steps : List Step}
      {text : String} (inner : Lies value steps text) :
      Lies (.tagged tag value) steps text
  | item {items : List Value} {index : Nat} {value : Value}
      {steps : List Step} {text : String}
      (held : items[index]? = some value) (inner : Lies value steps text) :
      Lies (.sequence items) (.item index :: steps) text
  | entry {entries : List (Value × Value)} {key value : Value}
      {steps : List Step} {text : String}
      (member : (key, value) ∈ entries) (inner : Lies value steps text) :
      Lies (.mapping entries) (.entry key :: steps) text

/-- Strings with one more step in front of their paths. -/
def behind (step : Step) (found : List (List Step × String)) :
    List (List Step × String) :=
  found.map fun leaf => (step :: leaf.1, leaf.2)

mutual

/-- The strings in a value with their paths, in the order of the document. -/
def located : Value → List (List Step × String)
  | .string text => [([], text)]
  | .sequence items => locatedItems 0 items
  | .mapping entries => locatedEntries entries
  | .tagged _ value => located value
  | .null => []
  | .bool _ => []
  | .number _ => []

def locatedItems : Nat → List Value → List (List Step × String)
  | _, [] => []
  | index, item :: rest =>
    behind (.item index) (located item) ++ locatedItems (index + 1) rest

def locatedEntries : List (Value × Value) → List (List Step × String)
  | [] => []
  | (key, value) :: rest =>
    behind (.entry key) (located value) ++ locatedEntries rest

end

/-! ## All strings are listed -/

theorem mem_behind_iff {step : Step} {found : List (List Step × String)}
    {steps : List Step} {text : String} :
    (steps, text) ∈ behind step found ↔
      ∃ inner, steps = step :: inner ∧ (inner, text) ∈ found := by
  unfold behind
  rw [List.mem_map]
  constructor
  · rintro ⟨⟨inner, _⟩, member, equal⟩
    cases equal
    exact ⟨inner, rfl, member⟩
  · rintro ⟨inner, rfl, member⟩
    exact ⟨_, member, rfl⟩

mutual

theorem mem_located_iff {steps : List Step} {text : String} :
    ∀ {value : Value}, (steps, text) ∈ located value ↔ Lies value steps text
  | .null => iff_of_false (by simp [located]) nofun
  | .bool _ => iff_of_false (by simp [located]) nofun
  | .number _ => iff_of_false (by simp [located]) nofun
  | .string _ => by
      rw [located, List.mem_singleton]
      constructor
      · intro equal
        cases equal
        exact .here _
      · intro lies
        cases lies
        rfl
  | .sequence _ => by
      rw [located, mem_locatedItems_iff]
      constructor
      · rintro ⟨index, value, inner, rfl, found, lies⟩
        rw [Nat.zero_add]
        exact .item found lies
      · intro lies
        cases lies with
        | item found inner =>
            exact ⟨_, _, _, by rw [Nat.zero_add], found, inner⟩
  | .mapping _ => by
      rw [located, mem_locatedEntries_iff]
      constructor
      · rintro ⟨key, value, inner, rfl, member, lies⟩
        exact .entry member lies
      · intro lies
        cases lies with
        | entry member inner => exact ⟨_, _, _, rfl, member, inner⟩
  | .tagged _ _ => by
      rw [located, mem_located_iff]
      constructor
      · intro lies
        exact .tagged lies
      · intro lies
        cases lies with
        | tagged inner => exact inner

theorem mem_locatedItems_iff {steps : List Step} {text : String} :
    ∀ {start : Nat} {items : List Value},
      (steps, text) ∈ locatedItems start items ↔
        ∃ index value inner, steps = .item (start + index) :: inner ∧
          items[index]? = some value ∧ Lies value inner text
  | _, [] => by simp [locatedItems]
  | start, item :: rest => by
      rw [locatedItems, List.mem_append, mem_behind_iff,
        mem_locatedItems_iff]
      simp only [mem_located_iff]
      constructor
      · rintro (⟨inner, rfl, lies⟩ | ⟨index, value, inner, rfl, found, lies⟩)
        · exact ⟨0, item, inner, rfl, rfl, lies⟩
        · exact ⟨index + 1, value, inner, by rw [Nat.add_right_comm]; rfl,
            found, lies⟩
      · rintro ⟨index, value, inner, rfl, found, lies⟩
        cases index with
        | zero =>
            cases found
            exact .inl ⟨inner, rfl, lies⟩
        | succ index =>
            refine .inr ⟨index, value, inner, ?_, found, lies⟩
            rw [Nat.add_right_comm]
            rfl

theorem mem_locatedEntries_iff {steps : List Step} {text : String} :
    ∀ {entries : List (Value × Value)},
      (steps, text) ∈ locatedEntries entries ↔
        ∃ key value inner, steps = .entry key :: inner ∧
          (key, value) ∈ entries ∧ Lies value inner text
  | [] => by simp [locatedEntries]
  | (key, value) :: rest => by
      rw [locatedEntries, List.mem_append, mem_behind_iff,
        mem_locatedEntries_iff]
      simp only [mem_located_iff, List.mem_cons]
      constructor
      · rintro (⟨inner, rfl, lies⟩ | ⟨other, held, inner, rfl, member, lies⟩)
        · exact ⟨key, value, inner, rfl, .inl rfl, lies⟩
        · exact ⟨other, held, inner, rfl, .inr member, lies⟩
      · rintro ⟨other, held, inner, rfl, same | member, lies⟩
        · cases same
          exact .inl ⟨inner, rfl, lies⟩
        · exact .inr ⟨other, held, inner, rfl, member, lies⟩

end

/-! ## Filling in is filling in all strings -/

/-- Filling in the string behind some steps. -/
def fillLeaf (lookup : Variables) (shown : List Step → String)
    (leaf : List Step × String) : Except Error String :=
  (Template.render lookup leaf.2).mapError
    (Error.ofTemplate (shown leaf.1))

theorem mapM_behind (lookup : Variables) (shown : List Step → String)
    (step : Step) (found : List (List Step × String)) :
    (behind step found).mapM (fillLeaf lookup shown) =
      found.mapM (fillLeaf lookup fun steps => shown (step :: steps)) := by
  rw [behind, List.mapM_map]
  rfl

theorem resolveString_alike (lookup : Variables) (text : String) :
    SameOutcome (fun _ _ => True) (resolveString lookup text)
      (Template.render lookup text) := by
  unfold resolveString
  by_cases dollar : '$' ∈ text.toList
  · rw [if_pos (List.contains_iff_mem.mpr dollar)]
    cases Template.render lookup text with
    | error fault => exact .refused fault
    | ok rendered =>
        by_cases single : Template.isSingleVariable text = true
        · simp only [single, if_true]
          exact .given trivial
        · simp only [single]
          exact .given trivial
  · rw [if_neg (by simpa using dollar),
      Template.render_of_plain lookup dollar]
    exact .given trivial

mutual

theorem interpolate_alike (lookup : Variables) (keyPath : String) :
    ∀ value : Value,
      SameOutcome (fun _ _ => True) (interpolate lookup keyPath value)
        ((located value).mapM
          (fillLeaf lookup fun steps => keyPath ++ stepsText steps))
  | .null => .given trivial
  | .bool _ => .given trivial
  | .number _ => .given trivial
  | .string text => by
      rw [interpolate, located, List.mapM_cons, List.mapM_nil, fillLeaf]
      dsimp only [stepsText]
      rw [String.append_empty]
      have same := resolveString_alike lookup text
      generalize resolveString lookup text = resolved at same ⊢
      generalize Template.render lookup text = rendered at same ⊢
      cases same with
      | refused fault => exact .refused _
      | given _ => exact .given trivial
  | .sequence items => by
      rw [interpolate, located]
      exact (interpolateItems_alike lookup keyPath 0 items).change _
        fun _ _ _ => trivial
  | .mapping entries => by
      rw [interpolate, located]
      have begins : ∀ key steps,
          keyPath ++ stepsText (.entry key :: steps) =
            keyPath ++ "." ++ keyLabel key ++ stepsText steps := by
        intro key steps
        simp only [stepsText, String.append_assoc]
      exact (interpolateEntries_alike lookup (keyPath ++ ".") begins
        entries).change _ fun _ _ _ => trivial
  | .tagged tag value => by
      rw [interpolate, located]
      exact (interpolate_alike lookup keyPath value).change _
        fun _ _ _ => trivial

theorem interpolateItems_alike (lookup : Variables) (keyPath : String) :
    ∀ (index : Nat) (items : List Value),
      SameOutcome (fun _ _ => True)
        (interpolateItems lookup keyPath index items)
        ((locatedItems index items).mapM
          (fillLeaf lookup fun steps => keyPath ++ stepsText steps))
  | _, [] => .given trivial
  | index, item :: rest => by
      rw [interpolateItems, locatedItems, List.mapM_append, mapM_behind]
      have first := interpolate_alike lookup
        (keyPath ++ "[" ++ toString index ++ "]") item
      have tail := interpolateItems_alike lookup keyPath (index + 1) rest
      simp only [stepsText, ← String.append_assoc] at first tail ⊢
      refine first.bind fun _ _ _ => tail.bind fun _ _ _ => ?_
      exact .given trivial

theorem interpolateEntries_alike (lookup : Variables) (outer : String)
    {shown : List Step → String}
    (begins : ∀ key steps, shown (.entry key :: steps) =
      outer ++ keyLabel key ++ stepsText steps) :
    ∀ entries : List (Value × Value),
      SameOutcome (fun _ _ => True)
        (interpolateEntries lookup outer entries)
        ((locatedEntries entries).mapM (fillLeaf lookup shown))
  | [] => .given trivial
  | (key, value) :: rest => by
      rw [interpolateEntries, locatedEntries, List.mapM_append,
        mapM_behind]
      have first := interpolate_alike lookup (outer ++ keyLabel key) value
      have tail := interpolateEntries_alike lookup outer begins rest
      simp only [begins]
      refine first.bind fun _ _ _ => tail.bind fun _ _ _ => ?_
      exact .given trivial

end

/-- A document is refused for its first string that is not filled in. -/
theorem interpolateDocument_eq_error_iff {lookup : Variables}
    {entries : Mapping} {fault : Error} :
    interpolateDocument lookup entries = .error fault ↔
      ∃ front steps text behind cause,
        locatedEntries entries = front ++ (steps, text) :: behind ∧
        (∀ earlier ∈ front, Renders lookup earlier.2) ∧
        Template.render lookup text = .error cause ∧
        fault = Error.ofTemplate (pathText steps) cause := by
  have begins : ∀ key steps,
      pathText (.entry key :: steps) =
        "" ++ keyLabel key ++ stepsText steps := by
    intro key steps
    rw [String.empty_append]
    rfl
  have same := interpolateEntries_alike lookup "" begins entries
  rw [interpolateDocument, same.error_iff, mapM_eq_error_iff]
  simp only [fillLeaf, mapError_eq_ok_iff, mapError_eq_error_iff]
  constructor
  · rintro ⟨front, ⟨steps, text⟩, behind, split, each, cause, failed, rfl⟩
    exact ⟨front, steps, text, behind, cause, split, each, failed, rfl⟩
  · rintro ⟨front, steps, text, behind, cause, split, each, failed, rfl⟩
    exact ⟨front, ⟨steps, text⟩, behind, split, each, cause, failed, rfl⟩

end Gatehouse.Config
