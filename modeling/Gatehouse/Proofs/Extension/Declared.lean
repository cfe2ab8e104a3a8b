import Gatehouse.Extension.Declaration
import Gatehouse.Proofs.Outcome
import Mathlib.Data.Set.List

/-!
# What the `extensions` key asks for

The key is read exactly if it is absent or null, lists texts that are not
blank, or maps texts to sections.  What it asks for is then said by the names
and sections alone, and a value of another form is refused for the first item
or key that does not fit.
-/

namespace Gatehouse.Extension

open Gatehouse.Outcome
open Gatehouse.Yaml

/-- The section that stands behind an id, if it is not null. -/
def given? : Value → Option Value
  | .null => none
  | value => some value

/-- The value of the `extensions` key asks for these extensions, in order. -/
inductive Declares : Option Value → List Declaration → Prop where
  | absent : Declares none []
  | null : Declares (some .null) []
  | listed {names : List String}
      (spoken : ∀ name ∈ names, Text.trimmed name ≠ "") :
      Declares (some (.texts names))
        (names.map fun name => ⟨Text.trimmed name, none⟩)
  | mapped (sections : List (String × Value)) :
      Declares (some (.recordOf sections))
        (sections.map fun entry => ⟨Text.trimmed entry.1, given? entry.2⟩)

/-- The value of the `extensions` key is badly formed. -/
inductive Misdeclares : Value → DeclarationFault → Prop where
  | notAList {value : Value} (something : value ≠ .null)
      (noList : ∀ items, value ≠ .sequence items)
      (noMapping : ∀ entries, value ≠ .mapping entries) :
      Misdeclares value .notAList
  | badEntry {names : List String} {item : Value} (behind : List Value)
      (spoken : ∀ name ∈ names, Text.trimmed name ≠ "")
      (bad : ∀ name, item = .string name → Text.trimmed name = "") :
      Misdeclares
        (.sequence (List.map Value.string names ++ item :: behind))
        (.badEntry item)
  | idNotText {name : Value} (sections : List (String × Value))
      (value : Value) (behind : Mapping)
      (noText : ∀ text, name ≠ .string text) :
      Misdeclares
        (.mapping (sections.map (fun entry => (.string entry.1, entry.2)) ++
          (name, value) :: behind))
        (.idNotText name)

namespace Declaration

theorem ofItem_string {name : String} (spoken : Text.trimmed name ≠ "") :
    ofItem (.string name) = .ok ⟨Text.trimmed name, none⟩ := by
  simp [ofItem, spoken]

theorem ofItem_of_bad {item : Value}
    (bad : ∀ name, item = .string name → Text.trimmed name = "") :
    ofItem item = .error (.badEntry item) := by
  cases item with
  | string name => simp [ofItem, bad name rfl]
  | null | bool _ | number _ | sequence _ | mapping _ | tagged _ _ => rfl

/-- Items are read only if they are texts that are not blank. -/
theorem texts_of_ofItem {items : List Value}
    (each : ∀ item ∈ items, ∃ declaration, ofItem item = .ok declaration) :
    ∃ names, items = List.map Value.string names ∧
      ∀ name ∈ names, Text.trimmed name ≠ "" := by
  have listed : items ∈ Set.range (List.map Value.string) := by
    rw [Set.range_list_map]
    intro item member
    rcases each item member with ⟨declaration, read⟩
    cases item with
    | string name => exact ⟨name, rfl⟩
    | null | bool _ | number _ | sequence _ | mapping _ | tagged _ _ =>
        cases read
  rcases listed with ⟨names, rfl⟩
  refine ⟨names, rfl, fun name member blank => ?_⟩
  rcases each _ (List.mem_map_of_mem member) with ⟨declaration, read⟩
  have bad : ∀ other, Value.string name = .string other →
      Text.trimmed other = "" := by
    rintro other ⟨⟩
    exact blank
  cases read.symm.trans (ofItem_of_bad bad)

theorem ofEntry_string (name : String) (value : Value) :
    ofEntry (.string name) value =
      .ok ⟨Text.trimmed name, given? value⟩ := by
  cases value <;> rfl

theorem ofEntry_of_noText {name : Value}
    (noText : ∀ text, name ≠ .string text) (value : Value) :
    ofEntry name value = .error (.idNotText name) := by
  cases name with
  | string text => exact absurd rfl (noText text)
  | null | bool _ | number _ | sequence _ | mapping _ | tagged _ _ => rfl

/-- Entries are read only if their keys are texts. -/
theorem record_of_ofEntry {entries : Mapping}
    (each : ∀ entry ∈ entries, ∃ declaration,
      ofEntry entry.1 entry.2 = .ok declaration) :
    ∃ sections : List (String × Value),
      entries = sections.map fun entry => (.string entry.1, entry.2) := by
  have listed : entries ∈ Set.range (List.map
      fun entry : String × Value => (Value.string entry.1, entry.2)) := by
    rw [Set.range_list_map]
    rintro ⟨name, value⟩ member
    rcases each _ member with ⟨declaration, read⟩
    cases name with
    | string text => exact ⟨(text, value), rfl⟩
    | null | bool _ | number _ | sequence _ | mapping _ | tagged _ _ =>
        cases read
  rcases listed with ⟨sections, rfl⟩
  exact ⟨sections, rfl⟩

theorem readAll_texts {names : List String}
    (spoken : ∀ name ∈ names, Text.trimmed name ≠ "") :
    readAll (some (.texts names)) =
      .ok (names.map fun name => ⟨Text.trimmed name, none⟩) :=
  mapM_map_eq_ok fun name member => ofItem_string (spoken name member)

theorem readAll_recordOf (sections : List (String × Value)) :
    readAll (some (.recordOf sections)) = .ok
      (sections.map fun entry => ⟨Text.trimmed entry.1, given? entry.2⟩) :=
  mapM_map_eq_ok fun entry _ => ofEntry_string entry.1 entry.2

theorem readAll_eq_ok_iff {value : Option Value}
    {declared : List Declaration} :
    readAll value = .ok declared ↔ Declares value declared := by
  constructor
  · intro read
    cases value with
    | none =>
        cases read
        exact .absent
    | some value =>
        cases value with
        | null =>
            cases read
            exact .null
        | sequence items =>
            rcases texts_of_ofItem (exists_ok_of_mapM read) with
              ⟨names, rfl, spoken⟩
            cases read.symm.trans (readAll_texts spoken)
            exact .listed spoken
        | mapping entries =>
            rcases record_of_ofEntry (exists_ok_of_mapM read) with
              ⟨sections, rfl⟩
            cases read.symm.trans (readAll_recordOf sections)
            exact .mapped sections
        | bool _ | number _ | string _ | tagged _ _ => cases read
  · intro declares
    cases declares with
    | absent => rfl
    | null => rfl
    | listed spoken => exact readAll_texts spoken
    | mapped sections => exact readAll_recordOf sections

theorem readAll_eq_error_iff {value : Option Value}
    {cause : DeclarationFault} :
    readAll value = .error cause ↔
      ∃ held, value = some held ∧ Misdeclares held cause := by
  constructor
  · intro read
    cases value with
    | none => cases read
    | some value =>
        refine ⟨value, rfl, ?_⟩
        cases value with
        | null => cases read
        | sequence items =>
            rcases mapM_eq_error_iff.mp read with
              ⟨front, item, behind, rfl, each, refused⟩
            rcases texts_of_ofItem each with ⟨names, rfl, spoken⟩
            have bad : ∀ name, item = .string name →
                Text.trimmed name = "" := by
              rintro name rfl
              by_contra speaks
              cases refused.symm.trans (ofItem_string speaks)
            cases refused.symm.trans (ofItem_of_bad bad)
            exact .badEntry behind spoken bad
        | mapping entries =>
            rcases mapM_eq_error_iff.mp read with
              ⟨front, ⟨name, value⟩, behind, rfl, each, refused⟩
            rcases record_of_ofEntry each with ⟨sections, rfl⟩
            have noText : ∀ text, name ≠ .string text := by
              rintro text rfl
              cases refused.symm.trans (ofEntry_string text value)
            cases refused.symm.trans (ofEntry_of_noText noText value)
            exact .idNotText sections value behind noText
        | bool _ | number _ | string _ | tagged _ _ =>
            cases read
            exact .notAList (by simp) (by simp) (by simp)
  · rintro ⟨held, rfl, misdeclares⟩
    cases misdeclares with
    | notAList something noList noMapping =>
        cases held with
        | null => exact absurd rfl something
        | sequence items => exact absurd rfl (noList items)
        | mapping entries => exact absurd rfl (noMapping entries)
        | bool _ | number _ | string _ | tagged _ _ => rfl
    | @badEntry names item behind spoken bad =>
        refine mapM_eq_error_iff.mpr
          ⟨_, item, behind, rfl, ?_, ofItem_of_bad bad⟩
        exact exists_ok_of_mapM (readAll_texts spoken)
    | @idNotText name sections value behind noText =>
        refine mapM_eq_error_iff.mpr
          ⟨_, (name, value), behind, rfl, ?_, ofEntry_of_noText noText value⟩
        exact exists_ok_of_mapM (readAll_recordOf sections)

end Declaration

end Gatehouse.Extension
