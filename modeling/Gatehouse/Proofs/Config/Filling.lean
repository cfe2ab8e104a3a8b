import Gatehouse.Config.Load
import Gatehouse.Proofs.Config.Entries
import Gatehouse.Proofs.Template.Rendering

/-!
# Filling in the variables of a document

Whether a value can be filled in depends on the strings in it one by one, at
any depth, and a document is filled in setting by setting.
-/

namespace Gatehouse.Yaml.Value

mutual

/-- The strings in a value at any depth, keys apart. -/
def leaves : Value → List String
  | .string text => [text]
  | .sequence items => itemLeaves items
  | .mapping entries => entryLeaves entries
  | .tagged _ value => leaves value
  | .null => []
  | .bool _ => []
  | .number _ => []

/-- The strings in the items of a sequence. -/
def itemLeaves : List Value → List String
  | [] => []
  | item :: rest => leaves item ++ itemLeaves rest

/-- The strings in the values of a mapping. -/
def entryLeaves : List (Value × Value) → List String
  | [] => []
  | (_, value) :: rest => leaves value ++ entryLeaves rest

end

end Gatehouse.Yaml.Value

namespace Gatehouse.Config

open Gatehouse.Outcome
open Gatehouse.Yaml

/-- All variables of a text have what it takes to write it. -/
def Renders (lookup : Variables) (text : String) : Prop :=
  ∃ rendered, Template.render lookup text = .ok rendered

theorem resolveString_ok_iff {lookup : Variables} {text : String} :
    (∃ value, resolveString lookup text = .ok value) ↔
      Renders lookup text := by
  unfold resolveString Renders
  by_cases dollar : '$' ∈ text.toList
  · rw [if_pos (List.contains_iff_mem.mpr dollar)]
    constructor
    · rintro ⟨value, found⟩
      rcases bind_eq_ok_iff.mp found with ⟨rendered, done, _⟩
      exact ⟨rendered, done⟩
    · rintro ⟨rendered, done⟩
      rw [done]
      by_cases single : Template.isSingleVariable text = true
      · exact ⟨_, if_pos single⟩
      · exact ⟨_, if_neg single⟩
  · rw [if_neg (by simpa using dollar)]
    constructor
    · intro _
      exact ⟨text, Template.render_of_plain lookup dollar⟩
    · intro _
      exact ⟨.string text, rfl⟩

mutual

/-- A value can be filled in exactly if every string in it can. -/
theorem interpolate_ok_iff (lookup : Variables) (keyPath : String) :
    ∀ value : Value,
      (∃ filled, interpolate lookup keyPath value = .ok filled) ↔
        ∀ text ∈ value.leaves, Renders lookup text
  | .null => by simp [interpolate, Value.leaves]
  | .bool _ => by simp [interpolate, Value.leaves]
  | .number _ => by simp [interpolate, Value.leaves]
  | .string text => by
      simp only [interpolate, Value.leaves, List.mem_singleton,
        forall_eq, mapError_eq_ok_iff]
      exact resolveString_ok_iff
  | .sequence items => by
      rw [interpolate, Value.leaves,
        ← interpolateItems_ok_iff lookup keyPath 0 items]
      exact exists_ok_of_change_iff
  | .mapping entries => by
      rw [interpolate, Value.leaves,
        ← interpolateEntries_ok_iff lookup (keyPath ++ ".") entries]
      exact exists_ok_of_change_iff
  | .tagged tag value => by
      rw [interpolate, Value.leaves,
        ← interpolate_ok_iff lookup keyPath value]
      exact exists_ok_of_change_iff

theorem interpolateItems_ok_iff (lookup : Variables) (keyPath : String)
    (index : Nat) :
    ∀ items : List Value,
      (∃ filled,
        interpolateItems lookup keyPath index items = .ok filled) ↔
        ∀ text ∈ Value.itemLeaves items, Renders lookup text
  | [] => by simp [interpolateItems, Value.itemLeaves]
  | item :: rest => by
      rw [interpolateItems, Value.itemLeaves]
      simp only [List.forall_mem_append]
      rw [← interpolate_ok_iff lookup
          (keyPath ++ "[" ++ toString index ++ "]") item,
        ← interpolateItems_ok_iff lookup keyPath (index + 1) rest]
      exact exists_ok_of_both_iff

theorem interpolateEntries_ok_iff (lookup : Variables) (outer : String) :
    ∀ entries : List (Value × Value),
      (∃ filled, interpolateEntries lookup outer entries = .ok filled) ↔
        ∀ text ∈ Value.entryLeaves entries, Renders lookup text
  | [] => by simp [interpolateEntries, Value.entryLeaves]
  | (key, value) :: rest => by
      rw [interpolateEntries, Value.entryLeaves]
      simp only [List.forall_mem_append]
      rw [← interpolate_ok_iff lookup (outer ++ keyLabel key) value,
        ← interpolateEntries_ok_iff lookup outer rest]
      exact exists_ok_of_both_iff

end

/-! ## Finishing a document -/

/-- A setting and what becomes of it when its variables are filled in. -/
structure Fills (lookup : Variables) (entry filled : Entry) : Prop where
  key : filled.key = entry.key
  origin : filled.origin = entry.origin
  value : interpolate lookup entry.key entry.value = .ok filled.value

/-- A setting and what it comes to in a mapping. -/
structure FillsIn (lookup : Variables) (entry : Entry)
    (setting : Value × Value) : Prop where
  key : setting.1 = .string entry.key
  value : interpolate lookup entry.key entry.value = .ok setting.2

theorem interpolateEntries_settings (lookup : Variables)
    (entries : List Entry) (values : Mapping) :
    interpolateEntries lookup "" (valuesOf entries) = .ok values ↔
      List.Forall₂ (FillsIn lookup) entries values := by
  induction entries generalizing values with
  | nil => simp [interpolateEntries, valuesOf, eq_comm]
  | cons entry rest induction =>
      rw [valuesOf_cons, interpolateEntries, keyLabel, String.empty_append,
        List.forall₂_cons_left_iff, bind_eq_ok_iff]
      constructor
      · rintro ⟨value, done, found⟩
        rcases bind_eq_ok_iff.mp found with ⟨others, remaining, equal⟩
        have shape : (.string entry.key, value) :: others = values :=
          pure_eq_ok_iff.mp equal
        exact ⟨_, others, ⟨rfl, done⟩, (induction others).mp remaining,
          shape.symm⟩
      · rintro ⟨⟨key, value⟩, others, ⟨rfl, done⟩, remaining, rfl⟩
        exact ⟨value, done, bind_eq_ok_iff.mpr
          ⟨others, (induction others).mpr remaining, rfl⟩⟩

theorem keysOf_of_fills {lookup : Variables}
    {entries filled : List Entry}
    (each : List.Forall₂ (Fills lookup) entries filled) :
    keysOf filled = keysOf entries := by
  induction each with
  | nil => rfl
  | cons fills _ induction =>
      rw [keysOf_cons, keysOf_cons, induction, fills.key]

theorem originsOf_of_fills {lookup : Variables}
    {entries filled : List Entry}
    (each : List.Forall₂ (Fills lookup) entries filled) :
    originsOf filled = originsOf entries := by
  induction each with
  | nil => rfl
  | cons fills _ induction =>
      rw [originsOf_cons, originsOf_cons, induction, fills.key, fills.origin]

theorem fillsIn_of_fills {lookup : Variables} {entries filled : List Entry}
    (each : List.Forall₂ (Fills lookup) entries filled) :
    List.Forall₂ (FillsIn lookup) entries (valuesOf filled) := by
  rw [valuesOf, List.forall₂_map_right_iff]
  refine each.imp ?_
  intro entry filled fills
  exact ⟨by rw [fills.key], fills.value⟩

/-- The values of settings are filled in setting by setting. -/
theorem interpolateEntries_eq_ok_iff {lookup : Variables}
    {entries : List Entry} {values : Mapping} :
    interpolateEntries lookup "" (valuesOf entries) = .ok values ↔
      ∃ filled, List.Forall₂ (Fills lookup) entries filled ∧
        values = valuesOf filled := by
  rw [interpolateEntries_settings]
  constructor
  · intro each
    induction each with
    | nil => exact ⟨[], .nil, rfl⟩
    | @cons entry setting _ _ this _ induction =>
        rcases induction with ⟨filled, each, rfl⟩
        rcases setting with ⟨key, value⟩
        rcases this with ⟨rfl, done⟩
        exact ⟨⟨entry.key, value, entry.origin⟩ :: filled,
          .cons ⟨rfl, rfl, done⟩ each, rfl⟩
  · rintro ⟨filled, each, rfl⟩
    exact fillsIn_of_fills each

/-- A document is finished setting by setting, its tables in step. -/
theorem finish_eq_ok_iff {world : World} {entries : List Entry}
    {document : Document} :
    finish world entries = .ok document ↔
      ∃ filled, List.Forall₂ (Fills world.lookup) entries filled ∧
        document = .ofEntries filled := by
  rw [finish, Merged.finish, interpolateDocument, Merged.ofEntries]
  simp only [bind_eq_ok_iff, pure_eq_ok_iff, interpolateEntries_eq_ok_iff]
  constructor
  · rintro ⟨_, ⟨filled, each, rfl⟩, rfl⟩
    refine ⟨filled, each, ?_⟩
    rw [Document.ofEntries, originsOf_of_fills each]
  · rintro ⟨filled, each, rfl⟩
    refine ⟨_, ⟨filled, each, rfl⟩, ?_⟩
    rw [Document.ofEntries, originsOf_of_fills each]

theorem keys_of_finish {world : World} {entries : List Entry}
    {document : Document} (finished : finish world entries = .ok document) :
    document.keys = keysOf entries := by
  rcases finish_eq_ok_iff.mp finished with ⟨filled, each, rfl⟩
  rw [Document.keys_ofEntries, keysOf_of_fills each]

/-- Filling in keeps the keys and the origins of all settings. -/
theorem exists_filled_iff {lookup : Variables}
    {entries filled : List Entry}
    (each : List.Forall₂ (Fills lookup) entries filled)
    (key origin : String) :
    (∃ entry ∈ filled, entry.key = key ∧ entry.origin = origin) ↔
      ∃ entry ∈ entries, entry.key = key ∧ entry.origin = origin := by
  induction each with
  | nil => simp
  | cons fills _ induction =>
      rw [List.exists_mem_cons_iff, List.exists_mem_cons_iff, induction,
        fills.key, fills.origin]

/-- Some settings can be finished exactly if every string in them renders. -/
theorem finish_ok_iff {world : World} {entries : List Entry} :
    (∃ document, finish world entries = .ok document) ↔
      ∀ entry ∈ entries, ∀ text ∈ entry.value.leaves,
        Renders world.lookup text := by
  simp only [finish_eq_ok_iff]
  constructor
  · rintro ⟨_, filled, each, -⟩
    induction each with
    | nil => simp
    | cons fills _ induction =>
        rw [List.forall_mem_cons]
        exact ⟨(interpolate_ok_iff _ _ _).mp ⟨_, fills.value⟩, induction⟩
  · intro renders
    induction entries with
    | nil => exact ⟨_, [], .nil, rfl⟩
    | cons entry rest induction =>
        rw [List.forall_mem_cons] at renders
        have fills := interpolate_ok_iff world.lookup entry.key entry.value
        rcases fills.mpr renders.1 with ⟨value, done⟩
        rcases induction renders.2 with ⟨_, others, each, _⟩
        exact ⟨_, { entry with value := value } :: others,
          .cons ⟨rfl, rfl, done⟩ each, rfl⟩

end Gatehouse.Config
