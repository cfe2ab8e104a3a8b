import Gatehouse.Proofs.Outcome
import Gatehouse.Route.Table
import Mathlib.Data.List.Perm.Basic

/-!
# What a table of route settings is compiled to

Compiling lists the entries of all patterns, one pattern after the other,
and refuses a second entry for the same pattern and the same method.  So the
entries of every table that is accepted are for different slots, and the
order in which patterns are declared decides only the order of the entries.
-/

namespace Gatehouse.Route

open Gatehouse.Outcome
open Gatehouse.Yaml

/-! ## Slots -/

/-- No two entries are for the same pattern and the same method. -/
def Apart (entries : List TableEntry) : Prop :=
  entries.Pairwise fun former latter => former.sameSlot latter = false

theorem TableEntry.sameSlot_iff {left right : TableEntry} :
    left.sameSlot right = true ↔
      left.pattern = right.pattern ∧ left.method = right.method := by
  simp [TableEntry.sameSlot]

theorem TableEntry.sameSlot_comm (left right : TableEntry) :
    left.sameSlot right = right.sameSlot left := by
  rw [Bool.eq_iff_iff, sameSlot_iff, sameSlot_iff, eq_comm,
    @eq_comm _ left.method]

/-- Whether entries are for different slots does not depend on their order. -/
theorem apart_perm {entries others : List TableEntry}
    (reordered : entries.Perm others) : Apart entries ↔ Apart others := by
  refine reordered.pairwise_iff ?_
  intro former latter differs
  rw [TableEntry.sameSlot_comm]
  exact differs

namespace Table

/-- Entries are appended exactly if all slots stay different. -/
theorem pushAll_eq_ok_iff {entries more result : List TableEntry}
    (apart : Apart entries) :
    pushAll entries more = .ok result ↔
      result = entries ++ more ∧ Apart result := by
  induction more generalizing entries with
  | nil =>
      rw [pushAll, List.append_nil, Except.ok.injEq]
      constructor
      · rintro rfl
        exact ⟨rfl, apart⟩
      · rintro ⟨rfl, _⟩
        rfl
  | cons entry rest induction =>
      rw [pushAll]
      cases found : entries.find? (·.sameSlot entry) with
      | some first =>
          constructor
          · intro impossible
            cases impossible
          · rintro ⟨rfl, distinct⟩
            have differs := (List.pairwise_append.mp distinct).2.2 first
              (List.mem_of_find?_eq_some found) entry List.mem_cons_self
            have same : first.sameSlot entry = true := by
              simpa using List.find?_some found
            rw [same] at differs
            cases differs
      | none =>
          have extended : Apart (entries ++ [entry]) := by
            refine List.pairwise_append.mpr
              ⟨apart, List.pairwise_singleton _ _, ?_⟩
            intro held member other listed
            obtain rfl := List.mem_singleton.mp listed
            simpa using List.find?_eq_none.mp found held member
          dsimp only
          rw [induction extended, List.append_assoc,
            List.singleton_append]

/-- What is done with one pattern of the configuration. -/
def addPattern (entries : List TableEntry) (block : Value × Value) :
    Except TableError (List TableEntry) := do
  let more ← entriesOf block.1 block.2
  pushAll entries more

/-- The entries of a pattern and its settings are some given ones. -/
def Declares (block : Value × Value) (part : List TableEntry) : Prop :=
  entriesOf block.1 block.2 = .ok part

/-- All patterns are listed one after the other, in different slots. -/
theorem foldlM_addPattern_eq_ok_iff {entries result : List TableEntry}
    {blocks : List (Value × Value)} (apart : Apart entries) :
    blocks.foldlM addPattern entries = .ok result ↔
      ∃ parts, List.Forall₂ Declares blocks parts ∧
        result = entries ++ parts.flatten ∧ Apart result := by
  induction blocks generalizing entries with
  | nil =>
      rw [List.foldlM_nil, pure_eq_ok_iff]
      constructor
      · rintro rfl
        exact ⟨[], .nil, (List.append_nil _).symm, apart⟩
      · rintro ⟨parts, each, rfl, _⟩
        cases each
        exact (List.append_nil _).symm
  | cons block rest induction =>
      rw [List.foldlM_cons, bind_eq_ok_iff]
      constructor
      · rintro ⟨middle, added, found⟩
        rcases bind_eq_ok_iff.mp added with ⟨part, declared, pushed⟩
        rcases (pushAll_eq_ok_iff apart).mp pushed with ⟨rfl, middleApart⟩
        rcases (induction middleApart).mp found with
          ⟨parts, each, rfl, resultApart⟩
        exact ⟨part :: parts, .cons declared each,
          List.append_assoc _ _ _, resultApart⟩
      · rintro ⟨_, each, rfl, resultApart⟩
        cases each with
        | @cons _ part _ parts declared each =>
            have shape : entries ++ (part :: parts).flatten =
                entries ++ part ++ parts.flatten := by
              rw [List.flatten_cons, List.append_assoc]
            have middleApart : Apart (entries ++ part) := by
              rw [shape] at resultApart
              exact (List.pairwise_append.mp resultApart).1
            exact ⟨entries ++ part,
              bind_eq_ok_iff.mpr ⟨part, declared,
                (pushAll_eq_ok_iff apart).mpr ⟨rfl, middleApart⟩⟩,
              (induction middleApart).mpr
                ⟨parts, each, shape, resultApart⟩⟩

/-- Patterns compile exactly if all are well formed, in different slots. -/
theorem compile_mapping_eq_ok_iff {blocks : Mapping}
    {entries : List TableEntry} :
    compile (.mapping blocks) = .ok entries ↔
      ∃ parts, List.Forall₂ Declares blocks parts ∧
        entries = parts.flatten ∧ Apart entries :=
  foldlM_addPattern_eq_ok_iff List.Pairwise.nil

theorem compile_apart {patterns : Value} {entries : List TableEntry}
    (compiled : compile patterns = .ok entries) : Apart entries := by
  unfold compile at compiled
  split at compiled
  · cases compiled
    exact List.Pairwise.nil
  · rcases compile_mapping_eq_ok_iff.mp compiled with ⟨_, _, _, apart⟩
    exact apart
  · cases compiled

/-! ## Tables up to the order of their entries -/

/-- Two tables differ at most in the order of their entries. -/
structure Alike (table other : Table) : Prop where
  defaults : table.defaults = other.defaults
  entries : table.entries.Perm other.entries

/-- The order of the patterns decides only the order of the entries. -/
theorem compile_perm {blocks others : Mapping}
    {entries : List TableEntry} (reordered : blocks.Perm others)
    (compiled : compile (.mapping blocks) = .ok entries) :
    ∃ otherEntries, compile (.mapping others) = .ok otherEntries ∧
      entries.Perm otherEntries := by
  rcases compile_mapping_eq_ok_iff.mp compiled with
    ⟨parts, each, rfl, apart⟩
  rcases List.perm_comp_forall₂ reordered.symm each with
    ⟨otherParts, otherEach, partsReordered⟩
  have flattened : parts.flatten.Perm otherParts.flatten :=
    partsReordered.symm.flatten
  exact ⟨otherParts.flatten,
    compile_mapping_eq_ok_iff.mpr
      ⟨otherParts, otherEach, rfl, (apart_perm flattened).mp apart⟩,
    flattened⟩

/-- Taking a key into tables that are alike gives tables that are alike. -/
theorem applyKey_alike {table other result : Table} {name value : Value}
    (alike : table.Alike other)
    (applied : table.applyKey name value = .ok result) :
    ∃ otherResult, other.applyKey name value = .ok otherResult ∧
      result.Alike otherResult := by
  unfold applyKey at applied ⊢
  split at applied
  · rcases bind_eq_ok_iff.mp applied with ⟨values, read, shape⟩
    obtain rfl := pure_eq_ok_iff.mp shape
    rw [read]
    exact ⟨{ other with defaults := values }, rfl, rfl, alike.entries⟩
  · rcases bind_eq_ok_iff.mp applied with ⟨entries, compiled, shape⟩
    obtain rfl := pure_eq_ok_iff.mp shape
    rw [compiled]
    exact ⟨{ other with entries := entries }, rfl, alike.defaults,
      List.Perm.refl _⟩
  · cases applied

theorem foldlM_applyKey_alike {keys : Mapping}
    {table other result : Table} (alike : table.Alike other)
    (applied : keys.foldlM
      (fun table (entry : Value × Value) =>
        table.applyKey entry.1 entry.2) table = .ok result) :
    ∃ otherResult,
      keys.foldlM
        (fun table (entry : Value × Value) =>
          table.applyKey entry.1 entry.2) other = .ok otherResult ∧
        result.Alike otherResult := by
  induction keys generalizing table other with
  | nil =>
      obtain rfl := pure_eq_ok_iff.mp applied
      exact ⟨other, rfl, alike⟩
  | cons entry rest induction =>
      rw [List.foldlM_cons] at applied
      rcases bind_eq_ok_iff.mp applied with ⟨middle, first, applied⟩
      rcases applyKey_alike alike first with
        ⟨otherMiddle, otherFirst, middleAlike⟩
      rcases induction middleAlike applied with
        ⟨otherResult, otherApplied, resultAlike⟩
      rw [List.foldlM_cons]
      exact ⟨otherResult,
        bind_eq_ok_iff.mpr ⟨otherMiddle, otherFirst, otherApplied⟩,
        resultAlike⟩

/-- The section with its patterns in another order gives the same table. -/
theorem ofValue_perm {front back blocks others : Mapping} {name : Value}
    {table : Table} (labelled : name.label? = some "patterns")
    (reordered : blocks.Perm others)
    (accepted : ofValue
      (some (.mapping (front ++ (name, .mapping blocks) :: back))) =
        .ok table) :
    ∃ other, ofValue
        (some (.mapping (front ++ (name, .mapping others) :: back))) =
          .ok other ∧
      table.Alike other := by
  unfold ofValue at accepted ⊢
  dsimp only at accepted ⊢
  rw [List.foldlM_append] at accepted
  rcases bind_eq_ok_iff.mp accepted with ⟨before, taken, accepted⟩
  rw [List.foldlM_cons] at accepted
  rcases bind_eq_ok_iff.mp accepted with ⟨middle, applied, accepted⟩
  unfold applyKey at applied
  rw [labelled] at applied
  rcases bind_eq_ok_iff.mp applied with ⟨entries, compiled, shape⟩
  obtain rfl := pure_eq_ok_iff.mp shape
  rcases compile_perm reordered compiled with
    ⟨otherEntries, otherCompiled, permuted⟩
  have middleAlike :
      Alike { before with entries } { before with entries := otherEntries } :=
    ⟨rfl, permuted⟩
  have otherApplied : before.applyKey name (.mapping others) =
      .ok { before with entries := otherEntries } := by
    rw [applyKey]
    rw [labelled]
    exact bind_eq_ok_iff.mpr ⟨otherEntries, otherCompiled, rfl⟩
  rcases foldlM_applyKey_alike middleAlike accepted with
    ⟨other, otherAccepted, alike⟩
  refine ⟨other, ?_, alike⟩
  rw [List.foldlM_append]
  refine bind_eq_ok_iff.mpr ⟨before, taken, ?_⟩
  rw [List.foldlM_cons]
  exact bind_eq_ok_iff.mpr ⟨_, otherApplied, otherAccepted⟩

/-! ## The entries of an accepted table -/

theorem applyKey_apart {table result : Table} {name value : Value}
    (apart : Apart table.entries)
    (applied : table.applyKey name value = .ok result) :
    Apart result.entries := by
  unfold applyKey at applied
  split at applied
  · rcases bind_eq_ok_iff.mp applied with ⟨_, _, shape⟩
    obtain rfl := pure_eq_ok_iff.mp shape
    exact apart
  · rcases bind_eq_ok_iff.mp applied with ⟨_, compiled, shape⟩
    obtain rfl := pure_eq_ok_iff.mp shape
    exact compile_apart compiled
  · cases applied

/-- The entries of every accepted table are for different slots. -/
theorem ofValue_apart {routes : Option Value} {table : Table}
    (accepted : ofValue routes = .ok table) : Apart table.entries := by
  unfold ofValue at accepted
  split at accepted
  · cases accepted
    exact List.Pairwise.nil
  · cases accepted
    exact List.Pairwise.nil
  · rename_i keys
    have begun : Apart empty.entries := List.Pairwise.nil
    generalize empty = before at begun accepted
    induction keys generalizing before with
    | nil =>
        obtain rfl := pure_eq_ok_iff.mp accepted
        exact begun
    | cons entry rest induction =>
        rw [List.foldlM_cons] at accepted
        rcases bind_eq_ok_iff.mp accepted with ⟨middle, applied, accepted⟩
        exact induction middle (applyKey_apart begun applied) accepted
  · cases accepted

end Table

end Gatehouse.Route
