import Gatehouse.Proofs.Outcome
import Gatehouse.Yaml.Decode
import Mathlib.Data.List.Pairwise
import Mathlib.Data.String.Basic

/-!
# What holds of everything that is read

A record is read one field after the other, so what holds of its defaults
and is kept by every field holds of every record that is read.  A table of
texts is ordered by its names and has no name twice.
-/

namespace Gatehouse.Yaml.Decode

open Gatehouse.Outcome

/-! ## Records -/

section Records

variable {Settings Result : Type} {holds : Settings → Prop}
  {fields : List (Field Settings)}

/-- A field keeps a property of the record. -/
def Field.Keeps (field : Field Settings) (holds : Settings → Prop) : Prop :=
  ∀ value settings result, field.apply value settings = .ok result →
    holds settings → holds result

theorem Field.keeps_of (name : String) {decoder : Decoder Result}
    {store : Result → Settings → Settings}
    (stored : ∀ value result, decoder value = .ok result →
      ∀ settings, holds settings → holds (store result settings)) :
    (Field.of name decoder store).Keeps holds := by
  intro value settings result applied held
  rcases map_eq_ok_iff.mp applied with ⟨read, decoded, rfl⟩
  exact stored value read decoded settings held

theorem readFields_keeps {strict : Bool}
    (each : ∀ field ∈ fields, field.Keeps holds) {found : Mapping}
    {seen : List String} {settings result : Settings}
    (read : readFields fields strict found seen settings = .ok result)
    (held : holds settings) : holds result := by
  induction found generalizing seen settings with
  | nil =>
      cases read
      exact held
  | cons entry rest induction =>
      rcases entry with ⟨key, value⟩
      unfold readFields at read
      split at read
      · split at read
        · rename_i field known
          split at read
          · cases read
          · rcases bind_eq_ok_iff.mp read with ⟨next, applied, read⟩
            have member := List.mem_of_find?_eq_some known
            exact induction read (each field member _ _ _ applied held)
        · split at read
          · cases read
          · exact induction read held
      · cases read

/-- What the defaults have and each field keeps, every read record has. -/
theorem record_keeps {name : String} {defaults settings : Settings}
    {strict : Bool} {value : Value}
    (each : ∀ field ∈ fields, field.Keeps holds)
    (read : record name fields defaults strict value = .ok settings)
    (held : holds defaults) : holds settings := by
  rcases bind_eq_ok_iff.mp read with ⟨found, _, read⟩
  exact readFields_keeps each read held

/-- A strict record knows each of its entries and has none of them twice. -/
theorem readFields_cons_ok {key value : Value} {rest : Mapping}
    {seen : List String} {settings result : Settings}
    (read : readFields fields true ((key, value) :: rest) seen settings =
      .ok result) :
    ∃ field ∈ fields, ∃ next, key.untagged = .string field.name ∧
      field.name ∉ seen ∧ field.apply value settings = .ok next ∧
      readFields fields true rest (field.name :: seen) next =
        .ok result := by
  unfold readFields at read
  split at read
  · rename_i name label
    split at read
    · rename_i field known
      have member := List.mem_of_find?_eq_some known
      obtain rfl : field.name = name := by
        simpa using List.find?_some known
      split at read
      · cases read
      · rename_i fresh
        rw [List.contains_iff_mem] at fresh
        rcases bind_eq_ok_iff.mp read with ⟨next, applied, read⟩
        exact ⟨field, member, next, label, fresh, applied, read⟩
    · cases read
  · cases read

end Records

/-! ## Tables -/

/-- A table is ordered by its names, none of which comes twice. -/
def Ordered (table : List (String × String)) : Prop :=
  table.Pairwise fun former latter => former.1 < latter.1

theorem mem_insertSorted {name value : String}
    {table : List (String × String)} {entry : String × String}
    (member : entry ∈ insertSorted name value table) :
    entry = (name, value) ∨ entry ∈ table := by
  induction table with
  | nil => exact .inl (List.mem_singleton.mp member)
  | cons first rest induction =>
      unfold insertSorted at member
      split at member
      · rcases List.mem_cons.mp member with same | inner
        · exact .inl same
        · exact .inr (List.mem_cons_of_mem first inner)
      · split at member
        · exact List.mem_cons.mp member
        · rcases List.mem_cons.mp member with same | inner
          · exact .inr (same ▸ List.mem_cons_self)
          · rcases induction inner with same | held
            · exact .inl same
            · exact .inr (List.mem_cons_of_mem first held)

theorem Ordered.insertSorted {table : List (String × String)}
    (ordered : Ordered table) (name value : String) :
    Ordered (insertSorted name value table) := by
  induction table with
  | nil => exact List.pairwise_singleton _ _
  | cons first rest induction =>
      rcases List.pairwise_cons.mp ordered with ⟨smallest, others⟩
      unfold Decode.insertSorted
      split
      · rename_i same
        subst same
        exact List.pairwise_cons.mpr ⟨smallest, others⟩
      · rename_i differs
        split
        · rename_i before
          refine List.pairwise_cons.mpr ⟨?_, ordered⟩
          intro entry member
          rcases List.mem_cons.mp member with rfl | inner
          · exact before
          · exact before.trans (smallest entry inner)
        · rename_i notBefore
          have behind : first.1 < name :=
            lt_of_le_of_ne (not_lt.mp notBefore) (Ne.symm differs)
          refine List.pairwise_cons.mpr ⟨?_, induction others⟩
          intro entry member
          rcases mem_insertSorted member with rfl | inner
          · exact behind
          · exact smallest entry inner

theorem ordered_of_foldlM {found : Mapping}
    {table result : List (String × String)} (ordered : Ordered table)
    (read : List.foldlM (fun table (entry : Value × Value) => do
        let name ← text entry.1
        let value ← text entry.2
        return insertSorted name value table) table found = .ok result) :
    Ordered result := by
  induction found generalizing table with
  | nil =>
      cases read
      exact ordered
  | cons entry rest induction =>
      rw [List.foldlM_cons] at read
      rcases bind_eq_ok_iff.mp read with ⟨next, inserted, read⟩
      rcases bind_eq_ok_iff.mp inserted with ⟨name, _, inserted⟩
      rcases bind_eq_ok_iff.mp inserted with ⟨value, _, inserted⟩
      cases inserted
      exact induction (ordered.insertSorted name value) read

/-- Every table that is read is ordered. -/
theorem ordered_of_textTable {value : Value}
    {table : List (String × String)}
    (read : textTable value = .ok table) : Ordered table := by
  rcases bind_eq_ok_iff.mp read with ⟨found, _, read⟩
  exact ordered_of_foldlM List.Pairwise.nil read

namespace Ordered

variable {table : List (String × String)}

/-- A name stands for one entry of a table. -/
theorem eq_of_name (ordered : Ordered table)
    {entry other : String × String} (member : entry ∈ table)
    (otherMember : other ∈ table) (same : entry.1 = other.1) :
    entry = other := by
  have symmetric : Std.Symm fun former latter : String × String =>
      former.1 ≠ latter.1 := ⟨fun _ _ => Ne.symm⟩
  have differ : table.Pairwise fun former latter =>
      former.1 ≠ latter.1 := ordered.imp fun before => ne_of_lt before
  by_contra apart
  exact differ.forall member otherMember apart same

/-- What is found first in a table comes first by name. -/
theorem find?_eq_some_iff (ordered : Ordered table)
    {wanted : String × String → Bool} {entry : String × String} :
    table.find? wanted = some entry ↔
      entry ∈ table ∧ wanted entry = true ∧
        ∀ other ∈ table, wanted other = true → entry.1 ≤ other.1 := by
  have least : ∀ found, table.find? wanted = some found →
      ∀ other ∈ table, wanted other = true → found.1 ≤ other.1 := by
    intro found first other member matching
    rcases List.find?_eq_some_iff_append.mp first with
      ⟨_, before, behind, rfl, unwanted⟩
    have later := (List.pairwise_append.mp ordered).2.1
    rcases List.mem_append.mp member with inner | inner
    · have refused := unwanted other inner
      rw [matching] at refused
      cases refused
    · rcases List.mem_cons.mp inner with rfl | inner
      · exact le_refl _
      · exact le_of_lt ((List.pairwise_cons.mp later).1 other inner)
  constructor
  · intro first
    exact ⟨List.mem_of_find?_eq_some first, List.find?_some first,
      least entry first⟩
  · rintro ⟨member, matching, smallest⟩
    rcases found : table.find? wanted with _ | other
    · rw [List.find?_eq_none] at found
      exact (found entry member matching).elim
    · have otherMember := List.mem_of_find?_eq_some found
      have same : other.1 = entry.1 :=
        le_antisymm (least other found entry member matching)
          (smallest other otherMember (List.find?_some found))
      rw [ordered.eq_of_name otherMember member same]

end Ordered

end Gatehouse.Yaml.Decode
