import Gatehouse.Proofs.Config.Visits
import Mathlib.Data.Fintype.Card
import Mathlib.Data.Set.Finite.List

/-!
# Unfoldings and the include graph

An include list unfolds exactly if every file that is reached can be merged
and no file that is reached includes itself, directly or through others.
The unfolding then visits precisely the files that are reached.
-/

namespace Gatehouse.Config

open Gatehouse.Files
open Relation

variable {world : World}

namespace Visits

variable {paths : List String} {visits : List Visit}

/-- What a visited file includes is visited as well. -/
theorem mem_of_includes (unfolds : Visits world paths visits)
    {file included : Location} (member : file ∈ locationsOf visits)
    (edge : world.Includes file included) :
    included ∈ locationsOf visits := by
  rcases mem_locationsOf.mp member with ⟨visit, visited, rfl⟩
  rcases unfolds.beneath visited with
    ⟨includes, inner, opens, under, contained, _⟩
  rcases edge with ⟨settings, others, alike, path, listed, located⟩
  rcases opens.holds.unique alike with ⟨_, rfl⟩
  rcases mem_locationsOf.mp (under.mem_of_listed listed located) with ⟨other, otherVisited, same⟩
  exact mem_locationsOf.mpr ⟨other, contained otherVisited, same⟩

theorem mem_of_reaches (unfolds : Visits world paths visits)
    {file location : Location} (member : file ∈ locationsOf visits)
    (reaches : world.Reaches file location) :
    location ∈ locationsOf visits := by
  induction reaches with
  | refl => exact member
  | tail _ edge induction => exact unfolds.mem_of_includes induction edge

/-- Whatever is visited is reached from one of the paths. -/
theorem exists_reaches (unfolds : Visits world paths visits)
    {location : Location} (member : location ∈ locationsOf visits) :
    ∃ path ∈ paths, ∃ start, world.tree.locate path = .ok start ∧
      world.Reaches start location := by
  induction unfolds with
  | nil => cases member
  | @cons path file settings includes rest below behind located opens
      under _ inner outer =>
      rw [locationsOf_cons, locationsOf_append, List.mem_cons,
        List.mem_append] at member
      rcases member with rfl | member | member
      · exact ⟨path, List.mem_cons_self, _, located, .refl⟩
      · rcases inner member with ⟨name, listed, start, found, reaches⟩
        have edge : world.Includes file start :=
          ⟨settings, includes, opens.holds, name, listed, found⟩
        exact ⟨path, List.mem_cons_self, file, located,
          ReflTransGen.head edge reaches⟩
      · rcases outer member with ⟨name, listed, start, found, reaches⟩
        exact ⟨name, List.mem_cons_of_mem path listed, start, found,
          reaches⟩

/-- The unfolding of one file visits exactly what the file reaches. -/
theorem mem_iff_reaches {path : String} {root : Location}
    (unfolds : Visits world [path] visits)
    (located : world.tree.locate path = .ok root)
    {location : Location} :
    location ∈ locationsOf visits ↔ world.Reaches root location := by
  constructor
  · intro member
    rcases unfolds.exists_reaches member with
      ⟨name, listed, start, found, reaches⟩
    obtain rfl := List.mem_singleton.mp listed
    obtain rfl := Except.ok.inj (located.symm.trans found)
    exact reaches
  · exact unfolds.mem_of_reaches
      (unfolds.mem_of_listed List.mem_cons_self located)

/-- Every visited file can be merged, and its includes exist. -/
theorem mergeable (unfolds : Visits world paths visits)
    {location : Location} (member : location ∈ locationsOf visits) :
    world.Mergeable location := by
  rcases mem_locationsOf.mp member with ⟨visit, visited, rfl⟩
  rcases unfolds.beneath visited with ⟨includes, _, opens, _⟩
  exact ⟨visit.settings, includes, opens.holds, opens.present⟩

/-- No visited file reaches itself. -/
theorem acyclic (unfolds : Visits world paths visits)
    {location : Location} (member : location ∈ locationsOf visits) :
    ¬ TransGen world.Includes location location := by
  rcases mem_locationsOf.mp member with ⟨visit, visited, rfl⟩
  rcases unfolds.beneath visited with ⟨includes, inner, opens, under, _, _⟩
  intro cycle
  rcases TransGen.head'_iff.mp cycle with ⟨next, edge, reaches⟩
  rcases edge with ⟨settings, others, alike, path, listed, located⟩
  rcases opens.holds.unique alike with ⟨_, rfl⟩
  have reached := under.mem_of_listed listed located
  exact under.not_mem_below opens.holds
    (under.mem_of_reaches reached reaches)

end Visits

/-! ## Where an unfolding exists -/

/--
Files that are closed under includes, can all be merged and never reach
themselves.
-/
structure Layered (world : World) (files : Location → Prop) : Prop where
  closed : ∀ file included, files file →
    world.Includes file included → files included
  mergeable : ∀ file, files file → world.Mergeable file
  acyclic : ∀ file, files file → ¬ TransGen world.Includes file file

namespace Layered

variable {files : Location → Prop}

theorem finite (layered : Layered world files) :
    Finite {file // files file} := by
  apply Set.Finite.to_subtype
  refine (List.finite_toSet (world.tree.files.map Prod.fst)).subset ?_
  intro file member
  rcases layered.mergeable file member with ⟨settings, includes, holds, _⟩
  exact holds.mem_files

/-- Going down includes among such files ends. -/
theorem wellFounded (layered : Layered world files) :
    WellFounded fun lower upper : {file // files file} =>
      TransGen world.Includes upper.1 lower.1 := by
  have : Finite {file // files file} := layered.finite
  have : IsTrans {file // files file} fun lower upper =>
      TransGen world.Includes upper.1 lower.1 :=
    ⟨fun _ _ _ lower upper => upper.trans lower⟩
  have : Std.Irrefl fun lower upper : {file // files file} =>
      TransGen world.Includes upper.1 lower.1 :=
    ⟨fun file => layered.acyclic file.1 file.2⟩
  exact Finite.wellFounded_of_trans_of_irrefl _

/-- An include list unfolds if all that it names does. -/
theorem exists_visits_of_each {paths : List String}
    (each : ∀ path ∈ paths, ∃ location settings includes below,
      world.tree.locate path = .ok location ∧
      world.Opens location settings includes ∧
      Visits world includes below) :
    ∃ visits, Visits world paths visits := by
  induction paths with
  | nil => exact ⟨[], .nil⟩
  | cons path rest induction =>
      rcases each path List.mem_cons_self with
        ⟨location, settings, includes, below, located, opens, under⟩
      obtain ⟨behind, outer⟩ := induction fun other member =>
        each other (List.mem_cons_of_mem path member)
      exact ⟨_, .cons located opens under outer⟩

/-- The includes of such a file unfold. -/
theorem exists_below (layered : Layered world files) {file : Location}
    (member : files file) :
    ∃ settings includes below, world.Opens file settings includes ∧
      Visits world includes below := by
  refine layered.wellFounded.induction
    (C := fun file : {file // files file} =>
      ∃ settings includes below, world.Opens file.1 settings includes ∧
        Visits world includes below) ⟨file, member⟩ ?_
  rintro ⟨upper, upperMember⟩ induction
  rcases layered.mergeable upper upperMember with
    ⟨settings, includes, holds, present⟩
  have each : ∀ path ∈ includes, ∃ location settings includes below,
      world.tree.locate path = .ok location ∧
      world.Opens location settings includes ∧
      Visits world includes below := by
    intro path listed
    rcases holds.exists_located listed (present path listed) with
      ⟨location, located⟩
    have edge : world.Includes upper location :=
      ⟨settings, includes, holds, path, listed, located⟩
    have lowerMember := layered.closed upper location upperMember edge
    rcases induction ⟨location, lowerMember⟩ (TransGen.single edge) with
      ⟨inner, nested, below, innerOpens, under⟩
    exact ⟨location, inner, nested, below, located, innerOpens, under⟩
  rcases exists_visits_of_each each with ⟨below, under⟩
  exact ⟨settings, includes, below, ⟨holds, present⟩, under⟩

/-- Include lists that name such files unfold. -/
theorem exists_visits (layered : Layered world files)
    {paths : List String}
    (starts : ∀ path ∈ paths, ∃ location,
      world.tree.locate path = .ok location ∧ files location) :
    ∃ visits, Visits world paths visits := by
  apply exists_visits_of_each
  intro path listed
  rcases starts path listed with ⟨location, located, member⟩
  rcases layered.exists_below member with
    ⟨settings, includes, below, opens, under⟩
  exact ⟨location, settings, includes, below, located, opens, under⟩

end Layered

end Gatehouse.Config
