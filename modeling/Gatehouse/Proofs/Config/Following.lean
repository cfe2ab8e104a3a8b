import Gatehouse.Proofs.Config.Visits
import Mathlib.Data.List.Perm.Subperm

/-!
# The loader follows includes in preorder

The loader visits a file only if it is not merged yet, and takes for granted
that everything below a merged file is merged as well.  This is the
invariant of a walk.  It gives both directions of the main statements here:
whatever the loader gathers is the settings of the first visits of the
unfolding, and it gathers them whenever the unfolding exists, avoids the
open files and repeats no key.
-/

namespace Gatehouse.Config

open Gatehouse.Files
open Gatehouse.Outcome
open Gatehouse.Yaml

variable {world : World}

/-- The settings of some visits, one visit after the other. -/
def entriesOf (visits : List Visit) : List Entry :=
  visits.flatMap Visit.entries

@[simp]
theorem entriesOf_nil : entriesOf [] = [] := rfl

@[simp]
theorem entriesOf_cons (visit : Visit) (visits : List Visit) :
    entriesOf (visit :: visits) = visit.entries ++ entriesOf visits := rfl

@[simp]
theorem entriesOf_append (former latter : List Visit) :
    entriesOf (former ++ latter) =
      entriesOf former ++ entriesOf latter :=
  List.flatMap_append

/-! ## The invariant of a walk -/

/--
Whatever stands below a merged file that is no longer open is merged, and
none of it is open.
-/
def Covered (world : World) (opened merged : List Location) : Prop :=
  ∀ location ∈ merged, location ∉ opened →
    ∃ settings includes below,
      world.Opens location settings includes ∧
      Visits world includes below ∧
      ∀ visit ∈ below, visit.location ∈ merged ∧ visit.location ∉ opened

namespace Covered

/-- As long as only open files are merged there is nothing to cover. -/
theorem of_subset {opened merged : List Location}
    (stillOpen : merged ⊆ opened) : Covered world opened merged := by
  intro location member outside
  exact (outside (stillOpen member)).elim

/-- Opening a file that is merged at this moment. -/
theorem enter {opened merged : List Location} {location : Location}
    (covered : Covered world opened merged)
    (unmerged : location ∉ merged) :
    Covered world (location :: opened) (location :: merged) := by
  intro other member outside
  have differs : other ≠ location :=
    fun same => outside (same ▸ List.mem_cons_self)
  have notOpened : other ∉ opened :=
    fun inner => outside (List.mem_cons_of_mem location inner)
  have merged := (List.mem_cons.mp member).resolve_left differs
  rcases covered other merged notOpened with
    ⟨settings, includes, below, opens, unfolds, reached⟩
  refine ⟨settings, includes, below, opens, unfolds, ?_⟩
  intro visit visited
  rcases reached visit visited with ⟨visitMerged, visitClosed⟩
  refine ⟨List.mem_cons_of_mem location visitMerged, ?_⟩
  intro openedVisit
  rcases List.mem_cons.mp openedVisit with same | inner
  · exact unmerged (same ▸ visitMerged)
  · exact visitClosed inner

/-- Merging all that an unfolding visits. -/
theorem extend {opened merged after : List Location}
    {paths : List String} {visits : List Visit}
    (covered : Covered world opened merged)
    (unfolds : Visits world paths visits)
    (avoids : ∀ visit ∈ visits, visit.location ∉ opened)
    (merges : ∀ location, location ∈ after ↔
      location ∈ locationsOf visits ∨ location ∈ merged) :
    Covered world opened after := by
  intro location member outside
  rcases (merges location).mp member with reached | earlier
  · rcases mem_locationsOf.mp reached with ⟨visit, visited, rfl⟩
    rcases unfolds.beneath visited with
      ⟨includes, inner, opens, under, contained, _⟩
    refine ⟨visit.settings, includes, inner, opens, under, ?_⟩
    intro other innerMember
    have otherVisited := contained innerMember
    exact ⟨(merges _).mpr
        (.inl (mem_locationsOf.mpr ⟨other, otherVisited, rfl⟩)),
      avoids other otherVisited⟩
  · rcases covered location earlier outside with
      ⟨settings, includes, below, opens, under, reached⟩
    refine ⟨settings, includes, below, opens, under, ?_⟩
    intro visit visited
    rcases reached visit visited with ⟨visitMerged, visitClosed⟩
    exact ⟨(merges _).mpr (.inr visitMerged), visitClosed⟩

end Covered

/-! ## What following some paths amounts to -/

/--
Following some paths merges the files that their unfolding visits, and
gathers the settings of those visits that are fresh.
-/
structure Follows (world : World) (opened : List Location)
    (paths : List String) (before after : List Location)
    (visits : List Visit) (gathered : List Entry) : Prop where
  unfolds : Visits world paths visits
  avoids : ∀ visit ∈ visits, visit.location ∉ opened
  gathers : gathered = entriesOf (freshVisits before visits)
  merges : ∀ location, location ∈ after ↔
    location ∈ locationsOf visits ∨ location ∈ before

namespace Follows

variable {opened before middle after : List Location}

theorem nil : Follows world opened [] before before [] [] where
  unfolds := .nil
  avoids := by simp
  gathers := rfl
  merges := by simp

/-- A file that is merged already is followed without a step. -/
theorem skip {path : String} {location : Location}
    (covered : Covered world opened before)
    (located : world.tree.locate path = .ok location)
    (notOpened : location ∉ opened) (merged : location ∈ before) :
    ∃ visits, Follows world opened [path] before before visits [] := by
  rcases covered location merged notOpened with
    ⟨settings, includes, below, opens, unfolds, reached⟩
  have covers : ∀ visit ∈
      (⟨path, location, settings⟩ :: (below ++ []) : List Visit),
      visit.location ∈ before ∧ visit.location ∉ opened := by
    intro visit member
    rw [List.append_nil] at member
    rcases List.mem_cons.mp member with rfl | inner
    · exact ⟨merged, notOpened⟩
    · exact reached visit inner
  refine ⟨_, .cons located opens unfolds .nil, ?_, ?_, ?_⟩
  · exact fun visit member => (covers visit member).2
  · rw [freshVisits_eq_nil fun visit member => (covers visit member).1]
    rfl
  · intro other
    constructor
    · exact .inr
    · rintro (visited | earlier)
      · rcases mem_locationsOf.mp visited with ⟨visit, member, rfl⟩
        exact (covers visit member).1
      · exact earlier

/-- The first visit of a file follows its includes. -/
theorem visit {path : String} {location : Location}
    {settings : List (String × Value)} {includes : List String}
    {below : List Visit} {gathered : List Entry}
    (located : world.tree.locate path = .ok location)
    (opens : world.Opens location settings includes)
    (notOpened : location ∉ opened) (unmerged : location ∉ before)
    (inner : Follows world (location :: opened) includes
      (location :: before) after below gathered) :
    Follows world opened [path] before after
      (⟨path, location, settings⟩ :: (below ++ []))
      (fromSource path settings ++ gathered) where
  unfolds := .cons located opens inner.unfolds .nil
  avoids := by
    intro visit member
    rw [List.append_nil] at member
    rcases List.mem_cons.mp member with rfl | nested
    · exact notOpened
    · exact fun openedVisit =>
        inner.avoids visit nested (List.mem_cons_of_mem _ openedVisit)
  gathers := by
    rw [List.append_nil, freshVisits_cons_unseen unmerged, inner.gathers]
    rfl
  merges := by
    intro other
    rw [inner.merges, List.append_nil, locationsOf_cons, List.mem_cons,
      List.mem_cons]
    tauto

/-- Following one path and then the others. -/
theorem append {first rest : List String} {former latter : List Visit}
    {gathered others : List Entry}
    (head : Follows world opened first before middle former gathered)
    (tail : Follows world opened rest middle after latter others) :
    Follows world opened (first ++ rest) before after (former ++ latter)
      (gathered ++ others) where
  unfolds := head.unfolds.append tail.unfolds
  avoids := by
    intro visit member
    rcases List.mem_append.mp member with inner | outer
    · exact head.avoids visit inner
    · exact tail.avoids visit outer
  gathers := by
    rw [freshVisits_append, entriesOf_append, ← head.gathers,
      tail.gathers]
    congr 2
    apply freshVisits_congr
    intro visit _
    rw [head.merges, List.mem_append]
  merges := by
    intro location
    rw [tail.merges, head.merges, locationsOf_append, List.mem_append]
    tauto

end Follows

/-! ## What the loader gathers -/

/-- Going to a file gathers what following its path amounts to. -/
def TreeFollows (world : World) (fuel : Nat) : Prop :=
  ∀ {opened : List Location} {path : String} {walk after : Walk}
    {result : List Entry},
    Covered world opened walk.merged →
    runFrom walk (gatherTree world fuel opened path) =
      (.ok result, after) →
    (keysOf result).Nodup ∧
      ∃ visits, Follows world opened [path] walk.merged after.merged
        visits result

/-- Going through an include list adds what following it amounts to. -/
def IncludesFollow (world : World) (fuel : Nat) : Prop :=
  ∀ {opened : List Location} {origin : String} {paths : List String}
    {walk after : Walk} {entries result : List Entry},
    Covered world opened walk.merged → (keysOf entries).Nodup →
    runFrom walk (gatherIncludes world fuel opened origin entries paths) =
      (.ok result, after) →
    (keysOf result).Nodup ∧
      (∀ path ∈ paths, world.tree.exists? path = true) ∧
      ∃ visits gathered, result = entries ++ gathered ∧
        Follows world opened paths walk.merged after.merged
          visits gathered

theorem gatherTree_follows {fuel : Nat}
    (includesFollow : ∀ left, fuel = left + 1 → IncludesFollow world left) :
    TreeFollows world fuel := by
  intro opened path walk after result covered found
  cases located : world.tree.locate path with
  | error cause =>
      rw [gatherTree_unlocated located] at found
      cases found
  | ok location =>
      by_cases isOpen : location ∈ opened
      · rw [gatherTree_opened located isOpen] at found
        cases found
      by_cases merged : location ∈ walk.merged
      · rw [gatherTree_merged located isOpen merged] at found
        cases found
        exact ⟨List.nodup_nil, Follows.skip covered located isOpen merged⟩
      · rw [gatherTree_first located isOpen merged,
          visitFile_ok_iff] at found
        rcases found with ⟨source, own, left, read, named, rfl, found⟩
        rcases World.holds_of_read read named with ⟨settings, rfl, holds⟩
        have ownDistinct : (keysOf (fromSource path settings)).Nodup := by
          rw [keysOf_fromSource]
          exact holds.nodup
        have entered := covered.enter merged
        rcases includesFollow left rfl entered ownDistinct found with
          ⟨distinct, present, below, gathered, rfl, inner⟩
        exact ⟨distinct, _,
          Follows.visit located ⟨holds, present⟩ isOpen merged inner⟩

theorem gatherIncludes_follows_of_tree {fuel : Nat}
    (treeFollows : TreeFollows world fuel) :
    IncludesFollow world fuel := by
  intro opened origin paths
  induction paths with
  | nil =>
      intro walk after entries result covered distinct found
      rw [gatherIncludes_nil] at found
      cases found
      exact ⟨distinct, List.forall_mem_nil _, [], [],
        (List.append_nil _).symm, Follows.nil⟩
  | cons path rest induction =>
      intro walk after entries result covered distinct found
      rcases gatherIncludes_cons_ok_iff.mp found with
        ⟨included, middle, joined, exists?, loaded, absorbed, found⟩
      rcases treeFollows covered loaded with
        ⟨includedDistinct, visits, head⟩
      rcases joinEntries_eq_ok_iff.mp absorbed with ⟨rfl, _, disjoint⟩
      have joinedDistinct : (keysOf (entries ++ included)).Nodup := by
        rw [keysOf_append]
        exact List.nodup_append'.mpr
          ⟨distinct, includedDistinct, disjoint⟩
      -- The first path leaves the invariant, so the rest goes on from there.
      have middleCovered : Covered world opened middle.merged :=
        covered.extend head.unfolds head.avoids head.merges
      rcases induction middleCovered joinedDistinct found with
        ⟨resultDistinct, present, behind, gathered, rfl, tail⟩
      exact ⟨resultDistinct, List.forall_mem_cons.mpr ⟨exists?, present⟩,
        visits ++ behind, included ++ gathered, List.append_assoc _ _ _,
        head.append tail⟩

/-- Whatever the loader gathers is the settings of the fresh visits. -/
theorem gatherIncludes_follows (world : World) (fuel : Nat) :
    IncludesFollow world fuel := by
  apply fuel_induction
  intro fuel below
  exact gatherIncludes_follows_of_tree (gatherTree_follows below)

/-! ## When the loader gathers it -/

/--
The open files are different files of the tree, and the fuel suffices for
all the others.
-/
structure Room (world : World) (fuel : Nat) (opened : List Location) :
    Prop where
  distinct : opened.Nodup
  inTree : opened ⊆ world.tree.files.map Prod.fst
  enough : world.tree.files.length + 2 ≤ fuel + opened.length

namespace Room

theorem start (world : World) : Room world (walkFuel world) [] where
  distinct := List.nodup_nil
  inTree := List.nil_subset _
  enough := Nat.le_refl _

/-- There is fuel to open one more file. -/
theorem enter {fuel : Nat} {opened : List Location}
    {location : Location} {settings : List (String × Value)}
    {includes : List String} (room : Room world fuel opened)
    (holds : world.Holds location settings includes)
    (notOpened : location ∉ opened) :
    ∃ left, fuel = left + 1 ∧ Room world left (location :: opened) := by
  have distinct : (location :: opened).Nodup :=
    List.nodup_cons.mpr ⟨notOpened, room.distinct⟩
  have inTree :
      location :: opened ⊆ world.tree.files.map Prod.fst :=
    List.cons_subset.mpr ⟨holds.mem_files, room.inTree⟩
  have bounded :
      (location :: opened).length ≤ world.tree.files.length := by
    simpa using (List.subperm_of_subset distinct inTree).length_le
  have enough := room.enough
  rw [List.length_cons] at bounded
  refine ⟨fuel - 1, by omega, distinct, inTree, ?_⟩
  rw [List.length_cons]
  omega

end Room

/--
An unfolding is gathered if the loader goes through the include list
whenever all of its paths exist, and the unfolding meets no open file and
repeats no key.
-/
def Gathered (world : World) (paths : List String)
    (visits : List Visit) : Prop :=
  (∀ path ∈ paths, world.tree.exists? path = true) →
  ∀ (fuel : Nat) (opened : List Location) (origin : String) (walk : Walk)
    (entries : List Entry),
    Room world fuel opened → Covered world opened walk.merged →
    (∀ visit ∈ visits, visit.location ∉ opened) →
    (keysOf (entries ++
      entriesOf (freshVisits walk.merged visits))).Nodup →
    ∃ result after,
      runFrom walk
          (gatherIncludes world fuel opened origin entries paths) =
        (.ok result, after)

/-- A file is loaded if what it includes is gathered. -/
theorem gatherTree_complete {path : String} {location : Location}
    {settings : List (String × Value)} {includes : List String}
    {below : List Visit}
    (located : world.tree.locate path = .ok location)
    (opens : world.Opens location settings includes)
    (unfolds : Visits world includes below)
    (inner : Gathered world includes below)
    {fuel : Nat} {opened : List Location} {walk : Walk}
    (room : Room world fuel opened)
    (covered : Covered world opened walk.merged)
    (notOpened : location ∉ opened)
    (avoids : ∀ visit ∈ below, visit.location ∉ opened)
    (distinct : (keysOf (entriesOf (freshVisits walk.merged
      (⟨path, location, settings⟩ :: below)))).Nodup) :
    ∃ result after,
      runFrom walk (gatherTree world fuel opened path) =
        (.ok result, after) := by
  by_cases merged : location ∈ walk.merged
  · exact ⟨_, _, gatherTree_merged located notOpened merged⟩
  · rcases room.enter opens.holds notOpened with ⟨left, rfl, roomBelow⟩
    have avoidsBelow :
        ∀ visit ∈ below, visit.location ∉ location :: opened := by
      intro visit member isOpen
      rcases List.mem_cons.mp isOpen with same | outer
      · exact unfolds.not_mem_below opens.holds
          (mem_locationsOf.mpr ⟨visit, member, same⟩)
      · exact avoids visit member outer
    rw [freshVisits_cons_unseen merged] at distinct
    rcases inner opens.present left (location :: opened) path
        ((walk.enter location).report
        (readEvent path ⟨namedMapping settings, includes⟩))
        (fromSource path settings) roomBelow (covered.enter merged)
        avoidsBelow distinct with
      ⟨result, after, found⟩
    refine ⟨result, after, ?_⟩
    rw [gatherTree_first located notOpened merged,
      visitFile_ok_iff]
    exact ⟨⟨namedMapping settings, includes⟩, fromSource path settings,
      left, (World.holds_iff path).mp opens.holds,
      ownEntries_namedMapping path settings, rfl, found⟩

/--
If the unfolding of an include list exists, meets no open file and repeats
no key, then the loader goes through the list as long as its paths exist.
-/
theorem gatherIncludes_complete {paths : List String}
    {visits : List Visit} (unfolds : Visits world paths visits) :
    Gathered world paths visits := by
  induction unfolds with
  | nil =>
      intro _ fuel opened origin walk entries _ _ _ _
      exact ⟨entries, walk, gatherIncludes_nil ..⟩
  | @cons path location settings includes rest below behind located opens
      under outer inner tail =>
      intro each fuel opened origin walk entries room covered avoids distinct
      rcases List.forall_mem_cons.mp each with ⟨present, others⟩
      rw [← List.cons_append, freshVisits_append, entriesOf_append,
        ← List.append_assoc, keysOf_append] at distinct
      have headDistinct := List.Nodup.of_append_left distinct
      rw [keysOf_append] at headDistinct
      obtain ⟨included, middle, loaded⟩ :=
        gatherTree_complete located opens under inner room covered
          (avoids _ List.mem_cons_self)
          (fun visit member => avoids visit (by simp [member]))
          (List.Nodup.of_append_right headDistinct)
      obtain ⟨_, visits, head⟩ :=
        gatherTree_follows (fun left _ => gatherIncludes_follows world left)
          covered loaded
      obtain rfl := head.unfolds.unique (.cons located opens under .nil)
      have merges := head.merges
      have middleCovered : Covered world opened middle.merged :=
        covered.extend head.unfolds head.avoids head.merges
      have gathers := head.gathers
      rw [List.append_nil] at gathers merges
      have behindFresh :
          freshVisits middle.merged behind =
            freshVisits
              (locationsOf (⟨path, location, settings⟩ :: below) ++
                walk.merged) behind := by
        apply freshVisits_congr
        intro visit _
        rw [merges, List.mem_append]
      rw [← gathers] at headDistinct distinct
      have absorbed :
          joinEntries entries included = .ok (entries ++ included) :=
        joinEntries_eq_ok_iff.mpr ⟨rfl,
          List.Nodup.of_append_right headDistinct,
          List.disjoint_of_nodup_append headDistinct⟩
      obtain ⟨result, after, found⟩ :=
        tail others fuel opened origin middle (entries ++ included) room
          middleCovered
          (fun visit member => avoids visit (by simp [member]))
          (by rw [keysOf_append, behindFresh]; exact distinct)
      exact ⟨result, after, gatherIncludes_cons_ok_iff.mpr
        ⟨included, middle, _, present, loaded, absorbed, found⟩⟩

end Gatehouse.Config
