import Gatehouse.Proofs.Config.Acyclic
import Gatehouse.Proofs.Config.Filling
import Gatehouse.Proofs.Config.Following
import Gatehouse.Proofs.Config.Tables

/-!
# Loading a file is merging what it reaches

The main statement says exactly when a file loads and what it loads to.  A
load succeeds if and only if all files that are reached can be merged, none
of them reaches itself, no two of them define the same key, and every string
in them renders.  The document then lists the settings of the first visits
in depth-first preorder, filled in one by one.  Its table of origins has just
the keys of its values, each with the path by which its file was first
visited.
-/

namespace Gatehouse.Config

open Gatehouse.Files
open Gatehouse.Outcome
open Gatehouse.Yaml
open Relation

variable {world : World}

/-! ## Keys of the files that are visited -/

@[simp]
theorem keysOf_entries (visit : Visit) :
    keysOf visit.entries = visit.settings.map Prod.fst := by
  rw [Visit.entries, keysOf_fromSource]

theorem nodup_keysOf_entriesOf_iff {visits : List Visit} :
    (keysOf (entriesOf visits)).Nodup ↔
      (∀ visit ∈ visits, (visit.settings.map Prod.fst).Nodup) ∧
      visits.Pairwise fun former latter =>
        (former.settings.map Prod.fst).Disjoint
          (latter.settings.map Prod.fst) := by
  have flat : keysOf (entriesOf visits) =
      visits.flatMap fun visit => visit.settings.map Prod.fst := by
    unfold keysOf entriesOf
    rw [List.map_flatMap]
    congr 1
    funext visit
    exact keysOf_entries visit
  rw [flat, List.nodup_flatMap]

namespace Visits

variable {paths : List String} {visits : List Visit}

theorem defines_iff (unfolds : Visits world paths visits)
    {visit : Visit} (member : visit ∈ visits) {key : String} :
    world.Defines visit.location key ↔
      key ∈ visit.settings.map Prod.fst := by
  rcases unfolds.beneath member with ⟨includes, _, opens, _⟩
  constructor
  · rintro ⟨settings, others, alike, defined⟩
    rcases opens.holds.unique alike with ⟨rfl, _⟩
    exact defined
  · intro defined
    exact ⟨visit.settings, includes, opens.holds, defined⟩

/-- No key comes twice exactly if the visited files share none. -/
theorem nodup_iff_disjoint (unfolds : Visits world paths visits) :
    (keysOf (entriesOf (firstVisits visits))).Nodup ↔
      ∀ first second, first ∈ locationsOf visits →
        second ∈ locationsOf visits → first ≠ second →
        ∀ key, world.Defines first key → ¬ world.Defines second key := by
  rw [nodup_keysOf_entriesOf_iff]
  constructor
  · rintro ⟨_, apart⟩ first second firstVisited secondVisited differs key
    rcases exists_firstVisit firstVisited with
      ⟨former, formerFirst, rfl⟩
    rcases exists_firstVisit secondVisited with
      ⟨latter, latterFirst, rfl⟩
    have symmetric : Std.Symm fun former latter : Visit =>
        (former.settings.map Prod.fst).Disjoint
          (latter.settings.map Prod.fst) := ⟨fun _ _ => List.Disjoint.symm⟩
    have disjoint := apart.forall formerFirst latterFirst
      fun same => differs (congrArg Visit.location same)
    rw [unfolds.defines_iff (freshVisits_subset _ _ formerFirst),
      unfolds.defines_iff (freshVisits_subset _ _ latterFirst)]
    exact fun defined => disjoint defined
  · intro apart
    refine ⟨?_, ?_⟩
    · intro visit member
      rcases unfolds.beneath (freshVisits_subset _ _ member) with
        ⟨includes, _, opens, _⟩
      exact opens.holds.nodup
    · have distinct := nodup_freshVisits [] visits
      rw [List.Nodup, locationsOf, List.pairwise_map] at distinct
      refine distinct.imp_of_mem ?_
      intro former latter formerFirst latterFirst differs key
      have formerVisited := freshVisits_subset _ _ formerFirst
      have latterVisited := freshVisits_subset _ _ latterFirst
      rw [← unfolds.defines_iff formerVisited,
        ← unfolds.defines_iff latterVisited]
      exact apart _ _ (mem_locationsOf.mpr ⟨former, formerVisited, rfl⟩)
        (mem_locationsOf.mpr ⟨latter, latterVisited, rfl⟩) differs key

end Visits

/-! ## What a load gives -/

theorem runLoading_eq_runFrom {Result : Type} (loading : Loading Result) :
    (runLoading loading).1 = (runFrom Walk.start loading).1 := rfl

/-- A file loads to the first visits of its unfolding, filled in. -/
theorem load_eq_ok_iff {path : String} {document : Document} :
    (runLoading (load world path)).1 = .ok document ↔
      ∃ visits, Visits world [path] visits ∧
        (keysOf (entriesOf (firstVisits visits))).Nodup ∧
        finish world (entriesOf (firstVisits visits)) = .ok document := by
  rw [runLoading_eq_runFrom, load_eq, runFrom_bind]
  constructor
  · intro found
    rcases loaded : runFrom Walk.start
        (gatherTree world (walkFuel world) [] path) with ⟨_ | entries, after⟩
    · rw [loaded] at found
      cases found
    · rw [loaded] at found
      dsimp only at found
      rw [runFrom_ofExcept] at found
      obtain ⟨distinct, visits, follows⟩ :=
        gatherTree_follows (fun left _ => gatherIncludes_follows world left)
          (Covered.of_subset (List.Subset.refl [])) loaded
      have gathers : entries = entriesOf (firstVisits visits) :=
        follows.gathers
      rw [gathers] at distinct found
      exact ⟨visits, follows.unfolds, distinct, found⟩
  · rintro ⟨visits, unfolds, distinct, finished⟩
    cases unfolds with
    | @cons path location settings includes _ below behind located opens
        under outer =>
        cases outer
        rw [List.append_nil] at distinct finished
        obtain ⟨entries, after, loaded⟩ :=
          gatherTree_complete located opens under
            (gatherIncludes_complete under) (Room.start world)
            (Covered.of_subset (List.Subset.refl []) : Covered world []
              Walk.start.merged)
            List.not_mem_nil (fun _ _ => List.not_mem_nil) distinct
        obtain ⟨_, visits, follows⟩ :=
          gatherTree_follows (fun left _ => gatherIncludes_follows world left)
            (Covered.of_subset (List.Subset.refl [])) loaded
        obtain rfl :=
          follows.unfolds.unique (.cons located opens under .nil)
        have gathers := follows.gathers
        rw [List.append_nil] at gathers
        rw [loaded]
        dsimp only
        rw [runFrom_ofExcept, gathers]
        exact finished

/-! ## Which files load -/

/--
All that a file reaches can be merged into one document and filled in.
-/
structure World.Loadable (world : World) (root : Location) : Prop where
  /-- Every file is readable text, well formed, and its includes exist. -/
  mergeable : ∀ file, world.Reaches root file → world.Mergeable file
  /-- No file includes itself, directly or through others. -/
  acyclic : ∀ file, world.Reaches root file →
    ¬ TransGen world.Includes file file
  /-- No key is defined by two files. -/
  disjoint : ∀ first second, world.Reaches root first →
    world.Reaches root second → first ≠ second →
    ∀ key, world.Defines first key → ¬ world.Defines second key
  /-- Every string of every setting can be filled in. -/
  renders : ∀ file settings includes, world.Reaches root file →
    world.Holds file settings includes →
    ∀ setting ∈ settings, ∀ text ∈ setting.2.leaves,
      Renders world.lookup text

/-- A file is loadable exactly if its unfolding merges and can be filled in. -/
theorem World.loadable_iff {path : String} {root : Location}
    (located : world.tree.locate path = .ok root) :
    world.Loadable root ↔
      ∃ visits, Visits world [path] visits ∧
        (keysOf (entriesOf (firstVisits visits))).Nodup ∧
        ∀ entry ∈ entriesOf (firstVisits visits),
          ∀ text ∈ entry.value.leaves, Renders world.lookup text := by
  constructor
  · intro loadable
    have layered : Layered world (world.Reaches root) :=
      ⟨fun _ _ reaches edge => reaches.tail edge, loadable.mergeable,
        loadable.acyclic⟩
    obtain ⟨visits, unfolds⟩ : ∃ visits, Visits world [path] visits := by
      apply layered.exists_visits
      intro name listed
      obtain rfl := List.mem_singleton.mp listed
      exact ⟨root, located, .refl⟩
    refine ⟨visits, unfolds, ?_, ?_⟩
    · rw [unfolds.nodup_iff_disjoint]
      intro first second firstVisited secondVisited
      exact loadable.disjoint first second
        ((unfolds.mem_iff_reaches located).mp firstVisited)
        ((unfolds.mem_iff_reaches located).mp secondVisited)
    · intro entry member
      rcases List.mem_flatMap.mp member with ⟨visit, fresh, inner⟩
      rcases List.mem_map.mp inner with ⟨setting, contained, rfl⟩
      have visited := freshVisits_subset _ _ fresh
      rcases unfolds.beneath visited with ⟨includes, _, opens, _⟩
      have reaches := (unfolds.mem_iff_reaches located).mp
        (mem_locationsOf.mpr ⟨visit, visited, rfl⟩)
      exact loadable.renders _ _ _ reaches opens.holds setting contained
  · rintro ⟨visits, unfolds, distinct, renders⟩
    have disjoint := unfolds.nodup_iff_disjoint.mp distinct
    refine ⟨?_, ?_, ?_, ?_⟩
    · intro file reaches
      exact unfolds.mergeable ((unfolds.mem_iff_reaches located).mpr reaches)
    · intro file reaches
      exact unfolds.acyclic ((unfolds.mem_iff_reaches located).mpr reaches)
    · intro first second firstReached secondReached
      exact disjoint first second
        ((unfolds.mem_iff_reaches located).mpr firstReached)
        ((unfolds.mem_iff_reaches located).mpr secondReached)
    · intro file settings includes reaches holds setting contained
      have visited := (unfolds.mem_iff_reaches located).mpr reaches
      rcases exists_firstVisit visited with ⟨visit, fresh, rfl⟩
      rcases unfolds.beneath (freshVisits_subset _ _ fresh) with
        ⟨_, _, opens, _⟩
      rcases holds.unique opens.holds with ⟨rfl, _⟩
      exact renders ⟨setting.1, setting.2, visit.path⟩
        (List.mem_flatMap.mpr
          ⟨visit, fresh, List.mem_map.mpr ⟨setting, contained, rfl⟩⟩)

/-- Where the keys of a document come from. -/
theorem origin?_eq_some_iff {lookup : Variables} {visits : List Visit}
    {filled : List Entry} (distinct : (keysOf (entriesOf visits)).Nodup)
    (each : List.Forall₂ (Fills lookup) (entriesOf visits) filled)
    (key origin : String) :
    (Document.ofEntries filled).origin? key = some origin ↔
      ∃ visit ∈ visits, visit.path = origin ∧
        key ∈ visit.settings.map Prod.fst := by
  have filledDistinct : (keysOf filled).Nodup := by
    rw [keysOf_of_fills each]
    exact distinct
  have held : (Document.ofEntries filled).origin? key = some origin ↔
      ∃ entry ∈ filled, entry.key = key ∧ entry.origin = origin := by
    rw [Document.origin?_ofEntries, Option.map_eq_some_iff]
    constructor
    · rintro ⟨entry, found, same⟩
      rcases (entryOf?_eq_some_iff filledDistinct).mp found with
        ⟨member, named⟩
      exact ⟨entry, member, named, same⟩
    · rintro ⟨entry, member, named, same⟩
      exact ⟨entry,
        (entryOf?_eq_some_iff filledDistinct).mpr ⟨member, named⟩, same⟩
  rw [held, exists_filled_iff each]
  constructor
  · rintro ⟨entry, member, rfl, rfl⟩
    rcases List.mem_flatMap.mp member with ⟨visit, visited, inner⟩
    rcases List.mem_map.mp inner with ⟨setting, contained, rfl⟩
    exact ⟨visit, visited, rfl, List.mem_map_of_mem contained⟩
  · rintro ⟨visit, visited, rfl, defined⟩
    rcases List.mem_map.mp defined with ⟨setting, contained, rfl⟩
    exact ⟨⟨setting.1, setting.2, visit.path⟩,
      List.mem_flatMap.mpr
        ⟨visit, visited, List.mem_map.mpr ⟨setting, contained, rfl⟩⟩,
      rfl, rfl⟩

/-- Where the tables are in step, just the keys have an origin. -/
theorem isSome_origin?_iff (entries : List Entry) (key : String) :
    ((Document.ofEntries entries).origin? key).isSome ↔
      key ∈ (Document.ofEntries entries).keys := by
  rw [Document.origin?_ofEntries, Document.keys_ofEntries,
    Option.isSome_map, Option.isSome_iff_ne_none, Ne, entryOf?_eq_none_iff,
    not_not]

/--
A file loads exactly if all that it reaches is loadable.  Then the values of
its document are the settings of the first visits in preorder, filled in, and
its table of origins has exactly their keys.
-/
theorem load_exact (world : World) (path : String) :
    ((∃ document, (runLoading (load world path)).1 = .ok document) ↔
      ∃ root, world.tree.locate path = .ok root ∧
        world.Loadable root) ∧
    ∀ document, (runLoading (load world path)).1 = .ok document →
      ∃ visits, Visits world [path] visits ∧
        List.Forall₂ (FillsIn world.lookup)
          (entriesOf (firstVisits visits)) document.values ∧
        (∀ key, (document.origin? key).isSome ↔ key ∈ document.keys) ∧
        ∀ key origin, document.origin? key = some origin ↔
          ∃ visit ∈ firstVisits visits, visit.path = origin ∧
            key ∈ visit.settings.map Prod.fst := by
  constructor
  · constructor
    · rintro ⟨document, loads⟩
      rcases load_eq_ok_iff.mp loads with
        ⟨visits, unfolds, distinct, finished⟩
      rcases unfolds.exists_visit List.mem_cons_self with
        ⟨root, located, _⟩
      refine ⟨root, located, (World.loadable_iff located).mpr ?_⟩
      exact ⟨visits, unfolds, distinct,
        finish_ok_iff.mp ⟨document, finished⟩⟩
    · rintro ⟨root, located, loadable⟩
      rcases (World.loadable_iff located).mp loadable with
        ⟨visits, unfolds, distinct, renders⟩
      rcases finish_ok_iff.mpr renders with ⟨document, finished⟩
      exact ⟨document,
        load_eq_ok_iff.mpr ⟨visits, unfolds, distinct, finished⟩⟩
  · intro document loads
    rcases load_eq_ok_iff.mp loads with
      ⟨visits, unfolds, distinct, finished⟩
    rcases finish_eq_ok_iff.mp finished with ⟨filled, each, rfl⟩
    exact ⟨visits, unfolds, fillsIn_of_fills each, isSome_origin?_iff filled,
      origin?_eq_some_iff distinct each⟩

end Gatehouse.Config
