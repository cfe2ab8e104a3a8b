import Gatehouse.Proofs.Config.IncludeGraph
import Mathlib.Data.List.Nodup

/-!
# Two tables in step

The loader fills two tables, a mapping of values and a table of origins, and
takes both apart again wherever files are merged.  The tables stay in step
all the way: every operation on them does what the operation on lists of
settings does.  So loading a file gathers the settings of a list, with the
same reports, and is refused for the same reason.
-/

namespace Gatehouse.Config

open Gatehouse.Files
open Gatehouse.Outcome
open Gatehouse.Yaml

variable {world : World}

/-! ## Operations on the tables -/

namespace Merged

theorem put_ofEntries {entries : List Entry}
    (distinct : (keysOf entries).Nodup) (entry : Entry) :
    (ofEntries entries).put entry.key entry.origin (.string entry.key)
        entry.value =
      ofEntries (putEntry entries entry) := by
  rw [put, ofEntries, ofEntries, put_valuesOf distinct,
    put_originsOf distinct]

theorem put_ofEntries_of_not_mem {entries : List Entry}
    (distinct : (keysOf entries).Nodup) (entry : Entry)
    (absent : entry.key ∉ keysOf entries) :
    (ofEntries entries).put entry.key entry.origin (.string entry.key)
        entry.value =
      ofEntries (entries ++ [entry]) := by
  rw [put_ofEntries distinct, putEntry_of_not_mem absent]

theorem foldlM_addOwn (origin : String) {entries : List Entry}
    {own : Mapping} (distinct : (keysOf entries).Nodup)
    (ownDistinct : Mapping.Distinct own)
    (apart : ∀ key ∈ keysOf entries, ∀ setting ∈ own,
      setting.1 ≠ .string key) :
    List.foldlM (addOwn origin) (ofEntries entries) own =
      (ownEntries origin own).map fun more => ofEntries (entries ++ more) := by
  induction own generalizing entries with
  | nil =>
      show _ = Except.ok (ofEntries (entries ++ []))
      rw [List.append_nil]
      rfl
  | cons setting rest induction =>
      rcases setting with ⟨key, value⟩
      rw [Mapping.Distinct, List.pairwise_cons] at ownDistinct
      rw [List.foldlM_cons]
      cases key with
      | string key =>
          have absent : key ∉ keysOf entries := fun member =>
            apart key member _ List.mem_cons_self rfl
          have added : addOwn origin (ofEntries entries)
              (.string key, value) =
                .ok (ofEntries (entries ++ [⟨key, value, origin⟩])) :=
            congrArg Except.ok
              (put_ofEntries_of_not_mem distinct ⟨key, value, origin⟩ absent)
          have later := induction
            (nodup_keysOf_concat distinct ⟨key, value, origin⟩ absent)
            ownDistinct.2 ?_
          · rw [added]
            show List.foldlM (addOwn origin) _ rest = _
            rw [later, ownEntries_cons_string]
            cases ownEntries origin rest with
            | error cause => rfl
            | ok more =>
                exact congrArg (Except.ok ∘ ofEntries)
                  (List.append_assoc entries [_] more)
          · intro held member setting contained
            rw [keysOf_append, List.mem_append] at member
            rcases member with member | new
            · exact apart held member setting
                (List.mem_cons_of_mem _ contained)
            · obtain rfl := List.mem_singleton.mp new
              intro same
              have differs := ownDistinct.1 setting contained
              rw [same] at differs
              simp [Value.sameKey] at differs
      | null | bool _ | number _ | sequence _ | mapping _
      | tagged _ _ => rfl

/-- The settings of a source are taken over in step. -/
theorem fromOwn_eq {own : Mapping} (distinct : Mapping.Distinct own)
    (origin : String) :
    fromOwn origin own = (ownEntries origin own).map ofEntries := by
  have nothing : (keysOf []).Nodup := List.nodup_nil
  exact foldlM_addOwn origin nothing distinct (List.forall_mem_nil _)

/-- A strict join of tables is a strict join of the settings. -/
theorem absorb_ofEntries {entries included : List Entry}
    (distinct : (keysOf entries).Nodup)
    (includedDistinct : (keysOf included).Nodup) :
    (ofEntries entries).absorb (ofEntries included) =
      (joinEntries entries included).map ofEntries := by
  show absorbEach _ (originsOf included) (valuesOf included) = _
  induction included generalizing entries with
  | nil => rfl
  | cons entry rest induction =>
      rw [keysOf_cons, List.nodup_cons] at includedDistinct
      have second : Origins.get? (originsOf (entry :: rest)) entry.key =
          some entry.origin := by
        rw [get?_originsOf, entryOf?_cons, if_pos rfl]
        rfl
      have first : Origins.get? (ofEntries entries).origins entry.key =
          (entryOf? entries entry.key).map (·.origin) :=
        get?_originsOf entries entry.key
      rw [valuesOf_cons, absorbEach, joinEntries]
      simp only [Value.text?, Option.getD_some, second, first,
        erase_originsOf includedDistinct.1]
      cases found : entryOf? entries entry.key with
      | some held => rfl
      | none =>
          have absent := entryOf?_eq_none_iff.mp found
          dsimp only [Option.map_none]
          rw [put_ofEntries_of_not_mem distinct entry absent]
          exact induction (nodup_keysOf_concat distinct entry absent)
            includedDistinct.2

/-- Tables are laid over others as settings are, with the same reports. -/
theorem runFrom_overlay {lower own : List Entry}
    (distinct : (keysOf lower).Nodup) (ownDistinct : (keysOf own).Nodup)
    (walk : Walk) :
    runFrom walk ((ofEntries lower).overlay (ofEntries own)) =
      (.ok (ofEntries (replaceEntries lower own)),
        walk.reportAll (replacementEvents lower own)) := by
  show runFrom walk (overlayEach _ (originsOf own) (valuesOf own)) = _
  induction own generalizing lower walk with
  | nil => rfl
  | cons entry rest induction =>
      rw [keysOf_cons, List.nodup_cons] at ownDistinct
      have single : (keysOf [entry]).Nodup := List.pairwise_singleton _ _
      have later := induction
        (nodup_keysOf_replaceEntries distinct single) ownDistinct.2
      have own : Origins.get? (originsOf (entry :: rest)) entry.key =
          some entry.origin := by
        rw [get?_originsOf, entryOf?_cons, if_pos rfl]
        rfl
      have previous : Origins.get? (ofEntries lower).origins entry.key =
          (entryOf? lower entry.key).map (·.origin) :=
        get?_originsOf lower entry.key
      rw [valuesOf_cons, overlayEach]
      simp only [Value.text?, Option.getD_some, own, previous,
        erase_originsOf ownDistinct.1, put_ofEntries distinct]
      have events : replacementEvents lower (entry :: rest) =
          ((entryOf? lower entry.key).map fun replaced =>
            Event.debug "Environment override"
              [("key", entry.key), ("replaced", replaced.origin)]).toList ++
            replacementEvents (putEntry lower entry) rest := by
        rw [replacementEvents_putEntry ownDistinct.1, replacementEvents,
          List.filterMap_cons]
        cases entryOf? lower entry.key with
        | none => rfl
        | some held => rfl
      rw [events]
      cases entryOf? lower entry.key with
      | none => exact later walk
      | some held =>
          dsimp only [Option.map_some]
          rw [runFrom_bind, runFrom_modify]
          exact later _

end Merged

/-! ## What is gathered has distinct keys -/

section Gathering

variable {fuel : Nat} {opened : List Location} {walk after : Walk}
  {result : List Entry}

theorem nodup_gatherIncludes {origin : String} {entries : List Entry}
    {paths : List String} (distinct : (keysOf entries).Nodup)
    (gathered : runFrom walk
        (gatherIncludes world fuel opened origin entries paths) =
      (.ok result, after)) : (keysOf result).Nodup := by
  induction paths generalizing entries walk with
  | nil =>
      rw [gatherIncludes_nil] at gathered
      cases gathered
      exact distinct
  | cons path rest induction =>
      rcases gatherIncludes_cons_ok_iff.mp gathered with
        ⟨included, middle, joined, _, _, absorbed, others⟩
      rcases joinEntries_eq_ok_iff.mp absorbed with
        ⟨rfl, includedDistinct, disjoint⟩
      apply induction _ others
      rw [keysOf_append]
      exact List.Nodup.append distinct includedDistinct disjoint

theorem nodup_gatherTree {path : String}
    (gathered : runFrom walk (gatherTree world fuel opened path) =
      (.ok result, after)) : (keysOf result).Nodup := by
  cases located : world.tree.locate path with
  | error cause =>
      rw [gatherTree_unlocated located] at gathered
      cases gathered
  | ok location =>
      by_cases isOpen : location ∈ opened
      · rw [gatherTree_opened located isOpen] at gathered
        cases gathered
      by_cases merged : location ∈ walk.merged
      · rw [gatherTree_merged located isOpen merged] at gathered
        cases gathered
        exact List.nodup_nil
      · rw [gatherTree_first located isOpen merged,
          visitFile_ok_iff] at gathered
        rcases gathered with ⟨source, own, left, read, named, _, below⟩
        exact nodup_gatherIncludes
          (nodup_keysOf_own (distinct_of_sourceAt read) named) below

end Gathering


/-! ## Loading gathers -/

/-- A list of files is loaded as it is gathered if each file is. -/
theorem loadIncludes_eq_of_trees {fuel : Nat} {opened : List Location}
    (trees : ∀ path, loadTree world fuel opened path =
      Merged.ofEntries <$> gatherTree world fuel opened path)
    {origin : String} {entries : List Entry}
    (distinct : (keysOf entries).Nodup) (paths : List String) :
    loadIncludes world fuel opened origin (.ofEntries entries) paths =
      Merged.ofEntries <$>
        gatherIncludes world fuel opened origin entries paths := by
  induction paths generalizing entries with
  | nil =>
      rw [loadIncludes, gatherIncludes]
      rfl
  | cons path rest induction =>
      apply eq_of_runFrom
      intro walk
      cases present : world.tree.exists? path with
      | false =>
          rw [runFrom_map, gatherIncludes_missing present, loadIncludes]
          simp only [present, Bool.not_false, if_true]
          rw [runFrom_bind, runFrom_throw]
      | true =>
          rw [runFrom_map, gatherIncludes_cons present, loadIncludes]
          simp only [present, Bool.not_true]
          rw [if_neg Bool.false_ne_true, trees, runFrom_bind, runFrom_map]
          rcases gathered : runFrom walk (gatherTree world fuel opened path)
            with ⟨cause | included, middle⟩
          · rfl
          · have includedDistinct := nodup_gatherTree gathered
            dsimp only
            rw [runFrom_bind, runFrom_ofExcept,
              Merged.absorb_ofEntries distinct includedDistinct]
            cases absorbed : joinEntries entries included with
            | error cause => rfl
            | ok joined =>
                rcases joinEntries_eq_ok_iff.mp absorbed with
                  ⟨rfl, _, disjoint⟩
                have together : (keysOf (entries ++ included)).Nodup := by
                  rw [keysOf_append]
                  exact List.Nodup.append distinct includedDistinct disjoint
                dsimp only [Except.map]
                rw [induction together, runFrom_map]

/-- A file is loaded as it is gathered if the lists below it are. -/
theorem loadTree_eq_of_lists {fuel : Nat}
    (lists : ∀ left, fuel = left + 1 → ∀ opened origin entries,
      (keysOf entries).Nodup → ∀ paths,
        loadIncludes world left opened origin (.ofEntries entries) paths =
          Merged.ofEntries <$>
            gatherIncludes world left opened origin entries paths)
    (opened : List Location) (path : String) :
    loadTree world fuel opened path =
      Merged.ofEntries <$> gatherTree world fuel opened path := by
  apply eq_of_runFrom
  intro walk
  rw [runFrom_map, loadTree, runFrom_bind, runFrom_locate]
  cases located : world.tree.locate path with
  | error cause =>
      rw [gatherTree_unlocated located]
      rfl
  | ok location =>
      by_cases isOpen : location ∈ opened
      · rw [gatherTree_opened located isOpen]
        simp only [mapError_ok, List.contains_iff_mem, isOpen, if_true]
        rw [runFrom_bind, runFrom_throw]
      simp only [mapError_ok, List.contains_iff_mem, isOpen, if_false]
      rw [runFrom_bind, runFrom_get]
      by_cases merged : location ∈ walk.merged
      · rw [gatherTree_merged located isOpen merged]
        simp only [merged, if_true]
        rw [runFrom_bind, runFrom_modify]
        rfl
      rw [gatherTree_first located isOpen merged, runFrom_visitFile]
      simp only [merged, if_false]
      rw [runFrom_bind, runFrom_modify]
      dsimp only
      rw [runFrom_bind, runFrom_readSource]
      cases read : sourceAt world location path with
      | error cause => rfl
      | ok source =>
          have distinct := distinct_of_sourceAt read
          dsimp only
          rw [runFrom_bind, runFrom_modify]
          dsimp only
          rw [runFrom_bind, runFrom_ofExcept, Merged.fromOwn_eq distinct]
          cases named : ownEntries path source.own with
          | error cause => rfl
          | ok own =>
              cases fuel with
              | zero => rfl
              | succ left =>
                  dsimp only [Except.map]
                  rw [lists left rfl _ _ own (nodup_keysOf_own distinct named),
                    runFrom_map]
                  rfl

/-- Lists of files are loaded as they are gathered. -/
theorem loadIncludes_eq (world : World) (fuel : Nat) :
    ∀ opened origin entries, (keysOf entries).Nodup → ∀ paths,
      loadIncludes world fuel opened origin (.ofEntries entries) paths =
        Merged.ofEntries <$>
          gatherIncludes world fuel opened origin entries paths := by
  induction fuel using fuel_induction with
  | visit fuel lists =>
      intro opened origin entries distinct paths
      exact loadIncludes_eq_of_trees (loadTree_eq_of_lists lists opened)
        distinct paths

/-- So is a file. -/
theorem loadTree_eq (world : World) (fuel : Nat) (opened : List Location)
    (path : String) :
    loadTree world fuel opened path =
      Merged.ofEntries <$> gatherTree world fuel opened path :=
  loadTree_eq_of_lists (fun left _ => loadIncludes_eq world left) opened path

/-! ## Documents -/

/-- A file loads to the document of what is gathered from it. -/
theorem load_eq (world : World) (path : String) :
    load world path = (do
      let entries ← gatherTree world (walkFuel world) [] path
      ofExcept (finish world entries)) := by
  rw [load, loadTree_eq, bind_map_left]
  rfl

/-- A text loads to the document of what is gathered from it. -/
theorem loadText_eq (world : World) (origin text : String) :
    loadText world origin text = (do
      let source ← ofExcept (Source.parse origin "." text)
      let own ← ofExcept (ownEntries origin source.own)
      let entries ←
        gatherIncludes world (walkFuel world) [] origin own source.includes
      ofExcept (finish world entries)) := by
  rw [loadText]
  cases parsed : Source.parse origin "." text with
  | error cause => rfl
  | ok source =>
      show (ofExcept (Merged.fromOwn origin source.own) : Loading Merged) >>= _ =
        (ofExcept (ownEntries origin source.own) : Loading _) >>= _
      rw [Merged.fromOwn_eq (distinct_of_parse parsed)]
      cases named : ownEntries origin source.own with
      | error cause => rfl
      | ok own =>
          show loadIncludes world _ [] origin (.ofEntries own) _ >>= _ =
            gatherIncludes world _ [] origin own _ >>= _
          rw [loadIncludes_eq _ _ _ _ _ (nodup_keysOf_parsed parsed named),
            bind_map_left]
          rfl

end Gatehouse.Config
