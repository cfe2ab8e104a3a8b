import Gatehouse.Proofs.Config.Merge

/-!
# What an override loads to

An override is laid over the strict merge of what it includes, where the
base comes first unless one of the listed paths leads to it.  Its own
settings win; those of the merge keep their places, and what only the
override defines comes last.  Variables are filled in after that, so a
replaced setting never needs its variables.
-/

namespace Gatehouse.Config

open Gatehouse.Files
open Gatehouse.Outcome
open Gatehouse.Yaml

variable {world : World}

/-! ## The paths that an override follows -/

/-- The paths that an override follows, by the comparison of the loader. -/
def overrideIncludes (tree : Tree) (listed : List String) :
    Option String → List String
  | none => listed
  | some base =>
    if listed.any (sameFile tree · base) then listed else base :: listed

/--
A path leads to the base, which stands for its own text where it leads
nowhere.
-/
def LeadsToBase (tree : Tree) (path base : String) : Prop :=
  ∃ location, tree.locate path = .ok location ∧
    (tree.locate base = .ok location ∨
      (∃ cause, tree.locate base = .error cause) ∧
        samePath location.path base)

/-- The base comes first unless a listed path leads to it. -/
inductive BaseFirst (tree : Tree) :
    Option String → List String → List String → Prop where
  | without (listed : List String) : BaseFirst tree none listed listed
  | listed {base path : String} {listed : List String}
      (member : path ∈ listed) (leads : LeadsToBase tree path base) :
      BaseFirst tree (some base) listed listed
  | added {base : String} {listed : List String}
      (apart : ∀ path ∈ listed, ¬ LeadsToBase tree path base) :
      BaseFirst tree (some base) listed (base :: listed)

/-- Where a path leads somewhere, the comparison says whether to the base. -/
theorem sameFile_iff {tree : Tree} {path base : String}
    {location : Location} (located : tree.locate path = .ok location) :
    sameFile tree path base = true ↔ LeadsToBase tree path base := by
  unfold sameFile LeadsToBase
  rw [located]
  cases tree.locate base with
  | ok other =>
      dsimp only
      rw [beq_iff_eq]
      constructor
      · rintro rfl
        exact ⟨location, rfl, .inl rfl⟩
      · rintro ⟨_, found, same | ⟨⟨_, nowhere⟩, _⟩⟩
        · exact Except.ok.inj (found.trans same.symm)
        · cases nowhere
  | error cause =>
      constructor
      · intro same
        exact ⟨location, rfl, .inr ⟨⟨cause, rfl⟩, same⟩⟩
      · rintro ⟨_, found, same | ⟨_, alike⟩⟩
        · cases same
        · cases found
          exact alike

theorem subset_overrideIncludes (tree : Tree) (listed : List String)
    (base : Option String) :
    listed ⊆ overrideIncludes tree listed base := by
  simp only [overrideIncludes]
  split
  · exact List.Subset.refl listed
  · split
    · exact List.Subset.refl listed
    · exact List.subset_cons_self _ listed

/-- Where all listed paths lead somewhere, the two rules agree. -/
theorem baseFirst_overrideIncludes {tree : Tree} {listed : List String}
    (base : Option String)
    (leads : ∀ path ∈ listed, ∃ location,
      tree.locate path = .ok location) :
    BaseFirst tree base listed (overrideIncludes tree listed base) := by
  cases base with
  | none => exact .without listed
  | some base =>
      dsimp only [overrideIncludes]
      by_cases same : ∃ path ∈ listed, sameFile tree path base = true
      · rw [if_pos (List.any_eq_true.mpr same)]
        rcases same with ⟨path, member, alike⟩
        rcases leads path member with ⟨location, located⟩
        exact .listed member ((sameFile_iff located).mp alike)
      · rw [if_neg fun found => same (List.any_eq_true.mp found)]
        refine .added fun path member leadsToBase => same ?_
        rcases leads path member with ⟨location, located⟩
        exact ⟨path, member, (sameFile_iff located).mpr leadsToBase⟩

/-! ## Laying an override over what it includes -/

/-- What is left to do when the included files are merged. -/
def layOver (world : World) (path : String) (source : Source)
    (lower : Merged) : Loading Document := do
  let own ← ofExcept (Merged.fromOwn path source.own)
  let merged ← lower.overlay own
  ofExcept (merged.finish world)

theorem runFrom_layOver {source : Source}
    (ownDistinct : Mapping.Distinct source.own) {lower : List Entry}
    (distinct : (keysOf lower).Nodup) (walk : Walk) (world : World)
    (path : String) :
    runFrom walk (layOver world path source (.ofEntries lower)) =
      match ownEntries path source.own with
      | .error cause => (.error cause, walk)
      | .ok own =>
        (finish world (replaceEntries lower own),
          walk.reportAll (replacementEvents lower own)) := by
  rw [layOver, runFrom_bind, runFrom_ofExcept,
    Merged.fromOwn_eq ownDistinct]
  cases named : ownEntries path source.own with
  | error cause => rfl
  | ok own =>
      dsimp only [Except.map]
      rw [runFrom_bind, Merged.runFrom_overlay distinct
        (nodup_keysOf_own ownDistinct named)]
      dsimp only
      rw [runFrom_ofExcept]
      rfl

/-- An override is read, its includes are merged, and it is laid over. -/
theorem runFrom_loadOverride (walk : Walk) (world : World)
    (path : String) (base : Option String) :
    runFrom walk (loadOverride world path base) =
      match world.tree.locate path with
      | .error cause => (.error (.unreadable path cause), walk)
      | .ok location =>
        match sourceAt world location path with
        | .error cause => (.error cause, walk.read location)
        | .ok source =>
          match runFrom (walk.enter location)
              (gatherIncludes world (walkFuel world) [location] path []
                (overrideIncludes world.tree source.includes base)) with
          | (.ok lower, after) =>
            runFrom after (layOver world path source (.ofEntries lower))
          | (.error cause, after) => (.error cause, after) := by
  have nothing : (keysOf []).Nodup := List.nodup_nil
  have begun : Merged.empty = .ofEntries [] := rfl
  rw [loadOverride, begun, runFrom_bind, runFrom_locate]
  cases world.tree.locate path with
  | error cause => rfl
  | ok location =>
      dsimp only [mapError_ok]
      rw [runFrom_bind, runFrom_readSource]
      cases sourceAt world location path with
      | error cause => rfl
      | ok source =>
          have entered : (walk.read location).merge location =
              walk.enter location := rfl
          dsimp only
          rw [runFrom_bind, runFrom_modify]
          -- The base is told apart so that both choices compute alike.
          cases base
          all_goals
            dsimp only [overrideIncludes]
            rw [entered, runFrom_bind, loadIncludes_eq _ _ _ _ _ nothing,
              runFrom_map]
            generalize runFrom (walk.enter location)
              (gatherIncludes world (walkFuel world) [location] path [] _) =
              outcome
            rcases outcome with ⟨cause | lower, after⟩
            · rfl
            · rfl

/-! ## What an override loads to -/

/--
The strict merge of what some paths lead to, all of which exist: the settings
of the first visits in preorder, where no key comes twice.
-/
def StrictMerge (world : World) (paths : List String)
    (merged : List Entry) : Prop :=
  ∃ visits, (∀ path ∈ paths, world.tree.exists? path = true) ∧
    Visits world paths visits ∧
    merged = entriesOf (firstVisits visits) ∧ (keysOf merged).Nodup

/-- An override that loads merges strictly what it follows. -/
theorem loadOverride_ok {path : String} {base : Option String}
    {document : Document}
    (loads : (runLoading (loadOverride world path base)).1 =
      .ok document) :
    ∃ location settings listed lower,
      world.tree.locate path = .ok location ∧
      world.Holds location settings listed ∧
      StrictMerge world (overrideIncludes world.tree listed base) lower ∧
      finish world (replaceEntries lower (fromSource path settings)) =
        .ok document := by
  rw [runLoading_eq_runFrom, runFrom_loadOverride] at loads
  split at loads
  · cases loads
  rename_i location located
  split at loads
  · cases loads
  rename_i source read
  split at loads
  · rename_i lower after merged
    -- Only the override itself is merged so far, and it is still open.
    have covered : Covered world [location]
        (Walk.start.enter location).merged :=
      Covered.of_subset (List.Subset.refl [location])
    have nothingYet : (keysOf []).Nodup := List.nodup_nil
    rcases gatherIncludes_follows world _ covered nothingYet merged with
      ⟨distinct, present, visits, _, rfl, follows⟩
    rw [runFrom_layOver (distinct_of_sourceAt read) distinct] at loads
    split at loads
    · cases loads
    rename_i own named
    rcases World.holds_of_read read named with ⟨settings, rfl, holds⟩
    have fresh : freshVisits [location] visits = firstVisits visits :=
      freshVisits_eq_firstVisits follows.avoids
    have gathers : lower = entriesOf (firstVisits visits) := by
      rw [← fresh]
      exact follows.gathers
    exact ⟨location, settings, source.includes, _, located, holds,
      ⟨visits, present, follows.unfolds, gathers, distinct⟩, loads⟩
  · cases loads

/-- Filling in keeps every setting under its key. -/
theorem entryOf?_of_fills {lookup : Variables}
    {entries filled : List Entry}
    (each : List.Forall₂ (Fills lookup) entries filled) (key : String) :
    Option.Rel (Fills lookup) (entryOf? entries key)
      (entryOf? filled key) := by
  induction each with
  | nil => exact .none
  | cons fills _ induction =>
      rw [entryOf?_cons, entryOf?_cons, fills.key]
      split
      · exact .some fills
      · exact induction

/--
A document in which the settings of an override are laid over other ones,
all filled in.
-/
structure LaidOver (lookup : Variables) (origin : String)
    (settings : List (String × Value)) (lower : List Entry)
    (document : Document) : Prop where
  /-- What the override sets is there with its own value and origin. -/
  own : ∀ setting ∈ settings, ∃ value,
    document.get? setting.1 = some value ∧
      interpolate lookup setting.1 setting.2 = .ok value ∧
      document.origin? setting.1 = some origin
  /-- What it does not set is there exactly as below. -/
  kept : ∀ key ∉ settings.map Prod.fst,
    Option.Rel
        (fun entry value => interpolate lookup key entry.value = .ok value)
        (entryOf? lower key) (document.get? key) ∧
      document.origin? key = (entryOf? lower key).map (·.origin)
  /-- Keys keep their places, and new ones come last in their order. -/
  keys : document.keys =
    keysOf lower ++
      (settings.map Prod.fst).filter fun key => key ∉ keysOf lower

theorem laidOver_of_finish {path : String}
    {settings : List (String × Value)} {lower : List Entry}
    {document : Document} (distinct : (settings.map Prod.fst).Nodup)
    (finished : finish world
      (replaceEntries lower (fromSource path settings)) = .ok document) :
    LaidOver world.lookup path settings lower document := by
  have keys := keys_of_finish finished
  rcases finish_eq_ok_iff.mp finished with ⟨filled, each, rfl⟩
  have ownDistinct : (keysOf (fromSource path settings)).Nodup := by
    rw [keysOf_fromSource]
    exact distinct
  have found := fun key => entryOf?_of_fills each key
  simp only [entryOf?_replaceEntries ownDistinct] at found
  refine ⟨?_, ?_, ?_⟩
  · intro setting member
    have held : (⟨setting.1, setting.2, path⟩ : Entry) ∈
        fromSource path settings :=
      List.mem_map.mpr ⟨setting, member, rfl⟩
    have related := found setting.1
    rw [entryOf?_of_mem ownDistinct held, Option.some_or] at related
    rw [Document.get?_ofEntries, Document.origin?_ofEntries]
    generalize entryOf? filled setting.1 = result at related ⊢
    cases related with
    | some fills => exact ⟨_, rfl, fills.value, congrArg some fills.origin⟩
  · intro key absent
    have missing : entryOf? (fromSource path settings) key = none := by
      rw [entryOf?_eq_none_iff, keysOf_fromSource]
      exact absent
    have related := found key
    rw [missing, Option.none_or] at related
    rw [Document.get?_ofEntries, Document.origin?_ofEntries]
    generalize entryOf? filled key = result at related ⊢
    cases held : entryOf? lower key with
    | none =>
        rw [held] at related
        cases related
        exact ⟨.none, rfl⟩
    | some entry =>
        rw [held] at related
        obtain rfl := key_of_entryOf? held
        cases related with
        | some fills =>
            exact ⟨.some fills.value, congrArg some fills.origin⟩
  · rw [keys, keysOf_replaceEntries ownDistinct, keysOf_fromSource]

end Gatehouse.Config
