import Gatehouse.Proofs.Config.Entries

/-!
# What a loading computation does from a walk

Loading is a computation that carries a walk and may be refused.  This
module says once what each of its actions does when it is run from a given
walk, and derives one equation for opening a file and one for going through
an include list, where both gather a list of settings.  Later proofs use
these equations and never open the computation itself.
-/

namespace Gatehouse.Config

open Gatehouse.Files
open Gatehouse.Outcome
open Gatehouse.Yaml

mutual

/-- The settings of a file and of what it includes, gathered in a list. -/
def gatherTree (world : World) :
    Nat → List Location → String → Loading (List Entry)
  | fuel, opened, path => do
    let location ← locate world path
    if opened.contains location then
      throw (.includeCycle location.path)
    if (← get).merged.contains location then
      modify (·.report (.debug "Configuration file already merged, skipping"
        [("file", path)]))
      return []
    modify (·.merge location)
    let source ← readSource world location path
    modify (·.report (.debug "Loading configuration file"
      [("file", path), ("includes", toString source.includes.length)]))
    let own ← ofExcept (ownEntries path source.own)
    match fuel with
    | 0 => throw (.includeCycle location.path)
    | fuel + 1 =>
      gatherIncludes world fuel (location :: opened) path own source.includes

/-- The settings so far together with those of the included files. -/
def gatherIncludes (world : World) :
    Nat → List Location → String → List Entry → List String →
      Loading (List Entry)
  | _, _, _, entries, [] => pure entries
  | fuel, opened, origin, entries, path :: rest => do
    if !world.tree.exists? path then
      throw (.missingInclude path origin)
    let included ← gatherTree world fuel opened path
    let joined ← ofExcept (joinEntries entries included)
    gatherIncludes world fuel opened origin joined rest

end

/-! ## Actions from a walk -/

/-- The result of a loading computation from a walk, and the walk after it. -/
def runFrom {Result : Type} (walk : Walk) (loading : Loading Result) :
    Except Error Result × Walk :=
  loading.run.run walk

variable {Result Next : Type}

@[simp]
theorem runFrom_pure (walk : Walk) (result : Result) :
    runFrom walk (pure result) = (.ok result, walk) := rfl

@[simp]
theorem runFrom_throw (walk : Walk) (cause : Error) :
    runFrom walk (throw cause : Loading Result) = (.error cause, walk) := rfl

@[simp]
theorem runFrom_modify (walk : Walk) (change : Walk → Walk) :
    runFrom walk (modify change) = (.ok ⟨⟩, change walk) := rfl

@[simp]
theorem runFrom_get (walk : Walk) :
    runFrom walk get = (.ok walk, walk) := rfl

@[simp]
theorem runFrom_ofExcept (walk : Walk) (result : Except Error Result) :
    runFrom walk (ofExcept result) = (result, walk) := by
  cases result <;> rfl

theorem runFrom_bind (walk : Walk) (first : Loading Result)
    (next : Result → Loading Next) :
    runFrom walk (first >>= next) =
      match runFrom walk first with
      | (.ok result, after) => runFrom after (next result)
      | (.error cause, after) => (.error cause, after) := by
  rcases outcome : runFrom walk first with ⟨_ | _, after⟩
  all_goals
    unfold runFrom at outcome ⊢
    rw [ExceptT.run_bind, StateT.run_bind]
    simp only [outcome]
    rfl

theorem runFrom_map (walk : Walk) (change : Result → Next)
    (loading : Loading Result) :
    runFrom walk (change <$> loading) =
      match runFrom walk loading with
      | (.ok result, after) => (.ok (change result), after)
      | (.error cause, after) => (.error cause, after) := by
  rw [map_eq_pure_bind, runFrom_bind]
  rfl

/-- Loading computations are the same if they do the same from every walk. -/
theorem eq_of_runFrom {first second : Loading Result}
    (same : ∀ walk, runFrom walk first = runFrom walk second) :
    first = second :=
  funext same

/-- The walk with some more reports. -/
def Walk.reportAll (walk : Walk) (events : List Event) : Walk :=
  events.foldl Walk.report walk

/-! ## Reading one file -/

/-- What the file at a location says, or why it says nothing. -/
def sourceAt (world : World) (location : Location) (origin : String) :
    Except Error Source :=
  match world.tree.readAt location with
  | .error cause => .error (.unreadable location.path cause)
  | .ok text => Source.parse origin location.parentPath text

@[simp]
theorem runFrom_readSource (walk : Walk) (world : World)
    (location : Location) (origin : String) :
    runFrom walk (readSource world location origin) =
      (sourceAt world location origin, walk.read location) := by
  rw [readSource, runFrom_bind, runFrom_modify, sourceAt]
  dsimp only
  cases world.tree.readAt location with
  | error cause => rfl
  | ok text =>
      dsimp only
      cases Source.parse origin location.parentPath text <;> rfl

theorem runFrom_locate (walk : Walk) (world : World) (path : String) :
    runFrom walk (locate world path) =
      ((world.tree.locate path).mapError (Error.unreadable path), walk) := by
  rw [locate]
  cases world.tree.locate path <;> rfl

/-- The walk with one more merged file that was read as well. -/
def Walk.enter (walk : Walk) (location : Location) : Walk :=
  (walk.merge location).read location

/-! ## Going to a file -/

/-- What is reported when a file is merged already. -/
def skippedEvent (path : String) : Event :=
  .debug "Configuration file already merged, skipping" [("file", path)]

/-- What is reported when a file has been read. -/
def readEvent (path : String) (source : Source) : Event :=
  .debug "Loading configuration file"
    [("file", path), ("includes", toString source.includes.length)]

/-- What is left to do at the first visit of a file. -/
def visitFile (world : World) (fuel : Nat) (opened : List Location)
    (path : String) (location : Location) : Loading (List Entry) := do
  let source ← readSource world location path
  modify (·.report (readEvent path source))
  let own ← ofExcept (ownEntries path source.own)
  match fuel with
  | 0 => throw (.includeCycle location.path)
  | fuel + 1 =>
    gatherIncludes world fuel (location :: opened) path own source.includes

section Tree

variable {world : World} {fuel : Nat} {opened : List Location}
  {path : String} {walk : Walk}

/-- A path that leads nowhere is refused. -/
theorem gatherTree_unlocated {cause : Fault}
    (unlocated : world.tree.locate path = .error cause) :
    runFrom walk (gatherTree world fuel opened path) =
      (.error (.unreadable path cause), walk) := by
  rw [gatherTree, runFrom_bind, runFrom_locate, unlocated]
  rfl

/-- A file that is still open closes a cycle. -/
theorem gatherTree_opened {location : Location}
    (located : world.tree.locate path = .ok location)
    (member : location ∈ opened) :
    runFrom walk (gatherTree world fuel opened path) =
      (.error (.includeCycle location.path), walk) := by
  rw [gatherTree, runFrom_bind, runFrom_locate, located]
  simp only [mapError_ok, List.contains_iff_mem, member, if_true]
  rw [runFrom_bind, runFrom_throw]

/-- A file that is merged already adds nothing. -/
theorem gatherTree_merged {location : Location}
    (located : world.tree.locate path = .ok location)
    (notOpened : location ∉ opened) (member : location ∈ walk.merged) :
    runFrom walk (gatherTree world fuel opened path) =
      (.ok [], walk.report (skippedEvent path)) := by
  rw [gatherTree, runFrom_bind, runFrom_locate, located]
  simp only [mapError_ok, List.contains_iff_mem, notOpened, if_false]
  rw [runFrom_bind, runFrom_get]
  simp only [member, if_true]
  rw [runFrom_bind, runFrom_modify]
  rfl

/-- The first visit of a file merges it, reads it and follows its includes. -/
theorem gatherTree_first {location : Location}
    (located : world.tree.locate path = .ok location)
    (notOpened : location ∉ opened) (notMerged : location ∉ walk.merged) :
    runFrom walk (gatherTree world fuel opened path) =
      runFrom (walk.merge location)
        (visitFile world fuel opened path location) := by
  rw [gatherTree, runFrom_bind, runFrom_locate, located]
  simp only [mapError_ok, List.contains_iff_mem, notOpened, if_false]
  rw [runFrom_bind, runFrom_get]
  simp only [notMerged, if_false]
  rw [runFrom_bind, runFrom_modify]
  rfl

end Tree

/-! ## Visiting a file and going through an include list -/

/-- A visit reads the file, names its settings and follows its includes. -/
theorem runFrom_visitFile (world : World) (fuel : Nat)
    (opened : List Location) (path : String) (location : Location)
    (walk : Walk) :
    runFrom walk (visitFile world fuel opened path location) =
      match sourceAt world location path with
      | .error cause => (.error cause, walk.read location)
      | .ok source =>
        match ownEntries path source.own with
        | .error cause =>
          (.error cause, (walk.read location).report (readEvent path source))
        | .ok own =>
          match fuel with
          | 0 =>
            (.error (.includeCycle location.path),
              (walk.read location).report (readEvent path source))
          | fuel + 1 =>
            runFrom ((walk.read location).report (readEvent path source))
              (gatherIncludes world fuel (location :: opened) path own
                source.includes) := by
  rw [visitFile, runFrom_bind, runFrom_readSource]
  cases sourceAt world location path with
  | error cause => rfl
  | ok source =>
      dsimp only
      rw [runFrom_bind, runFrom_modify]
      dsimp only
      rw [runFrom_bind, runFrom_ofExcept]
      cases ownEntries path source.own with
      | error cause => rfl
      | ok own =>
          cases fuel with
          | zero => rfl
          | succ fuel => rfl

section Includes

variable {world : World} {fuel : Nat} {opened : List Location}
  {origin path : String} {entries : List Entry} {rest : List String}
  {walk : Walk}

@[simp]
theorem gatherIncludes_nil :
    runFrom walk (gatherIncludes world fuel opened origin entries []) =
      (.ok entries, walk) := by
  rw [gatherIncludes, runFrom_pure]

theorem gatherIncludes_missing
    (missing : world.tree.exists? path = false) :
    runFrom walk
        (gatherIncludes world fuel opened origin entries (path :: rest)) =
      (.error (.missingInclude path origin), walk) := by
  rw [gatherIncludes]
  simp only [missing, Bool.not_false, if_true]
  rw [runFrom_bind, runFrom_throw]

/-- An included file is loaded, then absorbed, then the rest follows. -/
theorem gatherIncludes_cons
    (present : world.tree.exists? path = true) :
    runFrom walk
        (gatherIncludes world fuel opened origin entries (path :: rest)) =
      match runFrom walk (gatherTree world fuel opened path) with
      | (.error cause, after) => (.error cause, after)
      | (.ok included, after) =>
        match joinEntries entries included with
        | .error cause => (.error cause, after)
        | .ok joined =>
          runFrom after
            (gatherIncludes world fuel opened origin joined rest) := by
  rw [gatherIncludes]
  simp only [present, Bool.not_true]
  rw [if_neg Bool.false_ne_true, runFrom_bind]
  rcases runFrom walk (gatherTree world fuel opened path) with
    ⟨cause | included, after⟩
  · rfl
  · dsimp only
    rw [runFrom_bind, runFrom_ofExcept]
    cases joinEntries entries included with
    | error cause => rfl
    | ok joined => rfl

end Includes

/-! ## When they give a result -/

theorem visitFile_ok_iff {world : World} {fuel : Nat}
    {opened : List Location} {path : String} {location : Location}
    {walk after : Walk} {result : List Entry} :
    runFrom walk (visitFile world fuel opened path location) =
        (.ok result, after) ↔
      ∃ source own left,
        sourceAt world location path = .ok source ∧
        ownEntries path source.own = .ok own ∧
        fuel = left + 1 ∧
        runFrom ((walk.read location).report (readEvent path source))
            (gatherIncludes world left (location :: opened) path own
              source.includes) = (.ok result, after) := by
  rw [runFrom_visitFile]
  constructor
  · intro found
    split at found
    · cases found
    · rename_i source read
      split at found
      · cases found
      · rename_i own named
        split at found
        · cases found
        · rename_i left
          exact ⟨source, own, left, read, named, rfl, found⟩
  · rintro ⟨source, own, left, read, named, rfl, found⟩
    simp only [read, named, found]

theorem gatherIncludes_cons_ok_iff {world : World} {fuel : Nat}
    {opened : List Location} {origin path : String}
    {entries result : List Entry} {rest : List String}
    {walk after : Walk} :
    runFrom walk
          (gatherIncludes world fuel opened origin entries (path :: rest)) =
        (.ok result, after) ↔
      ∃ included middle joined,
        world.tree.exists? path = true ∧
        runFrom walk (gatherTree world fuel opened path) =
          (.ok included, middle) ∧
        joinEntries entries included = .ok joined ∧
        runFrom middle
            (gatherIncludes world fuel opened origin joined rest) =
          (.ok result, after) := by
  cases present : world.tree.exists? path with
  | false =>
      rw [gatherIncludes_missing present]
      simp
  | true =>
      rw [gatherIncludes_cons present]
      constructor
      · intro found
        split at found
        · cases found
        · rename_i included middle loaded
          split at found
          · cases found
          · rename_i joined absorbed
            exact ⟨included, middle, joined, rfl, loaded, absorbed, found⟩
      · rintro ⟨included, middle, joined, _, loaded, absorbed, found⟩
        simp only [loaded, absorbed, found]

/--
Fuel is spent only where a file is visited: whatever holds with some fuel
if it holds with what a visit leaves of it holds with any fuel.
-/
theorem fuel_induction {holds : Nat → Prop}
    (visit : ∀ fuel, (∀ left, fuel = left + 1 → holds left) →
      holds fuel) (fuel : Nat) : holds fuel := by
  induction fuel with
  | zero =>
      apply visit
      intro left impossible
      exact (Nat.succ_ne_zero left impossible.symm).elim
  | succ fuel induction =>
      apply visit
      intro left same
      rw [← Nat.succ.inj same]
      exact induction

end Gatehouse.Config
