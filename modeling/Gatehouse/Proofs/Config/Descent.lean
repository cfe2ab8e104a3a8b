import Gatehouse.Proofs.Config.Following
import Mathlib.Data.List.Dedup

/-!
# The descent into included files

What loading files does, said by rules that have no fuel: a descent exists
for every world, reads no file twice and is never nested deeper than there
are files and one more.  With at least as much fuel as a descent is deep, the
loader does just what the rules say.
-/

namespace Gatehouse.Config

open Gatehouse.Files
open Gatehouse.Outcome
open Gatehouse.Yaml

/-- Something to do on a walk: to load one file, or all files of a list. -/
inductive Task where
  | file (path : String)
  | list (origin : String) (entries : List Entry) (paths : List String)

/-- How the loader does a task. -/
def Task.run (world : World) (fuel : Nat) (opened : List Location) :
    Task → Loading (List Entry)
  | .file path => gatherTree world fuel opened path
  | .list origin entries paths =>
    gatherIncludes world fuel opened origin entries paths

/--
A task is done from a walk while some files are open.  The locations at which
something is read are told in order, and how deeply loads are nested.
-/
inductive Descent (world : World) : List Location → Task → Walk →
    List Location → Nat → Except Error (List Entry) → Walk → Prop where
  | unlocated {opened : List Location} {path : String} {walk : Walk}
      {cause : Fault} (located : world.tree.locate path = .error cause) :
      Descent world opened (.file path) walk [] 1
        (.error (.unreadable path cause)) walk
  | cyclic {opened : List Location} {path : String} {walk : Walk}
      {location : Location} (located : world.tree.locate path = .ok location)
      (isOpen : location ∈ opened) :
      Descent world opened (.file path) walk [] 1
        (.error (.includeCycle location.path)) walk
  | skipped {opened : List Location} {path : String} {walk : Walk}
      {location : Location} (located : world.tree.locate path = .ok location)
      (notOpen : location ∉ opened) (merged : location ∈ walk.merged) :
      Descent world opened (.file path) walk [] 1 (.ok [])
        (walk.report (skippedEvent path))
  | unread {opened : List Location} {path : String} {walk : Walk}
      {location : Location} {cause : Error}
      (located : world.tree.locate path = .ok location)
      (notOpen : location ∉ opened) (unmerged : location ∉ walk.merged)
      (read : sourceAt world location path = .error cause) :
      Descent world opened (.file path) walk [location] 1 (.error cause)
        (walk.enter location)
  | unnamed {opened : List Location} {path : String} {walk : Walk}
      {location : Location} {source : Source} {cause : Error}
      (located : world.tree.locate path = .ok location)
      (notOpen : location ∉ opened) (unmerged : location ∉ walk.merged)
      (read : sourceAt world location path = .ok source)
      (named : ownEntries path source.own = .error cause) :
      Descent world opened (.file path) walk [location] 1 (.error cause)
        ((walk.enter location).report (readEvent path source))
  | entered {opened : List Location} {path : String} {walk after : Walk}
      {location : Location} {source : Source} {own : List Entry}
      {reads : List Location} {depth : Nat}
      {outcome : Except Error (List Entry)}
      (located : world.tree.locate path = .ok location)
      (notOpen : location ∉ opened) (unmerged : location ∉ walk.merged)
      (read : sourceAt world location path = .ok source)
      (named : ownEntries path source.own = .ok own)
      (inner : Descent world (location :: opened)
        (.list path own source.includes)
        ((walk.enter location).report (readEvent path source))
        reads depth outcome after) :
      Descent world opened (.file path) walk (location :: reads) (depth + 1)
        outcome after
  | done {opened : List Location} {origin : String} {entries : List Entry}
      {walk : Walk} :
      Descent world opened (.list origin entries []) walk [] 0 (.ok entries)
        walk
  | missing {opened : List Location} {origin path : String}
      {entries : List Entry} {rest : List String} {walk : Walk}
      (absent : world.tree.exists? path = false) :
      Descent world opened (.list origin entries (path :: rest)) walk [] 0
        (.error (.missingInclude path origin)) walk
  | failed {opened : List Location} {origin path : String}
      {entries : List Entry} {rest : List String} {walk after : Walk}
      {reads : List Location} {depth : Nat} {cause : Error}
      (present : world.tree.exists? path = true)
      (head : Descent world opened (.file path) walk reads depth
        (.error cause) after) :
      Descent world opened (.list origin entries (path :: rest)) walk reads
        depth (.error cause) after
  | conflicting {opened : List Location} {origin path : String}
      {entries included : List Entry} {rest : List String}
      {walk after : Walk} {reads : List Location} {depth : Nat}
      {cause : Error} (present : world.tree.exists? path = true)
      (head : Descent world opened (.file path) walk reads depth
        (.ok included) after)
      (absorbed : joinEntries entries included = .error cause) :
      Descent world opened (.list origin entries (path :: rest)) walk reads
        depth (.error cause) after
  | continued {opened : List Location} {origin path : String}
      {entries included joined : List Entry} {rest : List String}
      {walk middle after : Walk} {reads others : List Location}
      {depth further : Nat} {outcome : Except Error (List Entry)}
      (present : world.tree.exists? path = true)
      (head : Descent world opened (.file path) walk reads depth
        (.ok included) middle)
      (absorbed : joinEntries entries included = .ok joined)
      (tail : Descent world opened (.list origin joined rest) middle others
        further outcome after) :
      Descent world opened (.list origin entries (path :: rest)) walk
        (reads ++ others) (max depth further) outcome after

variable {world : World} {opened reads : List Location} {task : Task}
  {walk after : Walk} {depth : Nat} {outcome : Except Error (List Entry)}

/-! ## The loader descends -/

/-- With enough fuel the loader does what a descent says. -/
theorem runFrom_of_descent
    (descent : Descent world opened task walk reads depth outcome after)
    {fuel : Nat} (enough : depth ≤ fuel) :
    runFrom walk (task.run world fuel opened) = (outcome, after) := by
  induction descent generalizing fuel with
  | unlocated located => exact gatherTree_unlocated located
  | cyclic located isOpen => exact gatherTree_opened located isOpen
  | skipped located notOpen merged =>
      exact gatherTree_merged located notOpen merged
  | unread located notOpen unmerged read =>
      show runFrom _ (gatherTree _ _ _ _) = _
      rw [gatherTree_first located notOpen unmerged, runFrom_visitFile, read]
      rfl
  | unnamed located notOpen unmerged read named =>
      show runFrom _ (gatherTree _ _ _ _) = _
      rw [gatherTree_first located notOpen unmerged, runFrom_visitFile, read]
      dsimp only
      rw [named]
      rfl
  | entered located notOpen unmerged read named inner induction =>
      show runFrom _ (gatherTree _ _ _ _) = _
      rw [gatherTree_first located notOpen unmerged, runFrom_visitFile, read]
      dsimp only
      rw [named]
      cases fuel with
      | zero => exact (Nat.not_succ_le_zero _ enough).elim
      | succ fuel => exact induction (Nat.le_of_succ_le_succ enough)
  | done => exact gatherIncludes_nil
  | missing absent => exact gatherIncludes_missing absent
  | failed present head induction =>
      show runFrom _ (gatherIncludes _ _ _ _ _ _) = _
      have loaded := induction enough
      rw [Task.run] at loaded
      rw [gatherIncludes_cons present, loaded]
  | conflicting present head absorbed induction =>
      show runFrom _ (gatherIncludes _ _ _ _ _ _) = _
      have loaded := induction enough
      rw [Task.run] at loaded
      rw [gatherIncludes_cons present, loaded]
      dsimp only
      rw [absorbed]
  | continued present head absorbed tail headInduction tailInduction =>
      show runFrom _ (gatherIncludes _ _ _ _ _ _) = _
      have loaded := headInduction (Nat.le_trans (Nat.le_max_left _ _) enough)
      rw [Task.run] at loaded
      rw [gatherIncludes_cons present, loaded]
      dsimp only
      rw [absorbed]
      exact tailInduction (Nat.le_trans (Nat.le_max_right _ _) enough)

/-! ## No file is read twice -/

/-- What is read is merged at that moment, latest first. -/
theorem Descent.merged_eq
    (descent : Descent world opened task walk reads depth outcome after) :
    after.merged = reads.reverse ++ walk.merged := by
  induction descent with
  | unlocated located => rfl
  | cyclic located isOpen => rfl
  | skipped located notOpen merged => rfl
  | unread located notOpen unmerged read => rfl
  | unnamed located notOpen unmerged read named => rfl
  | entered located notOpen unmerged read named inner induction =>
      rw [induction, List.reverse_cons, List.append_assoc]
      rfl
  | done => rfl
  | missing absent => rfl
  | failed present head induction => exact induction
  | conflicting present head absorbed induction => exact induction
  | continued present head absorbed tail headInduction tailInduction =>
      rw [tailInduction, headInduction, List.reverse_append,
        List.append_assoc]

/-- What is read is what the walk has asked for, latest first. -/
theorem Descent.reads_eq
    (descent : Descent world opened task walk reads depth outcome after) :
    after.reads = reads.reverse ++ walk.reads := by
  induction descent with
  | unlocated located => rfl
  | cyclic located isOpen => rfl
  | skipped located notOpen merged => rfl
  | unread located notOpen unmerged read => rfl
  | unnamed located notOpen unmerged read named => rfl
  | entered located notOpen unmerged read named inner induction =>
      rw [induction, List.reverse_cons, List.append_assoc]
      rfl
  | done => rfl
  | missing absent => rfl
  | failed present head induction => exact induction
  | conflicting present head absorbed induction => exact induction
  | continued present head absorbed tail headInduction tailInduction =>
      rw [tailInduction, headInduction, List.reverse_append,
        List.append_assoc]

/-- Only what is not merged yet is read, and it is read once. -/
theorem Descent.nodup_merged
    (descent : Descent world opened task walk reads depth outcome after)
    (distinct : walk.merged.Nodup) : after.merged.Nodup := by
  induction descent with
  | unlocated located => exact distinct
  | cyclic located isOpen => exact distinct
  | skipped located notOpen merged => exact distinct
  | unread located notOpen unmerged read =>
      exact List.nodup_cons.mpr ⟨unmerged, distinct⟩
  | unnamed located notOpen unmerged read named =>
      exact List.nodup_cons.mpr ⟨unmerged, distinct⟩
  | entered located notOpen unmerged read named inner induction =>
      apply induction
      exact List.nodup_cons.mpr ⟨unmerged, distinct⟩
  | done => exact distinct
  | missing absent => exact distinct
  | failed present head induction => exact induction distinct
  | conflicting present head absorbed induction => exact induction distinct
  | continued present head absorbed tail headInduction tailInduction =>
      exact tailInduction (headInduction distinct)

theorem Descent.nodup_reads
    (descent : Descent world opened task walk reads depth outcome after)
    (distinct : walk.merged.Nodup) :
    reads.Nodup ∧ reads.Disjoint walk.merged := by
  have merged := descent.nodup_merged distinct
  rw [descent.merged_eq] at merged
  have apart := List.disjoint_of_nodup_append merged
  exact ⟨List.nodup_reverse.mp (List.Nodup.of_append_left merged),
    fun location read => apart (List.mem_reverse.mpr read)⟩

/-! ## How deep a descent is -/

/-- The locations of the files of a tree, each once. -/
def distinctFiles (tree : Tree) : List Location :=
  (tree.files.map Prod.fst).dedup

/-- Different files of a tree are open, so loads are not nested deeper. -/
theorem Descent.depth_le
    (descent : Descent world opened task walk reads depth outcome after)
    (distinct : opened.Nodup)
    (inTree : opened ⊆ world.tree.files.map Prod.fst) :
    depth + opened.length ≤ (distinctFiles world.tree).length + 1 := by
  have bounded : ∀ {files : List Location}, files.Nodup →
      files ⊆ world.tree.files.map Prod.fst →
      files.length ≤ (distinctFiles world.tree).length := by
    intro files distinct inTree
    apply List.Subperm.length_le
    apply List.subperm_of_subset distinct
    exact fun file member => List.mem_dedup.mpr (inTree member)
  have room := bounded distinct inTree
  induction descent with
  | unlocated located => omega
  | cyclic located isOpen => omega
  | skipped located notOpen merged => omega
  | unread located notOpen unmerged read => omega
  | unnamed located notOpen unmerged read named => omega
  | entered located notOpen unmerged read named inner induction =>
      have wider := List.nodup_cons.mpr ⟨notOpen, distinct⟩
      have within := List.cons_subset.mpr
        ⟨mem_files_of_sourceAt read, inTree⟩
      have deeper := induction wider within (bounded wider within)
      rw [List.length_cons] at deeper
      omega
  | done => omega
  | missing absent => omega
  | failed present head induction => exact induction distinct inTree room
  | conflicting present head absorbed induction =>
      exact induction distinct inTree room
  | continued present head absorbed tail headInduction tailInduction =>
      have first := headInduction distinct inTree room
      have second := tailInduction distinct inTree room
      omega

/-! ## There is a descent -/

/-- A task is done from every walk while some files are open. -/
def Descends (world : World) (opened : List Location) (task : Task) : Prop :=
  ∀ walk, ∃ reads depth outcome after,
    Descent world opened task walk reads depth outcome after

/-- A file is loaded if every list is gone through while it is open, too. -/
theorem descends_file {fuel : Nat} {path : String}
    (room : Room world fuel opened)
    (lists : ∀ left, fuel = left + 1 → ∀ opened, Room world left opened →
      ∀ task, Descends world opened task) :
    Descends world opened (.file path) := by
  intro walk
  cases located : world.tree.locate path with
  | error cause => exact ⟨_, _, _, _, .unlocated located⟩
  | ok location =>
      by_cases isOpen : location ∈ opened
      · exact ⟨_, _, _, _, .cyclic located isOpen⟩
      by_cases merged : location ∈ walk.merged
      · exact ⟨_, _, _, _, .skipped located isOpen merged⟩
      cases read : sourceAt world location path with
      | error cause => exact ⟨_, _, _, _, .unread located isOpen merged read⟩
      | ok source =>
          cases named : ownEntries path source.own with
          | error cause =>
              exact ⟨_, _, _, _, .unnamed located isOpen merged read named⟩
          | ok own =>
              rcases World.holds_of_read read named with
                ⟨settings, _, holds⟩
              rcases room.enter holds isOpen with ⟨left, less, wider⟩
              rcases lists left less _ wider (.list path own source.includes)
                ((walk.enter location).report (readEvent path source)) with
                ⟨reads, depth, outcome, after, inner⟩
              exact ⟨_, _, _, _,
                .entered located isOpen merged read named inner⟩

/-- A list is gone through if each of its files is loaded. -/
theorem descends_list {origin : String} {entries : List Entry}
    {paths : List String}
    (files : ∀ path ∈ paths, Descends world opened (.file path)) :
    Descends world opened (.list origin entries paths) := by
  intro walk
  induction paths generalizing entries walk with
  | nil => exact ⟨_, _, _, _, .done⟩
  | cons path rest induction =>
      cases present : world.tree.exists? path with
      | false => exact ⟨_, _, _, _, .missing present⟩
      | true =>
          rcases files path List.mem_cons_self walk with
            ⟨reads, depth, cause | included, middle, head⟩
          · exact ⟨_, _, _, _, .failed present head⟩
          cases absorbed : joinEntries entries included with
          | error cause =>
              exact ⟨_, _, _, _, .conflicting present head absorbed⟩
          | ok joined =>
              have behind : ∀ other ∈ rest,
                  Descends world opened (.file other) :=
                fun other member =>
                  files other (List.mem_cons_of_mem path member)
              rcases induction behind middle with
                ⟨others, further, outcome, after, tail⟩
              exact ⟨_, _, _, _, .continued present head absorbed tail⟩

/-- While different files of the tree are open, every task is done. -/
theorem descends {fuel : Nat} (room : Room world fuel opened)
    (task : Task) : Descends world opened task := by
  induction fuel using fuel_induction generalizing opened task with
  | visit fuel below =>
      have files : ∀ path, Descends world opened (.file path) :=
        fun path => descends_file room fun left less opened wider task =>
          below left less wider task
      cases task with
      | file path => exact files path
      | list origin entries paths =>
          apply descends_list
          exact fun path _ => files path

end Gatehouse.Config
