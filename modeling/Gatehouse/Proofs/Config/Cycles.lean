import Gatehouse.Proofs.Config.Acyclic
import Gatehouse.Proofs.Config.Descent
import Gatehouse.Proofs.Config.Paths

/-!
# Cycles of includes are found, and no others

A descent reports a cycle exactly where a path leads back to an open file.
The open files are the way to this place, so the file really reaches itself.
Conversely a descent that finds no fault has gone through an unfolding, which
no cycle has; and where files are orderly, a cycle is the only fault there is.
-/

namespace Gatehouse.Config

open Gatehouse.Files
open Gatehouse.Outcome
open Gatehouse.Yaml
open Relation

variable {world : World}

/-! ## No other fault looks like a cycle -/

theorem parse_ne_cycle {origin directory text shown : String} :
    Source.parse origin directory text ≠ .error (.includeCycle shown) := by
  intro refused
  rw [Source.parse, bind_eq_error_iff] at refused
  rcases refused with malformed | ⟨entries, _, refused⟩
  · unfold Source.mappingOf at malformed
    split at malformed <;> cases malformed
  rcases bind_eq_error_iff.mp refused with listed | ⟨_, _, impossible⟩
  · rcases mapError_eq_error_iff.mp listed with ⟨_, _, other⟩
    cases other
  · cases impossible

theorem sourceAt_ne_cycle {location : Location} {origin shown : String} :
    sourceAt world location origin ≠ .error (.includeCycle shown) := by
  intro refused
  unfold sourceAt at refused
  split at refused
  · cases refused
  · exact parse_ne_cycle refused

theorem ownEntries_ne_cycle {origin shown : String} {own : Mapping} :
    ownEntries origin own ≠ .error (.includeCycle shown) := by
  intro refused
  rcases mapM_eq_error_iff.mp refused with ⟨_, item, _, _, _, fault⟩
  split at fault <;> cases fault

theorem joinEntries_ne_cycle {entries included : List Entry} {shown : String} :
    joinEntries entries included ≠ .error (.includeCycle shown) := by
  induction included generalizing entries with
  | nil => simp [joinEntries]
  | cons entry rest induction =>
      rw [joinEntries]
      split
      · simp
      · exact induction

theorem finish_ne_cycle {entries : List Entry} {shown : String} :
    finish world entries ≠ .error (.includeCycle shown) := by
  intro refused
  rcases bind_eq_error_iff.mp refused with fault | ⟨_, _, impossible⟩
  · rcases interpolateDocument_eq_error_iff.mp fault with
      ⟨_, _, _, _, cause, _, _, _, other⟩
    cases cause <;> cases other
  · cases impossible

/-! ## A cycle that is reported is one -/

/-- The open files are the way from a start to the file that comes next. -/
inductive Way (edge : Location → Location → Prop)
    (starts : Location → Prop) : List Location → Location → Prop where
  | start {root : Location} (first : starts root) : Way edge starts [] root
  | next {opened : List Location} {file included : Location}
      (way : Way edge starts opened file) (step : edge file included) :
      Way edge starts (file :: opened) included

namespace Way

variable {edge : Location → Location → Prop} {starts : Location → Prop}
  {opened : List Location} {location : Location}

theorem reaches (way : Way edge starts opened location) :
    ∃ root, starts root ∧ ReflTransGen edge root location := by
  induction way with
  | start first => exact ⟨_, first, .refl⟩
  | next way step induction =>
      rcases induction with ⟨root, first, reaches⟩
      exact ⟨root, first, reaches.tail step⟩

/-- Every file on the way reaches the one that comes next. -/
theorem returns (way : Way edge starts opened location) {file : Location}
    (member : file ∈ opened) : TransGen edge file location := by
  induction way with
  | start first => cases member
  | next way step induction =>
      rcases List.mem_cons.mp member with rfl | inner
      · exact .single step
      · exact (induction inner).tail step

end Way

/-- The paths that a task goes to. -/
def Task.paths : Task → List String
  | .file path => [path]
  | .list _ _ paths => paths

/-- The paths that a task finds in a list. -/
def Task.listed : Task → List String
  | .file _ => []
  | .list _ _ paths => paths

/-- The settings that a task begins with. -/
def Task.entries : Task → List Entry
  | .file _ => []
  | .list _ entries _ => entries

section Descents

variable {opened reads : List Location} {task : Task} {walk after : Walk}
  {depth : Nat} {outcome : Except Error (List Entry)}

/-- A reported file lies on a cycle, and the open files lead to it. -/
theorem Descent.truthful {edge : Location → Location → Prop}
    {starts : Location → Prop}
    (descent : Descent world opened task walk reads depth outcome after)
    (edges : ∀ file paths, world.Names file paths → ∀ path ∈ paths,
      ∀ included, world.tree.locate path = .ok included →
        edge file included)
    (ways : ∀ path ∈ task.paths, ∀ location,
      world.tree.locate path = .ok location →
        Way edge starts opened location)
    {shown : String} (cycle : outcome = .error (.includeCycle shown)) :
    ∃ location, shown = location.path ∧
      (∃ root, starts root ∧ ReflTransGen edge root location) ∧
      TransGen edge location location := by
  induction descent with
  | unlocated located => cases cycle
  | cyclic located isOpen =>
      cases cycle
      have way := ways _ List.mem_cons_self _ located
      exact ⟨_, rfl, way.reaches, way.returns isOpen⟩
  | skipped located notOpen merged => cases cycle
  | unread located notOpen unmerged read =>
      cases cycle
      exact (sourceAt_ne_cycle read).elim
  | unnamed located notOpen unmerged read named =>
      cases cycle
      exact (ownEntries_ne_cycle named).elim
  | entered located notOpen unmerged read named inner induction =>
      have way := ways _ List.mem_cons_self _ located
      apply induction ?_ cycle
      intro path member included found
      apply Way.next way
      exact edges _ _ ((World.names_iff _).mpr ⟨_, read, rfl⟩) path member
        included found
  | done => cases cycle
  | missing absent => cases cycle
  | failed present head induction =>
      apply induction ?_ cycle
      intro path member
      rw [Task.paths, List.mem_singleton] at member
      exact ways path (member ▸ List.mem_cons_self)
  | conflicting present head absorbed induction =>
      cases cycle
      exact (joinEntries_ne_cycle absorbed).elim
  | continued present head absorbed tail headInduction tailInduction =>
      apply tailInduction ?_ cycle
      exact fun path member => ways path (List.mem_cons_of_mem _ member)

/-! ## Where files are orderly, nothing else is reported -/

/--
Files that can all be merged, whose includes are among them, and of which no
two define the same key.
-/
structure Orderly (world : World) (files : Location → Prop) : Prop where
  mergeable : ∀ file, files file → world.Mergeable file
  closed : ∀ file included, files file → world.Includes file included →
    files included
  apart : ∀ file other key, files file → files other →
    world.Defines file key → world.Defines other key → file = other

/-- The paths of a task lead to some files, and those in a list exist. -/
structure Task.LeadsTo (world : World) (task : Task)
    (files : Location → Prop) : Prop where
  leads : ∀ path ∈ task.paths, ∃ location,
    world.tree.locate path = .ok location ∧ files location
  present : ∀ path ∈ task.listed, world.tree.exists? path = true

variable {files : Location → Prop}

theorem Orderly.enter (orderly : Orderly world files) {location : Location}
    (member : files location) {path : String} {source : Source}
    {own : List Entry} (read : sourceAt world location path = .ok source)
    (named : ownEntries path source.own = .ok own) :
    (Task.list path own source.includes).LeadsTo world files := by
  rcases World.holds_of_read read named with ⟨settings, _, holds⟩
  rcases orderly.mergeable location member with
    ⟨_, includes, alike, present⟩
  obtain ⟨-, rfl⟩ := holds.unique alike
  refine ⟨fun name listed => ?_, present⟩
  rcases holds.exists_located listed (present name listed) with
    ⟨included, found⟩
  have edge : world.Includes location included :=
    ⟨settings, source.includes, holds, name, listed, found⟩
  exact ⟨included, found, orderly.closed location included member edge⟩

theorem Task.LeadsTo.head {origin path : String} {entries : List Entry}
    {rest : List String}
    (leads : (Task.list origin entries (path :: rest)).LeadsTo world files) :
    (Task.file path).LeadsTo world files := by
  refine ⟨fun name member => ?_, List.forall_mem_nil _⟩
  obtain rfl := List.mem_singleton.mp member
  exact leads.leads name List.mem_cons_self

theorem Task.LeadsTo.tail {origin path : String}
    {entries joined : List Entry} {rest : List String}
    (leads : (Task.list origin entries (path :: rest)).LeadsTo world files) :
    (Task.list origin joined rest).LeadsTo world files where
  leads := fun name member =>
    leads.leads name (List.mem_cons_of_mem path member)
  present := fun name member =>
    leads.present name (List.mem_cons_of_mem path member)

theorem Task.LeadsTo.mem {path : String} {location : Location}
    (leads : (Task.file path).LeadsTo world files)
    (located : world.tree.locate path = .ok location) : files location := by
  rcases leads.leads path List.mem_cons_self with ⟨other, found, member⟩
  rw [Except.ok.inj (located.symm.trans found)]
  exact member

/-- Only files that the task leads to are read. -/
theorem Descent.reads_mem
    (descent : Descent world opened task walk reads depth outcome after)
    (orderly : Orderly world files) (leads : task.LeadsTo world files) :
    ∀ location ∈ reads, files location := by
  induction descent with
  | unlocated located => exact nofun
  | cyclic located isOpen => exact nofun
  | skipped located notOpen merged => exact nofun
  | unread located notOpen unmerged read =>
      simpa using leads.mem located
  | unnamed located notOpen unmerged read named =>
      simpa using leads.mem located
  | entered located notOpen unmerged read named inner induction =>
      have member := leads.mem located
      rw [List.forall_mem_cons]
      exact ⟨member, induction (orderly.enter member read named)⟩
  | done => exact nofun
  | missing absent => exact nofun
  | failed present head induction => exact induction leads.head
  | conflicting present head absorbed induction =>
      exact induction leads.head
  | continued present head absorbed tail headInduction tailInduction =>
      rw [List.forall_mem_append]
      exact ⟨headInduction leads.head, tailInduction leads.tail⟩

/-- What is gathered has each key once, from the task or from a read file. -/
theorem Descent.gathers
    (descent : Descent world opened task walk reads depth outcome after)
    {result : List Entry} (found : outcome = .ok result)
    (distinct : (keysOf task.entries).Nodup) :
    (keysOf result).Nodup ∧ ∀ key ∈ keysOf result,
      key ∈ keysOf task.entries ∨
        ∃ location ∈ reads, world.Defines location key := by
  induction descent generalizing result with
  | unlocated located => cases found
  | cyclic located isOpen => cases found
  | skipped located notOpen merged =>
      cases found
      exact ⟨List.nodup_nil, nofun⟩
  | unread located notOpen unmerged read => cases found
  | unnamed located notOpen unmerged read named => cases found
  | entered located notOpen unmerged read named inner induction =>
      rcases World.holds_of_read read named with ⟨settings, rfl, holds⟩
      have ownDistinct := holds.nodup
      rw [← keysOf_fromSource] at ownDistinct
      rcases induction found ownDistinct with ⟨nodup, each⟩
      refine ⟨nodup, fun key member => .inr ?_⟩
      rcases each key member with own | ⟨location, read, defines⟩
      · rw [Task.entries, keysOf_fromSource] at own
        exact ⟨_, List.mem_cons_self, settings, _, holds, own⟩
      · exact ⟨location, List.mem_cons_of_mem _ read, defines⟩
  | done =>
      cases found
      exact ⟨distinct, fun key member => .inl member⟩
  | missing absent => cases found
  | failed present head induction => cases found
  | conflicting present head absorbed induction => cases found
  | continued present head absorbed tail headInduction tailInduction =>
      rcases headInduction rfl List.nodup_nil with ⟨headNodup, headEach⟩
      rcases joinEntries_eq_ok_iff.mp absorbed with ⟨rfl, _, disjoint⟩
      have joined := List.nodup_append'.mpr ⟨distinct, headNodup, disjoint⟩
      rw [← keysOf_append] at joined
      rcases tailInduction found joined with ⟨nodup, each⟩
      refine ⟨nodup, fun key member => ?_⟩
      rcases each key member with held | ⟨location, read, defines⟩
      · rw [Task.entries, keysOf_append, List.mem_append] at held
        rcases held with held | included
        · exact .inl held
        · rcases headEach key included with
            nothing | ⟨location, read, defines⟩
          · cases nothing
          · exact .inr ⟨location, List.mem_append_left _ read, defines⟩
      · exact .inr ⟨location, List.mem_append_right _ read, defines⟩

/-- All files that define a key of some settings are merged. -/
def Settled (world : World) (files : Location → Prop) (entries : List Entry)
    (merged : List Location) : Prop :=
  ∀ key ∈ keysOf entries, ∀ file, files file → world.Defines file key →
    file ∈ merged

/-- Where files are orderly, the only fault is a cycle. -/
theorem Descent.cyclic_of_orderly
    (descent : Descent world opened task walk reads depth outcome after)
    (orderly : Orderly world files) (leads : task.LeadsTo world files)
    (distinct : walk.merged.Nodup)
    (settled : Settled world files task.entries walk.merged)
    {cause : Error} (refused : outcome = .error cause) :
    ∃ location, cause = .includeCycle (Location.path location) := by
  induction descent with
  | unlocated located =>
      rcases leads.leads _ List.mem_cons_self with ⟨location, found, _⟩
      cases located.symm.trans found
  | cyclic located isOpen =>
      cases refused
      exact ⟨_, rfl⟩
  | skipped located notOpen merged => cases refused
  | @unread _ path _ location _ located notOpen unmerged read =>
      rcases orderly.mergeable _ (leads.mem located) with
        ⟨settings, includes, holds, _⟩
      cases read.symm.trans ((World.holds_iff path).mp holds)
  | @unnamed _ path _ location _ _ located notOpen unmerged read named =>
      rcases orderly.mergeable _ (leads.mem located) with
        ⟨settings, includes, holds, _⟩
      obtain rfl := Except.ok.inj
        (read.symm.trans ((World.holds_iff path).mp holds))
      cases named.symm.trans (ownEntries_namedMapping path settings)
  | entered located notOpen unmerged read named inner induction =>
      have member := leads.mem located
      apply induction (orderly.enter member read named) ?_ ?_ refused
      · exact List.nodup_cons.mpr ⟨unmerged, distinct⟩
      · -- The file itself defines its keys, so no other file does.
        rcases World.holds_of_read read named with ⟨settings, rfl, holds⟩
        intro key own file other defines
        rw [Task.entries, keysOf_fromSource] at own
        rw [orderly.apart _ _ key other member defines
          ⟨settings, _, holds, own⟩]
        exact List.mem_cons_self
  | done => cases refused
  | @missing _ _ path _ _ _ absent =>
      have present := leads.present path List.mem_cons_self
      rw [absent] at present
      cases present
  | failed present head induction =>
      exact induction leads.head distinct nofun refused
  | @conflicting _ _ _ entries included _ _ _ _ _ _ present head absorbed =>
      rcases head.gathers rfl List.nodup_nil with ⟨nodup, each⟩
      have disjoint : (keysOf entries).Disjoint (keysOf included) := by
        intro key held included
        rcases each key included with nothing | ⟨location, read, defines⟩
        · cases nothing
        have member := head.reads_mem orderly leads.head location read
        have merged := settled key held location member defines
        exact (head.nodup_reads distinct).2 read merged
      cases absorbed.symm.trans
        (joinEntries_eq_ok_iff.mpr ⟨rfl, nodup, disjoint⟩)
  | continued present head absorbed tail headInduction tailInduction =>
      rcases head.gathers rfl List.nodup_nil with ⟨_, each⟩
      rcases joinEntries_eq_ok_iff.mp absorbed with ⟨rfl, _, _⟩
      apply tailInduction leads.tail (head.nodup_merged distinct) ?_ refused
      intro key held file member defines
      rw [head.merged_eq, List.mem_append, List.mem_reverse]
      rw [Task.entries, keysOf_append, List.mem_append] at held
      rcases held with held | included
      · exact .inr (settled key held file member defines)
      · rcases each key included with nothing | ⟨location, read, definesToo⟩
        · cases nothing
        have other := head.reads_mem orderly leads.head location read
        rw [orderly.apart file location key member other defines definesToo]
        exact .inl read

/-! ## What is gone through has no cycle -/

/-- A task that is done without a fault goes through an unfolding. -/
theorem Descent.unfolds
    (descent : Descent world opened task walk reads depth outcome after)
    {result : List Entry} (found : outcome = .ok result)
    (covered : Covered world opened walk.merged)
    (distinct : (keysOf task.entries).Nodup) :
    ∃ visits, Visits world task.paths visits ∧
      ∀ visit ∈ visits, visit.location ∉ opened := by
  have run := runFrom_of_descent descent (Nat.le_refl depth)
  rw [found] at run
  cases task with
  | file path =>
      have follows := gatherTree_follows
        (fun left _ => gatherIncludes_follows world left) covered run
      rcases follows with ⟨_, visits, follows⟩
      exact ⟨visits, follows.unfolds, follows.avoids⟩
  | list origin entries paths =>
      rcases gatherIncludes_follows world depth covered distinct run with
        ⟨_, _, visits, _, _, follows⟩
      exact ⟨visits, follows.unfolds, follows.avoids⟩

end Descents

/--
Edges that are includes wherever a file is visited lead from no visited file
to a cycle.
-/
theorem Visits.no_cycle {edge : Location → Location → Prop}
    {paths : List String} {visits : List Visit}
    (unfolds : Visits world paths visits)
    (within : ∀ file ∈ locationsOf visits, ∀ included, edge file included →
      world.Includes file included)
    {file location : Location} (member : file ∈ locationsOf visits)
    (reaches : ReflTransGen edge file location) :
    ¬ TransGen edge location location := by
  have steps : ∀ {former latter : Location},
      former ∈ locationsOf visits → ReflTransGen edge former latter →
        latter ∈ locationsOf visits := by
    intro former latter inside reaches
    induction reaches with
    | refl => exact inside
    | tail _ step induction =>
        exact unfolds.mem_of_includes induction (within _ induction _ step)
  have inside := steps member reaches
  intro cycle
  apply unfolds.acyclic inside
  have includes : ∀ {latter : Location}, TransGen edge location latter →
      TransGen world.Includes location latter := by
    intro latter reaches
    induction reaches with
    | single step => exact .single (within _ inside _ step)
    | tail before step induction =>
        have between := steps inside before.to_reflTransGen
        exact induction.tail (within _ between _ step)
  exact includes cycle

end Gatehouse.Config
