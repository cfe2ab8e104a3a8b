import Mathlib
import Gatehouse.Proofs.Config.Cycles
import Gatehouse.Proofs.Config.Override

/-!
# Where documents begin

A document begins with a file, with a text or with an override of a base.
However the files of a world include each other: loading the document ends,
reads no file twice, and reports a cycle only where there is one.  If all
files that are reached are in order, it reports every cycle.
-/

namespace Gatehouse.Config

open Gatehouse.Files
open Gatehouse.Outcome
open Gatehouse.Yaml
open Relation

variable {world : World}

/-- Where a document begins. -/
inductive Root where
  | file (path : String)
  | text (origin text : String)
  | override (path : String) (base : Option String)

namespace Root

/-- Load the document that begins here. -/
def load (world : World) : Root → Loading Document
  | .file path => Config.load world path
  | .text origin content => loadText world origin content
  | .override path base => loadOverride world path base

/-! ## The graph of a document -/

/--
The paths that are followed from a file: those that it lists, and from an
override also its base.
-/
inductive Follows (world : World) : Root → Location → List String → Prop where
  | listed {root : Root} {file : Location} {paths : List String}
      (names : world.Names file paths) : Follows world root file paths
  | override {path : String} {base : Option String} {file : Location}
      {listed : List String} (located : world.tree.locate path = .ok file)
      (names : world.Names file listed) :
      Follows world (.override path base) file
        (overrideIncludes world.tree listed base)

/-- A path that is followed from a file leads to another one. -/
def Edge (world : World) (root : Root) (file included : Location) : Prop :=
  ∃ paths, root.Follows world file paths ∧
    ∃ path ∈ paths, world.tree.locate path = .ok included

/-- The files with which a document begins. -/
inductive Starts (world : World) : Root → Location → Prop where
  | file {path : String} {location : Location}
      (located : world.tree.locate path = .ok location) :
      Starts world (.file path) location
  | text {origin text path : String} {paths : List String}
      {location : Location} (names : NamesPaths "." text paths)
      (listed : path ∈ paths)
      (located : world.tree.locate path = .ok location) :
      Starts world (.text origin text) location
  | override {path : String} {base : Option String} {location : Location}
      (located : world.tree.locate path = .ok location) :
      Starts world (.override path base) location

/-- A file is reached from the beginning of a document. -/
def Reaches (world : World) (root : Root) (location : Location) : Prop :=
  ∃ start, root.Starts world start ∧
    ReflTransGen (root.Edge world) start location

/-- The beginning of a document is there and in order. -/
inductive Begins (world : World) : Root → Prop where
  | file {path : String} {location : Location}
      (located : world.tree.locate path = .ok location) :
      Begins world (.file path)
  | text {origin text : String} {settings : List (String × Value)}
      {paths : List String} (holds : HoldsSettings "." text settings paths)
      (present : ∀ path ∈ paths, world.Leads path)
      (apart : ∀ key ∈ settings.map Prod.fst, ∀ file,
        (Root.text origin text).Reaches world file →
          ¬ world.Defines file key) :
      Begins world (.text origin text)
  | override {path : String} {base : Option String} {location : Location}
      (located : world.tree.locate path = .ok location) :
      Begins world (.override path base)

/--
The beginning of a document and all files that are reached are there and
well-formed, all that they follow exists, and no key is defined twice.
-/
structure Tidy (world : World) (root : Root) : Prop where
  begins : root.Begins world
  holds : ∀ file, root.Reaches world file →
    ∃ settings includes, world.Holds file settings includes
  present : ∀ file paths, root.Reaches world file →
    root.Follows world file paths → ∀ path ∈ paths, world.Leads path
  apart : ∀ file other key, root.Reaches world file →
    root.Reaches world other → world.Defines file key →
    world.Defines other key → file = other

theorem Tidy.orderly {root : Root} (tidy : root.Tidy world) :
    Orderly world (root.Reaches world) where
  mergeable := by
    intro file reached
    rcases tidy.holds file reached with ⟨settings, includes, holds⟩
    have present := tidy.present file includes reached (.listed holds.names)
    exact ⟨settings, includes, holds,
      fun path listed => (present path listed).1⟩
  closed := by
    rintro file included ⟨start, starts, reaches⟩ edge
    rcases edge with ⟨settings, includes, holds, path, listed, located⟩
    exact ⟨start, starts, reaches.tail
      ⟨includes, .listed holds.names, path, listed, located⟩⟩
  apart := tidy.apart

/-! ## Loading without fuel -/

/-- What is left to do with the files that an override includes. -/
def overlaid (world : World) (path : String) (source : Source)
    (lower : List Entry) : Except Error Document := do
  let own ← ownEntries path source.own
  finish world (replaceEntries lower own)

/--
What loading a document gives, with the locations at which something is read
on the way and how deeply the loads of files are nested.
-/
inductive Loads (world : World) : Root → List Location → Nat →
    Except Error Document → Prop where
  | file {path : String} {reads : List Location} {depth : Nat}
      {outcome : Except Error (List Entry)} {after : Walk}
      (descent : Descent world [] (.file path) .start reads depth outcome
        after) :
      Loads world (.file path) reads depth (outcome >>= finish world)
  | malformed {origin text : String} {cause : Error}
      (read : Source.parse origin "." text = .error cause) :
      Loads world (.text origin text) [] 0 (.error cause)
  | unnamed {origin text : String} {source : Source} {cause : Error}
      (read : Source.parse origin "." text = .ok source)
      (named : ownEntries origin source.own = .error cause) :
      Loads world (.text origin text) [] 0 (.error cause)
  | text {origin text : String} {source : Source} {own : List Entry}
      {reads : List Location} {depth : Nat}
      {outcome : Except Error (List Entry)} {after : Walk}
      (read : Source.parse origin "." text = .ok source)
      (named : ownEntries origin source.own = .ok own)
      (descent : Descent world [] (.list origin own source.includes) .start
        reads depth outcome after) :
      Loads world (.text origin text) reads depth (outcome >>= finish world)
  | unlocated {path : String} {base : Option String} {cause : Fault}
      (located : world.tree.locate path = .error cause) :
      Loads world (.override path base) [] 1
        (.error (.unreadable path cause))
  | unread {path : String} {base : Option String} {location : Location}
      {cause : Error} (located : world.tree.locate path = .ok location)
      (read : sourceAt world location path = .error cause) :
      Loads world (.override path base) [location] 1 (.error cause)
  | override {path : String} {base : Option String} {location : Location}
      {source : Source} {reads : List Location} {depth : Nat}
      {outcome : Except Error (List Entry)} {after : Walk}
      (located : world.tree.locate path = .ok location)
      (read : sourceAt world location path = .ok source)
      (descent : Descent world [location]
        (.list path [] (overrideIncludes world.tree source.includes base))
        (Walk.start.enter location) reads depth outcome after) :
      Loads world (.override path base) (location :: reads) (depth + 1)
        (outcome >>= overlaid world path source)

theorem room_override {location : Location} {path : String} {source : Source}
    (read : sourceAt world location path = .ok source) :
    Room world (walkFuel world) [location] where
  distinct := List.nodup_singleton location
  inTree :=
    List.cons_subset.mpr ⟨mem_files_of_sourceAt read, List.nil_subset _⟩
  enough := Nat.le_add_right _ _

/-- Loading ends, whatever the files of the world are. -/
theorem exists_loads (world : World) (root : Root) :
    ∃ reads depth result, root.Loads world reads depth result := by
  cases root with
  | file path =>
      rcases descends (Room.start world) (.file path) .start with
        ⟨reads, depth, outcome, after, descent⟩
      exact ⟨_, _, _, .file descent⟩
  | text origin text =>
      cases read : Source.parse origin "." text with
      | error cause => exact ⟨_, _, _, .malformed read⟩
      | ok source =>
          cases named : ownEntries origin source.own with
          | error cause => exact ⟨_, _, _, .unnamed read named⟩
          | ok own =>
              rcases descends (Room.start world)
                (.list origin own source.includes) .start with
                ⟨reads, depth, outcome, after, descent⟩
              exact ⟨_, _, _, .text read named descent⟩
  | override path base =>
      cases located : world.tree.locate path with
      | error cause => exact ⟨_, _, _, .unlocated located⟩
      | ok location =>
          cases read : sourceAt world location path with
          | error cause => exact ⟨_, _, _, .unread located read⟩
          | ok source =>
              rcases descends (room_override read)
                (.list path []
                  (overrideIncludes world.tree source.includes base))
                (Walk.start.enter location) with
                ⟨reads, depth, outcome, after, descent⟩
              exact ⟨_, _, _, .override located read descent⟩

section Loading

variable {root : Root} {reads : List Location} {depth : Nat}
  {result : Except Error Document}

theorem Loads.nodup_reads (loads : root.Loads world reads depth result) :
    reads.Nodup := by
  cases loads with
  | file descent => exact (descent.nodup_reads List.nodup_nil).1
  | malformed read => exact List.nodup_nil
  | unnamed read named => exact List.nodup_nil
  | text read named descent =>
      exact (descent.nodup_reads List.nodup_nil).1
  | unlocated located => exact List.nodup_nil
  | unread located read => exact List.nodup_singleton _
  | override located read descent =>
      rcases descent.nodup_reads (List.nodup_singleton _) with
        ⟨distinct, apart⟩
      refine List.nodup_cons.mpr ⟨fun again => ?_, distinct⟩
      exact apart again (List.mem_singleton_self _)

theorem Loads.depth_le (loads : root.Loads world reads depth result) :
    depth ≤ (distinctFiles world.tree).length + 1 := by
  cases loads with
  | file descent =>
      exact descent.depth_le List.nodup_nil (List.nil_subset _)
  | malformed read => exact Nat.zero_le _
  | unnamed read named => exact Nat.zero_le _
  | text read named descent =>
      exact descent.depth_le List.nodup_nil (List.nil_subset _)
  | unlocated located => exact Nat.le_add_left _ _
  | unread located read => exact Nat.le_add_left _ _
  | override located read descent =>
      have room := room_override read
      exact descent.depth_le room.distinct room.inTree

theorem depth_le_walkFuel
    (bounded : depth ≤ (distinctFiles world.tree).length + 1) :
    depth ≤ walkFuel world := by
  have fewer := (List.dedup_sublist
    (world.tree.files.map Prod.fst)).length_le
  rw [List.length_map] at fewer
  rw [distinctFiles] at bounded
  rw [walkFuel]
  omega

theorem reads_reportAll (walk : Walk) (events : List Event) :
    (walk.reportAll events).reads = walk.reads := by
  induction events generalizing walk with
  | nil => rfl
  | cons event rest induction => exact induction (walk.report event)

/--
The fuel of the loader suffices to do what the rules say, and what the rules
read is what the loader asks the files for.
-/
theorem Loads.run_eq (loads : root.Loads world reads depth result) :
    ∃ after, runFrom Walk.start (root.load world) = (result, after) ∧
      after.reads = reads.reverse := by
  have enough := depth_le_walkFuel loads.depth_le
  cases loads with
  | @file path _ _ outcome after descent =>
      have run := runFrom_of_descent descent enough
      have asked := descent.reads_eq
      rw [Task.run] at run
      refine ⟨after, ?_, asked.trans (List.append_nil _)⟩
      show runFrom _ (Config.load world path) = _
      rw [load_eq, runFrom_bind, run]
      cases outcome with
      | error cause => rfl
      | ok entries => exact runFrom_ofExcept ..
  | @malformed origin text _ read =>
      refine ⟨.start, ?_, rfl⟩
      show runFrom _ (loadText world origin text) = _
      rw [loadText_eq, runFrom_bind, runFrom_ofExcept, read]
  | @unnamed origin text source _ read named =>
      refine ⟨.start, ?_, rfl⟩
      show runFrom _ (loadText world origin text) = _
      rw [loadText_eq, runFrom_bind, runFrom_ofExcept, read]
      dsimp only
      rw [runFrom_bind, runFrom_ofExcept, named]
  | @text origin text source own _ _ outcome after read named descent =>
      have run := runFrom_of_descent descent enough
      have asked := descent.reads_eq
      rw [Task.run] at run
      refine ⟨after, ?_, asked.trans (List.append_nil _)⟩
      show runFrom _ (loadText world origin text) = _
      rw [loadText_eq, runFrom_bind, runFrom_ofExcept, read]
      dsimp only
      rw [runFrom_bind, runFrom_ofExcept, named]
      dsimp only
      rw [runFrom_bind, run]
      cases outcome with
      | error cause => rfl
      | ok entries => exact runFrom_ofExcept ..
  | @unlocated path base _ located =>
      refine ⟨.start, ?_, rfl⟩
      show runFrom _ (loadOverride world path base) = _
      rw [runFrom_loadOverride, located]
  | @unread path base location _ located read =>
      refine ⟨Walk.start.read location, ?_, rfl⟩
      show runFrom _ (loadOverride world path base) = _
      rw [runFrom_loadOverride, located]
      dsimp only
      rw [read]
  | @override path base location source _ _ outcome after located read
      descent =>
      have run := runFrom_of_descent descent (Nat.le_of_succ_le enough)
      have asked := descent.reads_eq
      rw [Task.run] at run
      -- Laying the override over the rest reports, but reads nothing.
      have laid : ∃ last,
          runFrom Walk.start (loadOverride world path base) =
            (outcome >>= overlaid world path source, last) ∧
          last.reads = after.reads := by
        rw [runFrom_loadOverride, located]
        dsimp only
        rw [read]
        dsimp only
        rw [run]
        cases outcome with
        | error cause => exact ⟨after, rfl, rfl⟩
        | ok lower =>
            have nothing : (keysOf []).Nodup := List.nodup_nil
            have distinct := nodup_gatherIncludes nothing run
            dsimp only
            rw [runFrom_layOver (distinct_of_sourceAt read) distinct]
            show ∃ last, _ = (overlaid world path source lower, _) ∧ _
            rw [overlaid]
            cases ownEntries path source.own with
            | error cause => exact ⟨after, rfl, rfl⟩
            | ok own => exact ⟨_, rfl, reads_reportAll after _⟩
      rcases laid with ⟨last, same, kept⟩
      refine ⟨last, same, kept.trans ?_⟩
      rw [asked, List.reverse_cons]
      rfl

theorem Loads.result_eq (loads : root.Loads world reads depth result) :
    (runLoading (root.load world)).1 = result := by
  rcases loads.run_eq with ⟨after, same, _⟩
  rw [runLoading_eq_runFrom, same]

theorem Loads.reads_eq (loads : root.Loads world reads depth result) :
    (runFrom Walk.start (root.load world)).2.reads = reads.reverse := by
  rcases loads.run_eq with ⟨after, same, asked⟩
  rw [same]
  exact asked

/-! ## Cycles -/

theorem edge_of_names {file included : Location} {paths : List String}
    {path : String} (names : world.Names file paths) (listed : path ∈ paths)
    (located : world.tree.locate path = .ok included) :
    root.Edge world file included :=
  ⟨paths, .listed names, path, listed, located⟩

/-- Away from an override, edges are includes wherever a file holds. -/
theorem includes_of_edge {file included : Location}
    (edge : root.Edge world file included)
    (mergeable : world.Mergeable file)
    (notOverride : ∀ path base, root = .override path base →
      world.tree.locate path ≠ .ok file) :
    world.Includes file included := by
  rcases edge with ⟨paths, follows, path, listed, located⟩
  rcases mergeable with ⟨settings, includes, holds, _⟩
  cases follows with
  | listed names =>
      obtain rfl := holds.names.unique names
      exact ⟨settings, includes, holds, path, listed, located⟩
  | override found names => exact (notOverride _ _ rfl found).elim

theorem finished_eq_cycle_iff {outcome : Except Error (List Entry)}
    {shown : String} {next : List Entry → Except Error Document}
    (other : ∀ entries, next entries ≠ .error (.includeCycle shown)) :
    outcome >>= next = .error (.includeCycle shown) ↔
      outcome = .error (.includeCycle shown) := by
  rw [bind_eq_error_iff]
  constructor
  · rintro (cycle | ⟨entries, _, impossible⟩)
    · exact cycle
    · exact (other entries impossible).elim
  · exact .inl

theorem overlaid_ne_cycle {path shown : String} {source : Source}
    (lower : List Entry) :
    overlaid world path source lower ≠ .error (.includeCycle shown) := by
  intro refused
  rcases bind_eq_error_iff.mp refused with unnamed | ⟨own, _, fault⟩
  · exact ownEntries_ne_cycle unnamed
  · exact finish_ne_cycle fault

/-- A file that is reported lies on a cycle that is reached. -/
theorem Loads.truthful (loads : root.Loads world reads depth result)
    {shown : String} (cycle : result = .error (.includeCycle shown)) :
    ∃ location, shown = Location.path location ∧
      root.Reaches world location ∧
      TransGen (root.Edge world) location location := by
  have edges : ∀ file paths, world.Names file paths → ∀ path ∈ paths,
      ∀ included, world.tree.locate path = .ok included →
        root.Edge world file included :=
    fun _ _ names _ listed _ located => edge_of_names names listed located
  cases loads with
  | @file path _ _ _ _ descent =>
      apply descent.truthful edges ?_
        ((finished_eq_cycle_iff fun _ => finish_ne_cycle).mp cycle)
      intro name member location located
      obtain rfl := List.mem_singleton.mp member
      exact .start (Starts.file located)
  | malformed read =>
      cases cycle
      exact (parse_ne_cycle read).elim
  | unnamed read named =>
      cases cycle
      exact (ownEntries_ne_cycle named).elim
  | @text origin text source _ _ _ _ _ read named descent =>
      apply descent.truthful edges ?_
        ((finished_eq_cycle_iff fun _ => finish_ne_cycle).mp cycle)
      intro path member location located
      have names := (namesPaths_iff origin).mpr ⟨source, read, rfl⟩
      exact .start (Starts.text names member located)
  | unlocated located => cases cycle
  | unread located read =>
      cases cycle
      exact (sourceAt_ne_cycle read).elim
  | @override path base _ source _ _ _ _ found read descent =>
      apply descent.truthful edges ?_
        ((finished_eq_cycle_iff overlaid_ne_cycle).mp cycle)
      intro name member location located
      have names := (World.names_iff path).mpr ⟨source, read, rfl⟩
      apply Way.next (.start (Starts.override found))
      exact ⟨_, .override found names, name, member, located⟩

/-- Away from an override, no visited file leads to a cycle. -/
theorem no_cycle_below {paths : List String} {visits : List Visit}
    {file location : Location}
    (noOverride : ∀ path base, root ≠ .override path base)
    (unfolds : Visits world paths visits)
    (visited : file ∈ locationsOf visits)
    (reaches : ReflTransGen (root.Edge world) file location) :
    ¬ TransGen (root.Edge world) location location := by
  apply unfolds.no_cycle ?_ visited reaches
  intro other member included edge
  exact includes_of_edge edge (unfolds.mergeable member)
    fun path base same => (noOverride path base same).elim

section Gathered

variable {after : Walk} {gathered : List Entry} {location : Location}

/-- A file whose includes are gone through without a fault has no cycle. -/
theorem no_cycle_file {path : String}
    (descent : Descent world [] (.file path) .start reads depth
      (.ok gathered) after)
    (reached : (Root.file path).Reaches world location) :
    ¬ TransGen ((Root.file path).Edge world) location location := by
  rcases reached with ⟨start, ⟨located⟩, reaches⟩
  rcases descent.unfolds rfl (Covered.of_subset (List.Subset.refl []))
    List.nodup_nil with ⟨visits, unfolds, _⟩
  have visited := unfolds.mem_of_listed List.mem_cons_self located
  exact no_cycle_below nofun unfolds visited reaches

/-- So has a text. -/
theorem no_cycle_text {origin text : String} {source : Source}
    {own : List Entry} (read : Source.parse origin "." text = .ok source)
    (named : ownEntries origin source.own = .ok own)
    (descent : Descent world [] (.list origin own source.includes) .start
      reads depth (.ok gathered) after)
    (reached : (Root.text origin text).Reaches world location) :
    ¬ TransGen ((Root.text origin text).Edge world) location location := by
  rcases reached with ⟨start, _ | ⟨names, listed, located⟩, reaches⟩
  rcases descent.unfolds rfl (Covered.of_subset (List.Subset.refl []))
    (nodup_keysOf_parsed read named) with ⟨visits, unfolds, _⟩
  rcases (namesPaths_iff origin).mp names with ⟨_, again, rfl⟩
  obtain rfl := Except.ok.inj (read.symm.trans again)
  have visited := unfolds.mem_of_listed listed located
  exact no_cycle_below nofun unfolds visited reaches

/-- Nor does an override, which itself is open all the time. -/
theorem no_cycle_override {path : String} {base : Option String}
    {file : Location} {source : Source}
    (located : world.tree.locate path = .ok file)
    (read : sourceAt world file path = .ok source)
    (descent : Descent world [file]
      (.list path [] (overrideIncludes world.tree source.includes base))
      (Walk.start.enter file) reads depth (.ok gathered) after)
    (reached : (Root.override path base).Reaches world location) :
    ¬ TransGen ((Root.override path base).Edge world) location location := by
  rcases reached with ⟨start, _ | _ | ⟨found⟩, reaches⟩
  obtain rfl := Except.ok.inj (located.symm.trans found)
  rcases descent.unfolds rfl (Covered.of_subset (List.Subset.refl [file]))
    List.nodup_nil with ⟨visits, unfolds, avoids⟩
  have within : ∀ other ∈ locationsOf visits, ∀ included,
      (Root.override path base).Edge world other included →
        world.Includes other included := by
    intro other member included edge
    apply includes_of_edge edge (unfolds.mergeable member)
    rintro name _ same again
    cases same
    obtain rfl := Except.ok.inj (located.symm.trans again)
    rcases mem_locationsOf.mp member with ⟨visit, visited, rfl⟩
    exact avoids visit visited List.mem_cons_self
  intro cycle
  -- The first step leads from the override to a file that is visited.
  rcases TransGen.head'_iff.mp (cycle.trans_right reaches) with
    ⟨next, ⟨paths, follows, name, listed, nextLocated⟩, behind⟩
  have names := (World.names_iff path).mpr ⟨source, read, rfl⟩
  have followed : name ∈
      overrideIncludes world.tree source.includes base := by
    cases follows with
    | listed alike =>
        obtain rfl := names.unique alike
        exact subset_overrideIncludes _ _ _ listed
    | override again alike =>
        obtain rfl := names.unique alike
        exact listed
  have visited := unfolds.mem_of_listed followed nextLocated
  exact unfolds.no_cycle within visited behind cycle

end Gathered

/-! ## Reporting every cycle -/

theorem leads_file {path : String} {location : Location}
    (located : world.tree.locate path = .ok location) :
    (Task.file path).LeadsTo world ((Root.file path).Reaches world) := by
  refine ⟨fun name member => ?_, List.forall_mem_nil _⟩
  obtain rfl := List.mem_singleton.mp member
  exact ⟨location, located, location, .file located, .refl⟩

theorem leads_text {origin text : String} {source : Source}
    {own : List Entry} (read : Source.parse origin "." text = .ok source)
    (present : ∀ path ∈ source.includes, world.Leads path) :
    (Task.list origin own source.includes).LeadsTo world
      ((Root.text origin text).Reaches world) := by
  refine ⟨fun path listed => ?_, fun path listed => (present path listed).1⟩
  rcases (present path listed).2 with ⟨location, located⟩
  have names := (namesPaths_iff origin).mpr ⟨source, read, rfl⟩
  exact ⟨location, located, location, .text names listed located, .refl⟩

theorem leads_override {path : String} {base : Option String}
    {file : Location} {source : Source}
    (tidy : (Root.override path base).Tidy world)
    (located : world.tree.locate path = .ok file)
    (read : sourceAt world file path = .ok source) :
    (Task.list path [] (overrideIncludes world.tree source.includes base)).LeadsTo
      world ((Root.override path base).Reaches world) := by
  have names := (World.names_iff path).mpr ⟨source, read, rfl⟩
  have follows : (Root.override path base).Follows world file
      (overrideIncludes world.tree source.includes base) :=
    .override located names
  have present := tidy.present file _ ⟨file, .override located, .refl⟩
    follows
  refine ⟨fun name listed => ?_, fun name listed => (present name listed).1⟩
  rcases (present name listed).2 with ⟨included, found⟩
  have edge : (Root.override path base).Edge world file included :=
    ⟨_, follows, name, listed, found⟩
  exact ⟨included, found, file, .override located, .single edge⟩

/-- Where all is in order, a cycle that is reached is reported. -/
theorem Loads.complete (loads : root.Loads world reads depth result)
    (tidy : root.Tidy world) {location : Location}
    (reached : root.Reaches world location)
    (cycle : TransGen (root.Edge world) location location) :
    ∃ shown, result = .error (.includeCycle shown) := by
  have orderly := tidy.orderly
  cases loads with
  | @file path _ _ outcome _ descent =>
      cases outcome with
      | ok gathered => exact (no_cycle_file descent reached cycle).elim
      | error cause =>
          rcases tidy.begins with ⟨located⟩
          rcases descent.cyclic_of_orderly orderly (leads_file located)
            List.nodup_nil nofun rfl with ⟨shown, rfl⟩
          exact ⟨_, rfl⟩
  | @malformed origin _ _ read =>
      rcases tidy.begins with _ | ⟨holds⟩
      cases read.symm.trans ((holdsSettings_iff origin).mp holds)
  | @unnamed origin text source _ read named =>
      rcases tidy.begins with _ | @⟨_, _, settings, _, holds⟩
      obtain rfl := Except.ok.inj
        (read.symm.trans ((holdsSettings_iff origin).mp holds))
      cases named.symm.trans (ownEntries_namedMapping origin settings)
  | @text origin text source own _ _ outcome _ read named descent =>
      cases outcome with
      | ok gathered =>
          exact (no_cycle_text read named descent reached cycle).elim
      | error cause =>
          rcases tidy.begins with
            _ | @⟨_, _, settings, _, holds, present, apart⟩
          obtain rfl := Except.ok.inj
            (read.symm.trans ((holdsSettings_iff origin).mp holds))
          obtain rfl := Except.ok.inj
            (named.symm.trans (ownEntries_namedMapping origin settings))
          have settled : Settled world
              ((Root.text origin text).Reaches world)
              (fromSource origin settings) Walk.start.merged := by
            intro key own file member defines
            rw [keysOf_fromSource] at own
            exact (apart key own file member defines).elim
          rcases descent.cyclic_of_orderly orderly (leads_text read present)
            List.nodup_nil settled rfl with ⟨shown, rfl⟩
          exact ⟨_, rfl⟩
  | unlocated located =>
      rcases tidy.begins with _ | _ | ⟨found⟩
      cases located.symm.trans found
  | @unread path base location _ located read =>
      have begins : (Root.override path base).Reaches world location :=
        ⟨_, .override located, .refl⟩
      rcases tidy.holds location begins with ⟨settings, includes, holds⟩
      cases read.symm.trans ((World.holds_iff path).mp holds)
  | @override path base file source _ _ outcome _ located read descent =>
      cases outcome with
      | ok gathered =>
          exact (no_cycle_override located read descent reached cycle).elim
      | error cause =>
          rcases descent.cyclic_of_orderly orderly
            (leads_override tidy located read) (List.nodup_singleton _) nofun
            rfl with ⟨shown, rfl⟩
          exact ⟨_, rfl⟩

end Loading

end Root

/--
What loading a document gives where files include each other in any way: it
comes from a finite descent that is hardly deeper than there are files, the
loader has asked for the files of the descent and for none twice, a cycle
that it reports is one, and it reports one if there is any and all is in
order.
-/
structure Resolves (world : World) (root : Root)
    (result : Except Error Document) (after : Walk) : Prop where
  terminates : ∃ reads depth, root.Loads world reads depth result
  readsOnce : after.reads.Nodup
  descends : ∀ {reads depth outcome},
    root.Loads world reads depth outcome →
    outcome = result ∧ reads = after.reads.reverse ∧
      depth ≤ (distinctFiles world.tree).length + 1
  truthful : ∀ {shown}, result = .error (.includeCycle shown) →
    ∃ location, shown = Location.path location ∧
      root.Reaches world location ∧
      TransGen (root.Edge world) location location
  complete : root.Tidy world → ∀ {location},
    root.Reaches world location →
    TransGen (root.Edge world) location location →
    ∃ shown, result = .error (.includeCycle shown)

/-- However files include each other, documents resolve their includes. -/
theorem resolves_runLoading (world : World) (root : Root) :
    Resolves world root (runLoading (root.load world)).1
      (runFrom Walk.start (root.load world)).2 := by
  rcases Root.exists_loads world root with ⟨reads, depth, result, loads⟩
  rw [loads.result_eq]
  constructor
  case terminates => exact ⟨reads, depth, loads⟩
  case readsOnce =>
    rw [loads.reads_eq]
    exact List.nodup_reverse.mpr loads.nodup_reads
  case descends =>
    intro others further outcome other
    have same := other.result_eq.symm.trans loads.result_eq
    refine ⟨same, ?_, other.depth_le⟩
    rw [other.reads_eq, List.reverse_reverse]
  case truthful => exact fun cycle => loads.truthful cycle
  case complete =>
    exact fun tidy location reached cycle =>
      loads.complete tidy reached cycle

/-- A file that includes itself. -/
def circular : World :=
  ⟨⟨[(["a"], .text "\x7b\"include\": \"a\", \"k\": \"v\"\x7d")], [], []⟩,
    fun _ => none⟩

theorem circular_holds :
    circular.Holds ["a"] [("k", .string "v")] ["/a"] := by
  refine ⟨_, [(.string "include", .string "a"), (.string "k", .string "v")],
    ["a"], rfl, .mapping (by cbv), rfl, .single "a", ?_, rfl⟩
  rw [List.forall_mem_singleton, IsBlankName]
  decide

theorem circular_edge :
    (Root.file "/a").Edge circular ["a"] ["a"] :=
  ⟨_, .listed circular_holds.names, "/a", List.mem_singleton_self _, rfl⟩

theorem circular_reaches {location : Location}
    (reached : (Root.file "/a").Reaches circular location) :
    location = ["a"] := by
  rcases reached with ⟨start, ⟨located⟩, reaches⟩
  induction reaches with
  | refl => exact (Except.ok.inj located).symm
  | tail _ step induction =>
      rcases step with ⟨paths, ⟨names⟩, path, listed, found⟩
      subst induction
      obtain rfl := circular_holds.names.unique names
      obtain rfl := List.mem_singleton.mp listed
      exact (Except.ok.inj found).symm

theorem circular_tidy : (Root.file "/a").Tidy circular where
  begins := .file (rfl : circular.tree.locate "/a" = .ok ["a"])
  holds := by
    intro file reached
    rw [circular_reaches reached]
    exact ⟨_, _, circular_holds⟩
  present := by
    rintro file paths reached ⟨names⟩ path listed
    obtain rfl := circular_reaches reached
    obtain rfl := circular_holds.names.unique names
    obtain rfl := List.mem_singleton.mp listed
    exact ⟨rfl, ["a"], rfl⟩
  apart := by
    intro file other _ reached reachedToo _ _
    exact (circular_reaches reached).trans (circular_reaches reachedToo).symm

/-- That a file includes itself is reported. -/
theorem resolves_runLoading_circular :
    ∃ shown, (runLoading (load circular "/a")).1 =
      .error (.includeCycle shown) :=
  (resolves_runLoading circular (.file "/a")).complete circular_tidy
    ⟨["a"], .file rfl, .refl⟩ (.single circular_edge)

end Gatehouse.Config
