import Gatehouse.Proofs.Config.Entries
import Gatehouse.Proofs.Config.Loading
import Gatehouse.Proofs.Files.Lengths
import Gatehouse.Proofs.Yaml.DistinctKeys
import Mathlib.Logic.Relation

/-!
# Files and the files they include

What a file of a world holds is said here without the loader: its settings
by their keys, and the paths that its include list names.  Files are
identified by their location, so two paths that lead to one file give one
vertex of the include graph.
-/

namespace Gatehouse.Config

open Gatehouse.Files
open Gatehouse.Outcome
open Gatehouse.Yaml

/-! ## Include lists -/

/-- The names that an include list spells: one text, several, or nothing. -/
inductive Lists : Option Value → List String → Prop where
  | absent : Lists none []
  | null : Lists (some .null) []
  | single (name : String) : Lists (some (.string name)) [name]
  | several (names : List String) :
      Lists (some (.sequence (names.map .string))) names

/-- A name that consists of blanks is no name of a file. -/
def IsBlankName (name : String) : Prop :=
  Text.trimBlanks name.toList = []

theorem Source.includeTexts_eq_ok_iff {listed : Option Value}
    {names : List String} :
    Source.includeTexts listed = .ok names ↔ Lists listed names := by
  constructor
  · intro found
    unfold Source.includeTexts at found
    split at found
    · cases found
      exact .absent
    · cases found
      exact .null
    · cases found
      exact .single _
    · rename_i items
      have texts : items = names.map .string := by
        rw [mapM_eq_ok_iff] at found
        induction found with
        | nil => rfl
        | @cons item name items names this _ induction =>
            cases item with
            | string text =>
                cases this
                rw [List.map_cons, induction]
            | null | bool _ | number _ | sequence _ | mapping _
            | tagged _ _ => cases this
      rw [texts]
      exact .several names
    · cases found
  · intro lists
    cases lists with
    | absent => rfl
    | null => rfl
    | single name => rfl
    | several names =>
        refine mapM_eq_ok_iff.mpr ?_
        rw [List.forall₂_map_left_iff]
        exact List.forall₂_same.mpr fun name _ => rfl

theorem Source.includePath_eq_ok_iff {directory name path : String} :
    Source.includePath directory name = .ok path ↔
      ¬ IsBlankName name ∧ Files.join directory name = path := by
  unfold Source.includePath IsBlankName
  by_cases blank : Text.trimBlanks name.toList = []
  · simp [blank]
  · have filled : (Text.trimBlanks name.toList).isEmpty = false := by
      simpa using blank
    rw [filled, if_neg Bool.false_ne_true, Except.ok.injEq]
    simp only [blank, not_false_eq_true, true_and]

/-- The paths of an include list are its names taken from a directory. -/
theorem Source.includePaths_eq_ok_iff {directory : String}
    {listed : Option Value} {paths : List String} :
    Source.includePaths directory listed = .ok paths ↔
      ∃ names, Lists listed names ∧ (∀ name ∈ names, ¬ IsBlankName name) ∧
        paths = names.map (Files.join directory) := by
  rw [Source.includePaths]
  rw [bind_eq_ok_iff]
  simp only [includeTexts_eq_ok_iff, mapM_eq_ok_iff,
    includePath_eq_ok_iff, List.forall₂_and_left]
  have joined : ∀ names : List String,
      List.Forall₂ (fun name path => Files.join directory name = path)
        names paths ↔ names.map (Files.join directory) = paths := by
    intro names
    rw [← List.forall₂_eq_eq_eq, List.forall₂_map_left_iff]
  simp only [joined]
  constructor
  · rintro ⟨names, lists, named, equal⟩
    exact ⟨names, lists, named, equal.symm⟩
  · rintro ⟨names, lists, named, equal⟩
    exact ⟨names, lists, named, equal.symm⟩

/-! ## What a file holds -/

/-- The mapping that a text holds; an empty text holds an empty one. -/
inductive HoldsMapping (text : String) : Mapping → Prop where
  | mapping {entries : Mapping}
      (read : Yaml.read text = .ok (.mapping entries)) :
      HoldsMapping text entries
  | empty (read : Yaml.read text = .ok .null) : HoldsMapping text []

theorem Source.mappingOf_eq_ok_iff {origin text : String}
    {entries : Mapping} :
    Source.mappingOf origin text = .ok entries ↔
      HoldsMapping text entries := by
  constructor
  · intro found
    unfold Source.mappingOf at found
    split at found
    · cases found
    · rename_i read
      cases found
      exact .empty read
    · rename_i held read
      cases found
      exact .mapping read
    · cases found
  · intro holds
    rw [Source.mappingOf]
    cases holds with
    | mapping read => rw [read]
    | empty read => rw [read]

theorem Lists.unique {listed : Option Value} {names others : List String}
    (lists : Lists listed names) (alike : Lists listed others) :
    names = others := by
  have first := Source.includeTexts_eq_ok_iff.mpr lists
  have second := Source.includeTexts_eq_ok_iff.mpr alike
  exact Except.ok.inj (first.symm.trans second)

theorem HoldsMapping.unique {text : String} {entries others : Mapping}
    (holds : HoldsMapping text entries) (alike : HoldsMapping text others) :
    entries = others := by
  have first : Source.mappingOf text text = .ok entries :=
    Source.mappingOf_eq_ok_iff.mpr holds
  have second : Source.mappingOf text text = .ok others :=
    Source.mappingOf_eq_ok_iff.mpr alike
  exact Except.ok.inj (first.symm.trans second)

theorem HoldsMapping.distinct {text : String} {entries : Mapping}
    (holds : HoldsMapping text entries) : Mapping.Distinct entries := by
  cases holds with
  | mapping read => exact read_distinct read
  | empty read => exact Mapping.Distinct.nil

/-- A text holds settings, each under a text, and includes some paths. -/
def HoldsSettings (directory text : String)
    (settings : List (String × Value)) (includes : List String) : Prop :=
  ∃ entries names, HoldsMapping text entries ∧
    Mapping.drop entries includeKey = namedMapping settings ∧
    Lists (Mapping.get? entries includeKey) names ∧
    (∀ name ∈ names, ¬ IsBlankName name) ∧
    includes = names.map (Files.join directory)

theorem nodup_of_distinct {settings : List (String × Value)}
    (distinct : Mapping.Distinct (namedMapping settings)) :
    (settings.map Prod.fst).Nodup := by
  rw [Mapping.Distinct, namedMapping, List.pairwise_map] at distinct
  rw [List.Nodup, List.pairwise_map]
  refine distinct.imp ?_
  intro former latter differs
  simpa [Value.sameKey] using differs

/-- A text defines no key twice. -/
theorem HoldsSettings.nodup {directory text : String}
    {settings : List (String × Value)} {includes : List String}
    (holds : HoldsSettings directory text settings includes) :
    (settings.map Prod.fst).Nodup := by
  rcases holds with ⟨entries, names, held, own, _⟩
  have distinct := held.distinct.drop includeKey
  rw [own] at distinct
  exact nodup_of_distinct distinct

/--
A file that can be merged holds settings, each under a text, and includes
the files at some paths.
-/
def World.Holds (world : World) (location : Location)
    (settings : List (String × Value)) (includes : List String) : Prop :=
  ∃ text entries names,
    world.tree.readAt location = .ok text ∧
    HoldsMapping text entries ∧
    Mapping.drop entries includeKey = namedMapping settings ∧
    Lists (Mapping.get? entries includeKey) names ∧
    (∀ name ∈ names, ¬ IsBlankName name) ∧
    includes = names.map (Files.join location.parentPath)

theorem Source.parse_eq_ok_iff {origin directory text : String}
    {source : Source} :
    Source.parse origin directory text = .ok source ↔
      ∃ entries names,
        HoldsMapping text entries ∧
        Lists (Mapping.get? entries includeKey) names ∧
        (∀ name ∈ names, ¬ IsBlankName name) ∧
        source = ⟨Mapping.drop entries includeKey,
          names.map (Files.join directory)⟩ := by
  rw [Source.parse]
  rw [bind_eq_ok_iff]
  constructor
  · rintro ⟨entries, held, found⟩
    rcases bind_eq_ok_iff.mp found with ⟨paths, listed, shape⟩
    rw [mapError_eq_ok_iff, includePaths_eq_ok_iff] at listed
    rcases listed with ⟨names, lists, named, rfl⟩
    exact ⟨entries, names, mappingOf_eq_ok_iff.mp held, lists, named,
      (pure_eq_ok_iff.mp shape).symm⟩
  · rintro ⟨entries, names, held, lists, named, rfl⟩
    refine ⟨entries, mappingOf_eq_ok_iff.mpr held, ?_⟩
    refine bind_eq_ok_iff.mpr
      ⟨names.map (Files.join directory), ?_, rfl⟩
    rw [mapError_eq_ok_iff, includePaths_eq_ok_iff]
    exact ⟨names, lists, named, rfl⟩

theorem holdsSettings_iff (origin : String) {directory text : String}
    {settings : List (String × Value)} {includes : List String} :
    HoldsSettings directory text settings includes ↔
      Source.parse origin directory text =
        .ok ⟨namedMapping settings, includes⟩ := by
  simp only [Source.parse_eq_ok_iff, Source.mk.injEq]
  constructor
  · rintro ⟨entries, names, held, own, lists, named, rfl⟩
    exact ⟨entries, names, held, lists, named, own.symm, rfl⟩
  · rintro ⟨entries, names, held, lists, named, own, rfl⟩
    exact ⟨entries, names, held, own.symm, lists, named, rfl⟩

/-- What is parsed names no key twice. -/
theorem distinct_of_parse {origin directory text : String}
    {source : Source}
    (read : Source.parse origin directory text = .ok source) :
    Mapping.Distinct source.own := by
  rcases Source.parse_eq_ok_iff.mp read with ⟨entries, _, held, _, _, rfl⟩
  exact held.distinct.drop includeKey

/-- The settings of a mapping that names no key twice have distinct keys. -/
theorem nodup_keysOf_own {origin : String} {mapping : Mapping}
    {own : List Entry} (distinct : Mapping.Distinct mapping)
    (named : ownEntries origin mapping = .ok own) : (keysOf own).Nodup := by
  rcases ownEntries_eq_ok_iff.mp named with ⟨settings, rfl, rfl⟩
  rw [keysOf_fromSource]
  exact nodup_of_distinct distinct

/-- The settings that are parsed have distinct keys. -/
theorem nodup_keysOf_parsed {origin directory text : String}
    {source : Source} {own : List Entry}
    (read : Source.parse origin directory text = .ok source)
    (named : ownEntries origin source.own = .ok own) :
    (keysOf own).Nodup :=
  nodup_keysOf_own (distinct_of_parse read) named

theorem sourceAt_eq_ok_iff {world : World} {location : Location}
    {origin : String} {source : Source} :
    sourceAt world location origin = .ok source ↔
      ∃ text, world.tree.readAt location = .ok text ∧
        Source.parse origin location.parentPath text = .ok source := by
  rw [sourceAt]
  cases world.tree.readAt location with
  | error cause => simp
  | ok text => simp

/-- What is read in a file names no key twice. -/
theorem distinct_of_sourceAt {world : World} {location : Location}
    {origin : String} {source : Source}
    (read : sourceAt world location origin = .ok source) :
    Mapping.Distinct source.own := by
  rcases sourceAt_eq_ok_iff.mp read with ⟨text, _, parsed⟩
  exact distinct_of_parse parsed

/-- What a file holds is what the loader reads in it under any name. -/
theorem World.holds_iff {world : World} {location : Location}
    {settings : List (String × Value)} {includes : List String}
    (origin : String) :
    world.Holds location settings includes ↔
      sourceAt world location origin =
        .ok ⟨namedMapping settings, includes⟩ := by
  rw [sourceAt_eq_ok_iff]
  simp only [Source.parse_eq_ok_iff, Source.mk.injEq]
  constructor
  · rintro ⟨text, entries, names, read, held, own, lists, named, rfl⟩
    exact ⟨text, read, entries, names, held, lists, named, own.symm, rfl⟩
  · rintro ⟨text, read, entries, names, held, lists, named, own, rfl⟩
    exact ⟨text, entries, names, read, held, own.symm, lists, named, rfl⟩

theorem mem_files_of_readAt {tree : Tree} {location : Location}
    {text : String} (read : tree.readAt location = .ok text) :
    location ∈ tree.files.map Prod.fst := by
  unfold Tree.readAt Tree.content? at read
  cases found : tree.files.lookup location with
  | none =>
      rw [found] at read
      dsimp only at read
      split at read <;> cases read
  | some content =>
      rcases List.lookup_eq_some_iff.mp found with
        ⟨before, behind, files, _⟩
      rw [files]
      simp

theorem mem_files_of_sourceAt {world : World} {location : Location}
    {origin : String} {source : Source}
    (read : sourceAt world location origin = .ok source) :
    location ∈ world.tree.files.map Prod.fst := by
  rcases sourceAt_eq_ok_iff.mp read with ⟨text, content, _⟩
  exact mem_files_of_readAt content

/-- A file that is read, and whose settings get names, holds those. -/
theorem World.holds_of_read {world : World} {location : Location}
    {origin : String} {source : Source} {own : List Entry}
    (read : sourceAt world location origin = .ok source)
    (named : ownEntries origin source.own = .ok own) :
    ∃ settings, own = fromSource origin settings ∧
      world.Holds location settings source.includes := by
  rcases ownEntries_eq_ok_iff.mp named with ⟨settings, sourceOwn, shape⟩
  refine ⟨settings, shape, ?_⟩
  rw [World.holds_iff origin, ← sourceOwn]
  exact read

namespace World.Holds

variable {world : World} {location : Location}
  {settings others : List (String × Value)}
  {includes otherIncludes : List String}

/-- A file holds one thing. -/
theorem unique (holds : world.Holds location settings includes)
    (alike : world.Holds location others otherIncludes) :
    settings = others ∧ includes = otherIncludes := by
  have first := (World.holds_iff "").mp holds
  have second := (World.holds_iff "").mp alike
  have equal := Except.ok.inj (first.symm.trans second)
  rw [Source.mk.injEq] at equal
  exact ⟨namedMapping_injective equal.1, equal.2⟩

/-- A file defines no key twice. -/
theorem nodup (holds : world.Holds location settings includes) :
    (settings.map Prod.fst).Nodup := by
  rcases holds with ⟨text, entries, names, _, rest⟩
  exact HoldsSettings.nodup ⟨entries, names, rest⟩

/-- A file that holds something is one of the files of the tree. -/
theorem mem_files (holds : world.Holds location settings includes) :
    location ∈ world.tree.files.map Prod.fst := by
  rcases holds with ⟨text, entries, names, read, _⟩
  exact mem_files_of_readAt read

end World.Holds

/-! ## Include lists without the settings beside them -/

/-- The include list of a text names paths, taken from a directory. -/
def NamesPaths (directory text : String) (paths : List String) : Prop :=
  ∃ entries names, HoldsMapping text entries ∧
    Lists (Mapping.get? entries includeKey) names ∧
    (∀ name ∈ names, ¬ IsBlankName name) ∧
    paths = names.map (Files.join directory)

/-- The include list of a file names paths, whatever its settings are. -/
def World.Names (world : World) (file : Location) (paths : List String) :
    Prop :=
  ∃ text, world.tree.readAt file = .ok text ∧
    NamesPaths file.parentPath text paths

theorem namesPaths_iff (origin : String) {directory text : String}
    {paths : List String} :
    NamesPaths directory text paths ↔
      ∃ source, Source.parse origin directory text = .ok source ∧
        source.includes = paths := by
  simp only [Source.parse_eq_ok_iff]
  constructor
  · rintro ⟨entries, names, held, lists, named, rfl⟩
    exact ⟨_, ⟨entries, names, held, lists, named, rfl⟩, rfl⟩
  · rintro ⟨_, ⟨entries, names, held, lists, named, rfl⟩, rfl⟩
    exact ⟨entries, names, held, lists, named, rfl⟩

namespace World

variable {world : World}

theorem names_iff (origin : String) {file : Location}
    {paths : List String} :
    world.Names file paths ↔
      ∃ source, sourceAt world file origin = .ok source ∧
        source.includes = paths := by
  simp only [Names, namesPaths_iff origin, sourceAt_eq_ok_iff]
  constructor
  · rintro ⟨text, read, source, parsed, same⟩
    exact ⟨source, ⟨text, read, parsed⟩, same⟩
  · rintro ⟨source, ⟨text, read, parsed⟩, same⟩
    exact ⟨text, read, source, parsed, same⟩

theorem Names.unique {file : Location} {paths others : List String}
    (names : world.Names file paths) (alike : world.Names file others) :
    paths = others := by
  rcases (names_iff "").mp names with ⟨source, read, rfl⟩
  rcases (names_iff "").mp alike with ⟨other, readToo, rfl⟩
  rw [Except.ok.inj (read.symm.trans readToo)]

theorem Holds.names {file : Location} {settings : List (String × Value)}
    {includes : List String} (holds : world.Holds file settings includes) :
    world.Names file includes := by
  rw [names_iff ""]
  exact ⟨_, (holds_iff "").mp holds, rfl⟩

end World

/-! ## The include graph -/

namespace World

/-- A file includes another one. -/
def Includes (world : World) (file included : Location) : Prop :=
  ∃ settings includes, world.Holds file settings includes ∧
    ∃ path ∈ includes, world.tree.locate path = .ok included

/-- A file is reached from another one through includes. -/
def Reaches (world : World) : Location → Location → Prop :=
  Relation.ReflTransGen world.Includes

/-- A file that can be merged, and all of whose includes exist. -/
def Mergeable (world : World) (location : Location) : Prop :=
  ∃ settings includes, world.Holds location settings includes ∧
    ∀ path ∈ includes, world.tree.exists? path = true

/-- A file defines a key, the include list apart. -/
def Defines (world : World) (location : Location) (key : String) : Prop :=
  ∃ settings includes, world.Holds location settings includes ∧
    key ∈ settings.map Prod.fst

/-- A file that can be merged, with what it holds. -/
structure Opens (world : World) (location : Location)
    (settings : List (String × Value)) (includes : List String) : Prop where
  holds : world.Holds location settings includes
  present : ∀ path ∈ includes, world.tree.exists? path = true

theorem exists?_iff {world : World} {path : String} :
    world.tree.exists? path = true ↔
      ∃ location, world.tree.lookUp path = .ok location := by
  rw [Tree.exists?]
  cases world.tree.lookUp path with
  | error cause => simp
  | ok location => simp

/-- A path exists, and what it leads to has a location. -/
def Leads (world : World) (path : String) : Prop :=
  world.tree.exists? path = true ∧
    ∃ location, world.tree.locate path = .ok location

/-- What a file includes can be located if it exists. -/
theorem Holds.exists_located {world : World} {location : Location}
    {settings : List (String × Value)} {includes : List String}
    (holds : world.Holds location settings includes) {path : String}
    (listed : path ∈ includes) (present : world.tree.exists? path = true) :
    ∃ included, world.tree.locate path = .ok included := by
  rcases holds with ⟨_, _, names, _, _, _, _, _, rfl⟩
  rcases List.mem_map.mp listed with ⟨name, _, rfl⟩
  rcases exists?_iff.mp present with ⟨included, found⟩
  have rooted := Files.isAbsolute_join
    (Files.isAbsolute_path location.dropLast) name
  have short := (Tree.lookUp_eq_ok found).1
  exact ⟨included, (Tree.locate_eq_lookUp rooted short).trans found⟩

end World

end Gatehouse.Config
