import Gatehouse.Proofs.Config.Roots
import Gatehouse.Proofs.Files.Detours
import Gatehouse.Proofs.Yaml.Quoting

/-!
# The text of a file, and the file

A text that is held in memory takes its includes from the current directory,
spelled from a dot; the same text in a file of the current directory spells
them from the root.  As long as both spellings of an include are short enough
to be looked up, or both are too long, they lead to one place.  Then the text
loads exactly if the file does, and whenever both load, it is to the same
settings.  The file itself is visited only by the one of the two loads, but
neither gives a document if the file is reached from its own includes.
-/

namespace Gatehouse.Config

open Gatehouse.Files
open Gatehouse.Outcome
open Gatehouse.Yaml
open Relation

variable {world : World}

/-! ## What a text and a file load to -/

/--
Settings of one source, followed by what the visits to its includes set,
make up a document.
-/
def MakesUp (world : World) (origin : String)
    (settings : List (String × Value)) (paths : List String)
    (document : Document) : Prop :=
  (∀ path ∈ paths, world.tree.exists? path = true) ∧
    ∃ visits, Visits world paths visits ∧
      (keysOf (fromSource origin settings ++
        entriesOf (firstVisits visits))).Nodup ∧
      finish world (fromSource origin settings ++
        entriesOf (firstVisits visits)) = .ok document

/-- From the start, settings and include lists gather first visits. -/
theorem runFrom_gatherIncludes_start {origin : String}
    {settings : List (String × Value)} {paths : List String}
    (distinct : (settings.map Prod.fst).Nodup) {entries : List Entry} :
    (∃ after, runFrom Walk.start (gatherIncludes world (walkFuel world) []
        origin (fromSource origin settings) paths) = (.ok entries, after)) ↔
      (∀ path ∈ paths, world.tree.exists? path = true) ∧
        ∃ visits, Visits world paths visits ∧ (keysOf entries).Nodup ∧
          entries = fromSource origin settings ++
            entriesOf (firstVisits visits) := by
  have covered : Covered world [] Walk.start.merged :=
    .of_subset (List.Subset.refl [])
  have ownDistinct : (keysOf (fromSource origin settings)).Nodup := by
    rwa [keysOf_fromSource]
  constructor
  · rintro ⟨after, loaded⟩
    rcases gatherIncludes_follows world (walkFuel world) covered ownDistinct
      loaded with ⟨joined, present, visits, gathered, rfl, follows⟩
    exact ⟨present, visits, follows.unfolds, joined,
      congrArg (fromSource origin settings ++ ·) follows.gathers⟩
  · rintro ⟨present, visits, unfolds, joined, rfl⟩
    rcases gatherIncludes_complete unfolds present (walkFuel world) [] origin
      Walk.start (fromSource origin settings) (Room.start world) covered
      (fun _ _ => List.not_mem_nil) joined with ⟨result, after, loaded⟩
    rcases gatherIncludes_follows world (walkFuel world) covered ownDistinct
      loaded with ⟨_, _, others, gathered, rfl, follows⟩
    obtain rfl := follows.unfolds.unique unfolds
    have gathers : gathered = entriesOf (firstVisits others) :=
      follows.gathers
    exact ⟨after, gathers ▸ loaded⟩

/-- A text loads to what its settings and its includes make up. -/
theorem loadText_eq_ok_iff {origin text : String} {document : Document} :
    (runLoading (loadText world origin text)).1 = .ok document ↔
      ∃ settings paths, HoldsSettings "." text settings paths ∧
        MakesUp world origin settings paths document := by
  rw [runLoading_eq_runFrom, loadText_eq, runFrom_bind, runFrom_ofExcept]
  constructor
  · intro found
    cases read : Source.parse origin "." text with
    | error cause =>
        rw [read] at found
        cases found
    | ok source =>
        rw [read] at found
        dsimp only at found
        rw [runFrom_bind, runFrom_ofExcept] at found
        cases named : ownEntries origin source.own with
        | error cause =>
            rw [named] at found
            cases found
        | ok own =>
            rw [named] at found
            dsimp only at found
            rcases source with ⟨mapping, paths⟩
            rcases ownEntries_eq_ok_iff.mp named with ⟨settings, rfl, rfl⟩
            have holds := (holdsSettings_iff origin).mpr read
            refine ⟨settings, paths, holds, ?_⟩
            rw [runFrom_bind] at found
            rcases loaded : runFrom Walk.start (gatherIncludes world
              (walkFuel world) [] origin (fromSource origin settings) paths)
              with ⟨_ | entries, after⟩
            · rw [loaded] at found
              cases found
            · rcases (runFrom_gatherIncludes_start holds.nodup).mp
                ⟨after, loaded⟩ with ⟨present, visits, unfolds, joined, rfl⟩
              rw [loaded] at found
              dsimp only at found
              rw [runFrom_ofExcept] at found
              exact ⟨present, visits, unfolds, joined, found⟩
  · rintro ⟨settings, paths, holds, present, visits, unfolds, joined,
      finished⟩
    rcases (runFrom_gatherIncludes_start holds.nodup).mpr
      ⟨present, visits, unfolds, joined, rfl⟩ with ⟨after, loaded⟩
    rw [(holdsSettings_iff origin).mp holds]
    dsimp only
    rw [runFrom_bind, runFrom_ofExcept, ownEntries_namedMapping]
    dsimp only
    rw [runFrom_bind, loaded]
    dsimp only
    rw [runFrom_ofExcept, finished]

/-- A file is not visited below itself, so it loads like its text. -/
theorem load_eq_ok_iff_makesUp {path : String} {location : Location}
    (located : world.tree.locate path = .ok location) {document : Document} :
    (runLoading (load world path)).1 = .ok document ↔
      ∃ settings includes, world.Holds location settings includes ∧
        MakesUp world path settings includes document := by
  have first : ∀ settings includes below,
      world.Holds location settings includes →
      Visits world includes below →
      entriesOf (firstVisits
        (⟨path, location, settings⟩ :: (below ++ []))) =
        fromSource path settings ++ entriesOf (firstVisits below) := by
    intro settings includes below holds unfolds
    have fresh : freshVisits [location] below = firstVisits below := by
      apply freshVisits_eq_firstVisits
      intro visit member again
      apply unfolds.not_mem_below holds
      rw [← List.mem_singleton.mp again]
      exact mem_locationsOf.mpr ⟨visit, member, rfl⟩
    rw [List.append_nil, firstVisits,
      freshVisits_cons_unseen List.not_mem_nil, fresh]
    rfl
  rw [load_eq_ok_iff]
  constructor
  · rintro ⟨visits, unfolds, distinct, finished⟩
    cases unfolds with
    | cons found opens inner outer =>
        obtain rfl := Except.ok.inj (located.symm.trans found)
        cases outer
        rw [first _ _ _ opens.holds inner] at distinct finished
        exact ⟨_, _, opens.holds, opens.present, _, inner, distinct,
          finished⟩
  · rintro ⟨settings, includes, holds, present, below, inner, distinct,
      finished⟩
    rw [← first _ _ _ holds inner] at distinct finished
    exact ⟨_, .cons located ⟨holds, present⟩ inner .nil, distinct, finished⟩

/-! ## Documents that agree apart from origins -/

/-- Two visits go to the same file, on whatever path. -/
structure Visit.Agrees (visit other : Visit) : Prop where
  location : visit.location = other.location
  settings : visit.settings = other.settings

/-- Paths that lead to the same places unfold to the same visits. -/
theorem Visits.agree {paths others : List String} {visits : List Visit}
    (unfolds : Visits world paths visits)
    (alike : List.Forall₂
      (fun path other => world.tree.locate path = world.tree.locate other)
      paths others) :
    ∃ again, Visits world others again ∧
      List.Forall₂ Visit.Agrees visits again := by
  induction unfolds generalizing others with
  | nil =>
      cases alike
      exact ⟨[], .nil, .nil⟩
  | cons located opens inner _ _ induction =>
      cases alike with
      | cons same rest =>
          rcases induction rest with ⟨behind, outer, agree⟩
          refine ⟨_, .cons (same ▸ located) opens inner outer, ?_⟩
          exact .cons ⟨rfl, rfl⟩ (List.rel_append
            (List.forall₂_same.mpr fun _ _ => ⟨rfl, rfl⟩) agree)

theorem freshVisits_agree {visits others : List Visit}
    (agree : List.Forall₂ Visit.Agrees visits others)
    (seen : List Location) :
    List.Forall₂ Visit.Agrees (freshVisits seen visits)
      (freshVisits seen others) := by
  induction agree generalizing seen with
  | nil => exact .nil
  | @cons visit other _ _ this _ induction =>
      by_cases member : visit.location ∈ seen
      · rw [freshVisits_cons_seen member,
          freshVisits_cons_seen (this.location ▸ member)]
        exact induction seen
      · rw [freshVisits_cons_unseen member,
          freshVisits_cons_unseen (this.location ▸ member),
          ← this.location]
        exact .cons this (induction _)

theorem valuesOf_entriesOf_agree {visits others : List Visit}
    (agree : List.Forall₂ Visit.Agrees visits others) :
    valuesOf (entriesOf visits) = valuesOf (entriesOf others) := by
  induction agree with
  | nil => rfl
  | cons this _ induction =>
      rw [entriesOf_cons, entriesOf_cons, valuesOf_append, valuesOf_append,
        Visit.entries, Visit.entries, valuesOf_fromSource,
        valuesOf_fromSource, this.settings, induction]

theorem keysOf_eq_of_valuesOf_eq {entries others : List Entry}
    (same : valuesOf entries = valuesOf others) :
    keysOf entries = keysOf others := by
  rw [← textKeys_valuesOf, ← textKeys_valuesOf, same]

/-- The same values are filled in alike, wherever they were defined. -/
theorem finish_agree {entries others : List Entry}
    (same : valuesOf entries = valuesOf others) {document : Document}
    (finished : finish world entries = .ok document) :
    ∃ other, finish world others = .ok other ∧
      other.values = document.values := by
  rw [finish, Merged.finish, Merged.ofEntries, same] at finished
  rcases bind_eq_ok_iff.mp finished with ⟨values, filled, shape⟩
  obtain rfl := pure_eq_ok_iff.mp shape
  exact ⟨⟨values, originsOf others⟩,
    bind_eq_ok_iff.mpr ⟨values, filled, rfl⟩, rfl⟩

/-- Two paths exist alike, and if so they stand for the same location. -/
structure SamePlace (world : World) (path other : String) : Prop where
  present : world.tree.exists? path = world.tree.exists? other
  located : world.tree.exists? path = true →
    world.tree.locate path = world.tree.locate other

theorem SamePlace.symm {path other : String}
    (same : SamePlace world path other) : SamePlace world other path where
  present := same.present.symm
  located present := (same.located (same.present.trans present)).symm

/-- What leads to the same places exists and is located alike. -/
theorem SamePlace.each {paths others : List String}
    (alike : List.Forall₂ (SamePlace world) paths others)
    (present : ∀ path ∈ paths, world.tree.exists? path = true) :
    (∀ path ∈ others, world.tree.exists? path = true) ∧
      List.Forall₂
        (fun path other => world.tree.locate path = world.tree.locate other)
        paths others := by
  induction alike with
  | nil => exact ⟨List.forall_mem_nil _, .nil⟩
  | cons same _ induction =>
      rw [List.forall_mem_cons] at present ⊢
      rcases induction present.2 with ⟨others, located⟩
      exact ⟨⟨same.present ▸ present.1, others⟩,
        .cons (same.located present.1) located⟩

/-- The same settings with includes at the same places make up the same. -/
theorem MakesUp.agree {origin other : String}
    {settings : List (String × Value)} {paths others : List String}
    {document : Document}
    (makes : MakesUp world origin settings paths document)
    (alike : List.Forall₂ (SamePlace world) paths others) :
    ∃ again, MakesUp world other settings others again ∧
      again.values = document.values := by
  rcases makes with ⟨present, visits, unfolds, distinct, finished⟩
  rcases SamePlace.each alike present with ⟨presentAgain, located⟩
  rcases unfolds.agree located with ⟨visitsAgain, unfoldsAgain, agree⟩
  have gathered := valuesOf_entriesOf_agree (freshVisits_agree agree [])
  have same : valuesOf (fromSource origin settings ++
        entriesOf (firstVisits visits)) =
      valuesOf (fromSource other settings ++
        entriesOf (firstVisits visitsAgain)) := by
    rw [valuesOf_append, valuesOf_append, valuesOf_fromSource,
      valuesOf_fromSource, firstVisits, firstVisits, gathered]
  rcases finish_agree same finished with ⟨again, done, values⟩
  refine ⟨again, ⟨presentAgain, visitsAgain, unfoldsAgain, ?_, done⟩, values⟩
  rw [← keysOf_eq_of_valuesOf_eq same]
  exact distinct

/-! ## A text and a file of the current directory -/

/-- A text includes something by a name. -/
def Mentions (text name : String) : Prop :=
  ∃ entries names, HoldsMapping text entries ∧
    Lists (Mapping.get? entries includeKey) names ∧ name ∈ names

/--
From a dot and from the root, the spellings of a name are both short enough
to be looked up, or both too long.
-/
def SpelledAlike (tree : Tree) (name : String) : Prop :=
  Tree.pathLimit < (Files.join "." name).utf8ByteSize ↔
    Tree.pathLimit <
      (Files.join (Location.path tree.current) name).utf8ByteSize

namespace HoldsSettings

variable {directory text : String} {settings : List (String × Value)}
  {includes : List String}

/-- The includes of a text are what it mentions, in any directory. -/
theorem elsewhere (holds : HoldsSettings directory text settings includes)
    (other : String) :
    ∃ names : List String, includes = names.map (Files.join directory) ∧
      (∀ name ∈ names, Mentions text name) ∧
      HoldsSettings other text settings (names.map (Files.join other)) := by
  rcases holds with ⟨entries, names, held, own, lists, filled, rfl⟩
  exact ⟨names, rfl, fun name listed => ⟨entries, names, held, lists, listed⟩,
    entries, names, held, own, lists, filled, rfl⟩

theorem join_mem (holds : HoldsSettings directory text settings includes)
    {name : String} (mentions : Mentions text name) :
    Files.join directory name ∈ includes := by
  rcases holds with ⟨entries, names, held, _, lists, _, rfl⟩
  rcases mentions with ⟨others, listed, alike, listsToo, member⟩
  obtain rfl := held.unique alike
  obtain rfl := lists.unique listsToo
  exact List.mem_map_of_mem member

end HoldsSettings

theorem World.holds_iff_of_readAt {location : Location} {text : String}
    (read : world.tree.readAt location = .ok text)
    {settings : List (String × Value)} {includes : List String} :
    world.Holds location settings includes ↔
      HoldsSettings location.parentPath text settings includes := by
  constructor
  · rintro ⟨other, entries, names, readOther, rest⟩
    obtain rfl := Except.ok.inj (read.symm.trans readOther)
    exact ⟨entries, names, rest⟩
  · rintro ⟨entries, names, rest⟩
    exact ⟨text, entries, names, read, rest⟩

section Agreement

variable {path name text : String}

theorem parentPath_current (current : Location) :
    Location.parentPath (current ++ [name]) = Location.path current := by
  rw [Location.parentPath, List.dropLast_concat]

theorem short_of_exists? (present : world.tree.exists? path = true) :
    path.utf8ByteSize ≤ Tree.pathLimit := by
  rcases World.exists?_iff.mp present with ⟨location, found⟩
  exact (Tree.lookUp_eq_ok found).1

/-- A name that is spelled alike leads to the same place. -/
theorem samePlace_join
    (proper : ∀ piece ∈ world.tree.current, IsName piece)
    (alike : SpelledAlike world.tree name) :
    SamePlace world (Files.join "." name)
      (Files.join (Location.path world.tree.current) name) where
  present := by
    rw [Tree.exists?, Tree.exists?, Tree.lookUp_join_eq proper alike]
  located present := by
    have short := short_of_exists? present
    exact Tree.locate_join_eq proper short
      (Nat.not_lt.mp fun long => short.not_gt (alike.mpr long))

/-- Names that are spelled alike lead to the same places. -/
theorem samePlace_spelledAlike
    (proper : ∀ piece ∈ world.tree.current, IsName piece)
    {names : List String}
    (alike : ∀ name ∈ names, SpelledAlike world.tree name) :
    List.Forall₂ (SamePlace world) (names.map (Files.join "."))
      (names.map (Files.join (Location.path world.tree.current))) := by
  rw [List.forall₂_map_left_iff, List.forall₂_map_right_iff]
  exact List.forall₂_same.mpr fun name listed =>
    samePlace_join proper (alike name listed)

section Spelled

variable
    (located : world.tree.locate path = .ok (world.tree.current ++ [name]))
    (read : world.tree.readAt (world.tree.current ++ [name]) = .ok text)

include located read

/-- If a text and its file both load, what they include is spelled alike. -/
theorem spelledAlike_of_loaded {origin mentioned : String}
    {held loaded : Document}
    (fromText : (runLoading (loadText world origin text)).1 = .ok held)
    (fromFile : (runLoading (load world path)).1 = .ok loaded)
    (mentions : Mentions text mentioned) :
    SpelledAlike world.tree mentioned := by
  rcases loadText_eq_ok_iff.mp fromText with
    ⟨_, _, holds, presentDot, _⟩
  rcases (load_eq_ok_iff_makesUp located).mp fromFile with
    ⟨_, _, fileHolds, presentRoot, _⟩
  rw [World.holds_iff_of_readAt read, parentPath_current] at fileHolds
  have shortDot := short_of_exists? (presentDot _ (holds.join_mem mentions))
  have shortRoot :=
    short_of_exists? (presentRoot _ (fileHolds.join_mem mentions))
  exact iff_of_false shortDot.not_gt shortRoot.not_gt

variable
    (proper : ∀ piece ∈ world.tree.current, IsName piece)
    (alike : ∀ mentioned, Mentions text mentioned →
      SpelledAlike world.tree mentioned)

include proper alike

/-- What a text loads to is also what its file loads to. -/
theorem load_of_loadText {origin : String} {document : Document}
    (loaded : (runLoading (loadText world origin text)).1 = .ok document) :
    ∃ other, (runLoading (load world path)).1 = .ok other ∧
      other.values = document.values := by
  rcases loadText_eq_ok_iff.mp loaded with ⟨settings, paths, holds, makes⟩
  rcases holds.elsewhere (Location.path world.tree.current) with
    ⟨names, rfl, mentioned, fromRoot⟩
  rcases makes.agree (samePlace_spelledAlike proper fun name listed =>
    alike name (mentioned name listed)) with ⟨other, again, values⟩
  rw [← parentPath_current, ← World.holds_iff_of_readAt read] at fromRoot
  exact ⟨other, (load_eq_ok_iff_makesUp located).mpr
    ⟨settings, _, fromRoot, parentPath_current _ ▸ again⟩, values⟩

/-- What a file loads to is also what its text loads to. -/
theorem loadText_of_load (origin : String) {document : Document}
    (loaded : (runLoading (load world path)).1 = .ok document) :
    ∃ other, (runLoading (loadText world origin text)).1 = .ok other := by
  rcases (load_eq_ok_iff_makesUp located).mp loaded with
    ⟨settings, includes, holds, makes⟩
  rw [World.holds_iff_of_readAt read, parentPath_current] at holds
  rcases holds.elsewhere "." with ⟨names, rfl, mentioned, fromDot⟩
  have same := samePlace_spelledAlike proper fun name listed =>
    alike name (mentioned name listed)
  rcases makes.agree (same.flip.imp fun _ _ places => places.symm) with
    ⟨other, again, _⟩
  exact ⟨other, loadText_eq_ok_iff.mpr ⟨settings, _, fromDot, again⟩⟩

end Spelled

/-- A file that is reached from its own includes does not load. -/
theorem not_load_of_cycle {location : Location}
    (located : world.tree.locate path = .ok location)
    (cycle : TransGen ((Root.file path).Edge world) location location)
    (document : Document) :
    (runLoading (load world path)).1 ≠ .ok document := by
  intro loaded
  rcases load_eq_ok_iff.mp loaded with ⟨visits, unfolds, _⟩
  have visited := unfolds.mem_of_listed List.mem_cons_self located
  exact absurd cycle (Root.no_cycle_below nofun unfolds visited .refl)

/-- Nor does its text, which is merged with the file itself. -/
theorem not_loadText_of_cycle
    (read : world.tree.readAt (world.tree.current ++ [name]) = .ok text)
    (proper : ∀ piece ∈ world.tree.current, IsName piece)
    (cycle : TransGen ((Root.file path).Edge world)
      (world.tree.current ++ [name]) (world.tree.current ++ [name]))
    (origin : String) (document : Document) :
    (runLoading (loadText world origin text)).1 ≠ .ok document := by
  intro loaded
  rcases loadText_eq_ok_iff.mp loaded with
    ⟨settings, paths, holds, _, visits, unfolds, _⟩
  -- The cycle begins with an include that the text mentions as well.
  rcases TransGen.head'_iff.mp cycle with
    ⟨next, ⟨followed, ⟨names⟩, step, listed, found⟩, behind⟩
  rcases names with ⟨other, again, mapping, mentioned, held, lists, filled,
    rfl⟩
  obtain rfl := Except.ok.inj (read.symm.trans again)
  rcases List.mem_map.mp listed with ⟨included, member, rfl⟩
  rcases unfolds.exists_visit
    (holds.join_mem ⟨mapping, mentioned, held, lists, member⟩) with
    ⟨start, first, visited⟩
  rw [parentPath_current] at found
  obtain rfl := Tree.eq_of_locate_join proper first found
  have edge : (Root.file path).Edge world (world.tree.current ++ [name])
      start :=
    ⟨_, .listed ⟨text, read, mapping, mentioned, held, lists, filled, rfl⟩,
      _, listed, by rwa [parentPath_current]⟩
  have around := TransGen.tail' behind edge
  exact absurd around (Root.no_cycle_below nofun unfolds visited .refl)

/--
The text of a file in the current directory loads exactly if the file does,
if what it includes is spelled alike.  Whenever both load, they give the same
keys and values in the same order.  Neither loads if the file is reached from
its own includes.
-/
theorem loadText_agrees_load
    (located : world.tree.locate path = .ok (world.tree.current ++ [name]))
    (read : world.tree.readAt (world.tree.current ++ [name]) = .ok text)
    (proper : ∀ piece ∈ world.tree.current, IsName piece)
    (origin : String) :
    ((∀ mentioned, Mentions text mentioned →
        SpelledAlike world.tree mentioned) →
      ((∃ document,
          (runLoading (loadText world origin text)).1 = .ok document) ↔
        ∃ document, (runLoading (load world path)).1 = .ok document)) ∧
    (∀ held loaded, (runLoading (loadText world origin text)).1 = .ok held →
      (runLoading (load world path)).1 = .ok loaded →
      held.values = loaded.values) ∧
    (TransGen ((Root.file path).Edge world) (world.tree.current ++ [name])
        (world.tree.current ++ [name]) →
      ∀ document,
        (runLoading (loadText world origin text)).1 ≠ .ok document ∧
        (runLoading (load world path)).1 ≠ .ok document) := by
  refine ⟨fun alike => ⟨?_, ?_⟩, ?_, ?_⟩
  · rintro ⟨document, held⟩
    rcases load_of_loadText located read proper alike held with
      ⟨other, loaded, _⟩
    exact ⟨other, loaded⟩
  · rintro ⟨document, loaded⟩
    exact loadText_of_load located read proper alike origin loaded
  · intro held loaded fromText fromFile
    have alike := fun mentioned =>
      @spelledAlike_of_loaded _ _ _ _ located read _ mentioned _ _ fromText
        fromFile
    rcases load_of_loadText located read proper alike fromText with
      ⟨other, again, values⟩
    obtain rfl := Except.ok.inj (fromFile.symm.trans again)
    exact values.symm
  · exact fun cycle document =>
      ⟨not_loadText_of_cycle read proper cycle origin document,
        not_load_of_cycle located cycle document⟩

end Agreement

/-! ## A file with another one beside it -/

/-- A directory with a file of this text and another file beside it. -/
def beside (current : Location) (text : String) : World :=
  ⟨⟨[(current ++ ["app.yaml"], .text text),
      (current ++ ["b.yaml"], .text "b: w\n")], [], current⟩, fun _ => none⟩

/-- Every character of such a name stands for itself between quotes. -/
theorem verbatim_detour (dots : Nat) :
    ∀ character ∈ (detour dots).toList, IsVerbatim character := by
  have named : ∀ character ∈ "./b.yaml".toList, IsVerbatim character := by
    simp [isVerbatim_iff, isAllowed, isSpacing, isLineBreak]
  intro character member
  apply named
  by_cases slash : character = '/'
  · simp [slash]
  · rcases (mem_intercalate slash).mp member with ⟨piece, listed, inside⟩
    rcases List.mem_append.mp listed with idle | last
    · rcases mem_dots idle with rfl | rfl
      · cases inside
      · rw [List.mem_singleton.mp inside]
        decide
    · rw [List.mem_singleton.mp last] at inside
      exact List.mem_cons_of_mem _ (List.mem_cons_of_mem _ inside)

theorem not_isBlankName_detour (dots : Nat) :
    ¬ IsBlankName (detour dots) := by
  intro blank
  rcases Text.trims_iff.mpr blank with
    ⟨before, behind, shape, blankBefore, blankBehind, _, _⟩
  have dot : '.' ∈ (detour dots).toList :=
    (mem_intercalate (by decide)).mpr ⟨".", by simp, by decide⟩
  rw [shape, List.nil_append] at dot
  rcases List.mem_append.mp dot with front | back
  · cases blankBefore _ front
  · cases blankBehind _ back

theorem zero_not_mem_detour (dots : Nat) :
    '\x00' ∉ (detour dots).toList := by
  intro zero
  have allowed := (verbatim_detour dots _ zero).allowed
  cases allowed

section Beside

variable (current : Location) (text : String)

theorem beside_step {name : String}
    (file : ((beside current text).tree.content?
      (current ++ [name])).isSome) (isName : IsName name) :
    (beside current text).tree.step current name =
      .ok (current ++ [name]) := by
  have here : (beside current text).tree.isDirectoryAt current = true :=
    Tree.isDirectoryAt_of_prefix (List.prefix_refl current)
  simp [Tree.step, here, file, isName.notEmpty, isName.notDot,
    isName.notDots, Nat.not_lt.mpr isName.short]

theorem beside_content_app :
    (beside current text).tree.content? (current ++ ["app.yaml"]) =
      some (.text text) := by
  simp [beside, Tree.content?]

theorem beside_content_b :
    (beside current text).tree.content? (current ++ ["b.yaml"]) =
      some (.text "b: w\n") := by
  simp [beside, Tree.content?, List.lookup_cons]

theorem beside_readAt_app :
    (beside current text).tree.readAt (current ++ ["app.yaml"]) =
      .ok text := by
  rw [Tree.readAt, beside_content_app]

theorem beside_readAt_b :
    (beside current text).tree.readAt (current ++ ["b.yaml"]) =
      .ok "b: w\n" := by
  rw [Tree.readAt, beside_content_b]

end Beside

/-- Dots in front of a name lead to the file of this name. -/
theorem beside_locate {current : Location} {text name path : String}
    {dots : List String}
    (file : ((beside current text).tree.content?
      (current ++ [name])).isSome) (isName : IsName name)
    (room : octets (current ++ [name]) ≤ Tree.pathLimit)
    (each : ∀ piece ∈ dots, piece = "" ∨ piece = ".")
    (noZero : '\x00' ∉ path.toList) (filled : path.isEmpty = false)
    (relative : isAbsolute path = false)
    (cut : pieces path = dots ++ [name]) :
    (beside current text).tree.locate path = .ok (current ++ [name]) := by
  have here : (beside current text).tree.isDirectoryAt current = true :=
    Tree.isDirectoryAt_of_prefix (List.prefix_refl current)
  have start : (beside current text).tree.start path = current := by
    rw [Tree.start, relative]
    rfl
  rw [octets_append] at room
  rw [Tree.locate, if_neg (by simpa using noZero), filled,
    if_neg Bool.false_ne_true, start, cut, Tree.spellOut_dots here each,
    Tree.spellOut_eq_foldlM room, List.foldlM_cons,
    beside_step current text file isName]
  rfl

section Shallow

variable (text : String) (dots : Nat)

theorem beside_locate_app :
    (beside ["w"] text).tree.locate "app.yaml" = .ok ["w", "app.yaml"] :=
  @beside_locate ["w"] text "app.yaml" "app.yaml" []
    (by rw [beside_content_app]; rfl) (by decide) (by decide)
    (List.forall_mem_nil _) (by decide) (by decide) (by decide) (by decide)

theorem beside_locate_b :
    (beside ["w"] text).tree.locate (Files.join "." (detour dots)) =
      .ok ["w", "b.yaml"] := by
  have relative := isAbsolute_detour dots
  have cut : pieces (Files.join "." (detour dots)) =
      ("." :: "." :: "" :: List.replicate dots ".") ++ ["b.yaml"] := by
    rw [Tree.pieces_join_dot relative, pieces_detour]
    rfl
  refine beside_locate (by rw [beside_content_b]; rfl) (by decide)
    (by decide) (List.forall_mem_cons.mpr ⟨.inr rfl, fun _ => mem_dots⟩)
    ?_ (Tree.isEmpty_join_dot relative) ?_ cut
  · rw [join_dot relative]
    simp [zero_not_mem_detour]
  · rw [join_dot relative]
    simp [isAbsolute]

theorem including_settings (directory : String) :
    HoldsSettings directory (including (detour dots))
      [("k", .string "v")] [Files.join directory (detour dots)] := by
  refine ⟨_, [detour dots], .mapping (read_including (verbatim_detour dots)),
    rfl, .single _, ?_, rfl⟩
  exact List.forall_mem_singleton.mpr (not_isBlankName_detour dots)

theorem eq_of_mentions_including {name : String}
    (mentions : Mentions (including (detour dots)) name) :
    name = detour dots := by
  rcases mentions with ⟨entries, names, held, lists, listed⟩
  obtain rfl :=
    (HoldsMapping.mapping (read_including (verbatim_detour dots))).unique held
  obtain rfl : [detour dots] = names := Lists.unique (.single _) lists
  exact List.mem_singleton.mp listed

theorem beside_holds_b :
    (beside ["w"] text).Holds ["w", "b.yaml"] [("b", .string "w")] [] := by
  exact ⟨"b: w\n", [(.string "b", .string "w")], [],
    beside_readAt_b ["w"] text, .mapping (by cbv), rfl, .absent,
    List.forall_mem_nil _, rfl⟩

/-- A text that includes the file beside loads to what both set. -/
theorem loadText_beside (short : 2 * dots + 11 ≤ Tree.pathLimit) :
    (runLoading (loadText (beside ["w"] text) "app.yaml"
      (including (detour dots)))).1 =
        .ok (.ofEntries [⟨"k", .string "v", "app.yaml"⟩,
          ⟨"b", .string "w", Files.join "." (detour dots)⟩]) := by
  have located := beside_locate_b text dots
  rw [← utf8ByteSize_join_detour] at short
  have present : (beside ["w"] text).tree.exists?
      (Files.join "." (detour dots)) = true :=
    World.exists?_iff.mpr ⟨_, Tree.lookUp_of_locate located short⟩
  have unfolds := Visits.cons located
    ⟨beside_holds_b text, List.forall_mem_nil _⟩ .nil .nil
  refine loadText_eq_ok_iff.mpr ⟨_, _, including_settings dots ".",
    List.forall_mem_singleton.mpr present, _, unfolds, ?_, rfl⟩
  show ["k", "b"].Nodup
  decide

end Shallow

/-- A file that includes the one beside it by such a name. -/
def nearby (dots : Nat) : World :=
  beside ["w"] (including (detour dots))

/-- Where both spellings are short, the text and the file agree. -/
theorem loadText_agrees_load_nearby :
    (∃ document,
      (runLoading (load (nearby 0) "app.yaml")).1 = .ok document) ∧
    (∀ held loaded,
      (runLoading (loadText (nearby 0) "app.yaml"
        (including (detour 0)))).1 = .ok held →
      (runLoading (load (nearby 0) "app.yaml")).1 = .ok loaded →
      held.values = loaded.values) ∧
    (TransGen ((Root.file "app.yaml").Edge (nearby 0))
        ["w", "app.yaml"] ["w", "app.yaml"] →
      ∀ document,
        (runLoading (loadText (nearby 0) "app.yaml"
          (including (detour 0)))).1 ≠ .ok document ∧
        (runLoading (load (nearby 0) "app.yaml")).1 ≠ .ok document) := by
  have alike : ∀ mentioned, Mentions (including (detour 0)) mentioned →
      SpelledAlike (nearby 0).tree mentioned := by
    intro mentioned mentions
    rw [eq_of_mentions_including 0 mentions, SpelledAlike]
    decide
  have held := loadText_beside (including (detour 0)) 0 (by decide)
  rcases loadText_agrees_load (beside_locate_app (including (detour 0)))
    (beside_readAt_app ["w"] (including (detour 0))) (by decide) "app.yaml"
    with ⟨same, rest⟩
  exact ⟨(same alike).mp ⟨_, held⟩, rest⟩

/-- A directory whose path leaves no room for the name of a file. -/
def deep : Location :=
  List.replicate 1023 "abc"

theorem octets_deep : octets deep = 4092 := by
  have name : "abc".utf8ByteSize = 3 := by decide
  rw [deep, octets_replicate, name]

theorem locate_deep (text : String) :
    (beside deep text).tree.locate "app.yaml" = .error .nameTooLong := by
  have long : Tree.pathLimit < Tree.spelledLength deep "app.yaml" [] := by
    rw [Tree.spelledLength, utf8ByteSize_path (by simp), octets_append,
      octets_deep]
    decide
  have cut : pieces "app.yaml" = ["app.yaml"] := by decide
  have start : (beside deep text).tree.start "app.yaml" = deep := rfl
  rw [Tree.locate, if_neg (by decide), if_neg (by decide), start, cut,
    Tree.spellOut, if_pos]
  simpa [Tree.isDots] using long

theorem utf8ByteSize_join_nearby (dots : Nat) :
    (Files.join (Location.path ["w"]) (detour dots)).utf8ByteSize =
      2 * dots + 12 := by
  have long := @Tree.utf8ByteSize_join_root ⟨[], [], ["w"]⟩ (detour dots)
    (by decide) (isAbsolute_detour dots)
  have directory : octets ["w"] = 2 := by decide
  rw [octets_detour, directory] at long
  exact long.trans (by omega)

/-- With dots on the way, only the spelling from the root is too long. -/
theorem not_load_nearby (document : Document) :
    (runLoading (load (nearby 2042) "app.yaml")).1 ≠ .ok document := by
  intro loaded
  rcases (load_eq_ok_iff_makesUp (beside_locate_app _)).mp loaded with
    ⟨settings, includes, holds, present, _⟩
  have listed := (World.holds_iff_of_readAt
    (beside_readAt_app ["w"] _)).mpr (including_settings 2042 _)
  obtain ⟨-, rfl⟩ := listed.unique holds
  have short := short_of_exists? (present _ (List.mem_singleton_self _))
  rw [parentPath_current, utf8ByteSize_join_nearby] at short
  exact absurd short (by decide)

/--
Where only the spelling of an include from the root is too long, or the
location of the file itself, the text loads and the file does not.
-/
theorem loadText_nearby_ne_load :
    ((nearby 2042).tree.locate "app.yaml" = .ok ["w", "app.yaml"] ∧
      (nearby 2042).tree.readAt ["w", "app.yaml"] =
        .ok (including (detour 2042)) ∧
      ¬ ((∃ document, (runLoading (loadText (nearby 2042) "app.yaml"
            (including (detour 2042)))).1 = .ok document) ↔
          ∃ document, (runLoading (load (nearby 2042) "app.yaml")).1 =
            .ok document)) ∧
    (beside deep "k: v\n").tree.readAt (deep ++ ["app.yaml"]) =
        .ok "k: v\n" ∧
      ¬ ((∃ document, (runLoading (loadText (beside deep "k: v\n")
            "app.yaml" "k: v\n")).1 = .ok document) ↔
          ∃ document, (runLoading (load (beside deep "k: v\n")
            "app.yaml")).1 = .ok document) := by
  refine ⟨⟨beside_locate_app _, beside_readAt_app ["w"] _, ?_⟩,
    beside_readAt_app deep _, ?_⟩
  · intro same
    have held := loadText_beside (including (detour 2042)) 2042 (by decide)
    rcases same.mp ⟨_, held⟩ with ⟨document, loaded⟩
    exact not_load_nearby document loaded
  · intro same
    have holds : HoldsSettings "." "k: v\n" [("k", .string "v")] [] :=
      ⟨[(.string "k", .string "v")], [], .mapping (by cbv), rfl, .absent,
        List.forall_mem_nil _, rfl⟩
    rcases same.mp ⟨_, loadText_eq_ok_iff.mpr ⟨_, _, holds,
      List.forall_mem_nil _, _, .nil, by decide, rfl⟩⟩ with
      ⟨document, loaded⟩
    rcases load_eq_ok_iff.mp loaded with ⟨visits, unfolds, _⟩
    rcases unfolds.exists_visit (List.mem_singleton_self _) with
      ⟨location, found, _⟩
    rw [locate_deep] at found
    cases found

end Gatehouse.Config
