import Gatehouse.Proofs.Config.InMemory
import Gatehouse.Proofs.Config.Literals

/-!
# Documents that load again

A document that has been loaded lists nothing to include any more, however
it was loaded: every source gives up its list before its settings are
merged, and filling in variables leaves the keys alone.  If its strings hold
no opening either, nothing in it depends on files or variables, so once it
is written down and read back it loads to itself, anywhere.
-/

namespace Gatehouse.Config

open Gatehouse.Files
open Gatehouse.Outcome
open Gatehouse.Yaml

variable {world : World}

/-! ## No include list is left -/

/-- A text keeps its include list apart from its settings. -/
theorem HoldsSettings.includeKey_not_mem {directory text : String}
    {settings : List (String × Value)} {includes : List String}
    (holds : HoldsSettings directory text settings includes) :
    includeKey ∉ settings.map Prod.fst := by
  rcases holds with ⟨entries, _, _, own, _⟩
  intro member
  rcases List.mem_map.mp member with ⟨⟨_, value⟩, set, rfl⟩
  have kept : (Value.string includeKey, value) ∈
      Mapping.drop entries includeKey := by
    rw [own]
    exact List.mem_map.mpr ⟨_, set, rfl⟩
  have differs := (List.mem_filter.mp kept).2
  simp [Value.sameKey] at differs

theorem World.Holds.includeKey_not_mem {location : Files.Location}
    {settings : List (String × Value)} {includes : List String}
    (holds : world.Holds location settings includes) :
    includeKey ∉ settings.map Prod.fst := by
  rcases holds with ⟨text, entries, names, _, rest⟩
  have fromText : HoldsSettings _ text settings includes :=
    ⟨entries, names, rest⟩
  exact fromText.includeKey_not_mem

/-- Nor do the files that are visited bring one in. -/
theorem Visits.includeKey_not_mem {paths : List String}
    {visits : List Visit} (unfolds : Visits world paths visits) :
    includeKey ∉ keysOf (entriesOf (firstVisits visits)) := by
  intro member
  rcases mem_keysOf.mp member with ⟨entry, set, key⟩
  rcases List.mem_flatMap.mp set with ⟨visit, first, own⟩
  have visited := freshVisits_subset [] visits first
  rcases unfolds.beneath visited with ⟨_, _, opens, _⟩
  apply opens.holds.includeKey_not_mem
  rw [← keysOf_entries, ← key]
  exact mem_keysOf.mpr ⟨entry, own, rfl⟩

theorem MakesUp.includeKey_not_mem {origin : String}
    {settings : List (String × Value)} {paths : List String}
    {document : Document}
    (makes : MakesUp world origin settings paths document)
    (apart : includeKey ∉ settings.map Prod.fst) :
    includeKey ∉ document.keys := by
  rcases makes with ⟨_, visits, unfolds, _, finished⟩
  rw [keys_of_finish finished, keysOf_append, keysOf_fromSource,
    List.mem_append, not_or]
  exact ⟨apart, unfolds.includeKey_not_mem⟩

/-- However a document was loaded, it has no include list. -/
theorem Root.includeKey_not_mem {root : Root} {document : Document}
    (loaded : (runLoading (root.load world)).1 = .ok document) :
    includeKey ∉ document.keys := by
  cases root with
  | file path =>
      rcases load_eq_ok_iff.mp loaded with ⟨visits, unfolds, _, finished⟩
      rw [keys_of_finish finished]
      exact unfolds.includeKey_not_mem
  | text origin text =>
      rcases loadText_eq_ok_iff.mp loaded with ⟨settings, _, holds, makes⟩
      exact makes.includeKey_not_mem holds.includeKey_not_mem
  | override path base =>
      rcases loadOverride_ok loaded with
        ⟨_, settings, _, _, _, holds, ⟨visits, _, unfolds, rfl, _⟩, finished⟩
      have distinct : (keysOf (fromSource path settings)).Nodup := by
        rw [keysOf_fromSource]
        exact holds.nodup
      rw [keys_of_finish finished, keysOf_replaceEntries distinct,
        keysOf_fromSource, List.mem_append, not_or]
      exact ⟨unfolds.includeKey_not_mem,
        fun own => holds.includeKey_not_mem (List.mem_of_mem_filter own)⟩

/-! ## Every key is a text -/

/-- The settings behind a document that was finished, key by key. -/
theorem exists_settings_of_finish {entries : List Entry}
    {document : Document} (finished : finish world entries = .ok document) :
    ∃ settings, document.values = namedMapping settings := by
  rcases finish_eq_ok_iff.mp finished with ⟨filled, _, rfl⟩
  refine ⟨filled.map fun entry => (entry.key, entry.value), ?_⟩
  rw [Document.values_ofEntries, valuesOf, namedMapping, List.map_map]
  rfl

/-- However a document was loaded, all of its keys are texts. -/
theorem Root.exists_settings {root : Root} {document : Document}
    (loaded : (runLoading (root.load world)).1 = .ok document) :
    ∃ settings, document.values = namedMapping settings := by
  cases root with
  | file path =>
      rcases load_eq_ok_iff.mp loaded with ⟨_, _, _, finished⟩
      exact exists_settings_of_finish finished
  | text origin text =>
      rcases loadText_eq_ok_iff.mp loaded with
        ⟨_, _, _, _, _, _, _, finished⟩
      exact exists_settings_of_finish finished
  | override path base =>
      rcases loadOverride_ok loaded with ⟨_, _, _, _, _, _, _, finished⟩
      exact exists_settings_of_finish finished

/-! ## Reading back what was written -/

/-- A text spells a document and is read back as the same mapping. -/
structure PrintsBack (document : Document) (text : String) : Prop where
  printed : document.render = .ok text
  reads : Yaml.read text = .ok (.mapping document.values)

theorem keys_of_namedMapping {document : Document}
    {settings : List (String × Value)}
    (named : document.values = namedMapping settings) :
    document.keys = settings.map Prod.fst := by
  rw [Document.keys, named, ← valuesOf_fromSource "", textKeys_valuesOf,
    keysOf_fromSource]

/-- A text that is read back to a document without includes holds it. -/
theorem PrintsBack.holds {document : Document} {text : String}
    (prints : PrintsBack document text)
    {settings : List (String × Value)}
    (named : document.values = namedMapping settings)
    (alone : includeKey ∉ document.keys) (directory : String) :
    HoldsSettings directory text settings [] := by
  rw [keys_of_namedMapping named] at alone
  have apart : ∀ entry ∈ namedMapping settings,
      entry.1.sameKey (.string includeKey) = false := by
    intro entry member
    rcases List.mem_map.mp member with ⟨setting, set, rfl⟩
    have differs : setting.1 ≠ includeKey :=
      fun same => alone (same ▸ List.mem_map_of_mem set)
    simpa [Value.sameKey] using differs
  have reads := prints.reads
  rw [named] at reads
  refine ⟨namedMapping settings, [], .mapping reads, ?_, ?_,
    List.forall_mem_nil _, rfl⟩
  · rw [Mapping.drop, List.filter_eq_self]
    simpa using apart
  · have absent : Mapping.get? (namedMapping settings) includeKey = none := by
      rw [Mapping.get?, Mapping.find?, Option.map_eq_none_iff,
        List.find?_eq_none]
      simpa using apart
    rw [absent]
    exact .absent

/-- Settings without an opening in their strings are filled in already. -/
theorem finish_of_opensNothing (world : World) {entries : List Entry}
    (plain : ∀ leaf ∈ Value.entryLeaves (valuesOf entries),
      OpensNothing leaf) :
    finish world entries = .ok (.ofEntries entries) := by
  have filled := interpolateEntries_escaped world.lookup "" (valuesOf entries)
  rw [escapedEntries_of_opensNothing _ plain] at filled
  exact bind_eq_ok_iff.mpr ⟨_, filled, rfl⟩

/-- A text that includes nothing is all that is looked at. -/
theorem runFrom_loadText_of_holds (world : World) (walk : Walk)
    (origin : String) {text : String} {settings : List (String × Value)}
    (holds : HoldsSettings "." text settings []) :
    runFrom walk (loadText world origin text) =
      (finish world (fromSource origin settings), walk) := by
  rw [loadText_eq, runFrom_bind, runFrom_ofExcept,
    (holdsSettings_iff origin).mp holds]
  dsimp only
  rw [runFrom_bind, runFrom_ofExcept, ownEntries_namedMapping]
  dsimp only
  rw [runFrom_bind, gatherIncludes_nil]
  dsimp only
  rw [runFrom_ofExcept]

/-! ## Loading again -/

/--
What a text loads to is a document once more: nothing is read or reported on
the way, all keys and values are there, in order, one source defines all of
them, and they are written as the same text again.
-/
structure Reloads (world : World) (document : Document)
    (origin text : String) (reloaded : Document) : Prop where
  result : runLoading (loadText world origin text) = (.ok reloaded, [])
  reads : (Root.text origin text).Loads world [] 0 (.ok reloaded)
  values : reloaded.values = document.values
  origins : ∀ key ∈ reloaded.keys, reloaded.origin? key = some origin
  prints : PrintsBack reloaded text

/-- All settings of a source have its name as their origin. -/
theorem origin?_fromSource {origin : String}
    {settings : List (String × Value)} {key : String}
    (member : key ∈ (Document.ofEntries (fromSource origin settings)).keys) :
    (Document.ofEntries (fromSource origin settings)).origin? key =
      some origin := by
  rw [Document.keys_ofEntries] at member
  rw [Document.origin?_ofEntries, Option.map_eq_some_iff]
  cases found : entryOf? (fromSource origin settings) key with
  | none => exact (entryOf?_eq_none_iff.mp found member).elim
  | some entry =>
      rcases List.mem_map.mp (mem_of_entryOf? found) with ⟨_, _, rfl⟩
      exact ⟨_, rfl, rfl⟩

/--
However a document was loaded: if no string in it holds an opening, its text
loads to the same keys and values, whatever files and variables there are.
-/
theorem reloads_exact (root : Root) {document : Document}
    (loaded : (runLoading (root.load world)).1 = .ok document)
    (plain : ∀ leaf ∈ (Value.mapping document.values).leaves,
      OpensNothing leaf)
    {text : String} (prints : PrintsBack document text) (origin : String) :
    ∃ reloaded, ∀ other : World,
      Reloads other document origin text reloaded := by
  rcases root.exists_settings loaded with ⟨settings, named⟩
  have same : (Document.ofEntries (fromSource origin settings)).values =
      document.values := by
    rw [Document.values_ofEntries, valuesOf_fromSource, named]
  refine ⟨.ofEntries (fromSource origin settings), fun other => ?_⟩
  have holds := prints.holds named (Root.includeKey_not_mem loaded) "."
  have finished : finish other (fromSource origin settings) =
      .ok (.ofEntries (fromSource origin settings)) := by
    apply finish_of_opensNothing
    rw [valuesOf_fromSource, ← named]
    exact plain
  constructor
  case result =>
    have run := runFrom_loadText_of_holds other Walk.start origin holds
    rw [finished] at run
    exact congrArg (fun (result, walk) => (result, walk.events)) run
  case reads =>
    rw [← finished]
    exact .text ((holdsSettings_iff origin).mp holds)
      (ownEntries_namedMapping origin _) .done
  case values => exact same
  case origins => exact fun key => origin?_fromSource
  case prints =>
    refine ⟨?_, ?_⟩
    · rw [Document.render, same]
      exact prints.printed
    · rw [same]
      exact prints.reads

/-- A text that included a file is written down without the include. -/
theorem reloads_exact_nearby :
    ∃ document,
      (runLoading ((Root.text "app.yaml" (including (detour 0))).load
        (nearby 0))).1 = .ok document ∧
      (∀ leaf ∈ (Value.mapping document.values).leaves, OpensNothing leaf) ∧
      PrintsBack document "k: v\nb: w\n" ∧
      ∃ reloaded, ∀ other : World,
        Reloads other document "g" "k: v\nb: w\n" reloaded := by
  have loaded := loadText_beside (including (detour 0)) 0 (by decide)
  have plain : ∀ leaf ∈ ["v", "w"], OpensNothing leaf := by
    unfold OpensNothing
    decide
  have prints : PrintsBack (.ofEntries [⟨"k", .string "v", "app.yaml"⟩,
      ⟨"b", .string "w", Files.join "." (detour 0)⟩])
        "k: v\nb: w\n" := by
    constructor
    case printed =>
      show render (.mapping [(.string "k", .string "v"),
        (.string "b", .string "w")]) = _
      cbv
    case reads =>
      show Yaml.read _ = .ok (.mapping [(.string "k", .string "v"),
        (.string "b", .string "w")])
      cbv
  exact ⟨_, loaded, plain, prints,
    reloads_exact (.text "app.yaml" (including (detour 0))) loaded
      plain prints "g"⟩

end Gatehouse.Config
