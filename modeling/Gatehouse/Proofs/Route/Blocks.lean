import Gatehouse.Proofs.Route.Compile
import Gatehouse.Proofs.Yaml.Overlays
import Mathlib.Data.List.Induction
import Mathlib.Data.List.Pairwise

/-!
# What the `routes` section says, as it is written

A section is accepted exactly if each of its keys is well formed, and its
table then holds what the last key of each name says.  A block of a pattern
falls into the keys that name a method, each of which holds a section, and
all others, which state settings for every method.  The entries of a pattern
are one for each section, laid over the other settings, and one for the
other settings alone, even where there are none.
-/

namespace Gatehouse.Route.Table

open Gatehouse.Http
open Gatehouse.Outcome
open Gatehouse.Yaml

/-- The entries of a mapping; null, like all that is none, has none. -/
def mappingOf (value : Value) : Mapping :=
  value.entries?.getD []

theorem mappingAt_ok {location : String} {value : Value} {values : Mapping}
    (read : mappingAt location value = .ok values) :
    values = mappingOf value := by
  unfold mappingAt at read
  split at read
  · exact (Except.ok.inj read).symm
  · exact (Except.ok.inj read).symm
  · cases read

/-! ## The keys of the section -/

/-- What the last key that reads as a name holds; null if there is none. -/
def underKey (keys : Mapping) (name : String) : Value :=
  (keys.reverse.find? fun entry => entry.1.label? == some name).elim
    .null Prod.snd

theorem underKey_concat (keys : Mapping) (entry : Value × Value)
    (name : String) :
    underKey (keys ++ [entry]) name =
      if entry.1.label? = some name then entry.2
      else underKey keys name := by
  rw [underKey, List.reverse_append, List.reverse_singleton,
    List.singleton_append, List.find?_cons]
  by_cases named : entry.1.label? = some name
  · rw [if_pos named, beq_iff_eq.mpr named]
    rfl
  · rw [if_neg named, beq_eq_false_iff_ne.mpr named]
    rfl

/-- Keys of another name do not say what is under a name. -/
theorem underKey_append {front back : Mapping} {name : String}
    (others : ∀ entry ∈ back, entry.1.label? ≠ some name) :
    underKey (front ++ back) name = underKey front name := by
  induction back using List.reverseRecOn with
  | nil => rw [List.append_nil]
  | append_singleton rest entry induction =>
      have differs : entry.1.label? ≠ some name :=
        others entry (List.mem_append_right _ List.mem_cons_self)
      rw [← List.append_assoc, underKey_concat, if_neg differs]
      apply induction
      intro held member
      exact others held (List.mem_append_left _ member)

/-- A key of the section that can be taken into a table. -/
inductive Fits : Value × Value → Prop where
  | defaults {name value : Value} {values : Mapping}
      (labelled : name.label? = some "defaults")
      (read : mappingAt "routes.defaults" value = .ok values) :
      Fits (name, value)
  | patterns {name value : Value} {entries : List TableEntry}
      (labelled : name.label? = some "patterns")
      (compiled : compile value = .ok entries) :
      Fits (name, value)

/-- What is under a name is null, or what some key of that name holds. -/
theorem underKey_cases (keys : Mapping) (name : String) :
    underKey keys name = .null ∨
      ∃ key, (key, underKey keys name) ∈ keys ∧ key.label? = some name := by
  unfold underKey
  cases found : keys.reverse.find? fun entry => entry.1.label? == some name with
  | none => exact .inl rfl
  | some entry =>
      refine .inr ⟨entry.1, ?_, ?_⟩
      · exact List.mem_reverse.mp (List.mem_of_find?_eq_some found)
      · have named := List.find?_some found
        exact beq_iff_eq.mp named

theorem exists_mappingAt_underKey {keys : Mapping}
    (fits : ∀ entry ∈ keys, Fits entry) :
    ∃ values, mappingAt "routes.defaults" (underKey keys "defaults") =
      .ok values := by
  rcases underKey_cases keys "defaults" with absent | ⟨key, member, named⟩
  · rw [absent]
    exact ⟨[], rfl⟩
  · cases fits _ member with
    | defaults _ read => exact ⟨_, read⟩
    | patterns labelled _ => simp [labelled] at named

theorem exists_compile_underKey {keys : Mapping}
    (fits : ∀ entry ∈ keys, Fits entry) :
    ∃ entries, compile (underKey keys "patterns") = .ok entries := by
  rcases underKey_cases keys "patterns" with absent | ⟨key, member, named⟩
  · rw [absent]
    exact ⟨[], rfl⟩
  · cases fits _ member with
    | defaults labelled _ => simp [labelled] at named
    | patterns _ compiled => exact ⟨_, compiled⟩

/-- Taking a key into a table sets what the key is named for. -/
theorem applyKey_eq_ok_iff {table result : Table} {name value : Value} :
    table.applyKey name value = .ok result ↔
      (name.label? = some "defaults" ∧
        mappingAt "routes.defaults" value = .ok result.defaults ∧
        result.entries = table.entries) ∨
      (name.label? = some "patterns" ∧
        compile value = .ok result.entries ∧
        result.defaults = table.defaults) := by
  unfold applyKey
  split
  · rename_i labelled
    rw [labelled, bind_eq_ok_iff]
    constructor
    · rintro ⟨values, read, shape⟩
      obtain rfl := pure_eq_ok_iff.mp shape
      exact .inl ⟨rfl, read, rfl⟩
    · rintro (⟨_, read, kept⟩ | ⟨other, _⟩)
      · refine ⟨result.defaults, read, pure_eq_ok_iff.mpr ?_⟩
        rw [← kept]
      · simp at other
  · rename_i labelled
    rw [labelled, bind_eq_ok_iff]
    constructor
    · rintro ⟨entries, compiled, shape⟩
      obtain rfl := pure_eq_ok_iff.mp shape
      exact .inr ⟨rfl, compiled, rfl⟩
    · rintro (⟨other, _⟩ | ⟨_, compiled, kept⟩)
      · simp at other
      · refine ⟨result.entries, compiled, pure_eq_ok_iff.mpr ?_⟩
        rw [← kept]
  · rename_i notDefaults notPatterns
    constructor
    · intro refused
      cases refused
    · rintro (⟨labelled, _⟩ | ⟨labelled, _⟩)
      · exact (notDefaults labelled).elim
      · exact (notPatterns labelled).elim

/-- Each key is well formed, and the table holds what the last ones say. -/
theorem ofValue_mapping_eq_ok_iff {keys : Mapping} {table : Table} :
    ofValue (some (.mapping keys)) = .ok table ↔
      (∀ entry ∈ keys, Fits entry) ∧
        mappingAt "routes.defaults" (underKey keys "defaults") =
          .ok table.defaults ∧
        compile (underKey keys "patterns") = .ok table.entries := by
  unfold ofValue
  dsimp only
  induction keys using List.reverseRecOn generalizing table with
  | nil =>
      constructor
      · intro accepted
        obtain rfl := pure_eq_ok_iff.mp accepted
        exact ⟨nofun, rfl, rfl⟩
      · rintro ⟨_, read, compiled⟩
        cases table with
        | mk defaults entries =>
            cases read
            cases compiled
            rfl
  | append_singleton rest entry induction =>
      rcases entry with ⟨name, value⟩
      rw [List.foldlM_append, bind_eq_ok_iff, underKey_concat,
        underKey_concat, List.forall_mem_append, List.forall_mem_singleton]
      simp only [List.foldlM_cons, List.foldlM_nil, bind_pure,
        applyKey_eq_ok_iff, induction]
      constructor
      · rintro ⟨before, ⟨fits, read, compiled⟩,
          ⟨labelled, taken, kept⟩ | ⟨labelled, taken, kept⟩⟩
        · rw [if_pos labelled, labelled, if_neg (by simp), kept]
          exact ⟨⟨fits, .defaults labelled taken⟩, taken, compiled⟩
        · rw [if_pos labelled, labelled, if_neg (by simp), kept]
          exact ⟨⟨fits, .patterns labelled taken⟩, read, taken⟩
      · rintro ⟨⟨fits, last⟩, read, compiled⟩
        cases last with
        | defaults labelled _ =>
            rw [if_pos labelled] at read
            rw [labelled, if_neg (by simp)] at compiled
            rcases exists_mappingAt_underKey fits with ⟨values, earlier⟩
            exact ⟨⟨values, table.entries⟩, ⟨fits, earlier, compiled⟩,
              .inl ⟨labelled, read, rfl⟩⟩
        | patterns labelled _ =>
            rw [if_pos labelled] at compiled
            rw [labelled, if_neg (by simp)] at read
            rcases exists_compile_underKey fits with ⟨entries, earlier⟩
            exact ⟨⟨table.defaults, entries⟩, ⟨fits, read, earlier⟩,
              .inr ⟨labelled, compiled, rfl⟩⟩

/-! ## The keys of a block -/

/-- The method that a key of a block names, if it names one. -/
def methodOf? (key : Value) : Option Method :=
  key.label?.bind Method.standard?

theorem methodOf?_of_sameKey {key other : Value}
    (same : key.sameKey other = true) : methodOf? key = methodOf? other := by
  rw [methodOf?, Value.label?_of_keyCode (Value.sameKey_iff.mp same)]
  rfl

/-- The settings that a block states for every method. -/
def sharedOf (block : Mapping) : Mapping :=
  block.filter fun entry => (methodOf? entry.1).isNone

/-- The sections of a block with the methods that they are for. -/
def sectionsOf (block : Mapping) : List (Method × Mapping) :=
  block.filterMap fun entry =>
    (methodOf? entry.1).map fun method => (method, mappingOf entry.2)

/-- The section of a block for a method. -/
def sectionOf? (block : Mapping) (method : Method) : Option Mapping :=
  (List.find? (fun entry => methodOf? entry.1 == some method) block).map
    fun entry => mappingOf entry.2

theorem mem_sectionsOf_iff {block values : Mapping} {method : Method} :
    (method, values) ∈ sectionsOf block ↔
      ∃ entry ∈ block, methodOf? entry.1 = some method ∧
        mappingOf entry.2 = values := by
  simp [sectionsOf]

theorem mem_sectionsOf_of_sectionOf? {block values : Mapping}
    {method : Method} (found : sectionOf? block method = some values) :
    (method, values) ∈ sectionsOf block := by
  rcases Option.map_eq_some_iff.mp found with ⟨entry, first, held⟩
  have named := List.find?_some first
  rw [beq_iff_eq] at named
  exact mem_sectionsOf_iff.mpr
    ⟨entry, List.mem_of_find?_eq_some first, named, held⟩

theorem isSome_sectionOf?_of_mem {block values : Mapping} {method : Method}
    (member : (method, values) ∈ sectionsOf block) :
    (sectionOf? block method).isSome = true := by
  rcases mem_sectionsOf_iff.mp member with ⟨entry, held, named, _⟩
  rw [sectionOf?, Option.isSome_map, List.find?_isSome]
  exact ⟨entry, held, beq_iff_eq.mpr named⟩

theorem sharedOf_cons (entry : Value × Value) (rest : Mapping) :
    sharedOf (entry :: rest) =
      if methodOf? entry.1 = none then entry :: sharedOf rest
      else sharedOf rest := by
  rw [sharedOf, List.filter_cons]
  simp only [Option.isNone_iff_eq_none]
  rfl

/-- A key that names a method is no setting; of others the last one counts. -/
theorem latest?_sharedOf (block : Mapping) (key : Value) :
    Mapping.latest? (sharedOf block) key =
      if methodOf? key = none then Mapping.latest? block key else none := by
  induction block with
  | nil =>
      split <;> rfl
  | cons entry rest induction =>
      rw [sharedOf_cons, Mapping.latest?_cons]
      by_cases same : entry.1.sameKey key = true
      · rw [methodOf?_of_sameKey same]
        split
        · rename_i plain
          rw [Mapping.latest?_cons, induction, if_pos plain, if_pos same]
        · rename_i named
          rw [induction, if_neg named]
      · have tail : Mapping.latest? (entry :: sharedOf rest) key =
            Mapping.latest? (sharedOf rest) key := by
          rw [Mapping.latest?_cons, if_neg same, Option.or_none]
        rw [if_neg same, Option.or_none, ← induction]
        split
        · exact tail
        · rfl

/-- What a block makes of its keys: the settings and the sections. -/
theorem blockOf_ok {location : String} {entries : Mapping}
    {begun block : Block}
    (read : blockOf location entries begun = .ok block) :
    block = ⟨Mapping.overlay begun.shared (sharedOf entries),
      begun.perMethod ++ sectionsOf entries⟩ := by
  induction entries generalizing begun with
  | nil =>
      obtain rfl := Except.ok.inj read
      rw [sectionsOf, List.filterMap_nil, List.append_nil]
      rfl
  | cons entry rest induction =>
      rcases entry with ⟨name, value⟩
      rw [blockOf] at read
      rw [sharedOf, sectionsOf, List.filter_cons, List.filterMap_cons]
      dsimp only
      split at read
      · rename_i method named
        rcases bind_eq_ok_iff.mp read with ⟨values, given, read⟩
        rw [methodOf?, named, induction read, mappingAt_ok given,
          List.append_assoc]
        rfl
      · rename_i unnamed
        rw [methodOf?, unnamed, induction read]
        rfl

/-- The settings of a pattern as its block states them. -/
def blockIn (value : Value) : Block :=
  ⟨Mapping.overlay [] (sharedOf (mappingOf value)),
    sectionsOf (mappingOf value)⟩

/-- A key spells a pattern by a text. -/
structure Spells (key : Value) (pattern : Pattern) (text : String) :
    Prop where
  labelled : key.label? = some text
  parsed : Pattern.parse text = .ok pattern

theorem Spells.unique {key : Value} {pattern other : Pattern}
    {text name : String} (spells : Spells key pattern text)
    (alike : Spells key other name) : pattern = other ∧ text = name := by
  obtain rfl := Option.some.inj (spells.labelled.symm.trans alike.labelled)
  exact ⟨Except.ok.inj (spells.parsed.symm.trans alike.parsed), rfl⟩

/-- A pattern has the entries that its block states. -/
theorem entriesOf_ok {key value : Value} {part : List TableEntry}
    (declared : entriesOf key value = .ok part) :
    ∃ pattern text, Spells key pattern text ∧
      part = (blockIn value).entries pattern text := by
  unfold entriesOf at declared
  cases labelled : key.label? with
  | none =>
      rw [labelled] at declared
      cases declared
  | some text =>
      rw [labelled] at declared
      rcases bind_eq_ok_iff.mp declared with ⟨pattern, parsed, declared⟩
      rcases bind_eq_ok_iff.mp declared with ⟨values, read, declared⟩
      rcases bind_eq_ok_iff.mp declared with ⟨block, split, shape⟩
      obtain rfl := pure_eq_ok_iff.mp shape
      refine ⟨pattern, text,
        ⟨labelled, mapError_eq_ok_iff.mp parsed⟩, ?_⟩
      rw [blockOf_ok split, mappingAt_ok read]
      rfl

/-! ## The entries of a table -/

/-- The entries of a pattern are one for each section, and one for the rest. -/
theorem mem_entries_iff {block : Block} {pattern : Pattern}
    {text : String} {entry : TableEntry} :
    entry ∈ block.entries pattern text ↔
      (∃ method values, (method, values) ∈ block.perMethod ∧
        entry = ⟨pattern, some method,
          Mapping.overlay block.shared values, text⟩) ∨
      entry = ⟨pattern, none, block.shared, text⟩ := by
  rw [Block.entries, List.mem_append, List.mem_singleton, List.mem_map]
  simp only [Prod.exists, eq_comm]

theorem pattern_of_mem {block : Block} {pattern : Pattern}
    {text : String} {entry : TableEntry}
    (member : entry ∈ block.entries pattern text) :
    entry.pattern = pattern := by
  rcases mem_entries_iff.mp member with ⟨_, _, _, rfl⟩ | rfl <;> rfl

theorem matches_pattern {entry : TableEntry} {path : String}
    {method : Method} (suits : entry.matches path method = true) :
    entry.pattern.matches path = true :=
  (Bool.and_eq_true _ _ ▸ suits).1

theorem method_of_matches {entry : TableEntry} {path : String}
    {method other : Method} (suits : entry.matches path method = true)
    (alone : entry.method = some other) : other = method := by
  have meant := (Bool.and_eq_true _ _ ▸ suits).2
  rw [alone, Option.all_some] at meant
  exact beq_iff_eq.mp meant

/-- The entry of a pattern for all methods. -/
def Block.general (block : Block) (pattern : Pattern) (text : String) :
    TableEntry :=
  ⟨pattern, none, block.shared, text⟩

theorem Block.general_mem (block : Block) (pattern : Pattern)
    (text : String) :
    block.general pattern text ∈ block.entries pattern text :=
  mem_entries_iff.mpr (.inr rfl)

theorem mem_flatten_iff {patterns : Mapping}
    {parts : List (List TableEntry)}
    (each : List.Forall₂ Declares patterns parts) {entry : TableEntry} :
    entry ∈ parts.flatten ↔
      ∃ key value pattern text, (key, value) ∈ patterns ∧
        Spells key pattern text ∧
        entry ∈ (blockIn value).entries pattern text := by
  induction each with
  | nil =>
      constructor
      · intro impossible
        cases impossible
      · rintro ⟨_, _, _, _, impossible, _⟩
        cases impossible
  | @cons block part patterns parts declared _ induction =>
      rcases entriesOf_ok declared with ⟨pattern, text, spells, shape⟩
      rw [List.flatten_cons, List.mem_append, induction]
      constructor
      · rintro (member | ⟨key, value, other, name, listed, rest⟩)
        · rw [shape] at member
          exact ⟨block.1, block.2, pattern, text, List.mem_cons_self,
            spells, member⟩
        · exact ⟨key, value, other, name,
            List.mem_cons_of_mem _ listed, rest⟩
      · rintro ⟨key, value, other, name, listed, alike, member⟩
        rcases List.mem_cons.mp listed with rfl | later
        · rcases spells.unique alike with ⟨rfl, rfl⟩
          rw [shape]
          exact .inl member
        · exact .inr ⟨key, value, other, name, later, alike, member⟩

/-- Two keys do not spell the same pattern. -/
def Unlike (first second : Value × Value) : Prop :=
  ∀ pattern text other, Spells first.1 pattern text →
    ¬ Spells second.1 pattern other

instance : Std.Symm Unlike :=
  ⟨fun _ _ unlike pattern text other spells alike =>
    unlike pattern other text alike spells⟩

/-- In different slots no pattern is spelled by two keys. -/
theorem pairwise_unlike {patterns : Mapping}
    {parts : List (List TableEntry)}
    (each : List.Forall₂ Declares patterns parts)
    (apart : Apart parts.flatten) : patterns.Pairwise Unlike := by
  induction each with
  | nil => exact .nil
  | @cons block part patterns parts declared each induction =>
      rcases List.pairwise_append.mp apart with ⟨_, others, differs⟩
      refine List.pairwise_cons.mpr ⟨?_, induction others⟩
      intro held member pattern text other spells alike
      -- Each of the two keys brings an entry for all methods.
      rcases entriesOf_ok declared with ⟨found, name, own, rfl⟩
      obtain rfl := (spells.unique own).1
      have second := (mem_flatten_iff each).mpr ⟨held.1, held.2, pattern,
        other, member, alike, Block.general_mem _ _ _⟩
      have free := differs _ (Block.general_mem _ _ _) _ second
      have taken : ((blockIn block.2).general pattern name).sameSlot
          ((blockIn held.2).general pattern other) = true :=
        TableEntry.sameSlot_iff.mpr ⟨rfl, rfl⟩
      cases taken.symm.trans free

theorem eq_of_spells {patterns : Mapping}
    (unlike : patterns.Pairwise Unlike) {first second : Value × Value}
    (former : first ∈ patterns) (latter : second ∈ patterns)
    {pattern : Pattern} {text other : String}
    (spells : Spells first.1 pattern text)
    (alike : Spells second.1 pattern other) : first = second := by
  by_contra differs
  exact unlike.forall former latter differs pattern text other spells alike

end Gatehouse.Route.Table
