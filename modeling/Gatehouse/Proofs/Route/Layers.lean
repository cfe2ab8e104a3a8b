import Gatehouse.Proofs.Route.Blocks
import Gatehouse.Proofs.Route.Winner

/-!
# The three layers of the settings of a route

The settings of a route are put together at two times: those of a section
are laid over the rest of their block when the section is compiled, and
those of the winning entry over the defaults when a route is resolved.
Which entry wins can be told from the blocks as they are written, since the
section of a block for a method ranks above the rest of the block.  Main
statement: of each key a route has what the section of the prevailing block
says last, or else what the block itself says, or else the defaults.
-/

namespace Gatehouse.Route.Table

open Gatehouse.Http
open Gatehouse.Yaml
open Gatehouse.Yaml.Mapping

/-! ## The section as it is written -/

/-- The keys of a `routes` section. -/
def keysOf (routes : Option Value) : Mapping :=
  mappingOf (routes.getD .null)

/-- The defaults as they are written. -/
def defaultsOf (routes : Option Value) : Mapping :=
  mappingOf (underKey (keysOf routes) "defaults")

/-- The patterns as they are written, with their blocks. -/
def patternsOf (routes : Option Value) : Mapping :=
  mappingOf (underKey (keysOf routes) "patterns")

theorem compile_ok {patterns : Value} {entries : List TableEntry}
    (compiled : compile patterns = .ok entries) :
    ∃ parts, List.Forall₂ Declares (mappingOf patterns) parts ∧
      entries = parts.flatten ∧ Apart entries := by
  unfold compile at compiled
  split at compiled
  · cases compiled
    exact ⟨[], .nil, rfl, .nil⟩
  · exact compile_mapping_eq_ok_iff.mp compiled
  · cases compiled

/-- A table that is accepted holds the defaults and lists the patterns. -/
theorem ofValue_ok {routes : Option Value} {table : Table}
    (accepted : ofValue routes = .ok table) :
    table.defaults = defaultsOf routes ∧
      ∃ parts, List.Forall₂ Declares (patternsOf routes) parts ∧
        table.entries = parts.flatten ∧ Apart table.entries := by
  cases routes with
  | none =>
      cases accepted
      exact ⟨rfl, [], .nil, rfl, .nil⟩
  | some value =>
      cases value with
      | null =>
          cases accepted
          exact ⟨rfl, [], .nil, rfl, .nil⟩
      | mapping keys =>
          rcases ofValue_mapping_eq_ok_iff.mp accepted with
            ⟨_, read, compiled⟩
          exact ⟨mappingAt_ok read, compile_ok compiled⟩
      | _ => cases accepted

/-! ## The prevailing block -/

/-- A block is written for a pattern. -/
def Written (patterns : Mapping) (pattern : Pattern) (block : Mapping) :
    Prop :=
  ∃ key value text, (key, value) ∈ patterns ∧ Spells key pattern text ∧
    mappingOf value = block

/-- The rank at which a block is for a method. -/
def rankFor (pattern : Pattern) (block : Mapping) (method : Method) : Rank :=
  ⟨pattern.isExact, (sectionOf? block method).isSome, pattern.specificity⟩

/--
A block prevails for a path and a method: its pattern means the path, and
every other pattern that does has a lower rank.
-/
structure Prevails (patterns : Mapping) (path : String) (method : Method)
    (pattern : Pattern) (block : Mapping) : Prop where
  written : Written patterns pattern block
  suits : pattern.matches path = true
  highest : ∀ other rest, Written patterns other rest →
    other.matches path = true → other = pattern ∨
      (rankFor other rest method).weight <
        (rankFor pattern block method).weight

/-- The entry of a block that is for a method. -/
def entryFor (pattern : Pattern) (block : Mapping) (method : Method)
    (text : String) : TableEntry :=
  match sectionOf? block method with
  | some values =>
    ⟨pattern, some method,
      overlay (overlay [] (sharedOf block)) values, text⟩
  | none => ⟨pattern, none, overlay [] (sharedOf block), text⟩

section Entry

variable (pattern : Pattern) (block : Mapping) (method : Method)
  (text : String)

theorem entryFor_pattern :
    (entryFor pattern block method text).pattern = pattern := by
  unfold entryFor
  split <;> rfl

theorem entryFor_method :
    (entryFor pattern block method text).method =
      (sectionOf? block method).map fun _ => method := by
  unfold entryFor
  split
  · rename_i found
    rw [found]
    rfl
  · rename_i absent
    rw [absent]
    rfl

theorem entryFor_rank :
    (entryFor pattern block method text).rank =
      rankFor pattern block method := by
  rw [TableEntry.rank, entryFor_pattern, entryFor_method,
    Option.isSome_map]
  rfl

theorem entryFor_matches (path : String) :
    (entryFor pattern block method text).matches path method =
      pattern.matches path := by
  rw [TableEntry.matches, entryFor_pattern, entryFor_method]
  cases sectionOf? block method <;> simp

/-- The section of a block goes before the rest of the block. -/
theorem find?_entryFor (key : Value) :
    find? (entryFor pattern block method text).values key =
      ((sectionOf? block method).bind (latest? · key)).or
        (if methodOf? key = none then latest? block key else none) := by
  unfold entryFor
  split
  · rename_i values found
    rw [found, find?_overlay, find?_overlay, find?_nil, Option.or_none,
      latest?_sharedOf]
    rfl
  · rename_i absent
    rw [absent, find?_overlay, find?_nil, Option.or_none,
      latest?_sharedOf]
    rfl

/-- What an entry says does not depend on how its pattern is written. -/
theorem entryFor_values (other : String) :
    (entryFor pattern block method text).values =
      (entryFor pattern block method other).values := by
  unfold entryFor
  split <;> rfl

theorem entryFor_distinct :
    Distinct (entryFor pattern block method text).values := by
  have nothing : Distinct [] := List.Pairwise.nil
  unfold entryFor
  split
  · exact (nothing.overlay _).overlay _
  · exact nothing.overlay _

end Entry

theorem entryFor_mem {value : Value} (pattern : Pattern) (method : Method)
    (text : String) :
    entryFor pattern (mappingOf value) method text ∈
      (blockIn value).entries pattern text := by
  rw [mem_entries_iff]
  unfold entryFor
  split
  · rename_i values found
    exact .inl ⟨method, values, mem_sectionsOf_of_sectionOf? found, rfl⟩
  · exact .inr rfl

/-- An entry for one method alone comes from a section for that method. -/
theorem isSome_sectionOf?_of_matches {value : Value} {pattern : Pattern}
    {text path : String} {method : Method} {entry : TableEntry}
    (member : entry ∈ (blockIn value).entries pattern text)
    (suits : entry.matches path method = true)
    (alone : entry.method.isSome = true) :
    (sectionOf? (mappingOf value) method).isSome = true := by
  rcases mem_entries_iff.mp member with ⟨other, values, listed, rfl⟩ | rfl
  · rw [← method_of_matches suits rfl]
    exact isSome_sectionOf?_of_mem listed
  · cases alone

/-- No entry of a block is for a method at a higher rank. -/
theorem rank_le_rankFor {value : Value} {pattern : Pattern}
    {text path : String} {method : Method} {entry : TableEntry}
    (member : entry ∈ (blockIn value).entries pattern text)
    (suits : entry.matches path method = true) :
    entry.rank.weight ≤
      (rankFor pattern (mappingOf value) method).weight := by
  have alone := isSome_sectionOf?_of_matches member suits
  rw [TableEntry.rank, pattern_of_mem member, rankFor]
  simp only [Rank.weight, Prod.Lex.toLex_le_toLex, lt_self_iff_false,
    true_and, false_or, le_refl, and_true, Bool.lt_iff]
  cases named : entry.method.isSome with
  | true =>
      right
      exact (alone named).symm
  | false =>
      cases (sectionOf? (mappingOf value) method).isSome with
      | true => exact .inl ⟨rfl, rfl⟩
      | false => exact .inr rfl

section Accepted

variable {patterns : Mapping} {parts : List (List TableEntry)}
  {table : Table} {path : String} {method : Method}

theorem exists_entryFor_mem
    (each : List.Forall₂ Declares patterns parts)
    (shape : table.entries = parts.flatten) (method : Method)
    {pattern : Pattern} {block : Mapping}
    (written : Written patterns pattern block) :
    ∃ text, entryFor pattern block method text ∈ table.entries := by
  rcases written with ⟨key, value, text, listed, spells, rfl⟩
  refine ⟨text, ?_⟩
  rw [shape]
  exact (mem_flatten_iff each).mpr
    ⟨key, value, pattern, text, listed, spells, entryFor_mem _ _ _⟩

/-- The entry of the prevailing block wins. -/
theorem Prevails.wins
    (each : List.Forall₂ Declares patterns parts)
    (shape : table.entries = parts.flatten) (apart : Apart table.entries)
    {pattern : Pattern} {block : Mapping}
    (prevails : Prevails patterns path method pattern block) :
    ∃ text, table.Wins path method (entryFor pattern block method text) := by
  rcases exists_entryFor_mem each shape method prevails.written with
    ⟨text, member⟩
  have suits : (entryFor pattern block method text).matches path method =
      true := (entryFor_matches _ _ _ _ _).trans prevails.suits
  refine ⟨text, member, suits, ?_⟩
  intro entry held meant
  by_cases same : entry = entryFor pattern block method text
  · exact .inl same
  refine .inr (lt_of_le_of_ne ?_ ?_)
  · rw [entryFor_rank]
    rw [shape] at held
    rcases (mem_flatten_iff each).mp held with
      ⟨other, value, name, label, among, named, within⟩
    have bounded := rank_le_rankFor within meant
    have means : name.matches path = true := by
      rw [← pattern_of_mem within]
      exact matches_pattern meant
    rcases prevails.highest name (mappingOf value)
      ⟨other, value, label, among, named, rfl⟩ means with rfl | lower
    · -- The same pattern is written once, so this is the same block.
      rcases prevails.written with ⟨key, own, _, listed, spells, rfl⟩
      cases eq_of_spells (pairwise_unlike each (shape ▸ apart)) among
        listed named spells
      exact bounded
    · exact bounded.trans lower.le
  · intro equal
    exact same (eq_of_rank apart held meant member suits
      (Rank.weight_injective equal))

/-- If any pattern means a path, a block prevails. -/
theorem exists_prevails
    (each : List.Forall₂ Declares patterns parts)
    (shape : table.entries = parts.flatten) (apart : Apart table.entries)
    (method : Method) {pattern : Pattern} {block : Mapping}
    (written : Written patterns pattern block)
    (means : pattern.matches path = true) :
    ∃ best rest, Prevails patterns path method best rest := by
  rcases exists_entryFor_mem each shape method written with ⟨text, member⟩
  rcases exists_wins apart member
    ((entryFor_matches _ _ _ _ _).trans means) with ⟨winner, wins, _⟩
  have held := wins.member
  rw [shape] at held
  rcases (mem_flatten_iff each).mp held with
    ⟨key, value, best, name, among, spells, within⟩
  refine ⟨best, mappingOf value,
    ⟨key, value, name, among, spells, rfl⟩, ?_, ?_⟩
  · rw [← pattern_of_mem within]
    exact matches_pattern wins.suits
  · intro other rest another meant
    rcases exists_entryFor_mem each shape method another with
      ⟨label, present⟩
    rcases wins.highest _ present
      ((entryFor_matches _ _ _ _ _).trans meant) with same | lower
    · left
      rw [← pattern_of_mem within, ← same, entryFor_pattern]
    · right
      rw [← entryFor_rank other rest method label]
      exact lower.trans_le (rank_le_rankFor within wins.suits)

end Accepted

/-! ## What a route resolves to -/

section Resolved

variable {routes : Option Value} {table : Table} {path : String}
  {method : Method}

/-- A route has what the prevailing block says, over the defaults. -/
theorem Prevails.resolve (accepted : ofValue routes = .ok table)
    {pattern : Pattern} {block : Mapping}
    (prevails : Prevails (patternsOf routes) path method pattern block) :
    table.resolve path method =
      ⟨overlay (defaultsOf routes) (entryFor pattern block method "").values,
        some ⟨pattern.text, (sectionOf? block method).map fun _ => method⟩⟩ := by
  rcases ofValue_ok accepted with ⟨defaults, parts, each, shape, apart⟩
  rcases prevails.wins each shape apart with ⟨text, wins⟩
  rw [Table.resolve, (winner?_eq_some_iff apart).mpr wins]
  dsimp only
  rw [entryFor_pattern, entryFor_method, defaults,
    entryFor_values pattern block method text ""]

/-- If no pattern means its path, a route has the defaults. -/
theorem resolve_of_unmeant (accepted : ofValue routes = .ok table)
    (unmeant : ∀ pattern block, Written (patternsOf routes) pattern block →
      ¬ pattern.matches path = true) :
    table.resolve path method = ⟨defaultsOf routes, none⟩ := by
  rcases ofValue_ok accepted with ⟨defaults, parts, each, shape, apart⟩
  have absent : table.winner? path method = none := by
    rw [winner?_eq_none_iff, shape]
    intro entry member suits
    rcases (mem_flatten_iff each).mp member with
      ⟨key, value, pattern, text, listed, spells, within⟩
    refine unmeant pattern (mappingOf value)
      ⟨key, value, text, listed, spells, rfl⟩ ?_
    rw [← pattern_of_mem within]
    exact matches_pattern suits
  rw [Table.resolve, absent, defaults]

/-- If some pattern means its path, some block prevails for a route. -/
theorem exists_prevails_of_written (accepted : ofValue routes = .ok table)
    (method : Method) {pattern : Pattern} {block : Mapping}
    (written : Written (patternsOf routes) pattern block)
    (means : pattern.matches path = true) :
    ∃ best rest, Prevails (patternsOf routes) path method best rest := by
  rcases ofValue_ok accepted with ⟨_, parts, each, shape, apart⟩
  exact exists_prevails each shape apart method written means

end Resolved

/--
Of every key a route has what the section of the prevailing block says, or
else what the block says of a key that names no method, or else the default;
what is said counts even if it is null, and it is not merged with what is
said below it.  Some block prevails wherever a pattern means the path, and
elsewhere a route has the defaults.
-/
theorem resolve_layers {routes : Option Value} {table : Table}
    (accepted : ofValue routes = .ok table) (path : String)
    (method : Method) :
    (∀ pattern block,
      Prevails (patternsOf routes) path method pattern block →
      (table.resolve path method).matched = some ⟨pattern.text,
        (sectionOf? block method).map fun _ => method⟩ ∧
      ∀ key, find? (table.resolve path method).values key =
        ((sectionOf? block method).bind (latest? · key)).or
          ((if methodOf? key = none then latest? block key else none).or
            (find? (defaultsOf routes) key))) ∧
    ((∃ pattern block, Written (patternsOf routes) pattern block ∧
        pattern.matches path = true) →
      ∃ pattern block,
        Prevails (patternsOf routes) path method pattern block) ∧
    ((∀ pattern block, Written (patternsOf routes) pattern block →
        ¬ pattern.matches path = true) →
      table.resolve path method = ⟨defaultsOf routes, none⟩) := by
  refine ⟨?_, ?_, resolve_of_unmeant accepted⟩
  · intro pattern block prevails
    rw [prevails.resolve accepted]
    refine ⟨rfl, ?_⟩
    intro key
    rw [find?_overlay, (entryFor_distinct _ _ _ _).latest?_eq,
      find?_entryFor, Option.or_assoc]
  · rintro ⟨pattern, block, written, means⟩
    exact exists_prevails_of_written accepted method written means

/-- A path below a wildcard, with a section for one method. -/
def usersBlock : Mapping :=
  [(.string "auth", .null), (.string "csrf", .bool false),
    (.string "GET", .mapping [(.string "csrf", .mapping [])])]

def layeredRoutes : Option Value :=
  some (.mapping
    [(.string "defaults", .mapping
        [(.string "auth", .bool true), (.string "rate_limit", .int 1),
          (.string "csrf", .mapping [(.string "name", .string "token")])]),
      (.string "patterns", .mapping
        [(.string "/api/*", .mapping [(.string "rate_limit", .int 2)]),
          (.string "/api/users", .mapping usersBlock)])])

/-- Each layer supplies a setting, and the section's key is none of them. -/
theorem resolve_layers_of_users :
    ∃ table, ofValue layeredRoutes = .ok table ∧
      Prevails (patternsOf layeredRoutes) "/api/users" .get
        (.exact "/api/users") usersBlock ∧
      let settings := table.resolve "/api/users" .get
      settings.get? "csrf" = some (.mapping []) ∧
      settings.get? "auth" = some .null ∧
      settings.get? "rate_limit" = some (.int 1) ∧
      settings.get? "GET" = none := by
  have declared : ∃ table, ofValue layeredRoutes = .ok table := ⟨_, rfl⟩
  rcases declared with ⟨table, accepted⟩
  have prevails : Prevails (patternsOf layeredRoutes) "/api/users" .get
      (.exact "/api/users") usersBlock := by
    refine ⟨⟨.string "/api/users", .mapping usersBlock, "/api/users",
      List.mem_cons_of_mem _ List.mem_cons_self, ⟨rfl, rfl⟩, rfl⟩,
      by decide, ?_⟩
    rintro other rest ⟨key, value, text, listed, spells, rfl⟩ _
    rcases List.mem_cons.mp listed with equal | listed
    · cases equal
      have wildcard : Spells (.string "/api/*") (.below "/api/") "/api/*" :=
        ⟨rfl, rfl⟩
      rw [(spells.unique wildcard).1]
      exact .inr (by decide)
    · cases List.mem_singleton.mp listed
      exact .inl (spells.unique ⟨rfl, rfl⟩).1
  rcases (resolve_layers accepted "/api/users" .get).1 _ _ prevails with
    ⟨_, each⟩
  exact ⟨table, accepted, prevails, each (.string "csrf"),
    each (.string "auth"), each (.string "rate_limit"),
    each (.string "GET")⟩

end Gatehouse.Route.Table
