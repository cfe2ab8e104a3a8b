import Gatehouse.Proofs.Route.Blocks
import Gatehouse.Proofs.Route.PatternText
import Gatehouse.Proofs.Route.Winner

/-!
# A block with sections for other methods only

Such a block says nothing for a method.  Still it is compiled to one more
entry, for all methods and without settings, and where that entry outranks
every other one a route loses what a wildcard says of it.  Main statement:
taking the block out of the section changes exactly the routes whose path
its pattern means and at which no remaining entry ranks as high; these have
the defaults while the block is there.  For an exact pattern that is every
route at the path.
-/

namespace Gatehouse.Route

open Gatehouse.Http
open Gatehouse.Yaml
open Gatehouse.Yaml.Mapping

/-! ## Exact patterns by their paths -/

namespace Pattern

/-- Exact patterns that mean one path are the same. -/
theorem eq_of_exact {first second : Pattern} {path : String}
    (former : first.matches path = true)
    (latter : second.matches path = true)
    (firstExact : first.isExact = true)
    (secondExact : second.isExact = true) : first = second := by
  cases first with
  | below start => cases firstExact
  | exact place =>
      cases second with
      | below start => cases secondExact
      | exact other =>
          exact congrArg Pattern.exact ((beq_iff_eq.mp former).symm.trans
            (beq_iff_eq.mp latter))

end Pattern

namespace Table

/-! ## A block that says nothing for a method -/

/-- All keys of a block name methods, and none of them a given one. -/
def ForOthers (block : Mapping) (method : Method) : Prop :=
  ∀ entry ∈ block, ∃ other, methodOf? entry.1 = some other ∧ other ≠ method

theorem ForOthers.shared {value : Value} {method : Method}
    (others : ForOthers (mappingOf value) method) :
    (blockIn value).shared = [] := by
  have nothing : sharedOf (mappingOf value) = [] := by
    rw [sharedOf, List.filter_eq_nil_iff]
    intro entry member
    rcases others entry member with ⟨other, named, _⟩
    rw [named]
    exact Bool.false_ne_true
  rw [blockIn, nothing]
  rfl

/-- Of the entries of such a block only the one for all methods matches. -/
theorem ForOthers.general_of_matches {value : Value} {method : Method}
    (others : ForOthers (mappingOf value) method) {pattern : Pattern}
    {text path : String} {entry : TableEntry}
    (member : entry ∈ (blockIn value).entries pattern text)
    (suits : entry.matches path method = true) :
    entry = (blockIn value).general pattern text := by
  rcases mem_entries_iff.mp member with ⟨other, values, listed, rfl⟩ | rfl
  · have same : other = method := method_of_matches suits rfl
    rcases mem_sectionsOf_iff.mp listed with ⟨key, held, named, _⟩
    rcases others key held with ⟨another, alike, differs⟩
    have equal : another = other :=
      Option.some.inj (alike.symm.trans named)
    exact (differs (equal.trans same)).elim
  · rfl

/-! ## One entry more -/

/--
A pattern would win in a table for all methods: it means the path, and every
entry that matches has a lower rank.
-/
structure Outranks (pattern : Pattern) (table : Table) (path : String)
    (method : Method) : Prop where
  means : pattern.matches path = true
  above : ∀ entry ∈ table.entries, entry.matches path method = true →
    entry.rank.weight <
      (Rank.mk pattern.isExact false pattern.specificity).weight

/-- A table has the entries of another one, and some more. -/
structure Adds (table smaller : Table) (part : List TableEntry) : Prop where
  defaults : table.defaults = smaller.defaults
  entries : ∀ entry, entry ∈ table.entries ↔
    entry ∈ part ∨ entry ∈ smaller.entries
  apart : Apart table.entries
  remaining : Apart smaller.entries

section Added

variable {table smaller : Table} {value : Value} {pattern : Pattern}
  {text path : String} {method : Method}

theorem resolve_of_outranks
    (adds : table.Adds smaller ((blockIn value).entries pattern text))
    (others : ForOthers (mappingOf value) method)
    (outranks : Outranks pattern smaller path method) :
    table.resolve path method =
      ⟨table.defaults, some ⟨pattern.text, none⟩⟩ := by
  have wins : table.Wins path method
      ((blockIn value).general pattern text) := by
    refine ⟨(adds.entries _).mpr (.inl (Block.general_mem _ _ _)), ?_, ?_⟩
    · exact (Bool.and_true _).trans outranks.means
    · intro entry member suits
      rcases (adds.entries entry).mp member with own | other
      · exact .inl (others.general_of_matches own suits)
      · exact .inr (outranks.above entry other suits)
  rw [resolve, (winner?_eq_some_iff adds.apart).mpr wins]
  dsimp only [Block.general]
  rw [others.shared, overlay_nil]

/-- An entry that wins without the block wins with it unless outranked. -/
theorem Wins.beside
    (adds : table.Adds smaller ((blockIn value).entries pattern text))
    (others : ForOthers (mappingOf value) method)
    (yields : ¬ Outranks pattern smaller path method)
    {winner : TableEntry} (wins : smaller.Wins path method winner) :
    table.Wins path method winner := by
  have present := (adds.entries winner).mpr (.inr wins.member)
  refine ⟨present, wins.suits, ?_⟩
  intro entry member suits
  rcases (adds.entries entry).mp member with own | other
  · by_cases same : entry = winner
    · exact .inl same
    obtain rfl := others.general_of_matches own suits
    refine .inr (lt_of_le_of_ne ?_ ?_)
    · by_contra higher
      -- Then the entry would be above all that match.
      refine yields ⟨matches_pattern suits, ?_⟩
      intro rival held meant
      rcases wins.highest rival held meant with rfl | lower
      · exact not_le.mp higher
      · exact lower.trans (not_le.mp higher)
    · intro equal
      exact same (eq_of_rank adds.apart member suits present wins.suits
        (Rank.weight_injective equal))
  · exact wins.highest entry other suits

theorem resolve_of_not_outranks
    (adds : table.Adds smaller ((blockIn value).entries pattern text))
    (others : ForOthers (mappingOf value) method)
    (yields : ¬ Outranks pattern smaller path method) :
    table.resolve path method = smaller.resolve path method := by
  have same : table.winner? path method = smaller.winner? path method := by
    cases found : smaller.winner? path method with
    | some winner =>
        have wins := (winner?_eq_some_iff adds.remaining).mp found
        exact (winner?_eq_some_iff adds.apart).mpr
          (wins.beside adds others yields)
    | none =>
        rw [winner?_eq_none_iff] at found ⊢
        intro entry member suits
        rcases (adds.entries entry).mp member with own | other
        · obtain rfl := others.general_of_matches own suits
          exact yields ⟨matches_pattern suits,
            fun rival held meant => (found rival held meant).elim⟩
        · exact found entry other suits
  rw [resolve, resolve, same, adds.defaults]

end Added

/-! ## A section without a block -/

/-- The last key of a name says what is under it. -/
theorem underKey_last {front back : Mapping} {key value : Value}
    {name : String} (named : key.label? = some name)
    (others : ∀ entry ∈ back, entry.1.label? ≠ some name) :
    underKey (front ++ (key, value) :: back) name = value := by
  rw [List.append_cons, underKey_append others, underKey_concat,
    if_pos named]

/-- What a key holds does not decide what is under another name. -/
theorem underKey_replaced {front back : Mapping} {key value other : Value}
    {name : String} (differs : key.label? ≠ some name) :
    underKey (front ++ (key, value) :: back) name =
      underKey (front ++ (key, other) :: back) name := by
  induction back using List.reverseRecOn with
  | nil =>
      rw [underKey_concat, underKey_concat, if_neg differs, if_neg differs]
  | append_singleton rest entry induction =>
      rw [← List.cons_append, ← List.cons_append, ← List.append_assoc,
        ← List.append_assoc, underKey_concat, underKey_concat, induction]

/-- A list that is related to two joined ones is joined as well. -/
theorem exists_parts {before after : Mapping}
    {parts : List (List TableEntry)}
    (each : List.Forall₂ Declares (before ++ after) parts) :
    ∃ former latter, parts = former ++ latter ∧
      List.Forall₂ Declares before former ∧
      List.Forall₂ Declares after latter := by
  induction before generalizing parts with
  | nil => exact ⟨[], parts, rfl, .nil, each⟩
  | cons block rest induction =>
      cases each with
      | @cons _ part _ parts declared each =>
          rcases induction each with ⟨former, latter, rfl, front, back⟩
          exact ⟨part :: former, latter, rfl, .cons declared front, back⟩

/-- What remains of some patterns without one of them. -/
structure Remain (block : Value × Value)
    (entries part remaining : List TableEntry) : Prop where
  members : ∀ entry, entry ∈ entries ↔ entry ∈ part ∨ entry ∈ remaining
  unlike : ∀ entry ∈ remaining, ∃ other text,
    Spells other.1 entry.pattern text ∧ Unlike block other

/-- Patterns stay well formed without one of them. -/
theorem compile_without {before after : Mapping} {block : Value × Value}
    {entries : List TableEntry}
    (compiled : compile (.mapping (before ++ block :: after)) =
      .ok entries) :
    ∃ part remaining, Declares block part ∧
      compile (.mapping (before ++ after)) = .ok remaining ∧
      Remain block entries part remaining := by
  rcases compile_mapping_eq_ok_iff.mp compiled with ⟨_, each, rfl, apart⟩
  rcases List.pairwise_append.mp (pairwise_unlike each apart) with
    ⟨_, later, earlier⟩
  rcases exists_parts each with ⟨former, _, rfl, front, rest⟩
  cases rest with
  | @cons _ part _ latter declared back =>
      have sublist : (former ++ latter).flatten.Sublist
          (former ++ part :: latter).flatten := by
        rw [List.flatten_append, List.flatten_append, List.flatten_cons]
        exact (List.Sublist.refl _).append (List.sublist_append_right _ _)
      have joined := List.rel_append front back
      refine ⟨part, (former ++ latter).flatten, declared,
        compile_mapping_eq_ok_iff.mpr
          ⟨former ++ latter, joined, rfl, apart.sublist sublist⟩, ?_, ?_⟩
      · intro entry
        rw [List.flatten_append, List.flatten_append, List.flatten_cons,
          List.mem_append, List.mem_append, List.mem_append, or_left_comm]
      · intro entry member
        rcases (mem_flatten_iff joined).mp member with
          ⟨key, value, pattern, text, listed, spells, within⟩
        rw [pattern_of_mem within]
        refine ⟨(key, value), text, spells, ?_⟩
        rcases List.mem_append.mp listed with ahead | behind
        · exact symm_of Unlike
            (earlier _ ahead block List.mem_cons_self)
        · exact (List.pairwise_cons.mp later).1 _ behind

/-- A section stays well formed without one of its patterns. -/
theorem exists_without {front back before after : Mapping}
    {name : Value} {block : Value × Value} {table : Table}
    (labelled : name.label? = some "patterns")
    (inForce : ∀ entry ∈ back, entry.1.label? ≠ some "patterns")
    (accepted : ofValue (some (.mapping (front ++
      (name, .mapping (before ++ block :: after)) :: back))) =
        .ok table) :
    ∃ smaller part, ofValue (some (.mapping (front ++
        (name, .mapping (before ++ after)) :: back))) = .ok smaller ∧
      Declares block part ∧ table.defaults = smaller.defaults ∧
      Remain block table.entries part smaller.entries := by
  rcases ofValue_mapping_eq_ok_iff.mp accepted with ⟨fits, read, compiled⟩
  rw [underKey_last labelled inForce] at compiled
  rcases compile_without compiled with
    ⟨part, remaining, declared, stillCompiled, remain⟩
  have other : name.label? ≠ some "defaults" := by
    rw [labelled]
    decide
  refine ⟨⟨table.defaults, remaining⟩, part,
    ofValue_mapping_eq_ok_iff.mpr ⟨?_, ?_, ?_⟩, declared, rfl, remain⟩
  · intro entry member
    rcases List.mem_append.mp member with earlier | member
    · exact fits entry (List.mem_append_left _ earlier)
    · rcases List.mem_cons.mp member with rfl | later
      · exact .patterns labelled stillCompiled
      · exact fits entry (List.mem_append_right _
          (List.mem_cons_of_mem _ later))
  · rw [underKey_replaced other]
    exact read
  · rw [underKey_last labelled inForce]
    exact stillCompiled

/-! ## What a route resolves to without a block -/

/-- No remaining entry has a pattern of the same text. -/
theorem Remain.text_ne {block : Value × Value}
    {entries part remaining : List TableEntry}
    (remain : Remain block entries part remaining) {pattern : Pattern}
    {text : String} (spells : Spells block.1 pattern text)
    {entry : TableEntry} (member : entry ∈ remaining) :
    entry.pattern.text ≠ pattern.text := by
  intro same
  rcases remain.unlike entry member with ⟨other, name, alike, unlike⟩
  rw [Pattern.eq_of_text alike.parsed spells.parsed same] at alike
  exact unlike pattern text name spells alike

/-- An exact pattern outranks all that remains at the path it means. -/
theorem Remain.outranks {block : Value × Value}
    {entries part : List TableEntry} {smaller : Table}
    (remain : Remain block entries part smaller.entries)
    {pattern : Pattern} {text path : String} {method : Method}
    (spells : Spells block.1 pattern text)
    (exact : pattern.isExact = true)
    (means : pattern.matches path = true) :
    Outranks pattern smaller path method := by
  refine ⟨means, ?_⟩
  intro entry member suits
  have wildcard : entry.pattern.isExact = false := by
    by_contra also
    have same := Pattern.eq_of_exact (matches_pattern suits) means
      (Bool.not_eq_false _ ▸ also) exact
    exact remain.text_ne spells member (congrArg Pattern.text same)
  rw [TableEntry.rank, wildcard, exact]
  exact Prod.Lex.toLex_lt_toLex.mpr (.inl rfl)

/--
A block whose keys all name other methods says nothing for a method; but
where its pattern outranks what remains without it, a route has the defaults
while the block is there, whatever wildcards say of it.  Exactly there
taking the block out changes what a route resolves to, and if the pattern is
exact that is at every path it means.
-/
theorem resolve_without {front back before after : Mapping}
    {name key value : Value} {table : Table}
    (labelled : name.label? = some "patterns")
    (inForce : ∀ entry ∈ back, entry.1.label? ≠ some "patterns")
    (accepted : ofValue (some (.mapping (front ++
      (name, .mapping (before ++ (key, value) :: after)) :: back))) =
        .ok table)
    {method : Method} (others : ForOthers (mappingOf value) method) :
    ∃ smaller pattern text, ofValue (some (.mapping (front ++
        (name, .mapping (before ++ after)) :: back))) = .ok smaller ∧
      Spells key pattern text ∧
      ∀ path,
        (Outranks pattern smaller path method →
          table.resolve path method =
            ⟨table.defaults, some ⟨pattern.text, none⟩⟩ ∧
          (smaller.resolve path method).pattern? ≠ some pattern.text) ∧
        (¬ Outranks pattern smaller path method →
          table.resolve path method = smaller.resolve path method) ∧
        (pattern.isExact = true →
          (Outranks pattern smaller path method ↔
            pattern.matches path = true)) := by
  rcases exists_without labelled inForce accepted with
    ⟨smaller, _, stillAccepted, declared, defaults, remain⟩
  rcases entriesOf_ok declared with ⟨pattern, text, spells, rfl⟩
  have adds : table.Adds smaller ((blockIn value).entries pattern text) :=
    ⟨defaults, remain.members, ofValue_apart accepted,
      ofValue_apart stillAccepted⟩
  refine ⟨smaller, pattern, text, stillAccepted, spells, ?_⟩
  intro path
  refine ⟨?_, resolve_of_not_outranks adds others, ?_⟩
  · intro outranks
    refine ⟨resolve_of_outranks adds others outranks, ?_⟩
    rw [resolve]
    cases found : smaller.winner? path method with
    | none =>
        intro impossible
        cases impossible
    | some winner =>
        have wins := (winner?_eq_some_iff adds.remaining).mp found
        intro same
        exact remain.text_ne spells wins.member (Option.some.inj same)
  · intro exact
    exact ⟨Outranks.means, remain.outranks spells exact⟩

/-- A section with patterns and nothing else. -/
def patternsOnly (blocks : Mapping) : Option Value :=
  some (.mapping [(.string "patterns", .mapping blocks)])

def apiBlock : Value × Value :=
  (.string "/api/*", .mapping [(.string "auth", .bool true)])

/-- A path below the wildcard that says something of one method. -/
def readingBlock : Value × Value :=
  (.string "/api/users", .mapping
    [(.string "GET", .mapping [(.string "rate_limit", .bool false)])])

theorem forOthers_readingBlock :
    ForOthers (mappingOf readingBlock.2) .post := by
  intro entry member
  cases List.mem_singleton.mp member
  exact ⟨.get, rfl, by decide⟩

/-- One path below the wildcard has the defaults, and another one does not. -/
theorem resolve_without_readingBlock :
    ∃ table smaller,
      ofValue (patternsOnly [apiBlock, readingBlock]) = .ok table ∧
      ofValue (patternsOnly [apiBlock]) = .ok smaller ∧
      table.resolve "/api/users" .post =
        ⟨table.defaults, some ⟨"/api/users", none⟩⟩ ∧
      table.resolve "/api/items" .post =
        smaller.resolve "/api/items" .post := by
  have declared : ∃ table,
      ofValue (patternsOnly [apiBlock, readingBlock]) = .ok table := ⟨_, rfl⟩
  rcases declared with ⟨table, accepted⟩
  rcases @resolve_without [] [] [apiBlock] [] (.string "patterns")
    readingBlock.1 readingBlock.2 table rfl nofun accepted .post
    forOthers_readingBlock with
    ⟨smaller, pattern, text, stillAccepted, spells, each⟩
  have users : Spells readingBlock.1 (.exact "/api/users") "/api/users" :=
    ⟨rfl, rfl⟩
  obtain rfl := (spells.unique users).1
  refine ⟨table, smaller, accepted, stillAccepted, ?_, ?_⟩
  · exact ((each "/api/users").1
      (((each "/api/users").2.2 rfl).mpr (by decide))).1
  · refine (each "/api/items").2.1 ?_
    intro outranks
    exact absurd outranks.means (by decide)

/--
What the block says of one method takes the wildcard's settings away from
another one.
-/
theorem auth_lost_behind_readingBlock :
    ∃ table smaller,
      ofValue (patternsOnly [apiBlock, readingBlock]) = .ok table ∧
      ofValue (patternsOnly [apiBlock]) = .ok smaller ∧
      ForOthers (mappingOf readingBlock.2) .post ∧
      (table.resolve "/api/users" .post).get? "auth" = none ∧
      (table.resolve "/api/users" .post).pattern? = some "/api/users" ∧
      (smaller.resolve "/api/users" .post).get? "auth" =
        some (.bool true) ∧
      (smaller.resolve "/api/users" .post).pattern? = some "/api/*" :=
  ⟨_, _, rfl, rfl, forOthers_readingBlock, rfl, rfl, rfl, rfl⟩

end Table

end Gatehouse.Route
