import Gatehouse.Proofs.Route.Layers
import Gatehouse.Proofs.Route.PatternText
import Gatehouse.Proofs.Route.Removal

/-!
# A path with a slash behind it

An exact pattern means a path with one slash behind it if it means the path,
but a wildcard is a start that the path with the slash has and the path
alone may lack.  There is one such wildcard for each path, the one for all
that is below it.  Main statement: with a slash behind its path a route
resolves to the same settings unless the block of that wildcard takes over,
that is, no exact pattern means the path, and no other wildcard has a
section for the method where this block has none.
-/

namespace Gatehouse.Route

open Gatehouse.Http
open Gatehouse.Yaml

/-- A path that is not empty and does not end in a slash. -/
structure Unslashed (path : String) : Prop where
  filled : path ≠ ""
  ends : path.toList.getLast? ≠ some '/'

section Patterns

variable {path : String}

theorem Unslashed.normalized_slash (unslashed : Unslashed path) :
    normalized (path ++ "/") = path :=
  Route.normalized_slash unslashed.filled

theorem Unslashed.normalized_self (unslashed : Unslashed path) :
    normalized path = path := by
  have noSlash : ¬ EndsIn IsSlash path.toList := by
    rintro ⟨front, _, _, rfl, shape⟩
    exact unslashed.ends (shape ▸ List.getLast?_concat)
  rw [normalized, withoutTrailingSlash_of_not_endsIn noSlash,
    String.ofList_toList]

namespace Pattern

/-- With a slash behind a path one more pattern means it. -/
theorem matches_slash_iff (unslashed : Unslashed path) {pattern : Pattern} :
    pattern.matches (path ++ "/") = true ↔
      pattern.matches path = true ∨ pattern = .below (path ++ "/") := by
  cases pattern with
  | exact place =>
      simp only [Pattern.matches, unslashed.normalized_slash,
        unslashed.normalized_self, reduceCtorEq, or_false]
  | below start =>
      have spelled : (path ++ "/").toList = path.toList ++ ['/'] :=
        String.toList_append
      simp only [Pattern.matches, List.isPrefixOf_iff_prefix, below.injEq]
      rw [spelled, List.prefix_concat_iff, ← spelled, String.toList_inj,
        or_comm]

theorem text_below_slash (path : String) :
    (below (path ++ "/")).text = path ++ "/*" :=
  String.append_assoc

/-- The wildcard below a path does not mean the path itself. -/
theorem not_matches_below (path : String) :
    ¬ (below (path ++ "/")).matches path = true := by
  intro means
  rw [Pattern.matches, List.isPrefixOf_iff_prefix, String.toList_append]
    at means
  have longer := means.length_le
  rw [List.length_append] at longer
  exact absurd longer (by simp)

/-- A wildcard that means a path is shorter than the one below it. -/
theorem specificity_lt_slash {start : String}
    (means : (below start).matches path = true) :
    (below start).specificity < (below (path ++ "/")).specificity := by
  rw [Pattern.matches, List.isPrefixOf_iff_prefix] at means
  rcases means with ⟨rest, shape⟩
  have joined : path = start ++ String.ofList rest := by
    apply String.toList_injective
    rw [String.toList_append, String.toList_ofList, shape]
  have sizes := congrArg String.utf8ByteSize joined
  rw [String.utf8ByteSize_append] at sizes
  have slash : (path ++ "/").utf8ByteSize = path.utf8ByteSize + 1 :=
    String.utf8ByteSize_append
  simp only [specificity, literal]
  omega

end Pattern

end Patterns

namespace Table

/-! ## The wildcard below a path -/

/--
The block for all that is below a path takes over behind the slash: of the
patterns that mean the path none is exact, and none has a section for the
method unless the block has one as well.
-/
structure TakesOver (patterns : Mapping) (path : String) (method : Method)
    (block : Mapping) : Prop where
  written : Written patterns (.below (path ++ "/")) block
  yields : ∀ other rest, Written patterns other rest →
    other.matches path = true →
      other.isExact = false ∧
        ((sectionOf? rest method).isSome = true →
          (sectionOf? block method).isSome = true)

theorem rankFor_lt_below_iff {path : String} {method : Method}
    {other : Pattern} {rest block : Mapping}
    (means : other.matches path = true) :
    (rankFor other rest method).weight <
        (rankFor (.below (path ++ "/")) block method).weight ↔
      other.isExact = false ∧
        ((sectionOf? rest method).isSome = true →
          (sectionOf? block method).isSome = true) := by
  cases other with
  | exact place =>
      simp [rankFor, Rank.weight, Prod.Lex.toLex_lt_toLex,
        Pattern.isExact]
  | below start =>
      have shorter := Pattern.specificity_lt_slash means
      unfold rankFor
      generalize (sectionOf? rest method).isSome = former
      generalize (sectionOf? block method).isSome = latter
      cases former <;> cases latter <;>
        simp [Rank.weight, Prod.Lex.toLex_lt_toLex, Pattern.isExact,
          shorter]

section Slash

variable {patterns : Mapping} {path : String} {method : Method}
  {block : Mapping}

theorem TakesOver.prevails (unslashed : Unslashed path)
    (takesOver : TakesOver patterns path method block) :
    Prevails patterns (path ++ "/") method (.below (path ++ "/")) block := by
  refine ⟨takesOver.written,
    (Pattern.matches_slash_iff unslashed).mpr (.inr rfl), ?_⟩
  intro other rest written means
  rcases (Pattern.matches_slash_iff unslashed).mp means with
    already | same
  · exact .inr ((rankFor_lt_below_iff already).mpr
      (takesOver.yields other rest written already))
  · exact .inl same

theorem Prevails.takesOver (unslashed : Unslashed path)
    (prevails :
      Prevails patterns (path ++ "/") method (.below (path ++ "/")) block) :
    TakesOver patterns path method block := by
  refine ⟨prevails.written, ?_⟩
  intro other rest written means
  rcases prevails.highest other rest written
    ((Pattern.matches_slash_iff unslashed).mpr (.inl means)) with
    rfl | lower
  · exact (Pattern.not_matches_below path means).elim
  · exact (rankFor_lt_below_iff means).mp lower

/-- What prevails behind the slash prevails without it, or takes over. -/
theorem Prevails.without_slash (unslashed : Unslashed path)
    (alone : ∀ other, ¬ TakesOver patterns path method other)
    {pattern : Pattern}
    (prevails : Prevails patterns (path ++ "/") method pattern block) :
    Prevails patterns path method pattern block := by
  refine ⟨prevails.written, ?_, ?_⟩
  · rcases (Pattern.matches_slash_iff unslashed).mp prevails.suits with
      means | rfl
    · exact means
    · exact (alone block (prevails.takesOver unslashed)).elim
  · intro other rest written means
    exact prevails.highest other rest written
      ((Pattern.matches_slash_iff unslashed).mpr (.inl means))

end Slash

/-! ## What a route resolves to behind a slash -/

section Resolved

variable {routes : Option Value} {table : Table} {path : String}

/-- Without a slash no route has the pattern for what is below its path. -/
theorem pattern?_ne_below (accepted : ofValue routes = .ok table)
    {block : Mapping}
    (written : Written (patternsOf routes) (.below (path ++ "/")) block)
    (method : Method) :
    (table.resolve path method).pattern? ≠ some (path ++ "/*") := by
  by_cases meant : ∃ pattern rest,
      Written (patternsOf routes) pattern rest ∧
        pattern.matches path = true
  · rcases meant with ⟨_, _, another, means⟩
    rcases exists_prevails_of_written accepted method another means with
      ⟨best, rest, prevails⟩
    rw [prevails.resolve accepted]
    intro same
    have spelled : best.text = (Pattern.below (path ++ "/")).text :=
      (Option.some.inj same).trans (Pattern.text_below_slash path).symm
    rcases prevails.written with ⟨_, _, _, _, spells, _⟩
    rcases written with ⟨_, _, _, _, alike, _⟩
    obtain rfl := Pattern.eq_of_text spells.parsed alike.parsed spelled
    exact Pattern.not_matches_below path prevails.suits
  · push Not at meant
    rw [resolve_of_unmeant accepted fun pattern rest held =>
      ne_true_of_eq_false (by simpa using meant pattern rest held)]
    intro impossible
    cases impossible

theorem resolve_slash_of_alone (accepted : ofValue routes = .ok table)
    (unslashed : Unslashed path) {method : Method}
    (alone : ∀ block, ¬ TakesOver (patternsOf routes) path method block) :
    table.resolve (path ++ "/") method = table.resolve path method := by
  by_cases meant : ∃ pattern rest,
      Written (patternsOf routes) pattern rest ∧
        pattern.matches (path ++ "/") = true
  · rcases meant with ⟨_, _, written, means⟩
    rcases exists_prevails_of_written accepted method written means with
      ⟨best, rest, prevails⟩
    rw [prevails.resolve accepted,
      (prevails.without_slash unslashed alone).resolve accepted]
  · have unmeant : ∀ pattern rest,
        Written (patternsOf routes) pattern rest →
          ¬ pattern.matches (path ++ "/") = true :=
      fun pattern rest written means =>
        meant ⟨pattern, rest, written, means⟩
    rw [resolve_of_unmeant accepted unmeant,
      resolve_of_unmeant accepted fun pattern rest written means =>
        unmeant pattern rest written
          ((Pattern.matches_slash_iff unslashed).mpr (.inl means))]

/--
An exact pattern means a path with a slash behind it exactly if it means the
path.  A route resolves in the same way with a slash behind its path, unless
the block for all that is below the path takes over there: then it supplies
the settings of the one route and not those of the other.
-/
theorem resolve_slash (accepted : ofValue routes = .ok table)
    (unslashed : Unslashed path) (method : Method) :
    (∀ pattern : Pattern, pattern.isExact = true →
      pattern.matches (path ++ "/") = pattern.matches path) ∧
    (∀ block, TakesOver (patternsOf routes) path method block →
      table.resolve (path ++ "/") method =
        ⟨Mapping.overlay (defaultsOf routes)
            (entryFor (.below (path ++ "/")) block method "").values,
          some ⟨path ++ "/*", (sectionOf? block method).map fun _ => method⟩⟩ ∧
      (table.resolve path method).pattern? ≠ some (path ++ "/*")) ∧
    ((∀ block, ¬ TakesOver (patternsOf routes) path method block) →
      table.resolve (path ++ "/") method = table.resolve path method) := by
  refine ⟨?_, ?_, resolve_slash_of_alone accepted unslashed⟩
  · intro pattern exact
    cases pattern with
    | exact place =>
        rw [Pattern.matches, Pattern.matches, unslashed.normalized_slash,
          unslashed.normalized_self]
    | below start => cases exact
  · intro block takesOver
    refine ⟨?_, pattern?_ne_below accepted takesOver.written method⟩
    rw [(takesOver.prevails unslashed).resolve accepted,
      Pattern.text_below_slash]

end Resolved

theorem written_api_or_reading {pattern : Pattern} {block : Mapping}
    (written : Written (patternsOf (patternsOnly [apiBlock, readingBlock]))
      pattern block) :
    pattern = .below "/api/" ∨ pattern = .exact "/api/users" := by
  rcases written with ⟨key, value, text, listed, spells, _⟩
  rcases List.mem_cons.mp listed with equal | listed
  · cases equal
    have wildcard : Spells apiBlock.1 (.below "/api/") "/api/*" := ⟨rfl, rfl⟩
    exact .inl (spells.unique wildcard).1
  · cases List.mem_singleton.mp listed
    have users : Spells readingBlock.1 (.exact "/api/users") "/api/users" :=
      ⟨rfl, rfl⟩
    exact .inr (spells.unique users).1

/-- The wildcard takes over behind its own path, and not behind another. -/
theorem resolve_slash_of_api :
    ∃ table, ofValue (patternsOnly [apiBlock, readingBlock]) = .ok table ∧
      TakesOver (patternsOf (patternsOnly [apiBlock, readingBlock])) "/api"
        .get (mappingOf apiBlock.2) ∧
      table.resolve ("/api" ++ "/") .get =
        ⟨[(.string "auth", .bool true)], some ⟨"/api/*", none⟩⟩ ∧
      table.resolve ("/api/users" ++ "/") .get =
        table.resolve "/api/users" .get := by
  have declared : ∃ table,
      ofValue (patternsOnly [apiBlock, readingBlock]) = .ok table := ⟨_, rfl⟩
  rcases declared with ⟨table, accepted⟩
  have takesOver : TakesOver
      (patternsOf (patternsOnly [apiBlock, readingBlock])) "/api" .get
        (mappingOf apiBlock.2) := by
    refine ⟨⟨apiBlock.1, apiBlock.2, "/api/*", List.mem_cons_self,
      ⟨rfl, rfl⟩, rfl⟩, ?_⟩
    intro other rest written means
    rcases written_api_or_reading written with rfl | rfl
    · exact absurd means (by decide)
    · exact absurd means (by decide)
  have api : Unslashed "/api" := ⟨by decide, by decide⟩
  have users : Unslashed "/api/users" := ⟨by decide, by decide⟩
  refine ⟨table, accepted, takesOver,
    ((resolve_slash accepted api .get).2.1 _ takesOver).1,
    (resolve_slash accepted users .get).2.2 ?_⟩
  intro block other
  rcases written_api_or_reading other.written with same | same
  · exact absurd same (by decide)
  · exact absurd same (by decide)

/-- What a wildcard says holds behind a slash and not without it. -/
theorem auth_only_behind_slash :
    ∃ table, ofValue (patternsOnly [apiBlock]) = .ok table ∧
      Unslashed "/api" ∧
      (table.resolve "/api" .get).get? "auth" = none ∧
      (table.resolve "/api" .get).pattern? = none ∧
      (table.resolve ("/api" ++ "/") .get).get? "auth" =
        some (.bool true) ∧
      (table.resolve ("/api" ++ "/") .get).pattern? = some "/api/*" :=
  ⟨_, rfl, ⟨by decide, by decide⟩, rfl, rfl, rfl, rfl⟩

end Table

end Gatehouse.Route
