import Gatehouse.Proofs.Route.PatternText
import Gatehouse.Proofs.Route.Winner

/-!
# The paths that patterns mean

The grammar of patterns is written here on texts, and with it the paths that
each form means: every path, the paths behind a start, or one path up to a
slash at its end.  Main statement: texts are parsed exactly if the grammar
has them, the patterns mean those paths, and of two wildcards that mean some
path together the one with the longer text means fewer paths.
-/

namespace Gatehouse.Route

open Gatehouse.Text

/-! ## One slash at the end -/

/--
A path without one slash at its end.  A path that does not end in a slash or
is nothing else keeps all its characters.
-/
inductive Strips : String → String → Prop where
  | slash {core : String} (filled : core ≠ "") : Strips (core ++ "/") core
  | whole {path : String} (solid : ∀ core, path = core ++ "/" → core = "") :
      Strips path path

theorem normalized_cases (path : String) :
    (normalized path = path ∧ ∀ core, path = core ++ "/" → core = "") ∨
      normalized path ≠ "" ∧ path = normalized path ++ "/" := by
  rcases withoutTrailingSlash_cases path.toList with
    ⟨noSlash, same⟩ | ⟨filled, shape⟩
  · refine .inl ⟨by rw [normalized, same, String.ofList_toList], ?_⟩
    rintro core rfl
    by_contra filled
    refine noSlash ⟨core.toList, '/', ?_, rfl, String.toList_append⟩
    exact mt String.toList_eq_nil_iff.mp filled
  · refine .inr ⟨?_, ?_⟩
    · rw [ne_eq, ← String.toList_eq_nil_iff, normalized,
        String.toList_ofList]
      exact filled
    · apply String.toList_injective
      rw [String.toList_append, normalized, String.toList_ofList]
      exact shape

theorem strips_iff {path core : String} :
    Strips path core ↔ normalized path = core := by
  constructor
  · intro strips
    cases strips with
    | slash filled => exact normalized_slash filled
    | whole solid =>
        rcases normalized_cases path with ⟨same, _⟩ | ⟨filled, shape⟩
        · exact same
        · exact absurd (solid _ shape) filled
  · rintro rfl
    rcases normalized_cases path with ⟨same, solid⟩ | ⟨filled, shape⟩
    · rw [same]
      exact .whole solid
    · conv_lhs => rw [shape]
      exact .slash filled

namespace Pattern

/-! ## The grammar -/

/-- The texts of patterns, without blanks around them. -/
inductive IsPattern : String → Prop where
  | all : IsPattern "*"
  | exact {text : String} (rooted : Rooted text.toList)
      (plain : '*' ∉ text.toList) : IsPattern text
  | below {stem : String} (rooted : Rooted (stem ++ "/*").toList)
      (plain : '*' ∉ stem.toList) : IsPattern (stem ++ "/*")

section Parsed

variable {raw : String} {pattern : Pattern} {path start : String}

theorem parse_iff_denotes :
    parse raw = .ok pattern ↔ Denotes (trimmed raw).toList pattern := by
  rw [parse, ofCharacters_eq_ok_iff, toList_trimmed]

theorem exists_denotes_iff {text : String} :
    (∃ pattern, Denotes text.toList pattern) ↔ IsPattern text := by
  constructor
  · rintro ⟨pattern, denotes⟩
    generalize spelled : text.toList = characters at denotes
    cases denotes with
    | all =>
        obtain rfl : text = "*" := String.toList_injective spelled
        exact .all
    | @below start rooted closed plain =>
        rcases List.getLast?_eq_some_iff.mp closed with ⟨stem, rfl⟩
        have shape : text = String.ofList stem ++ "/*" := by
          apply String.toList_injective
          rw [spelled, String.toList_append, String.toList_ofList,
            List.append_assoc]
          rfl
        rw [shape]
        refine .below ?_ ?_
        · rw [← shape, spelled]
          rw [Rooted, List.head?_append, rooted]
          rfl
        · rw [String.toList_ofList]
          exact fun starred => plain (List.mem_append_left _ starred)
    | exact rooted plain =>
        subst spelled
        exact .exact rooted plain
  · intro grammatical
    cases grammatical with
    | all => exact ⟨_, .all⟩
    | exact rooted plain => exact ⟨_, .exact rooted plain⟩
    | @below stem rooted plain =>
        have shape : (stem ++ "/*").toList =
            (stem.toList ++ ['/']) ++ ['*'] := by
          rw [String.toList_append, List.append_assoc]
          rfl
        rw [shape] at rooted ⊢
        refine ⟨_, .below ?_ List.getLast?_concat ?_⟩
        · rw [Rooted, List.head?_append_of_ne_nil _ (by simp)] at rooted
          exact rooted
        · simpa using plain

/-- What is left of the text of a wildcard without its star is the start. -/
theorem trimmed_of_below (parsed : parse raw = .ok (.below start)) :
    trimmed raw = start ++ "*" := by
  apply String.toList_injective
  rw [String.toList_append]
  have denotes := parse_iff_denotes.mp parsed
  generalize (trimmed raw).toList = characters at denotes ⊢
  cases denotes with
  | all => rfl
  | below rooted closed plain =>
      rw [String.toList_ofList]
      rfl

theorem trimmed_of_exact (parsed : parse raw = .ok (.exact path)) :
    '*' ∉ (trimmed raw).toList ∧ path = normalized (trimmed raw) := by
  have denotes := parse_iff_denotes.mp parsed
  rw [normalized]
  generalize (trimmed raw).toList = characters at denotes ⊢
  cases denotes with
  | exact rooted plain => exact ⟨plain, rfl⟩

/-- The star tells wildcards from the patterns that mean one path. -/
theorem exists_below_iff (parsed : parse raw = .ok pattern) :
    (∃ start, pattern = .below start) ↔ '*' ∈ (trimmed raw).toList := by
  cases pattern with
  | exact path =>
      refine iff_of_false ?_ (trimmed_of_exact parsed).1
      rintro ⟨start, impossible⟩
      cases impossible
  | below start =>
      rw [trimmed_of_below parsed, String.toList_append]
      exact iff_of_true ⟨start, rfl⟩
        (List.mem_append_right _ (List.mem_singleton.mpr rfl))

/-! ## What is meant -/

theorem matches_below_iff :
    (below start).matches path = true ↔ ∃ rest, path = start ++ rest := by
  rw [Pattern.matches, List.isPrefixOf_iff_prefix]
  constructor
  · rintro ⟨rest, shape⟩
    refine ⟨String.ofList rest, String.toList_injective ?_⟩
    rw [String.toList_append, String.toList_ofList, shape]
  · rintro ⟨rest, rfl⟩
    exact ⟨rest.toList, String.toList_append.symm⟩

theorem matches_exact_iff (parsed : parse raw = .ok (.exact start)) :
    (exact start).matches path = true ↔
      ∃ core, Strips (trimmed raw) core ∧ Strips path core := by
  rw [Pattern.matches, beq_iff_eq, (trimmed_of_exact parsed).2]
  simp only [strips_iff]
  constructor
  · intro same
    exact ⟨_, rfl, same⟩
  · rintro ⟨_, rfl, same⟩
    exact same

end Parsed

/-! ## Wildcards inside each other -/

section Nested

variable {wide narrow shared : String}

theorem below_subset_iff :
    (∀ path, (below narrow).matches path = true →
      (below wide).matches path = true) ↔ wide.toList <+: narrow.toList := by
  simp only [Pattern.matches, List.isPrefixOf_iff_prefix]
  constructor
  · intro subset
    exact subset narrow (List.prefix_refl _)
  · intro begins path means
    exact begins.trans means

/-- Of two starts of one path the shorter one is a start of the other. -/
theorem isPrefix_iff_length_le (means : (below wide).matches shared = true)
    (alike : (below narrow).matches shared = true) :
    wide.toList <+: narrow.toList ↔ wide.length ≤ narrow.length := by
  rw [Pattern.matches, List.isPrefixOf_iff_prefix] at means alike
  rw [← String.length_toList, ← String.length_toList]
  exact ⟨List.IsPrefix.length_le,
    List.prefix_of_prefix_length_le means alike⟩

theorem isPrefix_iff_specificity_le
    (means : (below wide).matches shared = true)
    (alike : (below narrow).matches shared = true) :
    wide.toList <+: narrow.toList ↔
      (below wide).specificity ≤ (below narrow).specificity := by
  have size_le {start path : String} (begins : start.toList <+: path.toList) :
      start.utf8ByteSize ≤ path.utf8ByteSize := by
    have spelled : (below start).matches path = true :=
      List.isPrefixOf_iff_prefix.mpr begins
    rcases matches_below_iff.mp spelled with ⟨rest, rfl⟩
    rw [String.utf8ByteSize_append]
    exact Nat.le_add_right _ _
  rw [Pattern.matches, List.isPrefixOf_iff_prefix] at means alike
  constructor
  · exact size_le
  · intro size
    rcases List.prefix_or_prefix_of_prefix means alike with begins | begins
    · exact begins
    · have same : narrow = wide :=
        eq_of_isPrefix_of_size begins (le_antisymm (size_le begins) size)
      subst same
      exact List.prefix_refl _

end Nested

/--
What can be written as a pattern and which paths it means.  Wildcards that
mean some path together lie inside each other, in the order of the lengths
of their texts, which is the order in which they are ranked.
-/
theorem parse_matches_exact (raw : String) :
    ((∃ pattern, parse raw = .ok pattern) ↔ IsPattern (trimmed raw)) ∧
    ∀ pattern, parse raw = .ok pattern →
      (trimmed raw = "*" → ∀ path, pattern.matches path = true) ∧
      (∀ stem, trimmed raw = stem ++ "/*" → ∀ path,
        pattern.matches path = true ↔ ∃ rest, path = stem ++ "/" ++ rest) ∧
      ('*' ∉ (trimmed raw).toList → ∀ path,
        pattern.matches path = true ↔
          ∃ core, Strips (trimmed raw) core ∧ Strips path core) ∧
      ∀ other wide shared, parse other = .ok wide →
        '*' ∈ (trimmed raw).toList → '*' ∈ (trimmed other).toList →
        pattern.matches shared = true → wide.matches shared = true →
        ((∀ path, pattern.matches path = true → wide.matches path = true) ↔
          (trimmed other).length ≤ (trimmed raw).length) ∧
        (wide.specificity ≤ pattern.specificity ↔
          (trimmed other).length ≤ (trimmed raw).length) := by
  refine ⟨?accepted, fun pattern parsed => ⟨?all, ?behind, ?exact, ?nested⟩⟩
  case accepted =>
    simp only [parse_iff_denotes]
    exact exists_denotes_iff
  case all =>
    intro star path
    have wildcard := exists_below_iff parsed
    rw [star] at wildcard
    rcases wildcard.mpr (List.mem_singleton.mpr rfl) with ⟨start, rfl⟩
    have empty : start = "" := by
      have spelled := (trimmed_of_below parsed).symm.trans star
      exact (String.append_left_inj _).mp
        (spelled.trans String.empty_append.symm)
    exact matches_below_iff.mpr ⟨path, by rw [empty, String.empty_append]⟩
  case behind =>
    intro stem shape path
    have split : trimmed raw = (stem ++ "/") ++ "*" := by
      rw [shape, String.append_assoc]
      rfl
    have starred : '*' ∈ (trimmed raw).toList := by
      rw [split, String.toList_append]
      exact List.mem_append_right _ (List.mem_singleton.mpr rfl)
    rcases (exists_below_iff parsed).mpr starred with ⟨start, rfl⟩
    have same : start = stem ++ "/" :=
      (String.append_left_inj _).mp
        ((trimmed_of_below parsed).symm.trans split)
    rw [matches_below_iff, same]
  case exact =>
    intro plain path
    cases pattern with
    | exact place => exact matches_exact_iff parsed
    | below start =>
        exact absurd ((exists_below_iff parsed).mp ⟨start, rfl⟩) plain
  case nested =>
    intro other wide shared alike starred otherStarred means otherMeans
    rcases (exists_below_iff parsed).mpr starred with ⟨narrow, rfl⟩
    rcases (exists_below_iff alike).mpr otherStarred with ⟨outer, rfl⟩
    have lengths : (trimmed other).length ≤ (trimmed raw).length ↔
        outer.length ≤ narrow.length := by
      rw [trimmed_of_below parsed, trimmed_of_below alike,
        String.length_append, String.length_append]
      exact Nat.add_le_add_iff_right
    rw [below_subset_iff, lengths,
      ← isPrefix_iff_length_le otherMeans means]
    exact ⟨Iff.rfl, (isPrefix_iff_specificity_le otherMeans means).symm⟩

/-- A wildcard between blanks, and a shorter one around it. -/
theorem parse_matches_exact_of_api :
    parse " /api/* " = .ok (.below "/api/") ∧
      parse "/*" = .ok (.below "/") ∧
      (below "/api/").matches "/api/users" = true ∧
      (below "/").matches "/api/users" = true ∧
      (∀ path, (below "/api/").matches path = true ↔
        ∃ rest, path = "/api" ++ "/" ++ rest) ∧
      ∀ path, (below "/api/").matches path = true →
        (below "/").matches path = true := by
  have api : parse " /api/* " = .ok (.below "/api/") := rfl
  have root : parse "/*" = .ok (.below "/") := rfl
  rcases (parse_matches_exact " /api/* ").2 _ api with
    ⟨_, behind, _, nested⟩
  refine ⟨api, root, rfl, rfl, behind "/api" (by decide), ?_⟩
  exact (nested "/*" _ "/api/users" root (by decide) (by decide) rfl
    rfl).1.mpr (by decide)

end Pattern

end Gatehouse.Route
