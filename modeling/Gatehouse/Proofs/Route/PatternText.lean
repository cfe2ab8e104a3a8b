import Gatehouse.Proofs.Outcome
import Gatehouse.Proofs.Text.Parts
import Gatehouse.Route.Pattern

/-!
# The texts of patterns

What characters mean as a pattern is said by rules: a star alone, a start
that ends in a slash with a star behind it, or a path without any star.  The
text of a pattern tells it from all other ones.  It is not always read as
the pattern again, since blanks are taken away and then one slash, each of
them once.  Main statement: the text of an exact pattern means another
pattern exactly if the slash that was taken away had a slash or a blank in
front of it.
-/

namespace Gatehouse.Route

open Gatehouse.Text

/-! ## The end of a path -/

/-- Characters end in one of some kind, and it is not the only one. -/
def EndsIn (kind : Char → Prop) (characters : List Char) : Prop :=
  ∃ front last, front ≠ [] ∧ kind last ∧ characters = front ++ [last]

/-- A slash at the end has a character of some kind in front of it. -/
def SlashBehind (kind : Char → Prop) (characters : List Char) : Prop :=
  ∃ path, EndsIn kind path ∧ characters = path ++ ['/']

def IsSlash (character : Char) : Prop := character = '/'

def IsBlank (character : Char) : Prop := Text.isBlank character = true

theorem endsIn_or_iff {kind other : Char → Prop} {characters : List Char} :
    EndsIn (fun last => kind last ∨ other last) characters ↔
      EndsIn kind characters ∨ EndsIn other characters := by
  constructor
  · rintro ⟨front, last, filled, kept | kept, shape⟩
    · exact .inl ⟨front, last, filled, kept, shape⟩
    · exact .inr ⟨front, last, filled, kept, shape⟩
  · rintro (⟨front, last, filled, kept, shape⟩ |
      ⟨front, last, filled, kept, shape⟩)
    · exact ⟨front, last, filled, .inl kept, shape⟩
    · exact ⟨front, last, filled, .inr kept, shape⟩

theorem withoutTrailingSlash_concat {path : List Char}
    (filled : path ≠ []) : withoutTrailingSlash (path ++ ['/']) = path := by
  have long : 1 < (path ++ ['/']).length := by
    have := List.length_pos_iff.mpr filled
    simp
    omega
  rw [withoutTrailingSlash, if_pos ⟨long, List.getLast?_concat⟩,
    List.dropLast_concat]

theorem normalized_slash {path : String} (filled : path ≠ "") :
    normalized (path ++ "/") = path := by
  have characters : path.toList ≠ [] := mt String.toList_eq_nil_iff.mp filled
  have spelled : (path ++ "/").toList = path.toList ++ ['/'] :=
    String.toList_append
  rw [normalized, spelled, withoutTrailingSlash_concat characters,
    String.ofList_toList]

theorem withoutTrailingSlash_of_not_endsIn {path : List Char}
    (noSlash : ¬ EndsIn IsSlash path) : withoutTrailingSlash path = path := by
  rw [withoutTrailingSlash, if_neg]
  rintro ⟨long, last⟩
  rcases List.getLast?_eq_some_iff.mp last with ⟨front, rfl⟩
  refine noSlash ⟨front, '/', ?_, rfl, rfl⟩
  rintro rfl
  exact absurd long (by decide)

/-- A path keeps all its characters, or it loses a slash at its end. -/
theorem withoutTrailingSlash_cases (path : List Char) :
    (¬ EndsIn IsSlash path ∧ withoutTrailingSlash path = path) ∨
      withoutTrailingSlash path ≠ [] ∧
        path = withoutTrailingSlash path ++ ['/'] := by
  by_cases slash : EndsIn IsSlash path
  · rcases slash with ⟨front, _, filled, rfl, rfl⟩
    rw [withoutTrailingSlash_concat filled]
    exact .inr ⟨filled, rfl⟩
  · exact .inl ⟨slash, withoutTrailingSlash_of_not_endsIn slash⟩

theorem withoutTrailingSlash_sublist (path : List Char) :
    (withoutTrailingSlash path).Sublist path := by
  rcases withoutTrailingSlash_cases path with ⟨_, same⟩ | ⟨_, shape⟩
  · rw [same]
  · conv_rhs => rw [shape]
    exact List.sublist_append_left _ _

theorem withoutTrailingSlash_eq_self_iff {path : List Char} :
    withoutTrailingSlash path = path ↔ ¬ EndsIn IsSlash path := by
  refine ⟨?_, withoutTrailingSlash_of_not_endsIn⟩
  rintro same ⟨front, _, filled, rfl, rfl⟩
  rw [withoutTrailingSlash_concat filled] at same
  cases List.self_eq_append_right.mp same

/-- A path begins in the same way without its slash. -/
theorem head?_withoutTrailingSlash (path : List Char) :
    (withoutTrailingSlash path).head? = path.head? := by
  rcases withoutTrailingSlash_cases path with ⟨_, same⟩ | ⟨filled, shape⟩
  · rw [same]
  · conv_rhs => rw [shape, List.head?_append_of_ne_nil _ filled]

/-- What a path ends in without its slash stood in front of the slash. -/
theorem endsIn_withoutTrailingSlash_iff {kind : Char → Prop}
    {path : List Char}
    (outer : ¬ EndsIn IsSlash path → ¬ EndsIn kind path) :
    EndsIn kind (withoutTrailingSlash path) ↔ SlashBehind kind path := by
  rcases withoutTrailingSlash_cases path with
    ⟨noSlash, same⟩ | ⟨filled, shape⟩
  · rw [same]
    refine iff_of_false (outer noSlash) ?_
    rintro ⟨inner, ⟨front, last, _, _, rfl⟩, rfl⟩
    exact noSlash ⟨front ++ [last], '/', by simp, rfl, rfl⟩
  · constructor
    · intro ends
      exact ⟨_, ends, shape⟩
    · rintro ⟨inner, ends, equal⟩
      rwa [List.append_cancel_right (shape.symm.trans equal)]

/-! ## Blanks around a path -/

/-- A path begins with a slash. -/
def Rooted (path : List Char) : Prop :=
  path.head? = some '/'

theorem Rooted.trims {path inner : List Char} (rooted : Rooted path)
    (trims : Trims path inner) :
    ∃ behind, path = inner ++ behind ∧ Rooted inner ∧
      ∀ character ∈ behind, isBlank character = true := by
  rcases trims with ⟨before, behind, rfl, blankBefore, blankBehind, _⟩
  cases before with
  | nil =>
      refine ⟨behind, List.nil_append _, ?_, blankBehind⟩
      cases inner with
      | nil =>
          have blank := blankBehind '/' (List.mem_of_head? rooted)
          cases blank
      | cons first inner => exact rooted
  | cons first before =>
      have blank := blankBefore first List.mem_cons_self
      rw [Option.some.inj (show some first = some '/' from rooted)] at blank
      cases blank

/-- A path is trimmed already if no blank ends it. -/
theorem Rooted.trims_self_iff {path : List Char} (rooted : Rooted path) :
    Trims path path ↔ ¬ EndsIn IsBlank path := by
  constructor
  · rintro ⟨_, _, _, _, _, _, last⟩ ⟨front, final, _, blank, shape⟩
    rw [IsBlank, last final (shape ▸ List.getLast?_concat)] at blank
    cases blank
  · intro solid
    refine ⟨[], [], by simp, nofun, nofun, ?_, ?_⟩
    · intro character first
      obtain rfl := Option.some.inj (rooted.symm.trans first)
      rfl
    · intro character last
      rcases List.getLast?_eq_some_iff.mp last with ⟨front, rfl⟩
      rw [← Bool.not_eq_true]
      intro blank
      refine solid ⟨front, character, ?_, blank, rfl⟩
      rintro rfl
      obtain rfl := Option.some.inj rooted
      cases blank

/-- Trimming and taking a slash away change nothing if neither would. -/
theorem Rooted.withoutTrailingSlash_trimBlanks_iff {path : List Char}
    (rooted : Rooted path) :
    withoutTrailingSlash (trimBlanks path) = path ↔
      ¬ EndsIn (fun last => IsSlash last ∨ IsBlank last) path := by
  rw [endsIn_or_iff, not_or, ← withoutTrailingSlash_eq_self_iff,
    ← rooted.trims_self_iff, trims_iff]
  constructor
  · intro same
    rcases rooted.trims (trims_trimBlanks path) with ⟨behind, shape, _⟩
    have shorter : (trimBlanks path).Sublist path := by
      conv_rhs => rw [shape]
      exact List.sublist_append_left _ _
    have longer := withoutTrailingSlash_sublist (trimBlanks path)
    rw [same] at longer
    have trimmed := shorter.antisymm longer
    rw [trimmed] at same
    exact ⟨same, trimmed⟩
  · rintro ⟨same, trimmed⟩
    rw [trimmed, same]

namespace Pattern

/-! ## The language of patterns -/

/-- The pattern that characters without blanks around them mean. -/
inductive Denotes : List Char → Pattern → Prop where
  | all : Denotes ['*'] (.below "")
  | below {start : List Char} (rooted : Rooted start)
      (closed : start.getLast? = some '/') (plain : '*' ∉ start) :
      Denotes (start ++ ['*']) (.below (String.ofList start))
  | exact {path : List Char} (rooted : Rooted path)
      (plain : '*' ∉ path) :
      Denotes path (.exact (String.ofList (withoutTrailingSlash path)))

theorem ofCharacters_eq_ok_iff {characters : List Char}
    {pattern : Pattern} :
    ofCharacters characters = .ok pattern ↔ Denotes characters pattern := by
  constructor
  · intro accepted
    unfold ofCharacters at accepted
    split at accepted
    · rename_i star
      cases accepted
      exact star ▸ .all
    split at accepted
    · cases accepted
    rename_i rooted
    rw [ne_eq, not_not] at rooted
    split at accepted
    · rename_i starred
      rcases List.getLast?_eq_some_iff.mp starred with ⟨start, rfl⟩
      dsimp only at accepted
      rw [List.dropLast_concat] at accepted
      split at accepted
      · cases accepted
      rename_i closed
      rw [ne_eq, not_not] at closed
      split at accepted
      · cases accepted
      rename_i plain
      cases accepted
      refine .below ?_ closed (by simpa using plain)
      cases start with
      | nil => cases closed
      | cons first start => exact rooted
    · split at accepted
      · cases accepted
      rename_i plain
      cases accepted
      exact .exact rooted (by simpa using plain)
  · intro denotes
    cases denotes with
    | all => rfl
    | @below start rooted closed plain =>
        have filled : start ≠ [] := by
          rintro rfl
          cases rooted
        have begins : (start ++ ['*']).head? = some '/' := by
          rw [List.head?_append_of_ne_nil _ filled]
          exact rooted
        rw [ofCharacters, if_neg (by simpa using filled),
          if_neg (not_not.mpr begins), if_pos List.getLast?_concat]
        dsimp only
        rw [List.dropLast_concat, if_neg (not_not.mpr closed),
          if_neg (by simpa using plain)]
    | exact rooted plain =>
        have begins : characters.head? = some '/' := rooted
        have other : characters ≠ ['*'] := by
          rintro rfl
          exact plain List.mem_cons_self
        have noStar : characters.getLast? ≠ some '*' :=
          fun last => plain (List.mem_of_getLast? last)
        rw [ofCharacters, if_neg other, if_neg (not_not.mpr begins),
          if_neg noStar, if_neg (by simpa using plain)]

/-- A text means what it means without the blanks around it. -/
theorem parse_eq_ok_iff {text : String} {pattern : Pattern} :
    parse text = .ok pattern ↔
      ∃ inner, Trims text.toList inner ∧ Denotes inner pattern := by
  rw [parse, ofCharacters_eq_ok_iff]
  constructor
  · intro denotes
    exact ⟨_, trims_trimBlanks _, denotes⟩
  · rintro ⟨inner, trims, denotes⟩
    rw [trims_iff.mp trims]
    exact denotes

/-- Exact patterns hold no star. -/
theorem not_mem_of_parse {text path : String}
    (parsed : parse text = .ok (.exact path)) : '*' ∉ path.toList := by
  rcases parse_eq_ok_iff.mp parsed with ⟨inner, _, denotes⟩
  cases denotes with
  | exact rooted plain =>
      intro starred
      rw [String.toList_ofList] at starred
      exact plain ((withoutTrailingSlash_sublist _).subset starred)

/-- Patterns that are parsed differ in their texts. -/
theorem eq_of_text {text name : String} {pattern other : Pattern}
    (parsed : parse text = .ok pattern) (alike : parse name = .ok other)
    (same : pattern.text = other.text) : pattern = other := by
  have starred : ∀ start : String, '*' ∈ (start ++ "*").toList := by
    intro start
    rw [String.toList_append]
    exact List.mem_append_right _ (List.mem_singleton.mpr rfl)
  cases pattern with
  | exact path =>
      cases other with
      | exact held => rw [show path = held from same]
      | below start =>
          have spelled : path = start ++ "*" := same
          exact (not_mem_of_parse parsed (spelled ▸ starred start)).elim
  | below start =>
      cases other with
      | exact path =>
          have spelled : start ++ "*" = path := same
          exact (not_mem_of_parse alike (spelled ▸ starred start)).elim
      | below held =>
          have spelled : start ++ "*" = held ++ "*" := same
          rw [String.append_left_inj] at spelled
          rw [spelled]

/-! ## Reading the text of a pattern -/

/-- The text of a wildcard is what was read, and no slash ends it. -/
theorem parse_text_below {text start : String}
    (parsed : parse text = .ok (.below start)) :
    parse (below start).text = .ok (.below start) ∧
      ∀ kind, ¬ SlashBehind kind (trimmed text).toList := by
  rcases parse_eq_ok_iff.mp parsed with ⟨inner, trims, denotes⟩
  have ends : ∃ front, inner = front ++ ['*'] ∧
      (below start).text.toList = inner := by
    cases denotes with
    | all => exact ⟨[], rfl, rfl⟩
    | @below front rooted closed plain =>
        refine ⟨front, rfl, ?_⟩
        rw [Pattern.text, String.toList_append, String.toList_ofList]
        rfl
  rcases ends with ⟨front, star, spelled⟩
  constructor
  · refine parse_eq_ok_iff.mpr ⟨inner, ?_, denotes⟩
    rw [spelled]
    exact trims.again
  · rintro kind ⟨path, _, slash⟩
    rw [toList_trimmed, trims_iff.mp trims, star] at slash
    have last := congrArg List.getLast? slash
    rw [List.getLast?_concat, List.getLast?_concat] at last
    exact absurd last (by decide)

/-- A path is read as the pattern of what is left of it. -/
theorem parse_rooted {path : List Char} (rooted : Rooted path)
    (plain : '*' ∉ path) :
    parse (String.ofList path) = .ok (.exact (String.ofList
      (withoutTrailingSlash (trimBlanks path)))) := by
  have trims := trims_trimBlanks path
  rcases rooted.trims trims with ⟨behind, shape, begins, _⟩
  refine parse_eq_ok_iff.mpr ⟨trimBlanks path, ?_, ?_⟩
  · rw [String.toList_ofList]
    exact trims
  · refine .exact begins fun starred => plain ?_
    rw [shape]
    exact List.mem_append_left _ starred

/--
The text of an exact pattern is read as the pattern again, unless a slash
or a blank stood in front of the slash that was taken away.
-/
theorem parse_text_exact {text path : String}
    (parsed : parse text = .ok (.exact path)) :
    ∃ again, parse path = .ok again ∧ (again = .exact path ↔
      ¬ SlashBehind (fun last => IsSlash last ∨ IsBlank last)
        (trimmed text).toList) := by
  rcases parse_eq_ok_iff.mp parsed with ⟨inner, trims, denotes⟩
  rw [toList_trimmed, trims_iff.mp trims]
  cases denotes with
  | exact rooted plain =>
      have begins : Rooted (withoutTrailingSlash inner) :=
        (head?_withoutTrailingSlash inner).trans rooted
      have noStar : '*' ∉ withoutTrailingSlash inner := fun starred =>
        plain ((withoutTrailingSlash_sublist inner).subset starred)
      have outer : ¬ EndsIn IsSlash inner →
          ¬ EndsIn (fun last => IsSlash last ∨ IsBlank last) inner := by
        intro noSlash
        rw [endsIn_or_iff, not_or]
        exact ⟨noSlash, rooted.trims_self_iff.mp trims.again⟩
      refine ⟨_, parse_rooted begins noStar, ?_⟩
      rw [exact.injEq, String.ofList_inj,
        begins.withoutTrailingSlash_trimBlanks_iff,
        endsIn_withoutTrailingSlash_iff outer]

/-- What an exact pattern holds is normal if no slash stood in front. -/
theorem normalized_eq_self_iff {text path : String}
    (parsed : parse text = .ok (.exact path)) :
    normalized path = path ↔
      ¬ SlashBehind IsSlash (trimmed text).toList := by
  rcases parse_eq_ok_iff.mp parsed with ⟨inner, trims, denotes⟩
  rw [toList_trimmed, trims_iff.mp trims]
  cases denotes with
  | exact rooted plain =>
      rw [normalized, String.toList_ofList, String.ofList_inj,
        withoutTrailingSlash_eq_self_iff,
        endsIn_withoutTrailingSlash_iff id]

/--
The text of a pattern tells it from all others and can be read.  It means
the pattern itself, unless the pattern is exact and a slash or a blank stood
in front of the slash that was taken away; and an exact pattern holds a
normal path, and means that path, unless it was a slash.
-/
theorem parse_text_iff {raw : String} {pattern : Pattern}
    (parsed : parse raw = .ok pattern) :
    (∃ again, parse pattern.text = .ok again ∧ (again = pattern ↔
      ¬ SlashBehind (fun last => IsSlash last ∨ IsBlank last)
        (trimmed raw).toList)) ∧
    (∀ path, pattern = .exact path →
      (normalized path = path ↔
        ¬ SlashBehind IsSlash (trimmed raw).toList) ∧
      (pattern.matches path = true ↔ normalized path = path)) ∧
    ∀ other name, parse other = .ok name →
      (pattern = name ↔ pattern.text = name.text) := by
  refine ⟨?_, ?_, ?_⟩
  · cases pattern with
    | exact path => exact parse_text_exact parsed
    | below start =>
        rcases parse_text_below parsed with ⟨again, noSlash⟩
        exact ⟨_, again, iff_of_true rfl (noSlash _)⟩
  · rintro path rfl
    exact ⟨normalized_eq_self_iff parsed, beq_iff_eq⟩
  · intro other name alike
    constructor
    · rintro rfl
      rfl
    · exact eq_of_text parsed alike

/-- A text with one slash at its end, and one with a blank in front of it. -/
theorem parse_text_iff_of_login :
    parse " /login/ " = .ok (.exact "/login") ∧
    parse "/login" = .ok (.exact "/login") ∧
    parse "/a /" = .ok (.exact "/a ") ∧
    ∃ again, parse "/a " = .ok again ∧ again ≠ .exact "/a " := by
  have login : parse " /login/ " = .ok (.exact "/login") := rfl
  have blank : parse "/a /" = .ok (.exact "/a ") := rfl
  refine ⟨login, ?_, blank, ?_⟩
  · rcases (parse_text_iff login).1 with ⟨again, read, same⟩
    rw [same.mpr] at read
    · exact read
    · rintro ⟨_, ⟨front, last, _, kept, rfl⟩, shape⟩
      have ends := congrArg (fun ending => ending.dropLast.getLast?) shape
      beta_reduce at ends
      rw [List.dropLast_concat, List.getLast?_concat] at ends
      cases (show some 'n' = some last from ends)
      rcases kept with slash | blank
      · cases slash
      · cases blank
  · rcases (parse_text_iff blank).1 with ⟨again, read, same⟩
    refine ⟨again, read, fun equal => same.mp equal ?_⟩
    exact ⟨"/a ".toList, ⟨['/', 'a'], ' ', by decide, .inr rfl, rfl⟩, rfl⟩

/-- The text of a pattern that was written with two slashes is another's. -/
theorem parse_text_ne :
    parse "/a//" = .ok (.exact "/a/") ∧
      parse (exact "/a/").text = .ok (.exact "/a") ∧
      normalized "/a/" = "/a" ∧
      (exact "/a/").matches "/a/" = false :=
  ⟨rfl, rfl, rfl, rfl⟩

end Pattern

end Gatehouse.Route
