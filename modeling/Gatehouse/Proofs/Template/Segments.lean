import Gatehouse.Template
import Mathlib.Data.List.TakeWhile

/-!
# How a template falls into segments

What a template consists of is said here by rules, apart from the function
that fills it in and without any variable: stretches of text, dollar signs
that open nothing, escapes, variables with their defaults, and at its end at
most one thing that is badly formed.  A text falls into segments in exactly
one way, which a function computes.
-/

namespace Gatehouse.Template

/-! ## What is between braces -/

/-- The name of a variable and, behind the first `:-`, its default. -/
inductive Splits : List Char → List Char → Option (List Char) → Prop where
  | whole {name : List Char} (uncut : ¬ [':', '-'] <:+: name) :
      Splits name name none
  | cut {name fallback : List Char}
      (first : ¬ [':', '-'] <:+: name ++ [':']) :
      Splits (name ++ ':' :: '-' :: fallback) name (some fallback)

theorem splitBody_cons {character : Char} {rest : List Char}
    (uncut : ¬ [':', '-'] <+: character :: rest) :
    splitBody (character :: rest) =
      (character :: (splitBody rest).1, (splitBody rest).2) := by
  rw [splitBody]
  rintro behind rfl rfl
  exact uncut ⟨behind, rfl⟩

theorem splitBody_of_splits {body name : List Char}
    {fallback : Option (List Char)}
    (splits : Splits body name fallback) :
    splitBody body = (name, fallback) := by
  cases splits with
  | whole uncut =>
      induction body with
      | nil => rfl
      | cons character rest induction =>
          rw [List.infix_cons_iff, not_or] at uncut
          rw [splitBody_cons uncut.1, induction uncut.2]
  | @cut _ text first =>
      induction name with
      | nil => rfl
      | cons character rest induction =>
          rw [List.cons_append, List.infix_cons_iff, not_or] at first
          have uncut :
              ¬ [':', '-'] <+:
                character :: (rest ++ ':' :: '-' :: text) := by
            intro starts
            apply first.1
            exact List.prefix_of_prefix_length_le starts
              ⟨'-' :: text, by simp⟩ (by simp)
          rw [List.cons_append, splitBody_cons uncut, induction first.2]

theorem Splits.cons {body name : List Char}
    {fallback : Option (List Char)} {character : Char}
    (splits : Splits body name fallback)
    (uncut : ¬ [':', '-'] <+: character :: body) :
    Splits (character :: body) (character :: name) fallback := by
  cases splits with
  | whole rest =>
      apply Splits.whole
      rw [List.infix_cons_iff, not_or]
      exact ⟨uncut, rest⟩
  | @cut _ text first =>
      refine @Splits.cut (character :: name) text ?_
      rw [List.cons_append, List.infix_cons_iff, not_or]
      refine ⟨fun starts => uncut ?_, first⟩
      exact starts.trans ⟨'-' :: text, by simp⟩

theorem splits_splitBody (body : List Char) :
    Splits body (splitBody body).1 (splitBody body).2 := by
  fun_induction splitBody body with
  | case1 rest => exact @Splits.cut [] rest (by decide)
  | case2 character rest uncut name fallback split induction =>
      rw [split] at induction
      apply induction.cons
      rintro ⟨behind, equal⟩
      cases equal
      exact uncut behind rfl rfl
  | case3 => exact .whole (by simp)

/-! ## Segments -/

/-- A stretch of a template. -/
inductive Segment where
  /-- Text without a dollar sign. -/
  | literal (text : List Char)
  /-- A dollar sign that opens nothing. -/
  | dollar
  /-- A doubled dollar sign in front of a brace. -/
  | escape
  /-- A variable and its default. -/
  | named (name : List Char) (fallback : Option (List Char))
  /-- Braces around something that is no name; the rest is not read. -/
  | invalidName (name : List Char)
  /-- A brace that is never closed. -/
  | unterminated
  deriving DecidableEq, Repr

/--
A text falls into segments.  What is badly formed ends the reading, so no
segment stands behind it.
-/
inductive Reads : List Char → List Segment → Prop where
  | done : Reads [] []
  | literal {text rest : List Char} {behind : List Segment}
      (filled : text ≠ []) (plain : '$' ∉ text)
      (longest : ∀ next ∈ rest.head?, next = '$')
      (tail : Reads rest behind) :
      Reads (text ++ rest) (.literal text :: behind)
  | dollar {rest : List Char} {behind : List Segment}
      (noToken : ¬ ['\x7b'] <+: rest)
      (noEscape : ¬ ['$', '\x7b'] <+: rest)
      (tail : Reads rest behind) :
      Reads ('$' :: rest) (.dollar :: behind)
  | escape {rest : List Char} {behind : List Segment}
      (tail : Reads rest behind) :
      Reads ('$' :: '$' :: '\x7b' :: rest) (.escape :: behind)
  | named {body name rest : List Char} {fallback : Option (List Char)}
      {behind : List Segment}
      (closed : '\x7d' ∉ body) (splits : Splits body name fallback)
      (valid : isName name = true) (tail : Reads rest behind) :
      Reads ('$' :: '\x7b' :: (body ++ '\x7d' :: rest))
        (.named name fallback :: behind)
  | invalidName {body name rest : List Char}
      {fallback : Option (List Char)}
      (closed : '\x7d' ∉ body) (splits : Splits body name fallback)
      (invalid : isName name = false) :
      Reads ('$' :: '\x7b' :: (body ++ '\x7d' :: rest))
        [.invalidName name]
  | unterminated {rest : List Char} (unclosed : '\x7d' ∉ rest) :
      Reads ('$' :: '\x7b' :: rest) [.unterminated]

/-- The segments of a text. -/
def segments (characters : List Char) : List Segment :=
  match characters with
  | [] => []
  | '$' :: '$' :: '\x7b' :: rest => .escape :: segments rest
  | '$' :: '\x7b' :: rest =>
    match _found : Text.cutCharacters? '\x7d' rest with
    | none => [.unterminated]
    | some (body, behind) =>
      if isName (splitBody body).1 then
        .named (splitBody body).1 (splitBody body).2 :: segments behind
      else [.invalidName (splitBody body).1]
  | '$' :: rest => .dollar :: segments rest
  | character :: rest =>
    .literal (character :: rest.takeWhile (· != '$')) ::
      segments (rest.dropWhile (· != '$'))
termination_by characters.length
decreasing_by
  · simp only [List.length_cons]
    omega
  · simp only [List.length_cons]
    rw [← Text.append_of_cutCharacters? _found, List.length_append,
      List.length_cons]
    omega
  · simp only [List.length_cons]
    omega
  · simp only [List.length_cons]
    exact Nat.lt_succ_of_le (List.dropWhile_sublist _).length_le

/-- The segments that are computed are segments by the rules. -/
theorem reads_segments (characters : List Char) :
    Reads characters (segments characters) := by
  fun_induction segments characters with
  | case1 => exact .done
  | case2 rest induction => exact .escape induction
  | case3 rest found =>
      exact .unterminated (Text.cutCharacters?_eq_none_iff.mp found)
  | case4 rest body behind found valid induction =>
      rw [← Text.append_of_cutCharacters? found]
      exact .named (Text.not_mem_of_cutCharacters? found)
        (splits_splitBody body) valid induction
  | case5 rest body behind found invalid =>
      rw [← Text.append_of_cutCharacters? found]
      exact .invalidName (Text.not_mem_of_cutCharacters? found)
        (splits_splitBody body) (by simpa using invalid)
  | case6 rest noEscape noToken induction =>
      refine .dollar ?_ ?_ induction
      · rintro ⟨behind, rfl⟩
        exact noToken behind rfl
      · rintro ⟨behind, rfl⟩
        exact noEscape behind rfl
  | case7 character rest noEscape noToken noDollar induction =>
      have differs : character ≠ '$' := noDollar
      have split :
          character :: rest =
            (character :: rest.takeWhile (· != '$')) ++
              rest.dropWhile (· != '$') := by
        rw [List.cons_append, List.takeWhile_append_dropWhile]
      rw [split]
      refine .literal (by simp) ?_ ?_ induction
      · rw [List.mem_cons, not_or]
        refine ⟨differs.symm, fun member => ?_⟩
        simpa using List.mem_takeWhile_imp member
      · intro next first
        have stopped := List.head?_dropWhile_not (· != '$') rest
        rw [Option.mem_def.mp first] at stopped
        simpa using stopped

/-! ## Only these segments -/

theorem span_of_plain {text rest : List Char} (plain : '$' ∉ text)
    (longest : ∀ next ∈ rest.head?, next = '$') :
    (text ++ rest).takeWhile (· != '$') = text ∧
      (text ++ rest).dropWhile (· != '$') = rest := by
  have all : ∀ character ∈ text, (character != '$') = true := by
    intro character member
    rw [bne_iff_ne]
    rintro rfl
    exact plain member
  rw [List.takeWhile_append_of_pos all, List.dropWhile_append_of_pos all]
  cases rest with
  | nil => exact ⟨List.append_nil text, rfl⟩
  | cons next rest =>
      obtain rfl := longest next rfl
      exact ⟨List.append_nil text, rfl⟩

theorem segments_closed {body : List Char} (closed : '\x7d' ∉ body)
    (rest : List Char) :
    segments ('$' :: '\x7b' :: (body ++ '\x7d' :: rest)) =
      if isName (splitBody body).1 then
        .named (splitBody body).1 (splitBody body).2 :: segments rest
      else [.invalidName (splitBody body).1] := by
  have cut := Text.cutCharacters?_append closed rest
  rw [segments]
  split
  · rename_i found
    rw [found] at cut
    cases cut
  · rename_i found
    rw [found] at cut
    cases cut
    rfl

theorem segments_of_reads {characters : List Char} {found : List Segment}
    (reads : Reads characters found) : segments characters = found := by
  induction reads with
  | done => rw [segments]
  | @literal text rest behind filled plain longest tail induction =>
      cases text with
      | nil => exact (filled rfl).elim
      | cons character text =>
          rw [List.mem_cons, not_or] at plain
          have split := span_of_plain plain.2 longest
          rw [List.cons_append, segments, split.1, split.2, induction]
          all_goals simp [Ne.symm plain.1]
  | dollar noToken noEscape tail induction =>
      rw [segments, induction]
      · rintro behind rfl
        exact noEscape ⟨behind, rfl⟩
      · rintro behind rfl
        exact noToken ⟨behind, rfl⟩
  | escape tail induction => rw [segments, induction]
  | @named body name rest fallback behind closed splits valid tail
      induction =>
      have split := splitBody_of_splits splits
      rw [segments_closed closed, split, if_pos valid, induction]
  | @invalidName body name rest fallback closed splits invalid =>
      have split := splitBody_of_splits splits
      rw [segments_closed closed, split, if_neg (by simp [invalid])]
  | @unterminated rest unclosed =>
      have uncut := Text.cutCharacters?_eq_none_iff.mpr unclosed
      rw [segments]
      split
      · rfl
      · rename_i found
        rw [found] at uncut
        cases uncut

/-- A text falls into segments in exactly one way. -/
theorem reads_iff {characters : List Char} {found : List Segment} :
    Reads characters found ↔ segments characters = found := by
  constructor
  · exact segments_of_reads
  · rintro rfl
    exact reads_segments characters

end Gatehouse.Template
