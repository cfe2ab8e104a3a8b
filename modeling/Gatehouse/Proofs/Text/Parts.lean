import Gatehouse.Text.Blank
import Gatehouse.Text.Cut
import Mathlib.Data.List.TakeWhile

/-!
# The parts of a text

Trimming, cutting at the first place of a character and cutting at all its
places are said here by what they leave: some parts, and how the text is put
together from them.  A text has such parts in one way only, so each of the
laws is an equivalence.
-/

namespace Gatehouse.Text

/-! ## Blanks at the ends -/

/--
Characters stand between blanks, and neither begin nor end with one
themselves.
-/
def Trims (characters inner : List Char) : Prop :=
  ∃ before behind, characters = before ++ (inner ++ behind) ∧
    (∀ character ∈ before, isBlank character = true) ∧
    (∀ character ∈ behind, isBlank character = true) ∧
    (∀ character ∈ inner.head?, isBlank character = false) ∧
    ∀ character ∈ inner.getLast?, isBlank character = false

theorem dropBlanks_append {before : List Char}
    (blank : ∀ character ∈ before, isBlank character = true)
    (rest : List Char) :
    dropBlanks (before ++ rest) = dropBlanks rest :=
  List.dropWhile_append_of_pos blank

theorem dropBlanks_of_head {characters : List Char}
    (solid : ∀ character ∈ characters.head?, isBlank character = false) :
    dropBlanks characters = characters := by
  cases characters with
  | nil => rfl
  | cons character rest =>
      have first := solid character rfl
      simp [dropBlanks, first]

theorem head?_dropBlanks (characters : List Char) :
    ∀ character ∈ (dropBlanks characters).head?,
      isBlank character = false := by
  intro character first
  rcases List.head?_eq_some_iff.mp first with ⟨rest, shape⟩
  exact isBlank_head_dropBlanks shape

theorem exists_blanks_append_dropBlanks (characters : List Char) :
    ∃ before, characters = before ++ dropBlanks characters ∧
      ∀ character ∈ before, isBlank character = true :=
  ⟨characters.takeWhile isBlank, List.takeWhile_append_dropWhile.symm,
    fun _ member => List.mem_takeWhile_imp member⟩

theorem trims_trimBlanks (characters : List Char) :
    Trims characters (trimBlanks characters) := by
  rcases exists_blanks_append_dropBlanks characters with
    ⟨before, front, blankBefore⟩
  rcases exists_blanks_append_dropBlanks (dropBlanks characters).reverse with
    ⟨behind, back, blankBehind⟩
  have inner : dropBlanks characters =
      trimBlanks characters ++ behind.reverse := by
    rw [← List.reverse_reverse (dropBlanks characters), back,
      List.reverse_append]
    rfl
  refine ⟨before, behind.reverse, ?_, blankBefore, ?_, ?_, ?_⟩
  · rw [← inner]
    exact front
  · intro character member
    exact blankBehind character (List.mem_reverse.mp member)
  · intro character first
    apply head?_dropBlanks characters character
    rw [inner, List.head?_append, Option.mem_def.mp first]
    rfl
  · intro character last
    apply head?_dropBlanks (dropBlanks characters).reverse character
    rw [trimBlanks, dropTrailingBlanks, List.getLast?_reverse] at last
    exact last

/-- What stands between blanks is what trimming leaves. -/
theorem trims_iff {characters inner : List Char} :
    Trims characters inner ↔ trimBlanks characters = inner := by
  constructor
  · rintro ⟨before, behind, rfl, blankBefore, blankBehind, first, last⟩
    have blankReverse :
        ∀ character ∈ behind.reverse, isBlank character = true :=
      fun character member =>
        blankBehind character (List.mem_reverse.mp member)
    rw [trimBlanks, dropTrailingBlanks, dropBlanks_append blankBefore]
    cases inner with
    | nil =>
        have nothing : dropBlanks ([] ++ behind) = [] := by
          rw [List.nil_append, ← List.append_nil behind]
          exact dropBlanks_append blankBehind []
        rw [nothing]
        rfl
    | cons character rest =>
        have front : dropBlanks (character :: rest ++ behind) =
            character :: rest ++ behind := dropBlanks_of_head first
        rw [front, List.reverse_append, dropBlanks_append blankReverse,
          dropBlanks_of_head, List.reverse_reverse]
        rw [List.head?_reverse]
        exact last
  · rintro rfl
    exact trims_trimBlanks characters

/-- Characters that are no blanks are what is left between blanks. -/
theorem trims_between {before inner behind : List Char}
    (blankBefore : ∀ character ∈ before, isBlank character = true)
    (blankBehind : ∀ character ∈ behind, isBlank character = true)
    (solid : ∀ character ∈ inner, isBlank character = false) :
    Trims (before ++ (inner ++ behind)) inner := by
  refine ⟨before, behind, rfl, blankBefore, blankBehind, ?_, ?_⟩
  · exact fun character first => solid character (List.mem_of_head? first)
  · exact fun character last => solid character (List.mem_of_getLast? last)

theorem trims_self {characters : List Char}
    (solid : ∀ character ∈ characters, isBlank character = false) :
    Trims characters characters := by
  have alone := @trims_between [] characters [] nofun nofun solid
  rwa [List.nil_append, List.append_nil] at alone

/-- What trimming leaves has no blanks at its ends. -/
theorem Trims.again {characters inner : List Char}
    (trims : Trims characters inner) : Trims inner inner := by
  rcases trims with ⟨_, _, _, _, _, first, last⟩
  exact ⟨[], [], by simp, nofun, nofun, first, last⟩

/-- Trimming only leaves characters out. -/
theorem Trims.subset {characters inner : List Char}
    (trims : Trims characters inner) : inner ⊆ characters := by
  rcases trims with ⟨before, behind, rfl, _⟩
  intro character member
  simp [member]

/-! ## Cutting -/

/-- A text is cut where its first part ends, and the mark belongs to none. -/
theorem cutCharacters?_eq_some_iff {mark : Char}
    {characters front back : List Char} :
    cutCharacters? mark characters = some (front, back) ↔
      characters = front ++ mark :: back ∧ mark ∉ front := by
  constructor
  · intro found
    exact ⟨(append_of_cutCharacters? found).symm,
      not_mem_of_cutCharacters? found⟩
  · rintro ⟨rfl, absent⟩
    exact cutCharacters?_append absent back

theorem cut?_eq_some_iff {mark : Char} {text front back : String} :
    cut? mark text = some (front, back) ↔
      text.toList = front.toList ++ mark :: back.toList ∧
        mark ∉ front.toList := by
  rw [cut?, Option.map_eq_some_iff]
  constructor
  · rintro ⟨⟨first, second⟩, found, same⟩
    cases same
    rw [String.toList_ofList, String.toList_ofList]
    exact cutCharacters?_eq_some_iff.mp found
  · intro parts
    refine ⟨(front.toList, back.toList),
      cutCharacters?_eq_some_iff.mpr parts, ?_⟩
    simp

/-- No piece of a text holds the mark at which it is cut. -/
theorem not_mem_of_mem_splitOn {mark : Char} {characters piece : List Char}
    (member : piece ∈ characters.splitOn mark) : mark ∉ piece := by
  induction characters generalizing piece with
  | nil =>
      rw [List.splitOn_nil, List.mem_singleton] at member
      subst member
      exact List.not_mem_nil
  | cons character rest induction =>
      rw [List.splitOn_cons_eq_if_modifyHead] at member
      split at member
      · rcases List.mem_cons.mp member with rfl | inner
        · exact List.not_mem_nil
        · exact induction inner
      · rename_i differs
        rcases split : rest.splitOn mark with _ | ⟨first, others⟩
        · exact (List.splitOn_ne_nil mark rest split).elim
        rw [split, List.modifyHead_cons, List.mem_cons] at member
        rcases member with rfl | inner
        · have absent : mark ∉ first :=
            induction (split ▸ List.mem_cons_self)
          rw [List.mem_cons, not_or]
          exact ⟨fun same => differs (by simp [same]), absent⟩
        · exact induction (split ▸ List.mem_cons_of_mem first inner)

/-- The pieces of a text are joined by the mark, and none of them holds it. -/
theorem splitOn_eq_iff {mark : Char} {characters : List Char}
    {parts : List (List Char)} :
    characters.splitOn mark = parts ↔
      parts ≠ [] ∧ (∀ part ∈ parts, mark ∉ part) ∧
        characters = [mark].intercalate parts := by
  constructor
  · rintro rfl
    exact ⟨List.splitOn_ne_nil mark characters,
      fun part member => not_mem_of_mem_splitOn member,
      (List.intercalate_splitOn mark).symm⟩
  · rintro ⟨some, absent, rfl⟩
    exact List.splitOn_intercalate mark absent some

end Gatehouse.Text
