/-!
# Cutting texts

A text is cut at the first place of a character, which then belongs to
neither side, or at all of its places, or into its lines.
-/

namespace Gatehouse.Text

/-- The characters in front of a given one and those behind it. -/
def cutCharacters? (mark : Char) :
    List Char → Option (List Char × List Char)
  | [] => none
  | character :: rest =>
    if character = mark then some ([], rest)
    else
      (cutCharacters? mark rest).map fun (front, back) =>
        (character :: front, back)

/-- The text in front of the first given character and the one behind it. -/
def cut? (mark : Char) (text : String) : Option (String × String) :=
  (cutCharacters? mark text.toList).map fun (front, back) =>
    (String.ofList front, String.ofList back)

/-- The texts between all places of a character. -/
def pieces (mark : Char) (text : String) : List String :=
  (text.toList.splitOn mark).map String.ofList

/-- A line without the carriage return at its end. -/
def withoutReturn (line : String) : String :=
  match line.toList.reverse with
  | '\r' :: before => String.ofList before.reverse
  | _ => line

/-- The lines of a text that ends with a line. -/
def linesOf (text : String) : List String :=
  (pieces '\n' text).map withoutReturn

/-- The lines of texts that start with a label. -/
def labelledLines (label : String) (texts : List String) : List String :=
  (texts.flatMap linesOf).filter fun line =>
    label.toList.isPrefixOf line.toList

/-- A cut loses nothing but the character that it is made at. -/
theorem append_of_cutCharacters? {mark : Char}
    {characters front back : List Char}
    (found : cutCharacters? mark characters = some (front, back)) :
    front ++ mark :: back = characters := by
  induction characters generalizing front with
  | nil => simp [cutCharacters?] at found
  | cons character rest ih =>
    unfold cutCharacters? at found
    split at found
    next same => simp_all
    next =>
      simp only [Option.map_eq_some_iff, Prod.exists, Prod.mk.injEq] at found
      obtain ⟨inner, remaining, equality, rfl, rfl⟩ := found
      simp [ih equality]

/-- The part in front of a cut does not hold the character. -/
theorem not_mem_of_cutCharacters? {mark : Char}
    {characters front back : List Char}
    (found : cutCharacters? mark characters = some (front, back)) :
    mark ∉ front := by
  induction characters generalizing front with
  | nil => simp [cutCharacters?] at found
  | cons character rest ih =>
    unfold cutCharacters? at found
    split at found
    next => simp_all
    next differs =>
      simp only [Option.map_eq_some_iff, Prod.exists, Prod.mk.injEq] at found
      obtain ⟨inner, remaining, equality, rfl, rfl⟩ := found
      simpa [ih equality] using fun same => differs same.symm

/-- A cut is made at the first place of the character. -/
theorem cutCharacters?_append {mark : Char} {front : List Char}
    (absent : mark ∉ front) (back : List Char) :
    cutCharacters? mark (front ++ mark :: back) = some (front, back) := by
  induction front with
  | nil => simp [cutCharacters?]
  | cons character rest ih =>
    rw [List.mem_cons, not_or] at absent
    simp [cutCharacters?, Ne.symm absent.1, ih absent.2]

theorem cutCharacters?_eq_none_iff {mark : Char} {characters : List Char} :
    cutCharacters? mark characters = none ↔ mark ∉ characters := by
  induction characters with
  | nil => simp [cutCharacters?]
  | cons character rest ih =>
    rw [cutCharacters?, List.mem_cons, not_or, ← ih]
    by_cases same : character = mark
    · simp [same]
    · simp [same, Ne.symm same]

end Gatehouse.Text
