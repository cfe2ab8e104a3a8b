/-!
# Blank characters

White space in the sense of the Unicode property `White_Space`, and the
trimming that goes with it.  Trimming is defined on character lists and
lifted to strings, so that its laws can be read off `List.dropWhile`.
-/

namespace Gatehouse.Text

/-- A character with the Unicode property `White_Space`. -/
def isBlank (character : Char) : Bool :=
  let code := character.toNat
  (9 ≤ code && code ≤ 13) || code == 0x20 || code == 0x85 || code == 0xA0 ||
    code == 0x1680 || (0x2000 ≤ code && code ≤ 0x200A) || code == 0x2028 ||
    code == 0x2029 || code == 0x202F || code == 0x205F || code == 0x3000

/-- The characters from the first one that is not blank. -/
def dropBlanks (characters : List Char) : List Char :=
  characters.dropWhile isBlank

/-- The characters up to the last one that is not blank. -/
def dropTrailingBlanks (characters : List Char) : List Char :=
  (dropBlanks characters.reverse).reverse

/-- The characters between the first and the last one that are not blank. -/
def trimBlanks (characters : List Char) : List Char :=
  dropTrailingBlanks (dropBlanks characters)

/-- The text without blanks at either end. -/
def trimmed (text : String) : String :=
  String.ofList (trimBlanks text.toList)

/-- The text without blanks at its end. -/
def trimmedEnd (text : String) : String :=
  String.ofList (dropTrailingBlanks text.toList)

/-- The text with the letters `A` to `Z` replaced by `a` to `z`. -/
def lowercased (text : String) : String :=
  String.ofList (text.toList.map Char.toLower)

@[simp]
theorem toList_trimmed (text : String) :
    (trimmed text).toList = trimBlanks text.toList := by
  simp [trimmed]

@[simp]
theorem toList_lowercased (text : String) :
    (lowercased text).toList = text.toList.map Char.toLower := by
  simp [lowercased]

/-- What remains at the front after dropping blanks is not blank. -/
theorem isBlank_head_dropBlanks {characters rest : List Char}
    {character : Char} (shape : dropBlanks characters = character :: rest) :
    isBlank character = false := by
  have found := List.head?_dropWhile_not isBlank characters
  have same : characters.dropWhile isBlank = character :: rest := shape
  simpa [same] using found

end Gatehouse.Text
