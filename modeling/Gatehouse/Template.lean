import Gatehouse.Text.Cut

/-!
# Texts with variables

A template is a text in which a dollar sign and braces name a variable,
optionally with a default behind `:-`, and in which a doubled dollar sign in
front of a brace stands for itself.  It is read once, from its beginning to
its end: a variable is looked up where it is met, what it holds goes to the
result as it is, and the reading goes on behind its closing brace.
-/

namespace Gatehouse

/-- Where the value of a variable comes from. -/
abbrev Variables : Type := String → Option String

/-- Why a template has no text. -/
inductive TemplateFault where
  /-- An opening brace without its closing brace. -/
  | unterminated
  /-- Braces around something that is no name. -/
  | invalidName (name : String)
  /-- A variable that is not set and has no default. -/
  | missing (name : String)
  deriving DecidableEq, Repr

namespace Template

/-- A character of a variable's name. -/
def isNameCharacter (character : Char) : Bool :=
  character.isAlphanum || character == '_'

/-- A non-empty run of letters, digits and underscores. -/
def isName (characters : List Char) : Bool :=
  !characters.isEmpty && characters.all isNameCharacter

/-- The text between braces, cut at the first `:-`. -/
def splitBody : List Char → List Char × Option (List Char)
  | ':' :: '-' :: rest => ([], some rest)
  | character :: rest =>
    let (name, fallback) := splitBody rest
    (character :: name, fallback)
  | [] => ([], none)

/-- The value of a variable, unless it is unset or empty. -/
def valueOf? (lookup : Variables) (name : List Char) : Option (List Char) :=
  ((lookup (String.ofList name)).filter fun value => !value.isEmpty).map
    String.toList

/-- What stands for a variable, given what is between its braces. -/
def substitute (lookup : Variables) (body : List Char) :
    Except TemplateFault (List Char) :=
  let (name, fallback) := splitBody body
  if isName name then
    match valueOf? lookup name, fallback with
    | some value, _ => .ok value
    | none, some text => .ok text
    | none, none => .error (.missing (String.ofList name))
  else .error (.invalidName (String.ofList name))

/-- The text of what is left of a template. -/
def renderRest (lookup : Variables) (characters : List Char) :
    Except TemplateFault (List Char) :=
  match characters with
  | [] => .ok []
  | '$' :: '$' :: '\x7b' :: rest => do
    return '$' :: '\x7b' :: (← renderRest lookup rest)
  | '$' :: '\x7b' :: rest =>
    match _found : Text.cutCharacters? '\x7d' rest with
    | none => .error .unterminated
    | some (body, behind) => do
      let text ← substitute lookup body
      return text ++ (← renderRest lookup behind)
  | character :: rest => do
    return character :: (← renderRest lookup rest)
termination_by characters.length
decreasing_by
  · simp only [List.length_cons]
    omega
  · simp only [List.length_cons]
    rw [← Text.append_of_cutCharacters? _found, List.length_append,
      List.length_cons]
    omega
  · simp only [List.length_cons]
    omega

/-- The text of a template. -/
def render (lookup : Variables) (template : String) :
    Except TemplateFault String :=
  (renderRest lookup template.toList).map String.ofList

/-- Whether a template looks like one variable and nothing else. -/
def isSingleVariable (template : String) : Bool :=
  let characters := template.toList
  ['$', '\x7b'].isPrefixOf characters &&
    characters.getLast? == some '\x7d' &&
    characters.count '$' == 1 && characters.count '\x7d' == 1

end Template

end Gatehouse
