import Gatehouse.Config.Error
import Gatehouse.Text.Blank
import Gatehouse.Yaml.Read

/-!
# One source of a configuration

What the text of one file says on its own: its settings and the files that
it includes.
-/

namespace Gatehouse.Config

open Gatehouse.Yaml

/-- The key that lists the files to include. -/
def includeKey : String := "include"

/-- What one text says on its own. -/
structure Source where
  /-- The settings, whatever their keys are. -/
  own : Mapping
  /-- The paths of the included files. -/
  includes : List String
  deriving Repr

namespace Source

/-- The mapping that a text holds; an empty text holds an empty one. -/
def mappingOf (origin text : String) : Except Error Mapping :=
  match Yaml.read text with
  | .error cause => .error (.malformed origin cause)
  | .ok .null => .ok []
  | .ok (.mapping entries) => .ok entries
  | .ok _ => .error (.notAMapping origin)

/-- The texts in a list of included files. -/
def includeTexts : Option Value → Except IncludeFault (List String)
  | none | some .null => .ok []
  | some (.string text) => .ok [text]
  | some (.sequence items) =>
    items.mapM fun item =>
      match item with
      | .string text => .ok text
      | _ => .error .notText
  | some _ => .error .notAList

/-- The path of an included file, taken from the directory of its includer. -/
def includePath (directory text : String) : Except IncludeFault String :=
  if (Text.trimBlanks text.toList).isEmpty then .error .blank
  else .ok (Files.join directory text)

/-- The paths of the included files. -/
def includePaths (directory : String) (listed : Option Value) :
    Except IncludeFault (List String) := do
  let texts ← includeTexts listed
  texts.mapM (includePath directory)

/-- What a text says on its own, its includes taken from a directory. -/
def parse (origin directory text : String) : Except Error Source := do
  let entries ← mappingOf origin text
  let includes ←
    (includePaths directory (Mapping.get? entries includeKey)).mapError
      (Error.invalidInclude origin)
  return ⟨Mapping.drop entries includeKey, includes⟩

end Source

end Gatehouse.Config
