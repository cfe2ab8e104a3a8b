import Gatehouse.Text.Blank
import Gatehouse.Yaml.Inspect

/-!
# Declared extensions

What the `extensions` key of a configuration asks for: a list of ids or, in
the older form, a mapping of ids to the sections that the extensions are
built from.
-/

namespace Gatehouse.Extension

open Gatehouse.Yaml

/-- An extension that a configuration asks for. -/
structure Declaration where
  id : String
  /-- The section given together with the id. -/
  given : Option Value
  deriving Repr

/-- Why a list of extensions is badly formed. -/
inductive DeclarationFault where
  | notAList
  | badEntry (value : Value)
  | idNotText (value : Value)
  deriving Repr

def DeclarationFault.message : DeclarationFault → String
  | .notAList => "expected a list of extension ids"
  | .badEntry value =>
    "entries must be non-empty strings, found " ++ value.inspect
  | .idNotText value => "ids must be strings, found " ++ value.inspect

namespace Declaration

/-- The top-level key that asks for extensions. -/
def key : String := "extensions"

/-- The extension that an item of the list asks for. -/
def ofItem (item : Value) : Except DeclarationFault Declaration :=
  match item with
  | .string text =>
    let id := Text.trimmed text
    if id.isEmpty then .error (.badEntry item) else .ok ⟨id, none⟩
  | _ => .error (.badEntry item)

/-- The extension that an entry of the mapping asks for. -/
def ofEntry (name value : Value) : Except DeclarationFault Declaration :=
  match name with
  | .string text =>
    .ok ⟨Text.trimmed text, if value.isNull then none else some value⟩
  | _ => .error (.idNotText name)

/-- All extensions that a configuration asks for, in order. -/
def readAll : Option Value → Except DeclarationFault (List Declaration)
  | none | some .null => .ok []
  | some (.sequence items) => items.mapM ofItem
  | some (.mapping entries) =>
    List.mapM (fun (entry : Value × Value) => ofEntry entry.1 entry.2) entries
  | some _ => .error .notAList

/-- Whether extensions are declared in the older form. -/
def isOldForm (declared : Option Value) : Bool :=
  (declared.bind Value.entries?).isSome

end Declaration

end Gatehouse.Extension
