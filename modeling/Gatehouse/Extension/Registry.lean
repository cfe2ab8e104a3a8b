import Gatehouse.Extension.Basic
import Gatehouse.Text.Quoted

/-!
# The registry of extensions

How extensions are built, by the ids under which a configuration asks for
them.  The ids stay in order, and an id that is registered again stands for
the later registration.
-/

namespace Gatehouse.Extension

open Gatehouse.Serve

/-- How an extension is built. -/
structure Registration where
  /-- The top-level key of the section that the extension is built from. -/
  key : String
  construct : Config → Action Fault Extension

/-- Registrations by their ids, in the order of the ids. -/
structure Registry where
  entries : List (String × Registration)

namespace Registry

/-- The registry that knows no id. -/
def empty : Registry :=
  ⟨[]⟩

/-- The registration of an id. -/
def find? (registry : Registry) (id : String) : Option Registration :=
  registry.entries.lookup id

/-- Whether an id is registered. -/
def contains (registry : Registry) (id : String) : Bool :=
  (registry.find? id).isSome

/-- The ids in order. -/
def ids (registry : Registry) : List String :=
  registry.entries.map Prod.fst

/-- Set a registration in a list that is ordered by ids. -/
def insertEntry (id : String) (registration : Registration) :
    List (String × Registration) → List (String × Registration)
  | [] => [(id, registration)]
  | (first, held) :: rest =>
    if id = first then (id, registration) :: rest
    else if id < first then (id, registration) :: (first, held) :: rest
    else (first, held) :: insertEntry id registration rest

/-- The registry with the registration of one id set. -/
def insert (registry : Registry) (id : String)
    (registration : Registration) : Registry :=
  ⟨insertEntry id registration registry.entries⟩

/-- Register an id, and report if another registration is replaced. -/
def register {Failure : Type} (registry : Registry) (id : String)
    (registration : Registration) : Action Failure Registry := do
  if registry.contains id then
    Action.report (.debug "Replaced extension registration"
      [("extension", id)])
  return registry.insert id registration

/-- A registry as messages show it. -/
def inspect (registry : Registry) : String :=
  "ExtensionRegistry \x7b ids: " ++ Text.quotedList registry.ids ++ " \x7d"

theorem lookup_insertEntry_self (id : String) (registration : Registration)
    (entries : List (String × Registration)) :
    (insertEntry id registration entries).lookup id = some registration := by
  induction entries with
  | nil => simp [insertEntry]
  | cons entry rest ih =>
    obtain ⟨first, held⟩ := entry
    by_cases same : id = first
    · simp [insertEntry, same]
    · by_cases before : id < first
      · simp [insertEntry, same, before]
      · have differs : (id == first) = false := by simpa using same
        simp [insertEntry, same, before, List.lookup_cons, differs, ih]

@[simp]
theorem find?_insert_self (registry : Registry) (id : String)
    (registration : Registration) :
    (registry.insert id registration).find? id = some registration :=
  lookup_insertEntry_self id registration registry.entries

end Registry

end Gatehouse.Extension
