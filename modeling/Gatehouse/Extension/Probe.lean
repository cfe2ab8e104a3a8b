import Gatehouse.Extension.Registry

/-!
# Probes

Extensions that do nothing but leave notes: when they are built, when they
are attached to a route, and on both sides of every request.  They show in
which order extensions act.
-/

namespace Gatehouse.Extension

open Gatehouse.Route (Info Overrides)
open Gatehouse.Serve

/-- What a probe is told to do. -/
structure Probe where
  /-- The name in its notes and the key that switches it off. -/
  name : String
  /-- The refusal to be attached to a route. -/
  attachFault : Option String := none

namespace Probe

/-- The layer that leaves a note on both sides of a request. -/
def gate (name : String) : Layer := fun request => do
  Action.note (name ++ ":in")
  return .forward request fun response => do
    Action.note (name ++ ":out")
    return response

/-- The layer of a route, after a note. -/
def attach (probe : Probe) (route : Info) : Action Fault Layer := do
  Action.note
    (probe.name ++ ":wrap " ++ route.method.name ++ " " ++ route.path)
  match probe.attachFault with
  | some text => throw (.other text)
  | none => return gate probe.name

/-- The probe as an extension. -/
def extension (probe : Probe) : Extension where
  name := probe.name
  applies _ overrides := !overrides.isDisabled probe.name
  attach route _ := probe.attach route

/--
The registration of a probe.  `announce` is the note that it leaves when it
is built from a section, if any, and `fault` its refusal to be built.
-/
def registration (probe : Probe) (key : String)
    (announce : Option (Config → String)) (fault : Option String) :
    Registration where
  key := key
  construct config := do
    match announce with
    | some text => Action.note (text config)
    | none => pure ()
    match fault with
    | some text => throw (.other text)
    | none => return probe.extension

end Probe

end Gatehouse.Extension
