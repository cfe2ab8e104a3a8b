import Gatehouse.Config.Error
import Gatehouse.Route.Table
import Gatehouse.Text.Quoted
import Gatehouse.Yaml.Mark

/-!
# Why a run of the tool fails

A run ends with an error of one of the parts that it uses.  Such an error is
not shown in its wording but in the form for debugging, which spells out its
kind and its fields.  Positions in a YAML text are left out.
-/

namespace Gatehouse.Cli

open Gatehouse.Config (IncludeFault Violation)
open Gatehouse.Files
open Gatehouse.Route
open Gatehouse.Text
open Gatehouse.Yaml

/-- An error with its kind and its fields. -/
def inspected (kind : String) (fields : List (String × String)) : String :=
  kind ++ " \x7b " ++
    ", ".intercalate (fields.map fun field => field.1 ++ ": " ++ field.2) ++
    " \x7d"

/-- An error of which only the wording is known. -/
def inspectedMessage (message : String) : String :=
  "Error(" ++ quoted message ++ ")"

/-- A text that may be missing. -/
def inspectedOption : Option String → String
  | none => "None"
  | some text => "Some(" ++ quoted text ++ ")"

/-- An error of the operating system. -/
def inspectedCode (code : Nat) (kind message : String) : String :=
  inspected "Os" [("code", toString code), ("kind", kind),
    ("message", quoted message)]

/-- The fault for which a file is not read. -/
def inspectFault : Fault → String
  | .notFound => inspectedCode 2 "NotFound" "No such file or directory"
  | .notADirectory => inspectedCode 20 "NotADirectory" "Not a directory"
  | .isADirectory => inspectedCode 21 "IsADirectory" "Is a directory"
  | .nameTooLong => inspectedCode 36 "InvalidFilename" "File name too long"
  | .zeroInName =>
    inspected "Error" [("kind", "InvalidInput"),
      ("message", quoted Fault.zeroInName.message)]
  | .undecodable =>
    inspected "Error" [("kind", "InvalidData"),
      ("message", quoted Fault.undecodable.message)]

/-- A broken rule of the settings. -/
def inspectViolation (violation : Violation) : String :=
  inspected "ValidationError" [("field", quoted violation.field),
    ("message", quoted violation.message)]

/-- A text with variables that is not filled in. -/
def inspectedTemplate (keyPath reason : String) : String :=
  inspected "Interpolation" [("key_path", quoted keyPath),
    ("reason", quoted reason)]

/-- The error for which a configuration is refused. -/
def inspectConfig : Config.Error → String
  | .unreadable path cause =>
    inspected "Io" [("path", quoted path), ("source", inspectFault cause)]
  | .malformed origin cause =>
    inspected "Parse" [("origin", quoted origin),
      ("source", inspectedMessage cause.message)]
  | .notAMapping origin => inspected "NotAMapping" [("origin", quoted origin)]
  | .invalidKey origin key =>
    inspected "InvalidKey" [("origin", quoted origin),
      ("key", quoted key.inspect)]
  | .invalidInclude origin cause =>
    inspected "InvalidInclude" [("origin", quoted origin),
      ("reason", quoted cause.message)]
  | .missingInclude path includedFrom =>
    inspected "MissingInclude" [("path", quoted path),
      ("included_from", quoted includedFrom)]
  | .includeCycle path => inspected "IncludeCycle" [("path", quoted path)]
  | .conflict key first second =>
    inspected "Conflict" [("key", quoted key), ("first", quoted first),
      ("second", quoted second)]
  | .missingVariable name keyPath =>
    inspected "MissingVariable" [("name", quoted name),
      ("key_path", quoted keyPath)]
  | .unterminated keyPath =>
    inspectedTemplate keyPath "unterminated `$\x7b`"
  | .invalidVariableName keyPath name =>
    inspectedTemplate keyPath ("invalid variable name `" ++ name ++ "`")
  | .invalidSection key origin cause =>
    inspected "InvalidSection" [("key", quoted key),
      ("origin", quoted origin), ("source", inspectedMessage cause.message)]
  | .invalidSettings violations =>
    "Validation([" ++ ", ".intercalate (violations.map inspectViolation) ++
      "])"

/-- The error for which a table of route settings is refused. -/
def inspectTable : TableError → String
  | .ambiguous pattern method first second =>
    inspected "Ambiguous" [("pattern", quoted pattern.text),
      ("method", inspectedOption (method.map (·.name))),
      ("first", quoted first), ("second", quoted second)]
  | .invalidPattern text cause =>
    inspected "InvalidPattern" [("pattern", quoted text),
      ("reason", quoted cause.message)]
  | .invalidOverrides location cause =>
    inspected "InvalidOverrides" [("location", quoted location),
      ("reason", quoted cause.message)]

/-- Why a run fails. -/
inductive Failure where
  | config (cause : Config.Error)
  | table (cause : TableError)
  /-- The document cannot be written as YAML. -/
  | unwritable (fault : MarkFault)
  /-- A text that is no method of requests. -/
  | invalidMethod
  /-- A key that has no place in the settings of a route as JSON. -/
  | keyNotText
  /-- A check that found something, which it has told already. -/
  | checkFailed
  deriving Repr

/-- A failure as it is shown at the end of a run. -/
def Failure.inspect : Failure → String
  | .config cause => inspectConfig cause
  | .table cause => inspectTable cause
  | .unwritable fault => inspectedMessage fault.message
  | .invalidMethod => "InvalidMethod"
  | .keyNotText => "Error(\"key must be a string\", line: 0, column: 0)"
  | .checkFailed => quoted "configuration check failed"

end Gatehouse.Cli
