import Gatehouse.Files.Tree
import Gatehouse.Template
import Gatehouse.Yaml.Decode
import Gatehouse.Yaml.Inspect
import Gatehouse.Yaml.ReadError

/-!
# Why a configuration is refused

One constructor for each cause of refusing a configuration document, one of
its sections or the settings in it, and the wording of all of them.
-/

namespace Gatehouse.Config

open Gatehouse.Yaml

/-- A setting that has the right type but no sensible value. -/
inductive Violation where
  | notASocketAddress (field address : String)
  | notPositive (field : String)
  | unknownLogLevel (level : String)
  deriving DecidableEq, Repr

namespace Violation

/-- The setting that is at fault. -/
def field : Violation → String
  | .notASocketAddress field _ => field
  | .notPositive field => field
  | .unknownLogLevel _ => "observability.log_level"

/-- What is wrong with the setting. -/
def message : Violation → String
  | .notASocketAddress _ address => "`" ++ address ++ "` is not a socket address"
  | .notPositive _ => "must be greater than 0"
  | .unknownLogLevel level =>
    "invalid log level `" ++ level ++ "`, expected one of " ++
      Text.quotedList ["trace", "debug", "info", "warn", "error"]

/-- The setting and what is wrong with it. -/
def text (violation : Violation) : String :=
  violation.field ++ ": " ++ violation.message

end Violation

/-- Why the list of included files is badly formed. -/
inductive IncludeFault where
  | notAList
  | notText
  | blank
  deriving DecidableEq, Repr

/-- The wording of a fault in a list of included files. -/
def IncludeFault.message : IncludeFault → String
  | .notAList => "expected a list of file paths"
  | .notText => "entries must be strings"
  | .blank => "empty path"

/-- Why a configuration is refused. -/
inductive Error where
  | unreadable (path : String) (cause : Files.Fault)
  | malformed (origin : String) (cause : ReadError)
  | notAMapping (origin : String)
  | invalidKey (origin : String) (key : Value)
  | invalidInclude (origin : String) (cause : IncludeFault)
  | missingInclude (path includedFrom : String)
  | includeCycle (path : String)
  | conflict (key first second : String)
  | missingVariable (name keyPath : String)
  | unterminated (keyPath : String)
  | invalidVariableName (keyPath name : String)
  | invalidSection (key origin : String) (cause : DecodeError)
  | invalidSettings (violations : List Violation)
  deriving Repr

namespace Error

def message : Error → String
  | .unreadable path cause => "failed to read " ++ path ++ ": " ++ cause.message
  | .malformed origin cause =>
    "malformed YAML in " ++ origin ++ ": " ++ cause.message
  | .notAMapping origin => origin ++ ": top-level document must be a mapping"
  | .invalidKey origin key =>
    origin ++ ": top-level key " ++ key.inspect ++ " is not a string"
  | .invalidInclude origin cause =>
    origin ++ ": invalid `include`: " ++ cause.message
  | .missingInclude path includedFrom =>
    path ++ " (included from " ++ includedFrom ++ ") does not exist"
  | .includeCycle path => "include cycle detected at " ++ path
  | .conflict key first second =>
    "key `" ++ key ++ "` defined in both " ++ first ++ " and " ++ second
  | .missingVariable name keyPath =>
    "environment variable `" ++ name ++ "` required by `" ++ keyPath ++
      "` is not set"
  | .unterminated keyPath =>
    "cannot interpolate `" ++ keyPath ++ "`: unterminated `$\x7b`"
  | .invalidVariableName keyPath name =>
    "cannot interpolate `" ++ keyPath ++ "`: invalid variable name `" ++ name ++
      "`"
  | .invalidSection key origin cause =>
    "invalid `" ++ key ++ "` section (from " ++ origin ++ "): " ++ cause.message
  | .invalidSettings violations =>
    "validation failed: " ++ ", ".intercalate (violations.map Violation.text)

/-- The refusal of a template at a key path. -/
def ofTemplate (keyPath : String) : TemplateFault → Error
  | .unterminated => .unterminated keyPath
  | .invalidName name => .invalidVariableName keyPath name
  | .missing name => .missingVariable name keyPath

end Error

end Gatehouse.Config
