import Gatehouse.Config.Load
import Gatehouse.Text.Blank
import Gatehouse.Text.Quoted

/-!
# Environments

Which environment the server runs in, where its configuration lies, and
which file the loading begins with: the override file of the environment if
there is one, and the base file otherwise.
-/

namespace Gatehouse.Config

/-- The environment that a server runs in. -/
inductive Environment where
  | development
  | staging
  | production
  | custom (name : String)
  deriving DecidableEq, Repr

namespace Environment

/--
The environment that a text names.  Known names count in letters of either
case, a blank one means development, and others keep their case.
-/
def parse (text : String) : Environment :=
  let name := Text.trimmed text
  let known := Text.lowercased name
  if known ∈ ["", "dev", "development"] then .development
  else if known ∈ ["stage", "staging"] then .staging
  else if known ∈ ["prod", "production"] then .production
  else .custom name

/-- The name of an environment. -/
def name : Environment → String
  | .development => "development"
  | .staging => "staging"
  | .production => "production"
  | .custom name => name

/-- Whether the environment is development. -/
def isDevelopment : Environment → Bool
  | .development => true
  | _ => false

/-- The name of the override file of an environment. -/
def overrideFile (environment : Environment) : String :=
  "app." ++ environment.name ++ ".yaml"

end Environment

/-- The variable that names the environment. -/
def environmentVariable : String := "TRELLIS_ENV"

/-- The variable that forces development. -/
def forceVariable : String := "TRELLIS_FORCE_DEV"

/-- The variable that names the directory of the configuration. -/
def directoryVariable : String := "TRELLIS_CONFIG_DIR"

/-- The directory of the configuration unless another one is named. -/
def defaultDirectory : String := "config"

/-- The name of the base file. -/
def baseFile : String := "app.yaml"

/-- Whether a text says yes. -/
def isTruthy (text : String) : Bool :=
  Text.lowercased (Text.trimmed text) ∈ ["1", "true", "yes", "on"]

/-- Picks the environment and the files of a configuration. -/
structure Resolver where
  lookup : Variables
  /-- A directory that counts before the one that a variable names. -/
  directory : Option String

namespace Resolver

/-- The environment that the variables select. -/
def environment (resolver : Resolver) : Environment :=
  if (resolver.lookup forceVariable).any isTruthy then .development
  else
    match resolver.lookup environmentVariable with
    | some name => Environment.parse name
    | none => .development

/-- The directory of the configuration. -/
def configDirectory (resolver : Resolver) : String :=
  match resolver.directory with
  | some directory => directory
  | none =>
    ((resolver.lookup directoryVariable).filter fun directory =>
      !(Text.trimBlanks directory.toList).isEmpty).getD defaultDirectory

/-- The resolver as messages show it. -/
def inspect (resolver : Resolver) : String :=
  let directory :=
    match resolver.directory with
    | some directory => "Some(" ++ Text.quoted directory ++ ")"
    | none => "None"
  "EnvironmentResolver \x7b config_dir: " ++ directory ++ ", .. \x7d"

end Resolver

/-- A configuration together with where it comes from. -/
structure Resolved where
  environment : Environment
  /-- The file that the loading began with. -/
  source : String
  document : Document
  deriving Repr

/-- The configuration of an environment. -/
def resolveFor (world : World) (resolver : Resolver)
    (environment : Environment) : Loading Resolved := do
  let directory := resolver.configDirectory
  let base := Files.join directory baseFile
  let overlay := Files.join directory environment.overrideFile
  let (source, document) ←
    if world.tree.isFile overlay then do
      let lower := if world.tree.isFile base then some base else none
      pure (overlay, ← loadOverride world overlay lower)
    else do
      modify (·.report
        (.debug "No environment override, using base configuration"
          [("environment", environment.name), ("missing", overlay)]))
      pure (base, ← load world base)
  modify (·.report (.info "Configuration resolved"
    [("environment", environment.name), ("source", source),
      ("keys", toString document.size)]))
  return ⟨environment, source, document⟩

/-- The configuration of the environment that the variables select. -/
def resolve (world : World) (resolver : Resolver) : Loading Resolved :=
  resolveFor world resolver resolver.environment

end Gatehouse.Config
