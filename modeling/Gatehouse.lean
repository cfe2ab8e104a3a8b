import Gatehouse.App.Startup
import Gatehouse.Extension.Probe
import Gatehouse.Main
import Gatehouse.Proofs.App.Innermost
import Gatehouse.Proofs.App.Placing
import Gatehouse.Proofs.Cli.Check
import Gatehouse.Proofs.Config.Absence
import Gatehouse.Proofs.Config.InMemory
import Gatehouse.Proofs.Config.Independence
import Gatehouse.Proofs.Config.Literals
import Gatehouse.Proofs.Config.Reloading
import Gatehouse.Proofs.Config.Retyping
import Gatehouse.Proofs.Config.Roots
import Gatehouse.Proofs.Extension.Migration
import Gatehouse.Proofs.Route.Grouping
import Gatehouse.Proofs.Route.Reach
import Gatehouse.Proofs.Route.TrailingSlash
import Gatehouse.Proofs.Security.Coverage
import Gatehouse.Proofs.Security.ExtraHeaders
import Gatehouse.Proofs.Security.LateCalls
import Gatehouse.Proofs.Security.Patience
import Gatehouse.Proofs.Security.Presentable
import Gatehouse.Proofs.Security.RouteSettings
import Gatehouse.Proofs.Security.Sweeps
import Gatehouse.Proofs.Security.TokenRoundTrip
import Gatehouse.Proofs.Template.Appending
import Gatehouse.Serve.Shutdown
import Gatehouse.Yaml.Inspect
