import Gatehouse.Cli.Arguments

/-!
# Help

What the tool prints when it is asked how to use it.
-/

namespace Gatehouse.Cli

/-- Lines, each with its end. -/
def linesText (lines : List String) : String :=
  String.join (lines.map (· ++ "\n"))

/-- The help on a part of the command line. -/
def Topic.help : Topic → String
  | .tool =>
    linesText
      ["Inspect trellis configuration",
        "",
        "Usage: trellis-cli [OPTIONS] <COMMAND>",
        "",
        "Commands:",
        "  config  Print the merged configuration",
        "  check   Validate settings, route overrides and extensions",
        "  routes  Show the configuration a route would receive",
        "  help    Print this message or the help of the given subcommand(s)",
        "",
        "Options:",
        "  -c, --config-dir <CONFIG_DIR>  Configuration directory (defaults to " ++
          "TRELLIS_CONFIG_DIR, then ./config)",
        "  -e, --env <ENV>                Environment to load (defaults to " ++
          "TRELLIS_ENV)",
        "  -h, --help                     Print help"]
  | .config =>
    linesText
      ["Print the merged configuration",
        "",
        "Usage: trellis-cli config [OPTIONS]",
        "",
        "Options:",
        "      --origins  Show which file each top-level key came from",
        "  -h, --help     Print help"]
  | .check =>
    linesText
      ["Validate settings, route overrides and extensions",
        "",
        "Usage: trellis-cli check",
        "",
        "Options:",
        "  -h, --help  Print help"]
  | .routes =>
    linesText
      ["Show the configuration a route would receive",
        "",
        "Usage: trellis-cli routes [OPTIONS] --path <PATH>",
        "",
        "Options:",
        "  -p, --path <PATH>      ",
        "  -m, --method <METHOD>  [default: GET]",
        "  -h, --help             Print help"]
  | .guidance =>
    linesText
      ["Print this message or the help of the given subcommand(s)",
        "",
        "Usage: trellis-cli help [COMMAND]...",
        "",
        "Arguments:",
        "  [COMMAND]...  Print help for the subcommand(s)"]

end Gatehouse.Cli
