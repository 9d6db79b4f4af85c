import HookMigration.CommandLine
import HookMigration.Console.Listing

/-!
# Usage

What is printed where a command line does not run a command: the help, the version, or an error.
-/

namespace HookMigration

/-- The name of the program. -/
def programName : String := "hookshift"

/-- The version of the program. -/
def programVersion : String := "0.1.0"

/-- The help of the program. -/
def helpLines : List Line :=
  [.plain "Compile old and new hook signatures into rules, find outdated hooks and fix them.",
    .plain "",
    .plain ("Usage: " ++ programName ++ " <COMMAND> [OPTIONS]"),
    .plain "",
    .plain "Commands:",
    .plain "  version  Show the version",
    .plain "  scan     Scan sources for outdated hooks",
    .plain "  fix      Fix outdated hooks",
    .plain "  report   Map diagnostics of an analyzer onto rules",
    .plain "  rules    List the compiled rules",
    .plain "  help     Show this help",
    .plain "",
    .plain "Options of every command but version:",
    .plain "  --repo-root <PATH>  Where to look for the root of the repository (default: .)",
    .plain "  --rules <PATH>      Hook file (.toml, .yaml, .yml or .json; default: hooks.toml)",
    .plain "  --output <FORM>     human or json (default: human)",
    .plain "",
    .plain "Further options:",
    .plain "  --pattern <GLOB>         Files to scan or fix; may be repeated",
    .plain "  --min-severity <NAME>    Lowest severity to report: error, warning or info",
    .plain "  --diagnostics <PATH>     Diagnostics to report on",
    .plain "  --write                  Write the fixed files",
    .plain "  --diff                   Show diffs and write nothing",
    .plain "  --check                  Fail if anything would change and write nothing",
    .plain "  --strip                  Delete the matches of removed hooks as well"]

/-- What is printed where no command runs.  What the user did not ask for is an error. -/
def UsageStop.transcript : UsageStop → Transcript
  | .help => .ofOut helpLines
  | .version => .ofOut [.plain (programName ++ " " ++ programVersion)]
  | .noVerb => .ofErr helpLines
  | stop => .ofErr [.plain ("error: " ++ stop.message)]

end HookMigration
