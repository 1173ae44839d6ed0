import DirMarkers.CommandLine.Switch
import DirMarkers.Report

/-!
What the program says about itself.
-/

namespace DirMarkers.CommandLine

def version : String :=
  "1.0.0"

/-- The answer to a call for the version. -/
def versionText : String :=
  "gitkeep-manager v" ++ version ++ "\n"

def usageLines : List String :=
  [
    "usage: gitkeep [-h] [--root ROOT] [-d] [-v] [-r FILE] [-c CONTENT]",
    "               [--clean | --check] [-e DIRS] [--gitkeep-name NAME]",
    "               [--no-gitkeepignore] [--version]"
  ]

def purpose : String :=
  "GitKeep Manager - keeps .gitkeep files in sync with empty directories, honouring .gitignore "
    ++ "rules"

/-- How a switch is used: each of its names, with the placeholder of its value. -/
def invocation (switch : Switch) : String :=
  let value := (switch.placeholder?.map (" " ++ ·)).getD ""
  "  " ++ ", ".intercalate (switch.names.map (· ++ value))

def purposeColumn : Nat :=
  24

def padTo (width : Nat) (text : String) : String :=
  text ++ String.ofList (List.replicate (width - text.length) ' ')

/-- How a switch is used and what it does; on one line if two spaces fit in between. -/
def switchLines (switch : Switch) : List String :=
  let left := invocation switch
  if left.length + 2 ≤ purposeColumn then [padTo purposeColumn left ++ switch.purpose]
  else [left, padTo purposeColumn "" ++ switch.purpose]

/-- Examples, and what else there is to know. -/
def exampleLines : List String :=
  [
    "Examples:",
    "  # Process the current directory",
    "  gitkeep",
    "",
    "  # Process a specific project",
    "  gitkeep --root ./my-project",
    "",
    "  # Simulate with verbose output",
    "  gitkeep --dry-run --verbose",
    "",
    "  # Remove every .gitkeep",
    "  gitkeep --clean",
    "",
    "  # Custom marker content",
    "  gitkeep --content \"Keep this directory\"",
    "",
    "  # Exclude directories by name",
    "  gitkeep --exclude \"temp,cache\"",
    "",
    "Configuration:",
    "  Put a .gitkeepcfg file (JSON or YAML) in the project root, e.g.",
    "    \x7b\"content\": \"This directory is intentionally kept empty\",",
    "     \"excludeDirs\": [\"temp\", \"cache\"], \"verbose\": true\x7d",
    "",
    "  Add .gitkeepignore files for marker-specific ignore rules; they use",
    "  the same syntax as .gitignore."
  ]

/-- All that there is to know about the program. -/
def helpLines : List String :=
  usageLines ++ ["", purpose, "", "options:"] ++ Switch.all.flatMap switchLines ++ [""]
    ++ exampleLines

def helpText : String :=
  Report.unlines helpLines

end DirMarkers.CommandLine
