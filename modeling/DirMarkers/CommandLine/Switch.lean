/-!
The switches of the command line.
-/

namespace DirMarkers.CommandLine

/-- A switch of the command line. -/
inductive Switch where
  | help
  | root
  | dryRun
  | verbose
  | report
  | content
  | clean
  | check
  | exclude
  | gitkeepName
  | noGitkeepIgnore
  | version
deriving DecidableEq, Repr

namespace Switch

/-- All switches, in the order in which they are offered. -/
def all : List Switch :=
  [.help, .root, .dryRun, .verbose, .report, .content, .clean, .check, .exclude, .gitkeepName,
    .noGitkeepIgnore, .version]

/-- The names of a switch; a short one comes first. -/
def names : Switch → List String
  | .help => ["-h", "--help"]
  | .root => ["--root"]
  | .dryRun => ["-d", "--dry-run"]
  | .verbose => ["-v", "--verbose"]
  | .report => ["-r", "--report"]
  | .content => ["-c", "--content"]
  | .clean => ["--clean"]
  | .check => ["--check"]
  | .exclude => ["-e", "--exclude"]
  | .gitkeepName => ["--gitkeep-name"]
  | .noGitkeepIgnore => ["--no-gitkeepignore"]
  | .version => ["--version"]

/-- What the help calls the value of a switch. -/
def placeholder? : Switch → Option String
  | .root => some "ROOT"
  | .report => some "FILE"
  | .content => some "CONTENT"
  | .exclude => some "DIRS"
  | .gitkeepName => some "NAME"
  | _ => none

def takesValue (switch : Switch) : Bool :=
  switch.placeholder?.isSome

def purpose : Switch → String
  | .help => "show this help message and exit"
  | .root => "Project root directory (default: current directory)"
  | .dryRun => "Simulate without changing files"
  | .verbose => "Enable debug logging"
  | .report => "Save a JSON report to FILE"
  | .content => "Content written into new marker files"
  | .clean => "Remove every marker file"
  | .check => "Only report mismatches, change nothing"
  | .exclude => "Comma-separated directory names to exclude"
  | .gitkeepName => "Marker file name instead of .gitkeep"
  | .noGitkeepIgnore => "Ignore .gitkeepignore files"
  | .version => "show program's version number and exit"

def title (switch : Switch) : String :=
  "/".intercalate switch.names

def table : List (String × Switch) :=
  all.flatMap fun switch => switch.names.map fun name => (name, switch)

def named? (name : String) : Option Switch :=
  table.lookup name

end Switch

end DirMarkers.CommandLine
