import DirMarkers.Config
import DirMarkers.Journal
import DirMarkers.Json.Printer
import DirMarkers.Run.Step
import DirMarkers.Tree.Access

/-!
Reports of a run: a JSON document for a file, and a short summary for the console.
-/

namespace DirMarkers.Report

/-- A list of texts as a JSON array. -/
def texts (items : List String) : Json :=
  .array (items.map .string)

/-- The report of a run, made at the given time. -/
def json (timestamp : String) (config : Config) (summary : Summary) : Json :=
  .object [
    ("timestamp", .string timestamp),
    ("config", .object [
      ("root", .string config.root.text),
      ("dryRun", .bool config.dryRun),
      ("clean", .bool (config.mode = .clean)),
      ("check", .bool (config.mode = .check)),
      ("gitkeepName", .string config.markerName)
    ]),
    ("summary", .object [
      ("created", .number summary.created.length),
      ("removed", .number summary.removed.length),
      ("skipped", .number summary.skipped.length),
      ("errors", .number summary.errors.length)
    ]),
    ("details", .object [
      ("created", texts summary.created),
      ("removed", texts summary.removed),
      ("skipped", texts summary.skipped),
      ("errors", texts summary.errors),
      ("mismatched", texts summary.mismatched)
    ])
  ]

def text (timestamp : String) (config : Config) (summary : Summary) : String :=
  (json timestamp config summary).text

/-- Writes a text to a file; a relative path starts from `here`. -/
def save (tree : Node) (here : Location) (path : String) (content : String)
    : Except Crash (Except SystemError Node) :=
  if holdsNul path then .error .nulInPath
  else
    match Tree.call path
      (Tree.write tree (Tree.startOf here path) (Tree.steps path) content.toUTF8)
    with
    | .ok tree => .ok (.ok tree)
    | .error errno => .ok (.error ⟨errno, path⟩)

/-- The log line about a report that was written, or could not be. -/
def saveLine (path : String) : Except SystemError Node → LogLine
  | .ok _ => ⟨.info, "Report saved to " ++ path⟩
  | .error error => ⟨.warning, "Failed to write report: " ++ error.message⟩

-----------------------------------------------------------------------------------------
-- The console
-----------------------------------------------------------------------------------------

/-- The colours of the console. -/
inductive Colour where
  | red
  | green
  | yellow
  | blue
  | cyan
  | grey
deriving DecidableEq, Repr

def Colour.code : Colour → Nat
  | .grey => 90
  | .red => 91
  | .green => 92
  | .yellow => 93
  | .blue => 94
  | .cyan => 96

/-- A text in a colour, after which the console goes back to its own. -/
def paint (colour : Colour) (text : String) : String :=
  "\x1b[" ++ toString colour.code ++ "m" ++ text ++ "\x1b[0m"

/-- The rule above and below a title. -/
def rule : String :=
  paint .cyan (String.ofList (List.replicate 60 '='))

/-- A title between two rules, with an empty line on either side. -/
def title (text : String) : List String :=
  ["", rule, paint .cyan text, rule, ""]

/-- A label and how many things it counts. -/
def count (colour : Colour) (label : String) (items : List String) : String :=
  paint colour (label ++ ": " ++ toString items.length)

/-- The lines of the summary of a run: the markers it changed or the directories it found to be
mismatched, as the mode asks, then what it skipped and the failures it met.
-/
def consoleLines (config : Config) (summary : Summary) : List String :=
  let name := config.markerName
  let changes := match config.mode with
    | .clean => [count .red ("Removed " ++ name) summary.removed]
    | .check =>
      [paint .blue "Check mode - no changes made",
        count .blue "Mismatched directories" summary.mismatched]
    | .normal | .unknown _ =>
      [count .green ("Created " ++ name) summary.created,
        count .red ("Removed " ++ name) summary.removed]
  let failures := if summary.failed then [count .red "Errors" summary.errors] else []
  let dryRun := if config.dryRun then ["", paint .yellow "Dry run - no files were changed"] else []
  title "SUMMARY" ++ changes ++ [count .grey "Skipped directories" summary.skipped] ++ failures
    ++ dryRun ++ ["", rule, ""]

/-- Lines as a text that ends with a line feed. -/
def unlines (lines : List String) : String :=
  String.join (lines.map (· ++ "\n"))

/-- The summary of a run for the console. -/
def console (config : Config) (summary : Summary) : String :=
  unlines (consoleLines config summary)

end DirMarkers.Report
