import DirMarkers.CommandLine.Arguments
import DirMarkers.CommandLine.Help
import DirMarkers.Report
import DirMarkers.Run.Walk
import DirMarkers.SettingsFile

/-!
A session: the command line is read, the configuration is loaded, the project is run over once, and
what happened is reported. What a session prints and what it does to the disk are values here.
-/

namespace DirMarkers

open CommandLine (Arguments UsageError)

/-- What a session finds: the disk, the directory it starts in, the calls that fail, and the time
that its report bears.
-/
structure Scene where
  tree : Node
  here : Location
  faults : Faults
  timestamp : String

/-- A line for whoever watches a session. -/
inductive Notice where
  | log (line : LogLine)
  | usage (error : UsageError)
deriving DecidableEq, Repr

/-- The text of a notice that is given at a time of day. -/
def Notice.text (clock : String) : Notice → String
  | .log line => clock ++ " [" ++ line.level.name ++ "] " ++ line.message ++ "\n"
  | .usage error => "gitkeep: error: " ++ error.message ++ "\n"

/-- What ends a session before it can choose its exit code. -/
inductive Abort where
  /-- Directories are to be excluded, and no value says which. -/
  | noDirNames
  | load (failure : LoadFailure)
  | system (error : SystemError)
  | crash (crash : Crash)

def Abort.message : Abort → String
  | .noDirNames => "'list' object has no attribute 'split'"
  | .load failure => failure.message
  | .system error => error.message
  | .crash cause => cause.message

/-- What a session leaves behind: its exit code, what it printed, and the disk. -/
structure Outcome where
  ending : Except Abort Nat
  output : String := ""
  notices : List Notice := []
  tree : Node

namespace Session

def success : Nat := 0

def failure : Nat := 1

/-- The exit code of a command line that is refused. -/
def misuse : Nat := 2

/-- Whether a path leads to a directory, if that can be found out. -/
def isDirectory (tree : Node) (path : PathName) : Except SystemError Bool :=
  match Tree.call path.text (Tree.stat tree [] path.parts) with
  | .ok (_, node) => .ok node.isDir
  | .error .notFound | .error .notDirectory | .error .linkLoop => .ok false
  | .error errno => .error ⟨errno, path.text⟩

def banner : String :=
  Report.unlines (Report.title ("GitKeep Manager v" ++ CommandLine.version))

/-- What is said about a configuration before the run. -/
def opening (config : Config) : List LogLine :=
  [⟨.info, "Root directory: " ++ config.root.text⟩, ⟨.info, "Mode: " ++ config.task⟩]

/-- Writes the report of a run if the configuration names a file for it. -/
def report (scene : Scene) (config : Config) (summary : Summary) (tree : Node)
    : Except Crash (Node × List LogLine) :=
  match config.reportFile with
  | none | some "" => .ok (tree, [])
  | some path =>
    match Report.save tree scene.here path (Report.text scene.timestamp config summary) with
    | .error crash => .error crash
    | .ok saved => .ok (saved.toOption.getD tree, [Report.saveLine path saved])

/-- Runs over a project and reports what happened. -/
def perform (scene : Scene) (config : Config) : Outcome :=
  let done := run config scene.faults scene.tree
  let summary := done.journal.summary config.markerName
  let lines := opening config ++ done.journal.log config.markerName
  match done.answer with
  | .error crash => { ending := .error (.crash crash), tree := done.tree }
  | .ok _ =>
    match report scene config summary done.tree with
    | .error crash => { ending := .error (.crash crash), tree := done.tree }
    | .ok (tree, saved) => {
        ending := .ok (if summary.failed then failure else success)
        output := banner ++ Report.console config summary
        notices := (LogLine.above (if config.verbose then .debug else .info)
          (lines ++ saved)).map .log
        tree := tree
      }

/-- A session that ends with a critical line. -/
def fail (scene : Scene) (lines : List LogLine) (message : String) : Outcome where
  ending := .ok failure
  notices := (lines ++ [(⟨.critical, message⟩ : LogLine)]).map .log
  tree := scene.tree

/-- The session that the arguments of a command line ask for, with the settings checked in some
order.
-/
def work (scene : Scene) (args : Arguments) (order : CheckOrder := .listed) : Outcome :=
  match args.overrides? with
  | none => { ending := .error .noDirNames, tree := scene.tree }
  | some overrides =>
    let (loaded, lines) := SettingsFile.load scene.tree scene.here args.rootText overrides order
    let lines := LogLine.above (if args.verbose then .debug else .info) lines
    match loaded with
    | .error (.config error) => fail scene lines ("Configuration Error: " ++ error.message)
    | .error other => { ending := .error (.load other), tree := scene.tree }
    | .ok config =>
      match isDirectory scene.tree config.root with
      | .error error => { ending := .error (.system error), tree := scene.tree }
      | .ok false => fail scene lines ("Root directory not found: " ++ config.root.text)
      | .ok true =>
        let outcome := perform scene config
        { outcome with notices := lines.map .log ++ outcome.notices }

def start (scene : Scene) (words : List String) (order : CheckOrder := .listed) : Outcome :=
  match Arguments.parse words with
  | .ok args => work scene args order
  | .error .help =>
    { ending := .ok success, output := CommandLine.helpText, tree := scene.tree }
  | .error .version =>
    { ending := .ok success, output := CommandLine.versionText, tree := scene.tree }
  | .error (.refused error) =>
    { ending := .ok misuse, notices := [.usage error], tree := scene.tree }

end Session

end DirMarkers
