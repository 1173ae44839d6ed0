import DirMarkers.Journal
import DirMarkers.Run.Step
import DirMarkers.Settings
import DirMarkers.Tree.Access
import DirMarkers.Tree.Canonical
import DirMarkers.Yaml.Document

/-!
Loading a configuration: the project root is made canonical, its settings file is read, and the
settings of the file and of the command line are merged.
-/

namespace DirMarkers

open Yaml (Atom Document Obstacle Source Value)

/-- Why no configuration could be loaded. -/
inductive ConfigError where
  /-- The settings file is no document. -/
  | malformed (file : PathName)
  | unreadable (file : PathName) (cause : ReadFailure)
  /-- The settings file holds a value of another type. -/
  | noMapping (file : PathName) (typeName : String)
  | settings (error : SettingsError)

/-- The report of an error. What is wrong with a malformed document is not told. -/
def ConfigError.message : ConfigError → String
  | .malformed file => "Invalid syntax in " ++ file.text ++ ": ..."
  | .unreadable file cause => "Cannot read " ++ file.text ++ ": " ++ cause.message
  | .noMapping file typeName => file.text ++ " must contain a mapping, got " ++ typeName
  | .settings error => error.message

/-- What ends the loading of a configuration. -/
inductive LoadFailure where
  | config (error : ConfigError)
  /-- A scalar of the settings file does not spell a value of its type. -/
  | scalar (fault : Yaml.ScalarFault)
  /-- Something to report about the settings cannot be shown. -/
  | unshown (obstacle : Obstacle)
  /-- The settings file has nodes inside each other beyond all bounds. -/
  | tooDeep
  /-- Unknown keys of kinds that do not compare. -/
  | incomparableKeys
  /-- A path that holds the character that ends every path. -/
  | nulInPath
  /-- Links that lead in a circle. -/
  | linkLoop (path : PathName)

def LoadFailure.message : LoadFailure → String
  | .config error => error.message
  | .scalar fault => fault.message
  | .unshown obstacle => obstacle.message
  | .tooDeep => "maximum recursion depth exceeded"
  | .incomparableKeys => "unknown keys of kinds that do not compare"
  | .nulInPath => Crash.nulInPath.message
  | .linkLoop path => "Symlink loop from " ++ Text.quote path.text

namespace SettingsFile

/-- The name of the settings file in a project root. -/
def fileName : String :=
  ".gitkeepcfg"

/-- The source that errors name for settings of the command line. -/
def commandLine : String :=
  "CLI overrides"

/-- The failure that an error of some settings is. -/
def failureOf : SettingsError → LoadFailure
  | .unshown obstacle => .unshown obstacle
  | error => .config (.settings error)

/-- The settings of a file, if all its keys are names of settings. -/
def checkKeys (settings : FileSettings) : Except LoadFailure FileSettings :=
  match Settings.unknownKeys settings with
  | [] => .ok settings
  | unknown =>
    match Atom.sortKeys? unknown with
    | some keys =>
      if keys.all Atom.isShown then .error (.config (.settings (.unknownKeys fileName keys)))
      else .error (.unshown .digits)
    | none => .error .incomparableKeys

/-- The settings in the bytes of a settings file; a document that is null holds none, and is not
worth a word.
-/
def parse (file : PathName) (content : ByteArray) : Except LoadFailure (Option FileSettings) :=
  match Document.ofSource (Source.ofBytes content) with
  | .error (.encoding fault) => .error (.config (.unreadable file (.encoding fault)))
  | .error (.malformed _) => .error (.config (.malformed file))
  | .error (.scalar fault) => .error (.scalar fault)
  | .error .tooDeep => .error .tooDeep
  | .ok ⟨.atom .null, _⟩ => .ok none
  | .ok ⟨.atom other, _⟩ => .error (.config (.noMapping file other.typeName))
  | .ok ⟨.collection number, store⟩ =>
    match store[number]? with
    | some (.mapping entries) => (checkKeys ⟨entries, store⟩).map some
    | some other => .error (.config (.noMapping file other.typeName))
    | none => .ok none

/-- The settings of a file; where no file is, there are none. -/
def read (tree : Node) (file : PathName) : Except LoadFailure (Option FileSettings) :=
  match Tree.call file.text (Tree.stat tree [] file.parts) with
  | .error _ => .ok none
  | .ok _ =>
    match Tree.call file.text (Tree.read tree [] file.parts) with
    | .error errno => .error (.config (.unreadable file (.system ⟨errno, file.text⟩)))
    | .ok content => parse file content

def rootOf (tree : Node) (here : Location) (root : String) : Except LoadFailure PathName :=
  if holdsNul root then .error .nulInPath
  else
    let path := Tree.canonical tree here root
    match Tree.call path.text (Tree.stat tree [] path.parts) with
    | .error .linkLoop => .error (.linkLoop path)
    | _ => .ok path

/-- Whether the settings ask for two modes at once. -/
def asksTwice (value : Setting → Except Obstacle Value) : Bool :=
  match value .clean, value .check with
  | .ok (.bool clean), .ok (.bool check) => clean && check
  | _, _ => false

/-- The configuration that settings make, and what is to be said about them. -/
def build (root : PathName) (file : FileSettings) (overrides : Overrides) (order : CheckOrder)
    : Except LoadFailure Config × List LogLine :=
  match Settings.unknownNames overrides with
  | [] =>
    let value := Settings.merged file overrides
    match Settings.config order root value with
    | .error error => (.error (failureOf error), [])
    | .ok config =>
      (.ok config, if asksTwice value then
        [⟨.warning, "Both clean and check are set; clean takes precedence."⟩] else [])
  | unknown =>
    let keys := (unknown.mergeSort (· ≤ ·)).map .string
    (.error (.config (.settings (.unknownKeys commandLine keys))), [])

/-- Loads the configuration of the project with the given root. -/
def load (tree : Node) (here : Location) (root : String) (overrides : Overrides)
    (order : CheckOrder := .listed)
    : Except LoadFailure Config × List LogLine :=
  match rootOf tree here root with
  | .error failure => (.error failure, [])
  | .ok root =>
    let file := root.child fileName
    match read tree file with
    | .error failure => (.error failure, [])
    | .ok none => build root {} overrides order
    | .ok (some settings) =>
      let (result, lines) := build root settings overrides order
      (result, ⟨.debug, "Loaded configuration from " ++ file.text⟩ :: lines)

end SettingsFile

end DirMarkers
