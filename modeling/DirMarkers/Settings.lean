import DirMarkers.Config
import DirMarkers.Yaml.Store

/-!
Settings. Each comes from the command line, else from the settings file, else from its default;
together they make a configuration if every one of them has a value of its kind.
-/

namespace DirMarkers

open Yaml (Atom Item Obstacle Store Value)

/-- The settings that there are. -/
inductive Setting where
  | dryRun
  | verbose
  | reportFile
  | content
  | clean
  | check
  | excludeDirs
  | gitkeepName
  | respectGitkeepIgnore
deriving DecidableEq, Repr

namespace Setting

/-- All settings, in the order of their names. -/
def all : List Setting :=
  [.check, .clean, .content, .dryRun, .excludeDirs, .gitkeepName, .reportFile,
    .respectGitkeepIgnore, .verbose]

def name : Setting → String
  | .dryRun => "dryRun"
  | .verbose => "verbose"
  | .reportFile => "reportFile"
  | .content => "content"
  | .clean => "clean"
  | .check => "check"
  | .excludeDirs => "excludeDirs"
  | .gitkeepName => "gitkeepName"
  | .respectGitkeepIgnore => "respectGitkeepIgnore"

/-- The value of a setting that nothing is said about. -/
def default : Setting → Value
  | .dryRun | .verbose | .clean | .check => .bool false
  | .respectGitkeepIgnore => .bool true
  | .reportFile => .null
  | .content => .string ""
  | .excludeDirs => .sequence ([".git", "node_modules", ".next", "dist", "build"].map .string)
  | .gitkeepName => .string ".gitkeep"

/-- Whether a name is the name of a setting. -/
def isName (s : String) : Bool :=
  all.any (·.name = s)

/-- The settings that are truth values. -/
def bools : List Setting :=
  [.dryRun, .verbose, .clean, .check, .respectGitkeepIgnore]

/-- The settings that are texts and have to be there. -/
def texts : List Setting :=
  [.content, .gitkeepName]

end Setting

/-- An order in which settings are checked: truth values come before texts. Both are sets, so the
order among the truth values is left open, and that among the texts.
-/
structure CheckOrder where
  bools : List Setting
  texts : List Setting
  bools_perm : bools.Perm Setting.bools
  texts_perm : texts.Perm Setting.texts

namespace CheckOrder

/-- The order in which the settings are listed. -/
def listed : CheckOrder :=
  ⟨Setting.bools, Setting.texts, .refl _, .refl _⟩

/-- All settings, in the order in which they are checked. -/
def settings (order : CheckOrder) : List Setting :=
  order.bools ++ order.texts ++ [.reportFile, .excludeDirs]

end CheckOrder

/-- The settings of the command line by their names; null says nothing. -/
abbrev Overrides := List (String × Value)

/-- The settings of a file by their keys, and the collections in them. -/
structure FileSettings where
  entries : List (Atom × Item) := []
  store : Store := #[]

/-- Why settings make no configuration. -/
inductive SettingsError where
  /-- Keys that are no settings, in a source of the given name. -/
  | unknownKeys (source : String) (keys : List Atom)
  | noBool (setting : Setting) (value : Value)
  | noString (setting : Setting) (value : Value)
  | noDirNames (value : Value)
  /-- Something to report that cannot be shown. -/
  | unshown (obstacle : Obstacle)
  /-- A marker name that is no plain file name. -/
  | noFileName (name : String)

namespace SettingsError

def listText (keys : List Atom) : String :=
  Value.bracketed "[" "]" (keys.map Atom.text)

def message : SettingsError → String
  | .unknownKeys source keys =>
    source ++ " has unknown keys: " ++ listText keys ++ ". Valid: "
      ++ listText (Setting.all.map fun setting => .string setting.name)
  | .noBool setting value =>
    "'" ++ setting.name ++ "' must be true or false, got " ++ value.text
  | .noString setting value =>
    "'" ++ setting.name ++ "' must be a string, got " ++ value.text
  | .noDirNames value =>
    "'excludeDirs' must be a list of directory names, got " ++ value.text
  | .unshown obstacle => obstacle.message
  | .noFileName name =>
    "'gitkeepName' must be a plain file name, got " ++ Text.quote name

end SettingsError

namespace Settings

/-- Whether a key is the name of a setting. -/
def isKeyOf (setting : Setting) (key : Atom) : Bool :=
  key.key = .text setting.name

/-- The value of a setting in a file. -/
def fileValue? (file : FileSettings) (setting : Setting) : Option (Except Obstacle Value) :=
  (file.entries.find? fun entry => isKeyOf setting entry.1).map fun entry =>
    file.store.value entry.2

def isGiven : Value → Bool
  | .null => false
  | _ => true

/-- The value of a setting on the command line. -/
def override? (overrides : Overrides) (setting : Setting) : Option Value :=
  (overrides.lookup setting.name).filter isGiven

/-- The value that counts: of the command line, else of the file even if it is null, else the
default. It may be that it cannot be shown, wherever it is from.
-/
def merged (file : FileSettings) (overrides : Overrides) (setting : Setting)
    : Except Obstacle Value :=
  match override? overrides setting with
  | some value => value.shown
  | none => (fileValue? file setting).getD (.ok setting.default)

/-- The keys of a file that are no settings. -/
def unknownKeys (file : FileSettings) : List Atom :=
  (file.entries.map (·.1)).filter fun key => !Setting.all.any (isKeyOf · key)

/-- The names on the command line that are no settings, where something is said about them. -/
def unknownNames (overrides : Overrides) : List String :=
  ((overrides.filter fun entry => isGiven entry.2).map (·.1)).filter (!Setting.isName ·)

def bool (setting : Setting) : Value → Except SettingsError Bool
  | .bool b => .ok b
  | other => .error (.noBool setting other)

def string (setting : Setting) : Value → Except SettingsError String
  | .string s => .ok s
  | other => .error (.noString setting other)

/-- The text of a setting that may be null. -/
def string? (setting : Setting) : Value → Except SettingsError (Option String)
  | .null => .ok none
  | .string s => .ok (some s)
  | other => .error (.noString setting other)

def text? : Value → Option String
  | .string s => some s
  | _ => none

def dirNames (value : Value) : Except SettingsError (List String) :=
  match value with
  | .sequence items =>
    match items.mapM text? with
    | some names => .ok names
    | none => .error (.noDirNames value)
  | .pairs [] => .ok []
  | other => .error (.noDirNames other)

/-- Whether a name can be the name of a file in any directory. -/
def isFileName (name : String) : Bool :=
  name != "" && !name.toList.contains '/' && !name.toList.contains '\\' && name != "."
    && name != ".."

/-- The mode that two truth values ask for; cleaning comes first. -/
def modeOf (clean check : Bool) : Mode :=
  if clean then .clean else if check then .check else .normal

/-- Passes a value that is of the kind of a setting. -/
def verify (setting : Setting) (value : Value) : Except SettingsError Unit :=
  match setting with
  | .dryRun | .verbose | .clean | .check | .respectGitkeepIgnore => discard (bool setting value)
  | .content | .gitkeepName => discard (string setting value)
  | .reportFile => discard (string? setting value)
  | .excludeDirs => discard (dirNames value)

/-- Passes the values of some settings, one after the other. -/
def verifyAll (value : Setting → Except Obstacle Value) (settings : List Setting)
    : Except SettingsError Unit :=
  settings.forM fun setting => do
    verify setting (← (value setting).mapError SettingsError.unshown)

/-- The configuration of a project that values of the right kinds make, if the marker has a plain
file name.
-/
def compose (root : PathName) (value : Setting → Except Obstacle Value)
    : Except SettingsError Config := do
  let shown := fun setting => (value setting).mapError SettingsError.unshown
  let dryRun ← bool .dryRun (← shown .dryRun)
  let verbose ← bool .verbose (← shown .verbose)
  let clean ← bool .clean (← shown .clean)
  let check ← bool .check (← shown .check)
  let respect ← bool .respectGitkeepIgnore (← shown .respectGitkeepIgnore)
  let content ← string .content (← shown .content)
  let name ← string .gitkeepName (← shown .gitkeepName)
  let report ← string? .reportFile (← shown .reportFile)
  let dirs ← dirNames (← shown .excludeDirs)
  if !isFileName name then .error (.noFileName name)
  else
    return {
      root := root
      mode := modeOf clean check
      dryRun := dryRun
      markerName := name
      markerContent := content
      excludeDirs := dirs.eraseDups
      respectMarkerIgnore := respect
      verbose := verbose
      reportFile := report
    }

/-- The configuration of a project that the settings make. All values are checked in the given
order first, and last whether the marker has a plain file name.
-/
def config (order : CheckOrder) (root : PathName) (value : Setting → Except Obstacle Value)
    : Except SettingsError Config := do
  verifyAll value order.settings
  compose root value

end Settings

end DirMarkers
