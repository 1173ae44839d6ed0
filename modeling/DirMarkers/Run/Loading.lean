import DirMarkers.Config
import DirMarkers.Ignore.Lines
import DirMarkers.Journal
import DirMarkers.Tree.Fault

/-!
Reading the ignore files of a project. Directories are visited from the top down, siblings in the
order of their names; excluded directories are left out, links are not entered, and a file that
cannot be read contributes no rule. The stack is taken to be deep enough for all directories that
are inside each other.
-/

namespace DirMarkers

/-- What reading ignore files gives: rules for the two tables, and what happened on the way. -/
structure Loaded where
  tables : Ignore.Tables
  journal : Journal
deriving DecidableEq, Repr

namespace Loaded

def nothing : Loaded :=
  ⟨.empty, []⟩

/-- What was read first, and then what was read next. -/
def append (first next : Loaded) : Loaded where
  tables := {
    content := first.tables.content ++ next.tables.content
    marker := first.tables.marker ++ next.tables.marker
  }
  journal := first.journal ++ next.journal

instance : Append Loaded :=
  ⟨append⟩

end Loaded

namespace Loading

/-- A file that does not exist, or that is a directory, is as good as an empty one. -/
def isAbsence (errno : Errno) : Bool :=
  errno = .notFound || errno = .isDirectory

/-- The rules of one ignore file of a directory, and what happened when it was read. -/
def readRules (faults : Faults) (top : Node) (path : PathName) (dir : DirPath)
    (source : Ignore.Source) : List Rule × Journal :=
  let file := path.child source.fileName
  match faults.read top file with
  | .error error =>
    if isAbsence error.errno then ([], [])
    else ([], [.unreadable dir source file (.system error)])
  | .ok content =>
    match Ignore.parse dir.text content with
    | .error fault => ([], [.unreadable dir source file (.encoding fault)])
    | .ok [] => ([], [])
    | .ok rules => (rules, [.rulesLoaded dir source rules.length])

/-- The table that holds the rules of one directory, if there are any. -/
def tableOf (dir : DirPath) (rules : List Rule) : Ignore.Table :=
  if rules = [] then [] else [(dir.text, rules)]

/-- Reads the ignore files of one directory; those for markers only if they are respected. -/
def loadFiles (config : Config) (faults : Faults) (top : Node) (path : PathName) (dir : DirPath)
    : Loaded :=
  let (rules, events) := readRules faults top path dir .content
  let (markerRules, markerEvents) :=
    if config.respectMarkerIgnore then readRules faults top path dir .marker else ([], [])
  ⟨⟨tableOf dir rules, tableOf dir markerRules⟩, events ++ markerEvents⟩

mutual

/-- Reads the ignore files of a directory, and then those of its subdirectories if it can be
listed.
-/
def loadDir (config : Config) (faults : Faults) (top : Node)
    : Node → PathName → DirPath → Loaded
  | .dir entries, path, dir =>
    let here := loadFiles config faults top path dir
    match faults.list top path with
    | .error error => here ++ ⟨.empty, [.notDescended dir error]⟩
    | .ok _ => here ++ loadEntries config faults top entries path dir
  | _, _, _ => .nothing

/-- Reads the ignore files of those entries of a directory that are directories and are not
excluded.
-/
def loadEntries (config : Config) (faults : Faults) (top : Node)
    : List (String × Node) → PathName → DirPath → Loaded
  | [], _, _ => .nothing
  | (name, node) :: rest, path, dir =>
    let first := if config.excludes name then .nothing
      else loadDir config faults top node (path.child name) (dir.child name)
    first ++ loadEntries config faults top rest path dir

end

/-- The directory that a path leads to; where there is none, a directory without entries, since
listing the path will fail.
-/
def dirAt (top : Node) (path : PathName) : Node :=
  match Tree.stat top [] path.parts with
  | .ok (_, node) => .dir node.entries
  | .error _ => .dir []

/-- Reads all ignore files of a project, and counts the tables. -/
def load (config : Config) (faults : Faults) (top : Node) (root : PathName) : Loaded :=
  let loaded := loadDir config faults top (dirAt top root) root .root
  loaded ++ ⟨.empty, [
    .tableLoaded .content loaded.tables.content.length,
    .tableLoaded .marker loaded.tables.marker.length
  ]⟩

end Loading

end DirMarkers
