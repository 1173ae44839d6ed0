import DirMarkers.Ignore.Verdict
import DirMarkers.Run.Loading
import DirMarkers.Run.Marker

/-!
The walk. Directories are visited from the bottom up, siblings in the order of their names. A
directory is empty when it holds no visible file and every subdirectory is empty; the marker and
ignored files are not visible, and a directory that is excluded, ignored or unlistable counts as
empty and is left alone.

The walk follows the directories of a tree as they were at its start, since nothing it does makes
or removes one. Everything else it asks of the tree as it is by then. A visit is inside that of the
directory above, and the stack is taken to be deep enough for all of them.
-/

namespace DirMarkers

namespace Walk

/-- The rules that speak about a path, as events. -/
def matchEvents (rules : List Rule) (path : String) (isDir : Bool) : Journal :=
  (Ignore.applying rules path isDir).map fun rule => .matched rule path isDir

/-- The names of the files of a listing. -/
def fileNames (entries : Entries) : List String :=
  (entries.filter (·.2.isFile)).map (·.1)

/-- Whether a file counts when its directory is judged. -/
def isVisible (config : Config) (rules : List Rule) (dir : DirPath) (name : String) : Bool :=
  name != config.markerName && !Ignore.isIgnored rules (dir.entryText name) false

/-- What happens when a file is judged; the marker is passed over. -/
def fileEvents (config : Config) (rules : List Rule) (dir : DirPath) (name : String) : Journal :=
  let path := dir.entryText name
  if name = config.markerName then []
  else if Ignore.isIgnored rules path false then
    matchEvents rules path false ++ [.fileIgnored path]
  else matchEvents rules path false

/-- What keeps a run out of a directory, if something does, and what happens until that is
decided.
-/
def skip? (config : Config) (rules : List Rule) (path : PathName) (dir : DirPath)
    : Bool × Journal :=
  if dir ≠ .root ∧ config.excludes path.name then (true, [.excluded dir])
  else if Ignore.isIgnored rules dir.text true then
    (true, matchEvents rules dir.text true ++ [.ignored dir])
  else (false, matchEvents rules dir.text true)

/-- Judges a directory by its files and by whether all subdirectories are empty, settles its marker,
and answers whether it is empty.
-/
def conclude (config : Config) (faults : Faults) (rules : List Rule) (path : PathName)
    (dir : DirPath) (files : List String) (allEmpty : Bool) (tree : Node) : Step Bool :=
  let isEmpty := !files.any (isVisible config rules dir) && allEmpty
  let hasMarker := files.contains config.markerName
  ((Marker.settle config faults path dir isEmpty hasMarker tree).map fun _ => isEmpty).after
    (files.flatMap (fileEvents config rules dir))

mutual

/-- Visits a directory and all that is below it, and answers whether it is empty. -/
def visit (config : Config) (faults : Faults) (tables : Ignore.Tables)
    : Node → PathName → DirPath → Node → Step Bool
  | .dir entries, path, dir, tree =>
    let rules := tables.inForce dir
    let (skipped, before) := skip? config rules path dir
    Step.after (.entered dir :: before)
      (if skipped then .pure true tree
      else
        match faults.crash? .list path, faults.list tree path with
        | some crash, _ => ⟨.error crash, tree, []⟩
        | none, .error error => (Step.pure true tree).after [.unlistable dir error]
        | none, .ok listing =>
          (visitAll config faults tables entries path dir tree).bind
            (conclude config faults rules path dir (fileNames listing)))
  | _, _, _, tree => .pure true tree

/-- Visits the subdirectories among the entries of a directory, and answers whether all of them
are empty.
-/
def visitAll (config : Config) (faults : Faults) (tables : Ignore.Tables)
    : List (String × Node) → PathName → DirPath → Node → Step Bool
  | [], _, _, tree => .pure true tree
  | (name, node) :: rest, path, dir, tree =>
    (visit config faults tables node (path.child name) (dir.child name) tree).bind
      fun isEmpty tree => (visitAll config faults tables rest path dir tree).map (isEmpty && ·)

end

/-- Walks a directory that a path leads to. -/
def walk (config : Config) (faults : Faults) (tables : Ignore.Tables) (path : PathName)
    (dir : DirPath) (tree : Node) : Step Bool :=
  visit config faults tables (Loading.dirAt tree path) path dir tree

end Walk

/-- Runs once over the project: reads all ignore files, then walks the root. -/
def run (config : Config) (faults : Faults) (tree : Node) : Step Bool :=
  let loaded := Loading.load config faults tree config.root
  let walked := Walk.walk config faults loaded.tables config.root .root tree
  walked.after (.loading :: loaded.journal ++ [.walking])

end DirMarkers
