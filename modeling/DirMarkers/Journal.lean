import DirMarkers.DirPath
import DirMarkers.Ignore.Tables
import DirMarkers.PathName
import DirMarkers.SystemError
import DirMarkers.Text.Utf8

/-!
The journal of a run: everything that happens, in order. Log lines and summaries are two views of
it.
-/

namespace DirMarkers

/-- Why an ignore file could not be read. -/
inductive ReadFailure where
  | system (error : SystemError)
  | encoding (fault : Text.Utf8.Fault)
deriving DecidableEq, Repr

def ReadFailure.message : ReadFailure → String
  | .system error => error.message
  | .encoding fault => fault.message

/-- Something that happens in a run. -/
inductive Event where
  /-- The ignore files are about to be read. -/
  | loading
  /-- An ignore file of a directory could not be read. -/
  | unreadable (dir : DirPath) (source : Ignore.Source) (file : PathName) (cause : ReadFailure)
  /-- An ignore file of a directory gave some rules. -/
  | rulesLoaded (dir : DirPath) (source : Ignore.Source) (count : Nat)
  /-- A directory could not be listed when ignore files were read. -/
  | notDescended (dir : DirPath) (error : SystemError)
  /-- So many directories have an ignore file with rules. -/
  | tableLoaded (source : Ignore.Source) (count : Nat)
  /-- The directories are about to be visited. -/
  | walking
  /-- A directory is visited. -/
  | entered (dir : DirPath)
  /-- A visited directory is excluded by its name. -/
  | excluded (dir : DirPath)
  /-- A rule speaks about a path. -/
  | matched (rule : Rule) (path : String) (isDir : Bool)
  /-- A visited directory is ignored. -/
  | ignored (dir : DirPath)
  /-- A visited directory could not be listed. -/
  | unlistable (dir : DirPath) (error : SystemError)
  /-- A file of a visited directory is ignored. -/
  | fileIgnored (path : String)
  /-- The marker of a directory would have been created. -/
  | wouldCreate (dir : DirPath)
  /-- The marker of a directory would have been removed. -/
  | wouldRemove (dir : DirPath)
  /-- The marker of a directory was created. -/
  | created (dir : DirPath)
  /-- The marker of a directory was removed. -/
  | removed (dir : DirPath)
  /-- The marker of a directory could not be created. -/
  | createFailed (dir : DirPath) (error : SystemError)
  /-- The marker of a directory could not be removed. -/
  | removeFailed (dir : DirPath) (error : SystemError)
  /-- An empty directory lacks its marker. -/
  | markerMissing (dir : DirPath)
  /-- A directory that is not empty has a marker. -/
  | markerSpare (dir : DirPath)
deriving DecidableEq, Repr

abbrev Journal := List Event

-----------------------------------------------------------------------------------------
-- Log lines
-----------------------------------------------------------------------------------------

/-- The weight of a log line. -/
inductive Level where
  | debug
  | info
  | warning
  | critical
deriving DecidableEq, Repr

namespace Level

def name : Level → String
  | .debug => "DEBUG"
  | .info => "INFO"
  | .warning => "WARNING"
  | .critical => "CRITICAL"

/-- The place of a level in the order of weight. -/
def rank : Level → Nat
  | .debug => 0
  | .info => 1
  | .warning => 2
  | .critical => 3

end Level

/-- A log line. -/
structure LogLine where
  level : Level
  message : String
deriving DecidableEq, Repr

namespace Event

/-- How much an event weighs in the log. -/
def level : Event → Level
  | .unreadable .. | .unlistable .. | .createFailed .. | .removeFailed .. => .warning
  | .wouldCreate .. | .wouldRemove .. | .created .. | .removed .. | .markerMissing ..
  | .markerSpare .. => .info
  | _ => .debug

/-- The wording of an event in a run whose markers have the given name. -/
def message (marker : String) : Event → String
  | .loading => "Loading ignore rules..."
  | .unreadable _ _ file cause => "Failed to read " ++ file.text ++ ": " ++ cause.message
  | .rulesLoaded dir source count =>
    "Loaded " ++ toString count ++ " rule(s) from " ++ dir.entryText source.fileName
  | .notDescended _ error =>
    "Cannot list " ++ error.path ++ " while loading rules: " ++ error.message
  | .tableLoaded source count =>
    "Loaded " ++ toString count ++ " " ++ source.fileName ++ " file(s)"
  | .walking => "Walking directories..."
  | .entered dir => "Walking " ++ dir.text
  | .excluded dir => dir.text ++ " is in the exclude list, skipping"
  | .matched rule path isDir =>
    "Rule '" ++ rule.source ++ "' from '" ++ rule.baseDir ++ "' matched '" ++ path ++ "' (is_dir="
      ++ (if isDir then "True" else "False") ++ ")"
  | .ignored dir => dir.text ++ " is ignored, skipping"
  | .unlistable _ error => "Cannot read directory " ++ error.path ++ ": " ++ error.message
  | .fileIgnored path => "File " ++ path ++ " is ignored"
  | .wouldCreate dir => "[DRY-RUN] Would create " ++ dir.entryText marker
  | .wouldRemove dir => "[DRY-RUN] Would remove " ++ dir.entryText marker
  | .created dir => "Created " ++ dir.entryText marker
  | .removed dir => "Removed " ++ dir.entryText marker
  | .createFailed dir error =>
    "Failed to create " ++ dir.entryText marker ++ ": " ++ error.message
  | .removeFailed dir error =>
    "Failed to remove " ++ dir.entryText marker ++ ": " ++ error.message
  | .markerMissing dir => dir.text ++ " - empty directory without " ++ marker
  | .markerSpare dir => dir.text ++ " - non-empty directory with " ++ marker

def logLine (marker : String) (event : Event) : LogLine :=
  ⟨event.level, event.message marker⟩

end Event

def Journal.log (marker : String) (journal : Journal) : List LogLine :=
  journal.map (Event.logLine marker)

/-- The lines of a log that weigh at least as much as the threshold. -/
def LogLine.above (threshold : Level) (lines : List LogLine) : List LogLine :=
  lines.filter fun line => threshold.rank ≤ line.level.rank

-----------------------------------------------------------------------------------------
-- Summaries
-----------------------------------------------------------------------------------------

/-- What a run did: the markers it created and removed, the directories it skipped or found to be
mismatched, and the failures it met.
-/
structure Summary where
  created : List String := []
  removed : List String := []
  skipped : List String := []
  errors : List String := []
  mismatched : List String := []
deriving DecidableEq, Repr

namespace Event

def createdMarker? (marker : String) : Event → Option String
  | .created dir => some (dir.entryText marker)
  | _ => none

def removedMarker? (marker : String) : Event → Option String
  | .removed dir => some (dir.entryText marker)
  | _ => none

def skipped? : Event → Option DirPath
  | .excluded dir | .ignored dir => some dir
  | _ => none

/-- The directory that an event found to be mismatched. -/
def mismatched? : Event → Option DirPath
  | .markerMissing dir | .markerSpare dir => some dir
  | _ => none

/-- What is told of an event that is a failure. -/
def failure? (marker : String) (event : Event) : Option String :=
  match event with
  | .unreadable .. | .unlistable .. | .createFailed .. | .removeFailed .. =>
    some (event.message marker)
  | _ => none

/-- The failures are the events that the log warns of. -/
theorem failure?_eq (marker : String) (event : Event)
    : event.failure? marker
      = if event.level = .warning then some (event.message marker) else none := by
  cases event <;> rfl

end Event

def Journal.summary (marker : String) (journal : Journal) : Summary where
  created := journal.filterMap (Event.createdMarker? marker)
  removed := journal.filterMap (Event.removedMarker? marker)
  skipped := (journal.filterMap Event.skipped?).map DirPath.text
  errors := journal.filterMap (Event.failure? marker)
  mismatched := (journal.filterMap Event.mismatched?).map DirPath.text

def Summary.failed (summary : Summary) : Bool :=
  !summary.errors.isEmpty

end DirMarkers
