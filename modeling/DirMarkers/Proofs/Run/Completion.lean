import DirMarkers.Proofs.Run.Course
import DirMarkers.Proofs.Run.Telling
import DirMarkers.Proofs.Walk.Passage

/-!
Runs that end. With a loaded configuration whose marker name does not end a path, a run gives an
answer in every tree, and its summary tells of every call that failed on the way.
-/

namespace DirMarkers

open Walk (Comes skip? visitAll conclude fileNames isVisible)

/-- Why the text of an ignore file could not be had, unless that is as good as an empty file. -/
def Loading.readFailure? (faults : Faults) (tree : Node) (file : PathName) : Option ReadFailure :=
  match faults.read tree file with
  | .error error => if isAbsence error.errno then none else some (.system error)
  | .ok content =>
    match Text.Utf8.decode content with
    | .error fault => some (.encoding fault)
    | .ok _ => none

section

variable (config : Config) (faults : Faults) (start : Node)

/-- A walk settles the marker of a directory, with what it found out about the directory and with
the tree as it is by then.
-/
inductive Walk.Settles : DirPath → Bool → Bool → Node → Prop
  | intro {dir : DirPath} {entries listing : Entries} {now : Node} {allEmpty : Bool}
    (came : Comes config faults (tables config faults start) start dir entries now)
    (kept : (skip? config ((tables config faults start).inForce dir) (config.root.under dir)
      dir).1 = false)
    (listed : faults.list now (config.root.under dir) = .ok listing)
    (below : (visitAll config faults (tables config faults start) entries (config.root.under dir)
      dir now).answer = .ok allEmpty)
    : Settles dir
        (!(fileNames listing).any (isVisible config ((tables config faults start).inForce dir) dir)
          && allEmpty)
        ((fileNames listing).contains config.markerName)
        (visitAll config faults (tables config faults start) entries (config.root.under dir) dir
          now).tree

/-- The failures that a run meets, as the events that tell of them: an ignore file of a visited
directory that cannot be read, a directory that cannot be listed when the walk has come to it, and a
marker that cannot be created or removed when it is to be.
-/
inductive Fails : Event → Prop
  | reading {dir : DirPath} {source : Ignore.Source} {cause : ReadFailure}
    (visited : Loading.Visits config faults start dir)
    (counts : source = .content ∨ config.respectMarkerIgnore = true)
    (failed : Loading.readFailure? faults start
      ((config.root.under dir).child source.fileName) = some cause)
    : Fails (.unreadable dir source ((config.root.under dir).child source.fileName) cause)
  | listing {dir : DirPath} {entries : Entries} {now : Node} {error : SystemError}
    (came : Comes config faults (tables config faults start) start dir entries now)
    (kept : (skip? config ((tables config faults start).inForce dir) (config.root.under dir)
      dir).1 = false)
    (failed : faults.list now (config.root.under dir) = .error error)
    : Fails (.unlistable dir error)
  | creating {dir : DirPath} {isEmpty hasMarker : Bool} {now : Node} {error : SystemError}
    (settles : Walk.Settles config faults start dir isEmpty hasMarker now)
    (due : Marker.duty config.mode isEmpty hasMarker = .ok .create)
    (real : config.dryRun = false)
    (failed : faults.write now ((config.root.under dir).child config.markerName)
      config.markerContent.toUTF8 = .error error)
    : Fails (.createFailed dir error)
  | removing {dir : DirPath} {isEmpty hasMarker : Bool} {now : Node} {error : SystemError}
    (settles : Walk.Settles config faults start dir isEmpty hasMarker now)
    (due : Marker.duty config.mode isEmpty hasMarker = .ok .remove)
    (real : config.dryRun = false)
    (failed : faults.remove now ((config.root.under dir).child config.markerName) = .error error)
    : Fails (.removeFailed dir error)

end

-----------------------------------------------------------------------------------------
-- Failures are told of
-----------------------------------------------------------------------------------------

section

variable {config : Config} {faults : Faults} {start : Node} {location : Location}

/-- An ignore file that cannot be read is told of. -/
theorem Loading.mem_readRules {path : PathName} {dir : DirPath} {source : Ignore.Source}
    {cause : ReadFailure}
    (failed : readFailure? faults start (path.child source.fileName) = some cause)
    : .unreadable dir source (path.child source.fileName) cause
      ∈ (readRules faults start path dir source).2 := by
  rw [readFailure?] at failed
  simp only [readRules]
  cases read : faults.read start (path.child source.fileName) with
  | error error =>
      rw [read] at failed
      dsimp only at failed ⊢
      split at failed
      · cases failed
      · next present =>
        cases failed
        rw [if_neg present]
        exact List.mem_singleton_self _
  | ok content =>
      rw [read] at failed
      dsimp only at failed ⊢
      rw [Ignore.parse]
      cases decoded : Text.Utf8.decode content with
      | ok text =>
          rw [decoded] at failed
          cases failed
      | error fault =>
          rw [decoded] at failed
          cases failed
          exact List.mem_singleton_self _

/-- What fails in a visited directory while ignore files are read is told of. -/
theorem Loading.mem_load_of_unreadable (wellFormed : start.WellFormed) {dir : DirPath}
    (visited : Visits config faults start dir) {source : Ignore.Source} {cause : ReadFailure}
    (counts : source = .content ∨ config.respectMarkerIgnore = true)
    (failed : readFailure? faults start ((config.root.under dir).child source.fileName)
      = some cause)
    : .unreadable dir source ((config.root.under dir).child source.fileName) cause
      ∈ (load config faults start config.root).journal := by
  have own : .unreadable dir source ((config.root.under dir).child source.fileName) cause
      ∈ (loadFiles config faults start (config.root.under dir) dir).journal := by
    rw [loadFiles]
    cases source with
    | content => exact List.mem_append_left _ (mem_readRules failed)
    | marker =>
        have respected := counts.resolve_left (by decide)
        rw [respected]
        exact List.mem_append_right _ (mem_readRules failed)
  have told := @load_about config faults start wellFormed dir
  rw [if_pos visited] at told
  refine ((@Journal.mem_about dir _ _).mp ?_).1
  rw [told]
  exact Journal.mem_about.mpr ⟨own, rfl⟩

variable (safe : config.IsSafe) (rooted : Rooted config.root location start)

include safe rooted

/-- What happens when a walk settles a marker is part of its journal. -/
theorem Walk.Settles.infix {dir : DirPath} {isEmpty hasMarker : Bool} {now : Node}
    (settles : Settles config faults start dir isEmpty hasMarker now)
    : (config.root.under dir).IsNulFree
      ∧ (Marker.settle config faults (config.root.under dir) dir isEmpty hasMarker now).journal
        <:+: (walk config faults (tables config faults start) config.root .root start).journal := by
  cases settles with
  | @intro entries listing _ allEmpty came kept listed below =>
      obtain ⟨_, nulFree, inside⟩ := came.infix safe rooted
      refine ⟨nulFree, .trans ?_ inside⟩
      rw [visit_of_listed nulFree kept listed]
      have last := Step.infix_bind_next below (conclude config faults
        ((tables config faults start).inForce dir) (config.root.under dir) dir (fileNames listing))
      exact ((List.suffix_append _ _).isInfix.trans last).trans (List.suffix_append _ _).isInfix

/-- Every failure that a run meets is told of. -/
theorem Fails.told {event : Event} (failed : Fails config faults start event)
    : event ∈ (run config faults start).journal := by
  have walked {event : Event}
      (member : event ∈ (Walk.walk config faults (tables config faults start) config.root .root
        start).journal)
      : event ∈ (run config faults start).journal :=
    List.mem_append_right _ member
  cases failed with
  | reading visited counts failed =>
      refine List.mem_append_left _ (List.mem_append_left _ (List.mem_cons_of_mem _ ?_))
      exact Loading.mem_load_of_unreadable rooted.wellFormed visited counts failed
  | listing came kept failed =>
      obtain ⟨_, nulFree, inside⟩ := came.infix safe rooted
      refine walked (inside.subset ?_)
      rw [Walk.visit]
      simp only [kept, faults.crash?_eq_none .list nulFree, failed]
      exact List.mem_append_right _ (List.mem_singleton_self _)
  | creating settles due real failed =>
      obtain ⟨nulFree, inside⟩ := settles.infix safe rooted
      refine walked (inside.subset ?_)
      simp only [Marker.settle, due, Marker.perform, Marker.create, real, Bool.false_eq_true,
        if_false, PathName.join_entry _ safe.marker, safe.crash?_marker faults nulFree, failed]
      exact List.mem_singleton_self _
  | removing settles due real failed =>
      obtain ⟨nulFree, inside⟩ := settles.infix safe rooted
      refine walked (inside.subset ?_)
      simp only [Marker.settle, due, Marker.perform, Marker.remove, real, Bool.false_eq_true,
        if_false, PathName.join_entry _ safe.marker, safe.crash?_marker faults nulFree, failed]
      exact List.mem_singleton_self _

end

-----------------------------------------------------------------------------------------
-- Whole runs
-----------------------------------------------------------------------------------------

theorem Fails.weighs {config : Config} {faults : Faults} {start : Node} {event : Event}
    (failed : Fails config faults start event)
    : event.level = .warning := by
  cases failed <;> rfl

/-- A run with a loaded configuration ends with an answer, and every failure that it meets is among
the errors of its summary, if the name of the marker does not end a path early. The stack is taken
to be deep enough for directories inside each other to any depth.
-/
theorem run_completes {before tree : Node} {here location : Location} {root : String}
    {overrides : Overrides} {order : CheckOrder} {config : Config}
    (loaded : (SettingsFile.load before here root overrides order).1 = .ok config)
    (noNul : holdsNul config.markerName = false) (rooted : Rooted config.root location tree)
    (faults : Faults)
    : (∃ isEmpty, (run config faults tree).answer = .ok isEmpty)
      ∧ ∀ event, Fails config faults tree event
        → event.message config.markerName
          ∈ ((run config faults tree).journal.summary config.markerName).errors := by
  obtain ⟨path, yields⟩ := SettingsFile.load_yields loaded
  have safe := yields.isSafe noNul
  have wellFormed := rooted.wellFormed.at rooted.get?_dirAt
  have nulFree := rooted.leads.noNul rooted.wellFormed
  refine ⟨?_, fun event failed => ?_⟩
  · exact Walk.visit_completes safe faults (tables config faults tree) wellFormed nulFree .root tree
  · refine List.mem_filterMap.mpr ⟨event, failed.told safe rooted, ?_⟩
    rw [Event.failure?_eq, if_pos failed.weighs]

/-- What is loaded for the small project when nothing is said but the name of the marker. -/
def namedConfig (name : String) : Config where
  root := ⟨.slash, ["p"]⟩
  markerName := name
  excludeDirs := [".git", "node_modules", ".next", "dist", "build"]

theorem load_named
    : (SettingsFile.load smallTree ["p"] "." [("gitkeepName", .string ".keep")]).1
        = .ok (namedConfig ".keep")
      ∧ (SettingsFile.load smallTree ["p"] "." [("gitkeepName", .string "\x00")]).1
        = .ok (namedConfig "\x00") :=
  ⟨rfl, rfl⟩

/-- No file may be written. -/
def Faults.noWrites : Faults :=
  fun call _ => if call = .write then some .accessDenied else Option.none

/-- Where no file may be written, a run over the small project ends all the same, and tells of the
marker that could not be created in `bare`.
-/
theorem run_completes_small
    : ∃ isEmpty, (run (namedConfig ".keep") .noWrites smallTree).answer = .ok isEmpty
      ∧ "Failed to create bare/.keep: [Errno 13] Permission denied: '/p/bare/.keep'"
        ∈ ((run (namedConfig ".keep") .noWrites smallTree).journal.summary ".keep").errors := by
  have rooted : Rooted (namedConfig ".keep").root ["p"] smallTree := .of_stat (by decide) rfl
  obtain ⟨⟨isEmpty, ended⟩, told⟩ := run_completes load_named.1 rfl rooted .noWrites
  have root : Comes (namedConfig ".keep") .noWrites (tables (namedConfig ".keep") .noWrites
      smallTree) smallTree .root _ smallTree := .root rfl
  have turn : [("bare", Node.dir []),
        ("full", .dir [(".gitkeep", .file .empty), ("note", .file .empty)])]
      = [] ++ ("bare", Node.dir []) :: [("full", .dir [(".gitkeep", .file .empty),
        ("note", .file .empty)])] := rfl
  have bare := Comes.child root rfl rfl turn
  exact ⟨isEmpty, ended, told _ (.creating (.intro bare rfl rfl rfl) rfl rfl rfl)⟩

/-- A marker whose name ends every path is loaded as well, and then the run ends early. -/
theorem run_named_nul
    : ∃ config, (SettingsFile.load smallTree ["p"] "." [("gitkeepName", .string "\x00")]).1
        = .ok config
      ∧ (run config .none smallTree).answer = .error .nulInPath :=
  ⟨_, load_named.2, rfl⟩

end DirMarkers
