import DirMarkers.Proofs.Run.Evidence

/-!
What a run of the normal mode attempts: at each stop that is judged and whose marker is not as it
should be, a real run tries to create or to remove the marker.
-/

namespace DirMarkers

open Walk (Stop Finding)

/-- A change to a marker that is tried or announced. -/
inductive Attempt where
  | create (dir : DirPath)
  | remove (dir : DirPath)
deriving DecidableEq

/-- The directory whose marker is to be changed. -/
def Attempt.dir : Attempt → DirPath
  | .create dir | .remove dir => dir

/-- The attempt that an event tells the outcome of. -/
def Event.attempt? : Event → Option Attempt
  | .created dir | .createFailed dir _ => some (.create dir)
  | .removed dir | .removeFailed dir _ => some (.remove dir)
  | _ => none

/-- What a run attempts, in order. -/
def Journal.attempts (journal : Journal) : List Attempt :=
  journal.filterMap Event.attempt?

/-- What a run attempts at a stop. -/
def Walk.Stop.attempts (config : Config) (location : Location) (start : Node) (stop : Stop)
    : List Attempt :=
  match stop.finding with
  | .judged isEmpty =>
    match isEmpty, start.hasFileAt (location ++ stop.dir ++ [config.markerName]) with
    | true, false => [.create stop.dir]
    | false, true => [.remove stop.dir]
    | _, _ => []
  | _ => []

section

variable {config : Config} {location : Location} {start : Node}

/-- Creating a marker is an attempt, whether or not it succeeds. -/
theorem Marker.create_attempt (project : Project config location start) {dir : DirPath}
    (there : start.kindAt (location ++ dir) = some .dir) (faults : Faults)
    (real : config.dryRun = false)
    : (Marker.create config faults (config.root.under dir) dir start).journal.filterMap
        Event.attempt? = [.create dir] := by
  simp only [Marker.create, real, PathName.join_entry _ project.marker,
    project.crash?_marker there faults .write]
  cases faults.write start ((config.root.under dir).child config.markerName)
    config.markerContent.toUTF8 with
  | ok changed => rfl
  | error error => rfl

/-- Removing a marker is an attempt, whether or not it succeeds. -/
theorem Marker.remove_attempt (project : Project config location start) {dir : DirPath}
    (there : start.kindAt (location ++ dir) = some .dir) (faults : Faults)
    (real : config.dryRun = false)
    : (Marker.remove config faults (config.root.under dir) dir start).journal.filterMap
        Event.attempt? = [.remove dir] := by
  simp only [Marker.remove, real, PathName.join_entry _ project.marker,
    project.crash?_marker there faults .remove]
  cases faults.remove start ((config.root.under dir).child config.markerName) with
  | ok changed => rfl
  | error error => rfl

variable (faults : Faults) (stop : Stop)

/-- A real run of the normal mode attempts what is attempted at a stop. -/
theorem Walk.Stop.journal_attempts (normal : config.mode = .normal) (real : config.dryRun = false)
    (project : Project config location start)
    (there : start.kindAt (location ++ stop.dir) = some .dir)
    : (stop.journal config faults location start).filterMap Event.attempt?
      = stop.attempts config location start := by
  obtain ⟨dir, finding⟩ := stop
  cases finding with
  | judged isEmpty =>
      simp only [Stop.journal, Stop.attempts, Marker.settle, Marker.duty, normal]
      cases isEmpty <;> cases start.hasFileAt (location ++ dir ++ [config.markerName])
      · rfl
      · exact Marker.remove_attempt project there faults real
      · exact Marker.create_attempt project there faults real
      · rfl
  | _ => rfl

end

-----------------------------------------------------------------------------------------
-- Attempts of a run
-----------------------------------------------------------------------------------------

section

variable {config : Config} {location : Location} {tree : Node} (faults : Faults)
  (project : Project config location tree)

include project

/-- A view of markers sees in a run what it sees at the stops. -/
theorem run_view {α : Type} (view : Event → Option α)
    (unmarked : ∀ event : Event, event.marker? = none → view event = none)
    (known : config.HasKnownMode)
    : (run config faults tree).journal.filterMap view
      = (stops config faults tree).flatMap fun stop =>
          (stop.journal config faults location tree).filterMap view := by
  have passes : ∀ event : Event, event.isNotable = false → view event = none := by
    intro event trace
    refine unmarked event ?_
    cases event <;> first | rfl | cases trace
  have loading : (Loading.load config faults tree config.root).journal.notable.filterMap view
      = [] := by
    rw [List.filterMap_eq_nil_iff]
    intro event member
    exact unmarked event
      (Loading.load_unmarked config faults tree config.root event (List.mem_filter.mp member).1)
  rw [← Journal.filterMap_notable view passes, (run_tracks faults known project).journal, course,
    List.filterMap_append, loading, List.nil_append, Walk.journal, List.filterMap_flatMap]

/-- A real run of the normal mode attempts what is attempted at its stops. -/
theorem run_attempts (normal : config.mode = .normal) (real : config.dryRun = false)
    : (run config faults tree).journal.attempts
      = (stops config faults tree).flatMap (Stop.attempts config location tree) := by
  rw [Journal.attempts, run_view faults project _ _ (.of_normal normal)]
  · exact List.flatMap_congr fun stop stopped =>
      stop.journal_attempts faults normal real project (stops_inDir project stopped)
  · intro event unmarked
    cases event <;> first | rfl | cases unmarked

end

end DirMarkers
