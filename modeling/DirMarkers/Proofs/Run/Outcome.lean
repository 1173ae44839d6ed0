import DirMarkers.Proofs.Run.Evidence
import DirMarkers.Proofs.Run.Telling
import DirMarkers.Proofs.Walk.Arrival

/-!
The outcome of a run for one directory: whether it is visited, what is told of it, and what is left
in the place of its marker. All of it is decided at the one stop at the directory, if there is one,
and by its own ignore files.
-/

namespace DirMarkers

open Walk (Stop)

/-- Whether an event tells of a failure. -/
def Event.isFailure (event : Event) : Bool :=
  event.level = .warning

namespace Journal

/-- What a journal tells of one directory, failures apart. -/
def deeds (dir : DirPath) (journal : Journal) : Journal :=
  (journal.about dir).filter fun event => !event.isFailure

/-- The failures that a journal tells of one directory. -/
def failures (dir : DirPath) (journal : Journal) : Journal :=
  (journal.about dir).filter Event.isFailure

end Journal

/-- Two runs do the same to a directory: both visit it or neither does, they tell the same of it
apart from failures, and leave the same in the place of its marker.
-/
structure SameOutcome (config : Config) (location : Location) (dir : DirPath)
    (first second : Step Bool) : Prop where
  visited : .entered dir ∈ first.journal ↔ .entered dir ∈ second.journal
  deeds : first.journal.deeds dir = second.journal.deeds dir
  marker
    : first.tree.kindAt (location ++ dir ++ [config.markerName])
      = second.tree.kindAt (location ++ dir ++ [config.markerName])

-----------------------------------------------------------------------------------------
-- What a run tells of one directory
-----------------------------------------------------------------------------------------

section

variable {config : Config} {faults : Faults} {location : Location} {start : Node}

/-- What is told at a stop is told of its directory. -/
theorem Walk.Stop.journal_dir {stop : Stop} {event : Event}
    (member : event ∈ stop.journal config faults location start)
    : event.dir? = some stop.dir := by
  obtain ⟨dir, finding⟩ := stop
  cases finding with
  | judged isEmpty => exact Event.dir?_of_marker? (marker?_settle member)
  | _ =>
      rw [List.mem_singleton.mp member]
      rfl

/-- Stops at other directories tell nothing of this one. -/
theorem Walk.journal_about_eq_nil {stops : List Stop} {dir : DirPath}
    (elsewhere : ∀ stop ∈ stops, stop.dir ≠ dir)
    : (journal config faults location start stops).about dir = [] := by
  refine Journal.about_eq_nil fun event member told => ?_
  obtain ⟨stop, stopped, happened⟩ := List.mem_flatMap.mp member
  exact elsewhere stop stopped (Option.some.inj ((Stop.journal_dir happened).symm.trans told))

/-- If no directory has two stops, what is told of one is what happens at its stop. -/
theorem Walk.journal_about {stops : List Stop} (nodup : (stops.map Stop.dir).Nodup) {stop : Stop}
    (stopped : stop ∈ stops)
    : (journal config faults location start stops).about stop.dir
      = stop.journal config faults location start := by
  obtain ⟨before, after, rfl⟩ := List.append_of_mem stopped
  rw [List.map_append, List.map_cons] at nodup
  obtain ⟨_, rest, apart⟩ := List.nodup_append.mp nodup
  have earlier : ∀ other ∈ before, other.dir ≠ stop.dir := fun other member =>
    apart _ (List.mem_map_of_mem member) _ List.mem_cons_self
  have later : ∀ other ∈ after, other.dir ≠ stop.dir := fun other member same =>
    (List.nodup_cons.mp rest).1 (same ▸ List.mem_map_of_mem member)
  have own : (stop.journal config faults location start).about stop.dir
      = stop.journal config faults location start :=
    List.filter_eq_self.mpr fun event member => decide_eq_true (Stop.journal_dir member)
  have split : journal config faults location start (before ++ stop :: after)
      = journal config faults location start before
        ++ (stop.journal config faults location start
          ++ journal config faults location start after) := by
    rw [journal, List.flatMap_append, List.flatMap_cons]
    rfl
  rw [split, Journal.about_append, Journal.about_append, journal_about_eq_nil earlier,
    journal_about_eq_nil later, own, List.nil_append, List.append_nil]

/-- What a run tells of a directory is told when ignore files are read, or at a stop. -/
theorem run_about (known : config.HasKnownMode) (project : Project config location start)
    (dir : DirPath)
    : (run config faults start).journal.about dir
      = (Loading.load config faults start config.root).journal.about dir
        ++ (Walk.journal config faults location start (stops config faults start)).about dir := by
  rw [← Journal.about_notable, (run_tracks faults known project).journal, course,
    Journal.about_append, Journal.about_notable]

/-- A run enters the directories of its stops. -/
theorem run_enters (known : config.HasKnownMode) (project : Project config location start)
    (dir : DirPath)
    : .entered dir ∈ (run config faults start).journal
      ↔ dir ∈ (stops config faults start).map Stop.dir := by
  have reading : .entered dir ∉ (Loading.load config faults start config.root).journal := by
    intro member
    cases Loading.load_reading config faults start config.root _ member
  have walked := Walk.visit_enters known project faults (tables config faults start)
    (Loading.dirAt start config.root) project project.dirAt_root project.dirAt_root dir
  rw [PathName.under_root] at walked
  rw [stops, ← walked]
  simp only [run, Step.after, Walk.walk, List.mem_append, List.mem_cons, reading]
  simp [tables]

/-- Only failures are told of a directory when ignore files are read. -/
theorem Loading.load_deeds (dir : DirPath)
    : ((load config faults start config.root).journal.about dir).filter
        (fun event => !event.isFailure) = [] := by
  refine List.filter_eq_nil_iff.mpr fun event member => ?_
  obtain ⟨member, told⟩ := Journal.mem_about.mp member
  have reading := load_reading config faults start config.root event member
  cases event with
  | unreadable _ _ _ _ => exact Bool.false_ne_true
  | _ => first | (cases told; done) | cases reading

end

-----------------------------------------------------------------------------------------
-- What is left in the place of a marker
-----------------------------------------------------------------------------------------

section

variable {config : Config} {faults : Faults} {location : Location} {start : Node}
  (known : config.HasKnownMode) (project : Project config location start) {dir : DirPath}

include known project

/-- What a run leaves in the place of a marker is told by the deeds at its directory. -/
theorem run_leaves {event : Event} (happened : event ∈ (run config faults start).journal.deeds dir)
    (change : event.changed? = some dir)
    : (run config faults start).tree.kindAt (location ++ dir ++ [config.markerName])
      = event.leaves config := by
  have tracks := run_tracks faults known project
  have member : event ∈ course config faults start location := by
    have told := (Journal.mem_about.mp (List.mem_filter.mp happened).1).1
    rw [← tracks.journal]
    refine List.mem_filter.mpr ⟨told, ?_⟩
    cases event <;> first | rfl | cases change
  obtain ⟨_, each, _⟩ := (course_applies faults project).replay project.wellFormed
  rw [tracks.replayed]
  exact each event member dir change

/-- A run leaves the place of a marker alone if no deed at its directory changes it. -/
theorem run_leaves_alone
    (unchanged : ∀ event ∈ (run config faults start).journal.deeds dir, event.changed? ≠ some dir)
    : (run config faults start).tree.kindAt (location ++ dir ++ [config.markerName])
      = start.kindAt (location ++ dir ++ [config.markerName]) := by
  have tracks := run_tracks faults known project
  refine tracks.frame _ fun other member same => ?_
  obtain rfl : dir = other := by simpa using same
  obtain ⟨event, happened, change⟩ := List.mem_filterMap.mp member
  rw [← tracks.journal] at happened
  refine unchanged event (List.mem_filter.mpr ⟨Journal.mem_about.mpr ⟨?_, ?_⟩, ?_⟩) change
  · exact (List.mem_filter.mp happened).1
  · exact Event.dir?_of_marker? (Event.marker?_of_changed? change)
  · cases event <;> first | rfl | cases change

end

end DirMarkers
