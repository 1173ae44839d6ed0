import DirMarkers.Proofs.Run.Course
import DirMarkers.Proofs.Run.Replay
import Mathlib.Data.List.Nodup

/-!
What the events of a run say about the tree before it. A marker is created only where there was
nothing, and removed only where there was a file; each stop changes its own marker, so the changes
of a run can be made in any order.
-/

namespace DirMarkers

open Walk (Stop)

namespace Node

theorem hasFileAt_eq_true {tree : Node} {location : Location}
    : tree.hasFileAt location = true ↔ ∃ content, tree.kindAt location = some (.file content) := by
  rw [hasFileAt, Option.any_eq_true]
  constructor
  · rintro ⟨node, there, isFile⟩
    cases node with
    | file content => exact ⟨content, kindAt_eq_file.mpr there⟩
    | dir _ => cases isFile
    | link _ => cases isFile
  · rintro ⟨content, there⟩
    exact ⟨_, kindAt_eq_file.mp there, rfl⟩

/-- There is no file where there is nothing. -/
theorem hasFileAt_eq_false {tree : Node} {location : Location}
    (missing : tree.kindAt location = none)
    : tree.hasFileAt location = false := by
  simp [hasFileAt, kindAt_eq_none.mp missing]

/-- Nodes of the same kind are both there, or neither is. -/
theorem isSome_get?_congr {left right : Node} {location : Location}
    (same : left.kindAt location = right.kindAt location)
    : (left.get? location).isSome = (right.get? location).isSome := by
  simpa [kindAt] using congrArg Option.isSome same

/-- Where there is no more than a file, there is a file or nothing. -/
theorem HoldsNoMoreThanFile.isSome_get? {tree : Node} {location : Location}
    (free : tree.HoldsNoMoreThanFile location)
    : (tree.get? location).isSome = tree.hasFileAt location := by
  rw [hasFileAt]
  cases there : tree.get? location with
  | none => rfl
  | some node =>
      obtain ⟨content, file⟩ := free node.kind (by rw [kindAt, there]; rfl)
      cases node <;> first | rfl | cases file

theorem hasFileAt_congr {left right : Node} {location : Location}
    (same : left.kindAt location = right.kindAt location)
    : left.hasFileAt location = right.hasFileAt location := by
  rw [Bool.eq_iff_iff, hasFileAt_eq_true, hasFileAt_eq_true, same]

end Node

/-- What has to hold before a change can be made. -/
def Event.Evidence (config : Config) (location : Location) (start : Node) : Event → Prop
  | .created dir => start.kindAt (location ++ dir ++ [config.markerName]) = none
      ∧ config.markerName.utf8ByteSize ≤ Tree.nameLimit
  | .removed dir =>
    ∃ content, start.kindAt (location ++ dir ++ [config.markerName]) = some (.file content)
  | _ => True

section

variable {config : Config} {faults : Faults} {location : Location} {start : Node}
  {dir : DirPath} {isEmpty : Bool}

/-- A marker is created only where none was. -/
theorem Marker.create_evidence (project : Project config location start)
    (there : start.kindAt (location ++ dir) = some .dir)
    (missing : start.hasFileAt (location ++ dir ++ [config.markerName]) = false)
    : ∀ event ∈ (Marker.create config faults (config.root.under dir) dir start).journal,
        event.Evidence config location start := by
  obtain ⟨entries, listed⟩ := Node.kindAt_eq_dir.mp there
  simp only [Marker.create, PathName.join_entry _ project.marker,
    project.crash?_marker there faults .write]
  intro event member
  split at member
  · rw [List.mem_singleton.mp member]
    trivial
  cases written : faults.write start ((config.root.under dir).child config.markerName)
    config.markerContent.toUTF8 with
  | error error =>
      simp only [written, List.mem_singleton] at member
      rw [member]
      trivial
  | ok changed =>
      simp only [written, List.mem_singleton] at member
      obtain ⟨short, notDir⟩ :=
        project.rooted.room_of_write listed project.marker (project.notLink dir) faults written
      rw [member]
      refine ⟨?_, short⟩
      cases kind : start.kindAt (location ++ dir ++ [config.markerName]) with
      | none => rfl
      | some kind' =>
          cases kind' with
          | dir => exact absurd kind notDir
          | link target => exact absurd kind (project.notLink dir target)
          | file content =>
              rw [Node.hasFileAt_eq_true.mpr ⟨content, kind⟩] at missing
              cases missing

theorem Marker.of_duty_create {mode : Mode} {isEmpty hasMarker : Bool}
    (decided : Marker.duty mode isEmpty hasMarker = .ok .create)
    : mode = .normal ∧ isEmpty = true ∧ hasMarker = false := by
  cases mode <;> cases isEmpty <;> cases hasMarker <;> cases decided
  exact ⟨rfl, rfl, rfl⟩

theorem Marker.of_duty_remove {mode : Mode} {isEmpty hasMarker : Bool}
    (decided : Marker.duty mode isEmpty hasMarker = .ok .remove)
    : hasMarker = true := by
  cases mode <;> cases isEmpty <;> cases hasMarker <;> first | rfl | cases decided

/-- Where a marker was to be removed, there is nothing left to do once it is gone. -/
theorem Marker.duty_leave_of_remove {mode : Mode} {isEmpty hasMarker : Bool}
    (decided : Marker.duty mode isEmpty hasMarker = .ok .remove)
    : Marker.duty mode isEmpty false = .ok .leave := by
  cases mode <;> cases isEmpty <;> cases hasMarker <;> first | rfl | cases decided

/-- What is done at a stop has the evidence for it, by what was to be done there. -/
theorem Walk.Stop.evidence (project : Project config location start) {stop : Stop}
    (there : start.kindAt (location ++ stop.dir) = some .dir) {event : Event}
    (member : event ∈ stop.journal config faults location start)
    : event.Evidence config location start := by
  cases event with
  | created dir =>
      obtain ⟨rfl, _, isEmpty, judged, duty⟩ := Stop.marker_journal member rfl
      simp only [Stop.journal, judged, Marker.settle, duty] at member
      exact Marker.create_evidence project there (Marker.of_duty_create duty).2.2 _ member
  | removed dir =>
      obtain ⟨rfl, _, _, _, duty⟩ := Stop.marker_journal member rfl
      exact Node.hasFileAt_eq_true.mp (Marker.of_duty_remove duty)
  | _ => trivial

end

-----------------------------------------------------------------------------------------
-- The changes of a run
-----------------------------------------------------------------------------------------

section

variable {config : Config} {faults : Faults} {location : Location} {start : Node}

/-- Every stop of a run is at a directory of the tree. -/
theorem stops_inDir (project : Project config location start) {stop : Stop}
    (stopped : stop ∈ stops config faults start)
    : start.kindAt (location ++ stop.dir) = some .dir := by
  have there := project.dirAt_root
  obtain ⟨below, placed, isDir⟩ := Walk.survey_below (project.wellFormed.at there) stopped
  have kind := (Node.kindAt_append there below).trans isDir
  rwa [List.append_assoc, ← placed] at kind

/-- No directory has two stops. -/
theorem stops_nodup (project : Project config location start)
    : ((stops config faults start).map Stop.dir).Nodup :=
  Walk.survey_nodup (project.wellFormed.at project.dirAt_root) .root

theorem mem_course {stop : Stop} (stopped : stop ∈ stops config faults start) {event : Event}
    (told : event ∈ stop.journal config faults location start)
    : event ∈ course config faults start location :=
  List.mem_append_right _ (List.mem_flatMap.mpr ⟨stop, stopped, told⟩)

/-- What is told about a marker in a run is told at one of its stops. -/
theorem course_marker {event : Event} {dir : DirPath}
    (member : event ∈ course config faults start location) (about : event.marker? = some dir)
    : ∃ stop ∈ stops config faults start, event ∈ stop.journal config faults location start := by
  rcases List.mem_append.mp member with loading | walking
  · have unmarked := Loading.load_unmarked config faults start config.root event
      (List.mem_filter.mp loading).1
    cases about.symm.trans unmarked
  · exact List.mem_flatMap.mp walking

/-- A run tells of a marker once. -/
theorem course_unique (project : Project config location start) {first second : Event}
    {dir : DirPath} (firstIn : first ∈ course config faults start location)
    (secondIn : second ∈ course config faults start location) (about : first.marker? = some dir)
    (again : second.marker? = some dir)
    : first = second := by
  obtain ⟨stop, stopped, told⟩ := course_marker firstIn about
  obtain ⟨other, otherStopped, otherTold⟩ := course_marker secondIn again
  obtain ⟨here, only, _⟩ := Stop.marker_journal told about
  obtain ⟨there, alone, _⟩ := Stop.marker_journal otherTold again
  obtain rfl := List.inj_on_of_nodup_map (stops_nodup project) stopped otherStopped
    (here.symm.trans there)
  exact (List.cons.inj (only.symm.trans alone)).1

/-- A change of the marker of a stop is told of at that stop. -/
theorem changed_at_stop (project : Project config location start) {stop : Stop}
    (stopped : stop ∈ stops config faults start)
    (changed : stop.dir ∈ (course config faults start location).changed)
    : ∃ event ∈ stop.journal config faults location start, event.changed? = some stop.dir := by
  obtain ⟨event, happened, change⟩ := List.mem_filterMap.mp changed
  have about := Event.marker?_of_changed? change
  obtain ⟨other, otherStopped, told⟩ := course_marker happened about
  obtain rfl := List.inj_on_of_nodup_map (stops_nodup project) stopped otherStopped
    (Stop.marker_journal told about).1
  exact ⟨event, told, change⟩

/-- Every directory whose marker a run changes is one of its stops, in the order of the stops. -/
theorem course_changed (config : Config) (faults : Faults) (location : Location) (start : Node)
    : (course config faults start location).changed.Sublist
        ((stops config faults start).map Stop.dir) := by
  rw [course, Journal.changed_append, Loading.load_unchanged, List.nil_append, Walk.journal]
  induction stops config faults start with
  | nil => exact .slnil
  | cons stop rest ih =>
      rw [List.flatMap_cons, Journal.changed_append, List.map_cons]
      cases own : (stop.journal config faults location start).changed with
      | nil => exact ih.cons _
      | cons dir others =>
          have member : dir ∈ (stop.journal config faults location start).changed :=
            own ▸ List.mem_cons_self
          obtain ⟨event, happened, change⟩ := List.mem_filterMap.mp member
          obtain ⟨rfl, only, _⟩ := Stop.marker_journal happened (Event.marker?_of_changed? change)
          rw [only, Journal.changed, List.filterMap_cons_some change] at own
          obtain ⟨_, rfl⟩ := List.cons.inj own
          exact ih.cons_cons _

/-- Every notable event of a run has the evidence for it. -/
theorem course_evidence (faults : Faults) (project : Project config location start)
    : ∀ event ∈ course config faults start location, ∀ dir, event.marker? = some dir
        → start.kindAt (location ++ dir) = some .dir ∧ event.Evidence config location start := by
  intro event member dir about
  obtain ⟨stop, stopped, told⟩ := course_marker member about
  obtain ⟨rfl, _⟩ := Stop.marker_journal told about
  have there := stops_inDir project stopped
  exact ⟨there, Stop.evidence project there told⟩

/-- The course of a run can be taken. -/
theorem course_applies (faults : Faults) (project : Project config location start)
    : (course config faults start location).Applies config location start := by
  have evidence {dir : DirPath} (member : dir ∈ (course config faults start location).changed)
      : start.kindAt (location ++ dir) = some .dir
        ∧ config.markerName.utf8ByteSize ≤ Tree.nameLimit
        ∧ start.HoldsNoMoreThanFile (location ++ dir ++ [config.markerName]) := by
    obtain ⟨event, happened, change⟩ := List.mem_filterMap.mp member
    obtain ⟨inDir, known⟩ := course_evidence faults project event happened dir
      (Event.marker?_of_changed? change)
    cases event with
    | created _ =>
        obtain rfl := Option.some.inj change
        exact ⟨inDir, known.2, fun kind found => nomatch known.1.symm.trans found⟩
    | removed _ =>
        obtain rfl := Option.some.inj change
        obtain ⟨content, file⟩ := known
        refine ⟨inDir, (project.wellFormed.name (Node.kindAt_eq_file.mp file)).2, ?_⟩
        exact fun kind found => ⟨content, Option.some.inj (found.symm.trans file)⟩
    | _ => cases change
  exact {
    named := project.marker
    short := by
      intro some
      obtain ⟨dir, member⟩ := List.exists_mem_of_ne_nil _ some
      exact (evidence member).2.1
    nodup := (stops_nodup project).sublist (course_changed config faults location start)
    inDir := fun dir member => (evidence member).1
    free := fun dir member => (evidence member).2.2
  }

end

end DirMarkers
