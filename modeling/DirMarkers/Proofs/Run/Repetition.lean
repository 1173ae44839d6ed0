import DirMarkers.Proofs.Run.Evidence
import DirMarkers.Proofs.Walk.Blindness

/-!
A second run. It reads the same rules and makes the same stops as the first one; at a stop where the
first run changed the marker there is nothing left to do, and at any other one the same thing
happens again.
-/

namespace DirMarkers

open Walk (Stop Finding)

section

variable {config : Config} {faults : Faults} {location : Location} {tree : Node} {stop : Stop}

/-- The same happens at a stop again if its marker is as it was. -/
theorem Walk.Stop.journal_of_unchanged {other : Node} (known : config.HasKnownMode)
    (project : Project config location tree) (again : Project config location other)
    (there : tree.kindAt (location ++ stop.dir) = some .dir)
    (otherThere : other.kindAt (location ++ stop.dir) = some .dir)
    (same : other.kindAt (location ++ stop.dir ++ [config.markerName])
      = tree.kindAt (location ++ stop.dir ++ [config.markerName]))
    : stop.journal config faults location other = stop.journal config faults location tree := by
  obtain ⟨dir, finding⟩ := stop
  cases finding with
  | judged isEmpty =>
      have hasMarker := Node.hasFileAt_congr same
      have settled := Marker.settle_tracks again project otherThere there same faults known isEmpty
        (tree.hasFileAt (location ++ dir ++ [config.markerName]))
      have told := settled.journal
      simp only [Stop.journal, hasMarker]
      rwa [Walk.notable_settle] at told
  | _ => rfl

/-- Nothing is left to do at a stop whose marker a run has changed. -/
theorem Walk.Stop.journal_of_changed {other : Node} {event : Event}
    (change : event.changed? = some stop.dir)
    (told : event ∈ stop.journal config faults location tree)
    (left : other.kindAt (location ++ stop.dir ++ [config.markerName]) = event.leaves config)
    : stop.journal config faults location other = [] := by
  obtain ⟨_, _, isEmpty, judged, duty⟩ :=
    Stop.marker_journal told (Event.marker?_of_changed? change)
  have settled : Marker.duty config.mode isEmpty
      (other.hasFileAt (location ++ stop.dir ++ [config.markerName])) = .ok .leave := by
    cases event with
    | created dir =>
        have present := Node.hasFileAt_eq_true.mpr ⟨_, left⟩
        obtain ⟨normal, empty, _⟩ := Marker.of_duty_create duty
        rw [normal, empty, present]
        rfl
    | removed dir =>
        rw [Node.hasFileAt_eq_false left]
        exact Marker.duty_leave_of_remove duty
    | _ => cases change
  simp only [Stop.journal, judged, Marker.settle, settled]
  rfl

end

-----------------------------------------------------------------------------------------
-- The same run again
-----------------------------------------------------------------------------------------

section

variable {config : Config} {location : Location} {tree : Node} (faults : Faults)

/-- What a run tells of when it is repeated: all but the changes. Witness: what it finds does not
depend on markers, and the markers that the first run did not change are as they were.
-/
theorem course_again (known : config.HasKnownMode) (project : Project config location tree)
    (plain : PlainIgnoreFiles config location tree)
    : course config faults (run config faults tree).tree location
      = (course config faults tree location).filter (·.changed?.isNone) := by
  have tracks := run_tracks faults known project
  have again := project.alike tracks.wellFormed tracks.alike
  obtain ⟨_, left, _⟩ := (course_applies faults project).replay project.wellFormed
  rw [← tracks.replayed] at left
  have loading : (Loading.load config faults tree config.root).journal.notable.filter
      (·.changed?.isNone) = (Loading.load config faults tree config.root).journal.notable := by
    have unchanged := List.filterMap_eq_nil_iff.mp
      (Loading.load_unchanged config faults tree config.root)
    exact List.filter_eq_self.mpr fun event member => by simp [unchanged event member]
  have walking : ∀ stop ∈ stops config faults tree,
      stop.journal config faults location (run config faults tree).tree
        = (stop.journal config faults location tree).filter (·.changed?.isNone) := by
    intro stop stopped
    have there := stops_inDir project stopped
    by_cases changed : stop.dir ∈ (course config faults tree location).changed
    · obtain ⟨event, told, change⟩ := changed_at_stop project stopped changed
      have alone := (Stop.marker_journal told (Event.marker?_of_changed? change)).2.1
      have happened := mem_course stopped told
      rw [stop.journal_of_changed change told (left event happened stop.dir change), alone]
      simp [change]
    · have same : (run config faults tree).tree.kindAt
            (location ++ stop.dir ++ [config.markerName])
          = tree.kindAt (location ++ stop.dir ++ [config.markerName]) := by
        refine tracks.frame _ fun dir member same => changed ?_
        obtain rfl : stop.dir = dir := by simpa using same
        exact member
      rw [stop.journal_of_unchanged known project again there (tracks.alike.dir there) same]
      refine (List.filter_eq_self.mpr fun event told => ?_).symm
      cases change : event.changed? with
      | none => rfl
      | some dir =>
          obtain ⟨rfl, _⟩ := Stop.marker_journal told (Event.marker?_of_changed? change)
          exact absurd
            (List.mem_filterMap.mpr ⟨event, mem_course stopped told, change⟩) changed
  rw [course, load_alike faults project tracks.wellFormed tracks.alike plain,
    stops_alike faults project tracks.wellFormed tracks.alike plain, course, List.filter_append,
    loading, Walk.journal, Walk.journal, List.filter_flatMap, List.flatMap_congr walking]

/-- A run that is repeated changes nothing. -/
theorem course_again_unchanged (known : config.HasKnownMode)
    (project : Project config location tree) (plain : PlainIgnoreFiles config location tree)
    : (course config faults (run config faults tree).tree location).changed = [] := by
  rw [course_again faults known project plain, Journal.changed, List.filterMap_filter,
    List.filterMap_eq_nil_iff]
  intro event _
  cases event.changed? <;> simp

end

/-- A run that finds nothing left to do after another one. -/
structure Repeats (marker : String) (first second : Step Bool) : Prop where
  answer : second.answer = first.answer
  tree : second.tree = first.tree
  created : (second.journal.summary marker).created = []
  removed : (second.journal.summary marker).removed = []
  skipped : (second.journal.summary marker).skipped = (first.journal.summary marker).skipped
  errors : (second.journal.summary marker).errors = (first.journal.summary marker).errors

/-- A second run of the normal mode repeats the failures of the first one and does nothing else.
Witness: its events are those of the first run that are no changes.
-/
theorem run_repeats {config : Config} {location : Location} {tree : Node} (faults : Faults)
    (normal : config.mode = .normal) (project : Project config location tree)
    (plain : PlainIgnoreFiles config location tree)
    : Repeats config.markerName (run config faults tree)
        (run config faults (run config faults tree).tree) := by
  have known := Config.HasKnownMode.of_normal normal
  have first := run_tracks faults known project
  have second := run_tracks faults known (project.alike first.wellFormed first.alike)
  have told := course_again faults known project plain
  have unchanged := course_again_unchanged faults known project plain
  have nothing := Journal.summary_of_unchanged config.markerName unchanged
  have sees {α : Type} (view : Event → Option α)
      (passes : ∀ (event : Event) (dir : DirPath), event.changed? = some dir → view event = none)
      : (course config faults (run config faults tree).tree location).filterMap view
        = (course config faults tree location).filterMap view := by
    rw [told, List.filterMap_filter]
    refine congrArg (List.filterMap · _) (funext fun event => ?_)
    cases change : event.changed? with
    | none => rfl
    | some dir => exact (passes event dir change).symm
  have skipped := sees Event.skipped? fun event dir change => by
    cases event <;> first | rfl | cases change
  have errors := sees (Event.failure? config.markerName) fun event dir change => by
    cases event <;> first | rfl | cases change
  have firstSummary := first.summary config.markerName
  have secondSummary := second.summary config.markerName
  exact {
    answer := by
      rw [first.answer, second.answer,
        isVacant_alike faults project first.wellFormed first.alike plain]
    tree := second.replayed.trans (Journal.replay_of_unchanged config location unchanged _)
    created := secondSummary ▸ nothing.1
    removed := secondSummary ▸ nothing.2
    skipped := by
      rw [firstSummary, secondSummary, Journal.summary, skipped]
      rfl
    errors := by
      rw [firstSummary, secondSummary, Journal.summary, errors]
      rfl
  }

/-- In a small project where a marker cannot be created, the second run fails in the same way. -/
theorem run_repeats_small
    : ∃ faults : Faults,
        Repeats ".gitkeep" (run smallConfig faults smallTree)
          (run smallConfig faults (run smallConfig faults smallTree).tree)
        ∧ ((run smallConfig faults smallTree).journal.summary ".gitkeep").removed
          = ["full/.gitkeep"]
        ∧ ((run smallConfig faults smallTree).journal.summary ".gitkeep").errors.length = 1 :=
  ⟨.ofList [((.write, ⟨.slash, ["p", "bare", ".gitkeep"]⟩), .accessDenied)],
    run_repeats _ rfl smallProject smallProject_plainIgnoreFiles,
    by decide +kernel, by decide +kernel⟩

end DirMarkers
