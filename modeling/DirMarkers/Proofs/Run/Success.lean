import DirMarkers.Proofs.Run.Attempt
import DirMarkers.Proofs.Run.Ledger
import DirMarkers.Proofs.Run.Repetition

/-!
Where a marker operation succeeds, and what is left in the place of a marker. An operation can fail
for four reasons only: a fault, a path or a name that is too long, or a directory in that place.
-/

namespace DirMarkers

open Walk (Stop)

/-- No call on a marker fails for a reason outside the tree. -/
def Faults.SparesMarkers (faults : Faults) : Prop :=
  ∀ path, faults .write path = Option.none ∧ faults .remove path = Option.none

theorem Faults.none_sparesMarkers : Faults.none.SparesMarkers :=
  fun _ => ⟨rfl, rfl⟩

/-- The path of the marker of a directory is short enough for a call. -/
def Config.MarkerFits (config : Config) (dir : DirPath) : Prop :=
  Tree.isTooLong ((config.root.under dir).child config.markerName).text = false

/-- Whether there is a marker once a duty is done. -/
def Duty.leavesMarker (hasMarker : Bool) : Duty → Bool
  | .create => true
  | .remove => false
  | _ => hasMarker

/-- The duties of the normal mode leave a marker in an empty directory, and in no other. -/
theorem Duty.leavesMarker_of_normal {isEmpty hasMarker : Bool} {duty : Duty}
    (decided : Marker.duty .normal isEmpty hasMarker = .ok duty)
    : duty.leavesMarker hasMarker = isEmpty := by
  cases isEmpty <;> cases hasMarker <;> cases decided <;> rfl

section

variable {config : Config} {faults : Faults} {dir : DirPath} {call : Call}

/-- A call on a marker whose path fits is not refused unless it fails for another reason. -/
theorem Config.MarkerFits.refusal?_eq_none (fits : config.MarkerFits dir)
    (allowed : faults call ((config.root.under dir).child config.markerName) = none)
    : faults.refusal? call ((config.root.under dir).child config.markerName) = none := by
  rw [Config.MarkerFits] at fits
  rw [Faults.refusal?, allowed, fits]
  rfl

/-- The path of a marker fits if a call on it is not refused. -/
theorem Config.MarkerFits.of_refusal?_eq_none
    (allowed : faults.refusal? call ((config.root.under dir).child config.markerName) = none)
    : config.MarkerFits dir := by
  rw [Faults.refusal?] at allowed
  split at allowed
  · cases allowed
  · split at allowed
    · cases allowed
    · next short => exact Bool.eq_false_iff.mpr short

end

-----------------------------------------------------------------------------------------
-- Operations that succeed
-----------------------------------------------------------------------------------------

section

variable {config : Config} {faults : Faults} {location : Location} {start : Node}
  {dir : DirPath} (project : Project config location start)
  (there : start.kindAt (location ++ dir) = some .dir)

include project there

/-- A marker is created only if the call is not refused. -/
theorem Marker.allowed_of_created
    (created : .created dir
      ∈ (Marker.create config faults (config.root.under dir) dir start).journal)
    : faults.refusal? .write ((config.root.under dir).child config.markerName) = none := by
  obtain ⟨_, listed⟩ := Node.kindAt_eq_dir.mp there
  have write := project.rooted.write_eq listed project.marker (project.notLink dir) faults
    config.markerContent.toUTF8
  simp only [create, PathName.join_entry _ project.marker,
    project.crash?_marker there faults .write, write] at created
  cases allowed : faults.refusal? .write ((config.root.under dir).child config.markerName) with
  | none => rfl
  | some error =>
      rw [allowed] at created
      split at created
      · cases List.mem_singleton.mp created
      · cases List.mem_singleton.mp created

/-- A marker is removed only if the call is not refused. -/
theorem Marker.allowed_of_removed
    (removed : .removed dir
      ∈ (Marker.remove config faults (config.root.under dir) dir start).journal)
    : faults.refusal? .remove ((config.root.under dir).child config.markerName) = none
      ∧ config.dryRun = false := by
  obtain ⟨_, listed⟩ := Node.kindAt_eq_dir.mp there
  have removal := project.rooted.remove_eq listed project.marker (project.notLink dir) faults
  simp only [remove, PathName.join_entry _ project.marker,
    project.crash?_marker there faults .remove, removal] at removed
  split at removed
  · cases List.mem_singleton.mp removed
  · next real =>
    refine ⟨?_, Bool.eq_false_iff.mpr real⟩
    cases allowed : faults.refusal? .remove ((config.root.under dir).child config.markerName) with
    | none => rfl
    | some error =>
        rw [allowed] at removed
        cases List.mem_singleton.mp removed

/-- A marker is changed at a stop only where its path fits. -/
theorem Walk.Stop.fits_of_changed {stop : Stop} (placed : stop.dir = dir) {event : Event}
    (told : event ∈ stop.journal config faults location start) (change : event.changed? = some dir)
    : config.MarkerFits dir := by
  obtain rfl := placed
  obtain ⟨_, _, isEmpty, judged, duty⟩ :=
    Stop.marker_journal told (Event.marker?_of_changed? change)
  simp only [Stop.journal, judged, Marker.settle, duty] at told
  cases event with
  | created place =>
      obtain rfl := Option.some.inj change
      exact .of_refusal?_eq_none (Marker.allowed_of_created project there told)
  | removed place =>
      obtain rfl := Option.some.inj change
      exact .of_refusal?_eq_none (Marker.allowed_of_removed project there told).1
  | _ => cases change

/-- A file in the place of a marker is removed, or this is announced, if the call is not refused. -/
theorem Marker.remove_succeeds
    (present : start.hasFileAt (location ++ dir ++ [config.markerName]) = true)
    (allowed : faults.refusal? .remove ((config.root.under dir).child config.markerName) = none)
    : (Marker.remove config faults (config.root.under dir) dir start).journal
      = [if config.dryRun then .wouldRemove dir else .removed dir] := by
  obtain ⟨_, listed⟩ := Node.kindAt_eq_dir.mp there
  obtain ⟨content, file⟩ := Node.hasFileAt_eq_true.mp present
  have short := (project.wellFormed.name (Node.kindAt_eq_file.mp file)).2
  have removed := project.rooted.remove_eq listed project.marker (project.notLink dir) faults
  simp only [allowed, if_neg (Nat.not_lt.mpr short), file] at removed
  simp only [remove, PathName.join_entry _ project.marker,
    project.crash?_marker there faults .remove, removed]
  cases config.dryRun <;> rfl

section

variable (short : config.markerName.utf8ByteSize ≤ Tree.nameLimit)
  (free : start.HoldsNoMoreThanFile (location ++ dir ++ [config.markerName]))

include short free

/-- A marker is created where there is no more than a file, or this is announced, if the call is not
refused.
-/
theorem Marker.create_succeeds
    (allowed : faults.refusal? .write ((config.root.under dir).child config.markerName) = none)
    : (Marker.create config faults (config.root.under dir) dir start).journal
      = [if config.dryRun then .wouldCreate dir else .created dir] := by
  obtain ⟨_, listed⟩ := Node.kindAt_eq_dir.mp there
  have write := project.rooted.write_eq listed project.marker (project.notLink dir) faults
    config.markerContent.toUTF8
  simp only [allowed, if_neg (Nat.not_lt.mpr short)] at write
  split at write
  · next isDir => exact absurd isDir free.notDir
  · simp only [create, PathName.join_entry _ project.marker,
      project.crash?_marker there faults .write, write]
    cases config.dryRun <;> rfl

/-- Nothing fails at a stop where there is no more than a file in the place of the marker, if no
call on the marker is refused.
-/
theorem Walk.Stop.journal_succeeds {stop : Stop} (placed : stop.dir = dir)
    (allowed : ∀ call, call = .write ∨ call = .remove
      → faults.refusal? call ((config.root.under dir).child config.markerName) = none)
    : ∀ event ∈ stop.journal config faults location start, event.failed? = none := by
  obtain ⟨place, finding⟩ := stop
  obtain rfl : place = dir := placed
  intro event member
  cases finding with
  | judged isEmpty =>
      simp only [journal, Marker.settle] at member
      cases decided : Marker.duty config.mode isEmpty
          (start.hasFileAt (location ++ place ++ [config.markerName])) with
      | error crash =>
          rw [decided] at member
          cases member
      | ok duty =>
          simp only [decided] at member
          cases duty with
          | create =>
              rw [Marker.perform, Marker.create_succeeds project there short free
                (allowed _ (.inl rfl))] at member
              rw [List.mem_singleton.mp member]
              cases config.dryRun <;> rfl
          | remove =>
              rw [Marker.perform, Marker.remove_succeeds project there
                (Marker.of_duty_remove decided) (allowed _ (.inr rfl))] at member
              rw [List.mem_singleton.mp member]
              cases config.dryRun <;> rfl
          | leave => cases member
          | reportMissing =>
              rw [List.mem_singleton.mp member]
              rfl
          | reportSpare =>
              rw [List.mem_singleton.mp member]
              rfl
  | _ =>
      rw [List.mem_singleton.mp member]
      rfl

end

end

section

variable (config : Config) (faults : Faults) (location : Location) (start : Node)

/-- Either a stop changes its own marker, or nothing at all. -/
theorem Walk.Stop.unchanged_or_changed (stop : Stop)
    : (∀ event ∈ stop.journal config faults location start, event.changed? = none)
      ∨ ∃ event ∈ stop.journal config faults location start, event.changed? = some stop.dir := by
  by_cases unchanged : ∀ event ∈ stop.journal config faults location start, event.changed? = none
  · exact .inl unchanged
  · push Not at unchanged
    obtain ⟨event, told, changes⟩ := unchanged
    obtain ⟨dir, change⟩ := Option.ne_none_iff_exists'.mp changes
    obtain ⟨rfl, _⟩ := Stop.marker_journal told (Event.marker?_of_changed? change)
    exact .inr ⟨event, told, change⟩

/-- No failure is told of at a judged stop where no call on the marker fails. -/
theorem Walk.Stop.failures_of_success {dir : DirPath} {isEmpty : Bool}
    (success : ∀ event ∈ Stop.journal config faults location start ⟨dir, .judged isEmpty⟩,
      event.failed? = none)
    : (Stop.journal config faults location start ⟨dir, .judged isEmpty⟩).filterMap
        (Event.failure? config.markerName) = [] := by
  refine List.filterMap_eq_nil_iff.mpr fun event told => ?_
  have succeeded := success event told
  have about : event.marker? = some dir := marker?_settle told
  cases event with
  | createFailed _ _ => cases succeeded
  | removeFailed _ _ => cases succeeded
  | unreadable _ _ _ _ => cases about
  | unlistable _ _ => cases about
  | _ => rfl

end

-----------------------------------------------------------------------------------------
-- What a run leaves in the place of a marker
-----------------------------------------------------------------------------------------

section

variable {config : Config} {faults : Faults} {location : Location} {tree : Node}
  (known : config.HasKnownMode) (project : Project config location tree) {stop : Stop}
  (stopped : stop ∈ stops config faults tree)

include known project stopped

/-- A run leaves in the place of a marker what the change at its stop leaves there. -/
theorem kindAt_of_changed {event : Event} (told : event ∈ stop.journal config faults location tree)
    (change : event.changed? = some stop.dir)
    : (run config faults tree).tree.kindAt (location ++ stop.dir ++ [config.markerName])
      = event.leaves config := by
  obtain ⟨_, left, _⟩ := (course_applies faults project).replay project.wellFormed
  rw [(run_tracks faults known project).replayed]
  exact left event (mem_course stopped told) stop.dir change

/-- A run leaves the place of a marker alone if no change is made at its stop. -/
theorem kindAt_of_unchanged
    (unchanged : ∀ event ∈ stop.journal config faults location tree, event.changed? = none)
    : (run config faults tree).tree.kindAt (location ++ stop.dir ++ [config.markerName])
      = tree.kindAt (location ++ stop.dir ++ [config.markerName]) := by
  refine (run_tracks faults known project).frame _ fun dir changed same => ?_
  obtain rfl : stop.dir = dir := by simpa using same
  obtain ⟨event, told, change⟩ := changed_at_stop project stopped changed
  cases change.symm.trans (unchanged event told)

end

/-- A run leaves alone what is not in the place of the marker of one of its stops. -/
theorem kindAt_elsewhere {config : Config} {faults : Faults} {location : Location} {tree : Node}
    (known : config.HasKnownMode) (project : Project config location tree) {place : Location}
    (elsewhere : ∀ stop ∈ stops config faults tree,
      place ≠ location ++ stop.dir ++ [config.markerName])
    : (run config faults tree).tree.kindAt place = tree.kindAt place := by
  refine (run_tracks faults known project).frame place fun dir changed => ?_
  have member := (course_changed config faults location tree).subset changed
  obtain ⟨stop, stopped, rfl⟩ := List.mem_map.mp member
  exact elsewhere stop stopped

/-- Runs leave the same in the place of a marker if the same was there and they stop there. -/
theorem kindAt_run_congr {config : Config} {faults : Faults} {location : Location}
    {tree other : Node} {stop : Stop} (project : Project config location tree)
    (again : Project config location other) (stopped : stop ∈ stops config faults tree)
    (also : stop ∈ stops config faults other) (known : config.HasKnownMode)
    (same : other.kindAt (location ++ stop.dir ++ [config.markerName])
      = tree.kindAt (location ++ stop.dir ++ [config.markerName]))
    : (run config faults other).tree.kindAt (location ++ stop.dir ++ [config.markerName])
      = (run config faults tree).tree.kindAt (location ++ stop.dir ++ [config.markerName]) := by
  have told : stop.journal config faults location other
      = stop.journal config faults location tree :=
    stop.journal_of_unchanged known project again (stops_inDir project stopped)
      (stops_inDir again also) same
  rcases stop.unchanged_or_changed config faults location tree
    with unchanged | ⟨event, happened, change⟩
  · rw [kindAt_of_unchanged known project stopped unchanged,
      kindAt_of_unchanged known again also (told ▸ unchanged), same]
  · rw [kindAt_of_changed known project stopped happened change,
      kindAt_of_changed known again also (told ▸ happened) change]

section

variable {config : Config} {faults : Faults} {location : Location} {tree : Node}
  (known : config.HasKnownMode) (real : config.dryRun = false)
  (project : Project config location tree)

include known real project

/-- After a run, there is a marker in a judged directory if and only if the duty done there leaves
one. Witness: the attempt to create or to remove the marker succeeded; without one, the marker is as
it was.
-/
theorem hasFileAt_of_duty {dir : DirPath} {isEmpty : Bool} {duty : Duty}
    (stopped : ⟨dir, .judged isEmpty⟩ ∈ stops config faults tree)
    (decided : Marker.duty config.mode isEmpty
      (tree.hasFileAt (location ++ dir ++ [config.markerName])) = .ok duty)
    (success : ∀ event ∈ Stop.journal config faults location tree ⟨dir, .judged isEmpty⟩,
      event.failed? = none)
    : (run config faults tree).tree.hasFileAt (location ++ dir ++ [config.markerName])
      = duty.leavesMarker (tree.hasFileAt (location ++ dir ++ [config.markerName])) := by
  have there := stops_inDir project stopped
  have settled : Stop.journal config faults location tree ⟨dir, .judged isEmpty⟩
      = (Marker.perform config faults (config.root.under dir) dir tree duty).journal := by
    simp only [Stop.journal, Marker.settle, decided]
  have still (unchanged : ∀ event ∈ Stop.journal config faults location tree ⟨dir, .judged isEmpty⟩,
        event.changed? = none) :=
    Node.hasFileAt_congr (kindAt_of_unchanged known project stopped unchanged)
  cases duty with
  | create =>
      have attempts := Marker.create_attempt project there faults real
      have due : Attempt.create dir ∈ [Attempt.create dir] := List.mem_singleton_self _
      rw [← attempts] at due
      obtain ⟨event, told, attempt⟩ := List.mem_filterMap.mp due
      have happened := settled ▸ told
      cases event with
      | created _ =>
          obtain rfl : _ = dir := by simpa [Event.attempt?] using attempt
          exact Node.hasFileAt_eq_true.mpr
            ⟨_, kindAt_of_changed known project stopped happened rfl⟩
      | createFailed _ _ => cases success _ happened
      | _ => cases attempt
  | remove =>
      have attempts := Marker.remove_attempt project there faults real
      have due : Attempt.remove dir ∈ [Attempt.remove dir] := List.mem_singleton_self _
      rw [← attempts] at due
      obtain ⟨event, told, attempt⟩ := List.mem_filterMap.mp due
      have happened := settled ▸ told
      cases event with
      | removed _ =>
          obtain rfl : _ = dir := by simpa [Event.attempt?] using attempt
          exact Node.hasFileAt_eq_false (kindAt_of_changed known project stopped happened rfl)
      | removeFailed _ _ => cases success _ happened
      | _ => cases attempt
  | leave => exact still (settled ▸ fun event member => absurd member List.not_mem_nil)
  | reportMissing =>
      refine still (settled ▸ fun event member => ?_)
      rw [List.mem_singleton.mp member]
      rfl
  | reportSpare =>
      refine still (settled ▸ fun event member => ?_)
      rw [List.mem_singleton.mp member]
      rfl

end

end DirMarkers
