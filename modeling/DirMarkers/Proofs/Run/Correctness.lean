import DirMarkers.Proofs.Run.Success
import DirMarkers.Proofs.Walk.Reach

/-!
Correctness of a run of the normal mode in which no marker operation fails: afterwards a reached
directory has a marker if and only if it is empty, and only what this takes has been done.
-/

namespace DirMarkers

open Walk (Stop Reached IsEmpty postOrder Precedes)

/-- Whether a marker is to be created, rather than removed. -/
def Attempt.isCreation : Attempt → Bool
  | .create _ => true
  | .remove _ => false

/-- The marker that is created, or removed, when an attempt succeeds. -/
def Attempt.marker? (marker : String) (creation : Bool) (attempt : Attempt) : Option String :=
  if attempt.isCreation = creation then some (attempt.dir.entryText marker) else none

/-- If no attempt fails, a summary has the markers of all attempts. -/
theorem Journal.summary_of_success (marker : String) {journal : Journal}
    (success : ∀ event ∈ journal, event.failed? = none)
    : (journal.summary marker).created = journal.attempts.filterMap (Attempt.marker? marker true)
      ∧ (journal.summary marker).removed
        = journal.attempts.filterMap (Attempt.marker? marker false) := by
  rw [Journal.attempts, List.filterMap_filterMap, List.filterMap_filterMap]
  constructor
  · refine List.filterMap_congr fun event member => ?_
    have succeeded := success event member
    cases event <;> first | rfl | cases succeeded
  · refine List.filterMap_congr fun event member => ?_
    have succeeded := success event member
    cases event <;> first | rfl | cases succeeded

-----------------------------------------------------------------------------------------
-- Attempts at judged directories
-----------------------------------------------------------------------------------------

/-- What is attempted at a directory with the given judgement. -/
def Attempt.onJudgement (config : Config) (location : Location) (start : Node)
    (judgement : DirPath × Bool) : List Attempt :=
  Stop.attempts config location start ⟨judgement.1, .judged judgement.2⟩

section

variable (config : Config) (location : Location) (start : Node)

theorem Walk.Stop.of_judged? {stop : Stop} {dir : DirPath} {isEmpty : Bool}
    (judged : stop.judged? = some (dir, isEmpty))
    : stop = ⟨dir, .judged isEmpty⟩ := by
  obtain ⟨place, finding⟩ := stop
  cases finding with
  | judged _ => cases judged; rfl
  | _ => cases judged

theorem attempts_of_judgements (stops : List Stop)
    : stops.flatMap (Stop.attempts config location start)
      = (stops.filterMap Stop.judged?).flatMap (Attempt.onJudgement config location start) := by
  induction stops with
  | nil => rfl
  | cons stop rest ih =>
      obtain ⟨dir, finding⟩ := stop
      rw [List.flatMap_cons, ih]
      cases finding <;> rfl

/-- A marker is created, or removed, where it does not tell what was found. -/
theorem Attempt.markers_onJudgement (dir : DirPath) (creation isEmpty : Bool)
    : (Attempt.onJudgement config location start (dir, isEmpty)).filterMap
        (Attempt.marker? config.markerName creation)
      = if isEmpty = creation
          ∧ start.hasFileAt (location ++ dir ++ [config.markerName]) = !creation
        then [dir.entryText config.markerName] else [] := by
  simp only [Attempt.onJudgement, Stop.attempts]
  cases start.hasFileAt (location ++ dir ++ [config.markerName]) <;> cases isEmpty <;>
    cases creation <;> rfl

open Classical in
/-- The markers that are created, or removed, when directories are judged one after another. -/
theorem markers_of_judgements (creation : Bool) (reached empty : DirPath → Prop)
    (dirs : List DirPath)
    : ((dirs.filter fun dir => decide (reached dir)).flatMap fun dir =>
          Attempt.onJudgement config location start (dir, decide (empty dir))).filterMap
            (Attempt.marker? config.markerName creation)
      = (dirs.filter fun dir => decide (reached dir ∧ decide (empty dir) = creation
          ∧ start.hasFileAt (location ++ dir ++ [config.markerName]) = !creation)).map
            (·.entryText config.markerName) := by
  induction dirs with
  | nil => rfl
  | cons dir rest ih =>
      simp only [List.filter_cons, decide_eq_true_eq]
      by_cases isReached : reached dir
      · rw [if_pos isReached, List.flatMap_cons, List.filterMap_append, ih,
          Attempt.markers_onJudgement]
        split
        · next due =>
          rw [if_pos ⟨isReached, due⟩]
          rfl
        · next settled =>
          rw [if_neg fun due => settled due.2]
          rfl
      · rw [if_neg isReached, if_neg fun due => isReached due.1]
        exact ih

end

open Classical in
/-- The stops of a run judge the reached directories, in the order of all directories. -/
theorem stops_judged {config : Config} {location : Location} {tree : Node} (faults : Faults)
    (project : Project config location tree)
    : (stops config faults tree).filterMap Stop.judged?
      = ((postOrder (Loading.dirAt tree config.root) .root).filter fun dir =>
            decide (Reached config faults (tables config faults tree) location tree dir)).map
          fun dir =>
            (dir, decide (IsEmpty config faults (tables config faults tree) location tree dir)) :=
  Walk.survey_judged faults (tables config faults tree) project
    (Loading.dirAt tree config.root) project.dirAt_root
    fun _ unbarred => .root_of_unbarred project unbarred

section

variable {config : Config} {faults : Faults} {location : Location} {tree : Node}
  (normal : config.mode = .normal) (real : config.dryRun = false)
  (project : Project config location tree) {dir : DirPath} {isEmpty : Bool}

include normal real project

/-- A run of the normal mode leaves a marker in a judged directory if and only if it was found
empty, unless the marker could not be created or removed.
-/
theorem hasFileAt_of_settled (stopped : ⟨dir, .judged isEmpty⟩ ∈ stops config faults tree)
    (success : ∀ event ∈ Stop.journal config faults location tree ⟨dir, .judged isEmpty⟩,
      event.failed? = none)
    : (run config faults tree).tree.hasFileAt (location ++ dir ++ [config.markerName])
      = isEmpty := by
  have known := Config.HasKnownMode.of_normal normal
  obtain ⟨duty, decided⟩ := Marker.exists_duty known isEmpty
    (tree.hasFileAt (location ++ dir ++ [config.markerName]))
  rw [hasFileAt_of_duty known real project stopped decided success]
  rw [normal] at decided
  exact Duty.leavesMarker_of_normal decided

/-- After a run in which nothing fails, a judged directory has a marker if and only if it was found
empty.
-/
theorem hasFileAt_of_judged
    (success : ∀ event ∈ (run config faults tree).journal, event.failed? = none)
    (stopped : ⟨dir, .judged isEmpty⟩ ∈ stops config faults tree)
    : (run config faults tree).tree.hasFileAt (location ++ dir ++ [config.markerName])
      = isEmpty := by
  refine hasFileAt_of_settled normal real project stopped fun event told => ?_
  have happened := mem_course stopped told
  rw [← (run_tracks faults (.of_normal normal) project).journal] at happened
  exact success event (List.mem_filter.mp happened).1

end

-----------------------------------------------------------------------------------------
-- Correctness
-----------------------------------------------------------------------------------------

/-- Some texts name the markers of the directories that have a property, and of no others, in the
order of the directories.
-/
def ListsMarkers (marker : String) (due : DirPath → Prop) (texts : List String) : Prop :=
  ∃ dirs : List DirPath, dirs.Pairwise Precedes ∧ (∀ dir, dir ∈ dirs ↔ due dir)
    ∧ texts = dirs.map (·.entryText marker)

/-- What a run of the normal mode is meant to do. Afterwards a reached directory has a marker if and
only if it is empty; the created markers are those of the empty directories that had none, and the
removed markers those of the other directories that had one. Nothing else changes.
-/
structure Correct (config : Config) (faults : Faults) (location : Location) (before : Node)
    (done : Step Bool) : Prop where
  answer
    : ∃ isEmpty, done.answer = .ok isEmpty
      ∧ (isEmpty = true
        ↔ IsEmpty config faults (tables config faults before) location before .root)
  marked
    : ∀ dir, Reached config faults (tables config faults before) location before dir
        → ((∃ content,
              done.tree.get? (location ++ dir ++ [config.markerName]) = some (.file content))
            ↔ IsEmpty config faults (tables config faults before) location before dir)
  created
    : ListsMarkers config.markerName (fun dir =>
          Reached config faults (tables config faults before) location before dir
            ∧ IsEmpty config faults (tables config faults before) location before dir
            ∧ before.hasFileAt (location ++ dir ++ [config.markerName]) = false)
        (done.journal.summary config.markerName).created
  removed
    : ListsMarkers config.markerName (fun dir =>
          Reached config faults (tables config faults before) location before dir
            ∧ ¬ IsEmpty config faults (tables config faults before) location before dir
            ∧ before.hasFileAt (location ++ dir ++ [config.markerName]) = true)
        (done.journal.summary config.markerName).removed
  accounts
    : (done.journal.summary config.markerName).Accounts config location before done.tree

section

variable {config : Config} {faults : Faults} {location : Location} {tree : Node}
  (project : Project config location tree)

include project

/-- Every reached directory is among those of the project. -/
theorem Walk.Reached.mem_postOrder {dir : DirPath}
    (reached : Reached config faults (tables config faults tree) location tree dir)
    : dir ∈ postOrder (Loading.dirAt tree config.root) .root := by
  have there := project.dirAt_root
  refine (Walk.mem_postOrder (project.wellFormed.at there)).mpr ⟨dir, rfl, ?_⟩
  rw [← Node.kindAt_append there]
  simpa [DirPath.root] using reached.isDir project

open Classical in
/-- Every reached directory is judged at a stop. -/
theorem stop_of_reached {dir : DirPath}
    (reached : Reached config faults (tables config faults tree) location tree dir)
    : ⟨dir, .judged (decide
          (IsEmpty config faults (tables config faults tree) location tree dir))⟩
        ∈ stops config faults tree := by
  have found
      : (dir, decide (IsEmpty config faults (tables config faults tree) location tree dir))
        ∈ (stops config faults tree).filterMap Stop.judged? := by
    rw [stops_judged faults project]
    have member := reached.mem_postOrder project
    exact List.mem_map.mpr ⟨dir, List.mem_filter.mpr ⟨member, decide_eq_true reached⟩, rfl⟩
  obtain ⟨stop, stopped, judgement⟩ := List.mem_filterMap.mp found
  exact Stop.of_judged? judgement ▸ stopped

/-- The markers of some of the reached directories, picked in the order of all directories. -/
theorem listsMarkers_filter {due : DirPath → Prop} {picked : DirPath → Bool}
    (same : ∀ dir, picked dir = true ↔ due dir)
    (reached : ∀ dir, due dir
      → Reached config faults (tables config faults tree) location tree dir)
    : ListsMarkers config.markerName due
        (((postOrder (Loading.dirAt tree config.root) .root).filter picked).map
          (·.entryText config.markerName)) := by
  have ordered := Walk.postOrder_ordered (project.wellFormed.at project.dirAt_root) .root
  refine ⟨_, ordered.filter _, fun dir => ?_, rfl⟩
  rw [List.mem_filter, same]
  exact and_iff_right_of_imp fun wanted => (reached dir wanted).mem_postOrder project

open Classical in
/-- A run of the normal mode in which no marker operation fails does what it is meant to do.
Witness: its stops judge the reached directories, and what is attempted at them succeeds.
-/
theorem run_correct (normal : config.mode = .normal) (real : config.dryRun = false)
    (success : ∀ event ∈ (run config faults tree).journal, event.failed? = none)
    : Correct config faults location tree (run config faults tree) := by
  have tracks := run_tracks faults (.of_normal normal) project
  have attempts := run_attempts faults project normal real
  rw [attempts_of_judgements, stops_judged faults project, List.flatMap_map] at attempts
  obtain ⟨created, removed⟩ := Journal.summary_of_success config.markerName success
  rw [attempts, markers_of_judgements] at created removed
  exact {
    answer := by
      refine ⟨_, tracks.answer, ?_⟩
      exact Walk.isVacant_iff project (Loading.dirAt tree config.root) project.dirAt_root
        fun _ unbarred => .root_of_unbarred project unbarred
    marked := by
      intro dir reached
      have stopped := stop_of_reached project reached
      have after := hasFileAt_of_judged normal real project success stopped
      have holds : (∃ content, (run config faults tree).tree.get?
            (location ++ dir ++ [config.markerName]) = some (.file content))
          ↔ (run config faults tree).tree.hasFileAt
              (location ++ dir ++ [config.markerName]) = true :=
        (exists_congr fun _ => Node.kindAt_eq_file.symm).trans Node.hasFileAt_eq_true.symm
      rw [holds, after, decide_eq_true_iff]
    created := by
      rw [created]
      exact listsMarkers_filter project (fun dir => by simp) fun dir due => due.1
    removed := by
      rw [removed]
      exact listsMarkers_filter project (fun dir => by simp) fun dir due => due.1
    accounts := by
      rw [tracks.summary, tracks.replayed]
      exact course_accounts faults project
  }

end

/-- In a small project, nothing fails: the bare directory has a marker afterwards, and the full one
has none.
-/
theorem run_correct_small
    : Correct smallConfig .none ["p"] smallTree (run smallConfig .none smallTree)
      ∧ ((run smallConfig .none smallTree).journal.summary ".gitkeep").created
        = ["bare/.gitkeep"] :=
  ⟨run_correct smallProject rfl rfl (by decide +kernel), by decide +kernel⟩

end DirMarkers
