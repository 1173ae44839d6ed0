import DirMarkers.Proofs.Walk.Simulation

/-!
The course of a run, told from the tree at its start: what is reported while ignore files are read,
and then what happens at each stop of the walk.
-/

namespace DirMarkers

/-- Whether an event tells of the reading of ignore files. -/
def Event.isReading : Event → Bool
  | .unreadable .. | .rulesLoaded .. | .notDescended .. | .tableLoaded .. => true
  | _ => false

namespace Loading

/-- Whether a journal tells of nothing but the reading of ignore files. -/
def IsReading (journal : Journal) : Prop :=
  ∀ event ∈ journal, event.isReading = true

theorem IsReading.append {first next : Journal} (hf : IsReading first) (hn : IsReading next)
    : IsReading (first ++ next) := by
  intro event member
  rcases List.mem_append.mp member with before | after
  · exact hf event before
  · exact hn event after

theorem readRules_reading (faults : Faults) (top : Node) (path : PathName) (dir : DirPath)
    (source : Ignore.Source)
    : IsReading (readRules faults top path dir source).2 := by
  intro event member
  simp only [readRules] at member
  split at member
  · split at member
    · cases member
    · rw [List.mem_singleton.mp member]
      rfl
  · split at member
    · rw [List.mem_singleton.mp member]
      rfl
    · cases member
    · rw [List.mem_singleton.mp member]
      rfl

variable (config : Config) (faults : Faults) (top : Node)

theorem loadFiles_reading (path : PathName) (dir : DirPath)
    : IsReading (loadFiles config faults top path dir).journal := by
  rw [loadFiles]
  refine IsReading.append (readRules_reading faults top path dir .content) ?_
  split
  · exact readRules_reading faults top path dir .marker
  · exact fun _ member => nomatch member

mutual

theorem loadDir_reading (node : Node) (path : PathName) (dir : DirPath)
    : IsReading (loadDir config faults top node path dir).journal := by
  match node with
  | .file _ => exact fun _ member => nomatch member
  | .link _ => exact fun _ member => nomatch member
  | .dir entries =>
      have here := loadFiles_reading config faults top path dir
      simp only [loadDir]
      split
      · refine here.append fun event member => ?_
        rw [List.mem_singleton.mp member]
        rfl
      · exact here.append (loadEntries_reading entries path dir)

theorem loadEntries_reading (entries : List (String × Node)) (path : PathName) (dir : DirPath)
    : IsReading (loadEntries config faults top entries path dir).journal := by
  match entries with
  | [] => exact fun _ member => nomatch member
  | (name, node) :: rest =>
      simp only [loadEntries]
      refine IsReading.append ?_ (loadEntries_reading rest path dir)
      split
      · exact fun _ member => nomatch member
      · exact loadDir_reading node _ _

end

/-- What happens while ignore files are read is told as such. -/
theorem load_reading (root : PathName)
    : IsReading (load config faults top root).journal := by
  refine (loadDir_reading config faults top _ root .root).append fun event member => ?_
  rcases List.mem_cons.mp member with rfl | last
  · rfl
  · rw [List.mem_singleton.mp last]
    rfl

/-- Nothing that is told while ignore files are read is about a marker. -/
theorem load_unmarked (root : PathName)
    : ∀ event ∈ (load config faults top root).journal, event.marker? = none := by
  intro event member
  have reading := load_reading config faults top root event member
  cases event <;> first | rfl | cases reading

end Loading

/-- Nothing is changed while ignore files are read. -/
theorem Loading.load_unchanged (config : Config) (faults : Faults) (top : Node) (root : PathName)
    : (Loading.load config faults top root).journal.notable.changed = [] := by
  rw [Journal.changed, List.filterMap_eq_nil_iff]
  intro event member
  have unmarked := load_unmarked config faults top root event (List.mem_filter.mp member).1
  cases change : event.changed? with
  | none => rfl
  | some dir => cases unmarked.symm.trans (Event.marker?_of_changed? change)

-----------------------------------------------------------------------------------------
-- The whole run
-----------------------------------------------------------------------------------------

section

variable (config : Config) (faults : Faults) (tree : Node)

/-- The rules that a run goes by. -/
def tables : Ignore.Tables :=
  (Loading.load config faults tree config.root).tables

/-- The stops of the walk of a run. -/
def stops : List Walk.Stop :=
  Walk.survey config faults (tables config faults tree) (Loading.dirAt tree config.root) .root

/-- The notable events of a run. -/
def course (location : Location) : Journal :=
  (Loading.load config faults tree config.root).journal.notable
    ++ Walk.journal config faults location tree (stops config faults tree)

/-- A view of a course sees what it sees while ignore files are read, and then at each stop. -/
theorem course_filterMap {α : Type} (view : Event → Option α) (location : Location)
    : (course config faults tree location).filterMap view
      = (Loading.load config faults tree config.root).journal.notable.filterMap view
        ++ (stops config faults tree).flatMap fun stop =>
          (stop.journal config faults location tree).filterMap view := by
  rw [course, Walk.journal, List.filterMap_append, List.filterMap_flatMap]

end

theorem dirAt_eq_dir (top : Node) (path : PathName)
    : ∃ entries, Loading.dirAt top path = .dir entries := by
  rw [Loading.dirAt]
  split
  · exact ⟨_, rfl⟩
  · exact ⟨_, rfl⟩

theorem Project.dirAt_root {config : Config} {location : Location} {tree : Node}
    (project : Project config location tree)
    : tree.get? (location ++ DirPath.root) = some (Loading.dirAt tree config.root) :=
  project.rooted.get?_dirAt

/-- A run takes its course: it ends with an answer, tells of the expected events, and changes the
tree as they say. Witness: reading ignore files changes nothing, and the walk follows the survey.
-/
theorem run_tracks {config : Config} {location : Location} {tree : Node} (faults : Faults)
    (known : config.HasKnownMode) (project : Project config location tree)
    : Tracks config location tree (run config faults tree)
        (Walk.isVacant config faults (tables config faults tree)
          (Loading.dirAt tree config.root) .root)
        (course config faults tree location) := by
  have there := project.dirAt_root
  have loaded : Journal.notable
      (.loading :: (Loading.load config faults tree config.root).journal ++ [.walking])
        = (Loading.load config faults tree config.root).journal.notable := by
    simp [Event.isNotable]
  have walked := Walk.visit_follows faults (tables config faults tree) known project
    (Loading.dirAt tree config.root) project there there
  rw [PathName.under_root] at walked
  exact walked.after loaded (Loading.load_unchanged config faults tree config.root)

end DirMarkers
