import DirMarkers.Proofs.Run.Correctness
import DirMarkers.Proofs.Run.Partition
import DirMarkers.Proofs.Run.Stopping

/-!
The changes of a real run of the normal mode. It creates the markers of the empty directories that
have nothing in that place and removes those of the other directories that have one, as far as the
paths of markers fit, and it leaves everything else alone.
-/

namespace DirMarkers

open Walk (Stop Reached IsEmpty Precedes)

/-- The names of some markers are told by which directories they are the markers of. -/
theorem ListsMarkers.unique {marker : String} {due : DirPath → Prop} {texts others : List String}
    (h : ListsMarkers marker due texts) (also : ListsMarkers marker due others)
    : texts = others := by
  obtain ⟨dirs, ordered, each, rfl⟩ := h
  obtain ⟨places, sorted, every, rfl⟩ := also
  rw [Walk.eq_of_precedes ordered sorted fun dir => (each dir).trans (every dir).symm]

/-- No marker is named if no directory is due. -/
theorem ListsMarkers.eq_nil {marker : String} {due : DirPath → Prop} {texts : List String}
    (h : ListsMarkers marker due texts) (none : ∀ dir, ¬ due dir)
    : texts = [] :=
  h.unique ⟨[], .nil, fun dir => iff_of_false List.not_mem_nil (none dir), rfl⟩

instance (config : Config) (dir : DirPath) : Decidable (config.MarkerFits dir) :=
  inferInstanceAs (Decidable (_ = _))

-----------------------------------------------------------------------------------------
-- Summaries name the changes in order
-----------------------------------------------------------------------------------------

section

variable {config : Config} {faults : Faults} {location : Location} {tree : Node}
  (rooted : Rooted config.root location tree) {due : DirPath → Prop}

include rooted

/-- The directories that a view of a summary sees come from the bottom up. -/
theorem run_named_ordered {view : Event → Option DirPath} (named : view ∈ Event.named)
    : ((run config faults tree).journal.filterMap view).Pairwise Precedes := by
  have passes (event : Event) (reading : event.isReading = true) : view event = none := by
    simp only [Event.named, List.mem_cons, List.not_mem_nil, or_false] at named
    rcases named with rfl | rfl | rfl | rfl
    all_goals cases event <;> first | rfl | cases reading
  have untold (event : Event) (silent : event.dir? = none) : view event = none := by
    cases seen : view event with
    | none => rfl
    | some dir => cases silent.symm.trans (Event.dir?_of_named named seen)
  rw [run_filterMap config faults tree view passes (untold _ rfl) (untold _ rfl)]
  exact Journal.pairwise_filterMap (record_ordered rooted) fun _ _ => Event.dir?_of_named named

/-- The markers of the directories that a view sees are listed from the bottom up. -/
theorem listsMarkers_view {view : Event → Option DirPath} (named : view ∈ Event.named)
    {told : DirPath → Event} (sees : ∀ {event dir}, view event = some dir ↔ event = told dir)
    (same : ∀ dir, told dir ∈ (run config faults tree).journal ↔ due dir)
    : ListsMarkers config.markerName due
        (((run config faults tree).journal.filterMap view).map
          (·.entryText config.markerName)) := by
  refine ⟨_, run_named_ordered rooted named, fun dir => ?_, rfl⟩
  rw [← same, Journal.mem_filterMap_view sees]

theorem listsMarkers_created
    (same : ∀ dir, .created dir ∈ (run config faults tree).journal ↔ due dir)
    : ListsMarkers config.markerName due
        ((run config faults tree).journal.summary config.markerName).created := by
  rw [Journal.summary_created]
  exact listsMarkers_view rooted (by simp [Event.named]) Event.created?_eq_some_iff same

theorem listsMarkers_removed
    (same : ∀ dir, .removed dir ∈ (run config faults tree).journal ↔ due dir)
    : ListsMarkers config.markerName due
        ((run config faults tree).journal.summary config.markerName).removed := by
  rw [Journal.summary_removed]
  exact listsMarkers_view rooted (by simp [Event.named]) Event.removed?_eq_some_iff same

end

-----------------------------------------------------------------------------------------
-- Which markers are changed
-----------------------------------------------------------------------------------------

section

variable {config : Config} {faults : Faults} {location : Location} {tree : Node}
  (normal : config.mode = .normal) (project : Project config location tree)

include project

/-- A directory is judged as what it is. -/
theorem judged_iff {dir : DirPath} {isEmpty : Bool}
    : ⟨dir, .judged isEmpty⟩ ∈ stops config faults tree
      ↔ Reached config faults (tables config faults tree) location tree dir
        ∧ (isEmpty = true
          ↔ IsEmpty config faults (tables config faults tree) location tree dir) := by
  classical
  have own {found : Bool} (stopped : ⟨dir, .judged found⟩ ∈ stops config faults tree)
      : found = decide (IsEmpty config faults (tables config faults tree) location tree dir) := by
    have judged : (dir, found) ∈ (stops config faults tree).filterMap Stop.judged? :=
      List.mem_filterMap.mpr ⟨_, stopped, rfl⟩
    rw [stops_judged faults project] at judged
    obtain ⟨place, _, same⟩ := List.mem_map.mp judged
    obtain ⟨rfl, rfl⟩ := Prod.mk.inj same
    rfl
  constructor
  · intro stopped
    refine ⟨(reached_iff_judged project).mpr ⟨isEmpty, stopped⟩, ?_⟩
    rw [own stopped, decide_eq_true_iff]
  · rintro ⟨reached, same⟩
    obtain ⟨found, stopped⟩ := (reached_iff_judged project).mp reached
    have equal : isEmpty = found := by
      rw [own stopped, Bool.eq_iff_iff, decide_eq_true_iff]
      exact same
    exact equal ▸ stopped

include normal

/-- What a run tells of a marker it tells at a stop that judged the directory. -/
theorem mem_run_marker {event : Event} {dir : DirPath} (about : event.marker? = some dir)
    : event ∈ (run config faults tree).journal
      ↔ ∃ isEmpty, ⟨dir, .judged isEmpty⟩ ∈ stops config faults tree
        ∧ event ∈ (⟨dir, .judged isEmpty⟩ : Stop).journal config faults location tree := by
  have notable : event.isNotable := by
    rw [Event.isNotable_eq, Event.dir?_of_marker? about]
    rfl
  have whole : event ∈ (run config faults tree).journal
      ↔ event ∈ course config faults tree location := by
    rw [← (run_tracks faults (.of_normal normal) project).journal, Journal.notable,
      List.mem_filter, and_iff_left notable]
  rw [whole]
  constructor
  · intro happened
    obtain ⟨⟨place, finding⟩, stopped, told⟩ := course_marker happened about
    obtain ⟨rfl, _, isEmpty, rfl, _⟩ := Stop.marker_journal told about
    exact ⟨isEmpty, stopped, told⟩
  · rintro ⟨isEmpty, stopped, told⟩
    exact mem_course stopped told

variable (real : config.dryRun = false) (spares : faults.SparesMarkers)

include real spares

/-- A run removes the markers of the reached directories that are not empty and have one, as far as
their paths fit.
-/
theorem mem_run_removed {dir : DirPath}
    : .removed dir ∈ (run config faults tree).journal
      ↔ Reached config faults (tables config faults tree) location tree dir
        ∧ ¬ IsEmpty config faults (tables config faults tree) location tree dir
        ∧ tree.hasFileAt (location ++ dir ++ [config.markerName]) = true
        ∧ config.MarkerFits dir := by
  rw [mem_run_marker normal project rfl]
  constructor
  · rintro ⟨isEmpty, stopped, told⟩
    have there := stops_inDir project stopped
    obtain ⟨_, _, _, same, duty⟩ := Stop.marker_journal told rfl
    cases same
    rw [normal] at duty
    have hasMarker := Marker.of_duty_remove duty
    obtain ⟨reached, empty⟩ := (judged_iff project).mp stopped
    refine ⟨reached, fun found => ?_, hasMarker, Stop.fits_of_changed project there rfl told rfl⟩
    rw [empty.mpr found, hasMarker] at duty
    cases duty
  · rintro ⟨reached, notEmpty, hasMarker, fits⟩
    have stopped : ⟨dir, .judged false⟩ ∈ stops config faults tree :=
      (judged_iff project).mpr ⟨reached, iff_of_false Bool.false_ne_true notEmpty⟩
    refine ⟨false, stopped, ?_⟩
    have removed := Marker.remove_succeeds project (stops_inDir project stopped) hasMarker
      (fits.refusal?_eq_none (spares _).2)
    rw [real, if_neg Bool.false_ne_true] at removed
    simp only [Stop.journal, Marker.settle, hasMarker, normal, Marker.duty, Marker.perform, removed]
    exact List.mem_singleton_self _

/-- A run creates the markers of the reached directories that are empty and have nothing in that
place, as far as their names and paths fit.
-/
theorem mem_run_created {dir : DirPath}
    : .created dir ∈ (run config faults tree).journal
      ↔ Reached config faults (tables config faults tree) location tree dir
        ∧ IsEmpty config faults (tables config faults tree) location tree dir
        ∧ tree.kindAt (location ++ dir ++ [config.markerName]) = none
        ∧ config.markerName.utf8ByteSize ≤ Tree.nameLimit ∧ config.MarkerFits dir := by
  rw [mem_run_marker normal project rfl]
  constructor
  · rintro ⟨isEmpty, stopped, told⟩
    have there := stops_inDir project stopped
    obtain ⟨_, _, _, same, duty⟩ := Stop.marker_journal told rfl
    cases same
    obtain ⟨missing, short⟩ := Stop.evidence project there told
    obtain ⟨reached, empty⟩ := (judged_iff project).mp stopped
    exact ⟨reached, empty.mp (Marker.of_duty_create duty).2.1, missing, short,
      Stop.fits_of_changed project there rfl told rfl⟩
  · rintro ⟨reached, empty, missing, short, fits⟩
    have stopped : ⟨dir, .judged true⟩ ∈ stops config faults tree :=
      (judged_iff project).mpr ⟨reached, iff_of_true rfl empty⟩
    have free : tree.HoldsNoMoreThanFile (location ++ dir ++ [config.markerName]) :=
      fun kind found => nomatch missing.symm.trans found
    refine ⟨true, stopped, ?_⟩
    have created := Marker.create_succeeds project (stops_inDir project stopped) short free
      (fits.refusal?_eq_none (spares _).1)
    rw [real, if_neg Bool.false_ne_true] at created
    simp only [Stop.journal, Marker.settle, Node.hasFileAt_eq_false missing, normal, Marker.duty,
      Marker.perform, created]
    exact List.mem_singleton_self _

end

-----------------------------------------------------------------------------------------
-- What is left
-----------------------------------------------------------------------------------------

/-- A run leaves the tree as it is if nothing is changed at its stops. -/
theorem tree_run_of_unchanged {config : Config} {faults : Faults} {location : Location}
    {tree : Node} (known : config.HasKnownMode) (project : Project config location tree)
    (unchanged : ∀ stop ∈ stops config faults tree,
      ∀ event ∈ stop.journal config faults location tree, event.changed? = none)
    : (run config faults tree).tree = tree := by
  rw [(run_tracks faults known project).replayed]
  refine Journal.replay_of_unchanged config location ?_ tree
  refine List.filterMap_eq_nil_iff.mpr fun event member => ?_
  cases change : event.changed? with
  | none => rfl
  | some dir =>
      obtain ⟨stop, stopped, told⟩ := course_marker member (Event.marker?_of_changed? change)
      cases change.symm.trans (unchanged stop stopped event told)

section

variable {config : Config} {faults : Faults} {location : Location} {tree : Node}
  (normal : config.mode = .normal) (project : Project config location tree)

include normal project

theorem kindAt_of_removed {dir : DirPath}
    (removed : .removed dir ∈ (run config faults tree).journal)
    : (run config faults tree).tree.kindAt (location ++ dir ++ [config.markerName]) = none := by
  obtain ⟨isEmpty, stopped, told⟩ := (mem_run_marker normal project rfl).mp removed
  exact kindAt_of_changed (.of_normal normal) project stopped told rfl

theorem hasFileAt_of_created {dir : DirPath}
    (created : .created dir ∈ (run config faults tree).journal)
    : (run config faults tree).tree.hasFileAt (location ++ dir ++ [config.markerName]) = true := by
  obtain ⟨isEmpty, stopped, told⟩ := (mem_run_marker normal project rfl).mp created
  exact Node.hasFileAt_eq_true.mpr
    ⟨_, kindAt_of_changed (.of_normal normal) project stopped told rfl⟩

/-- A run leaves every place alone but those of the markers that it creates or removes. -/
theorem kindAt_of_neither {place : Location}
    (neither : ∀ dir, place = location ++ dir ++ [config.markerName]
      → .created dir ∉ (run config faults tree).journal
        ∧ .removed dir ∉ (run config faults tree).journal)
    : (run config faults tree).tree.kindAt place = tree.kindAt place := by
  have tracks := run_tracks faults (.of_normal normal) project
  refine tracks.frame place fun dir changed same => ?_
  obtain ⟨event, happened, change⟩ := List.mem_filterMap.mp changed
  rw [← tracks.journal] at happened
  have told := (List.mem_filter.mp happened).1
  cases event with
  | created other =>
      cases change
      exact (neither dir (same)).1 told
  | removed other =>
      cases change
      exact (neither dir (same)).2 told
  | _ => cases change

end

end DirMarkers
