import DirMarkers.Proofs.Run.Attempt

/-!
Real runs, dry runs and checks of one tree. They read the same rules and make the same stops; at
each stop the dry run announces what the real run attempts, and the check reports the directory.
-/

namespace DirMarkers

open Walk (Stop Finding)

/-- A configuration that does something else about markers. -/
def Config.acting (config : Config) (mode : Mode) (dryRun : Bool) : Config :=
  { config with mode := mode, dryRun := dryRun }

theorem Config.hasKnownMode_clean (config : Config) : (config.acting .clean false).HasKnownMode :=
  fun _ unknown => nomatch unknown

section

variable (config : Config) (mode : Mode) (dryRun : Bool) (faults : Faults)

mutual

theorem loadDir_acting (top node : Node) (path : PathName) (dir : DirPath)
    : Loading.loadDir (config.acting mode dryRun) faults top node path dir
      = Loading.loadDir config faults top node path dir := by
  match node with
  | .file _ => rfl
  | .link _ => rfl
  | .dir entries =>
      rw [Loading.loadDir, Loading.loadDir, loadEntries_acting top entries path dir]
      rfl

theorem loadEntries_acting (top : Node) (entries : List (String × Node)) (path : PathName)
    (dir : DirPath)
    : Loading.loadEntries (config.acting mode dryRun) faults top entries path dir
      = Loading.loadEntries config faults top entries path dir := by
  match entries with
  | [] => rfl
  | (name, node) :: rest =>
      rw [Loading.loadEntries, Loading.loadEntries, loadEntries_acting top rest path dir,
        loadDir_acting top node]
      rfl

end

/-- The mode has no part in reading ignore files. -/
theorem load_acting (top : Node) (root : PathName)
    : Loading.load (config.acting mode dryRun) faults top root
      = Loading.load config faults top root := by
  rw [Loading.load, loadDir_acting]
  rfl

variable (tables : Ignore.Tables)

mutual

theorem isVacant_acting (node : Node) (dir : DirPath)
    : Walk.isVacant (config.acting mode dryRun) faults tables node dir
      = Walk.isVacant config faults tables node dir := by
  match node with
  | .file _ => rfl
  | .link _ => rfl
  | .dir entries =>
      rw [Walk.isVacant, Walk.isVacant, areVacant_acting entries dir]
      rfl

theorem areVacant_acting (entries : List (String × Node)) (dir : DirPath)
    : Walk.areVacant (config.acting mode dryRun) faults tables entries dir
      = Walk.areVacant config faults tables entries dir := by
  match entries with
  | [] => rfl
  | (name, node) :: rest =>
      rw [Walk.areVacant, Walk.areVacant, isVacant_acting node, areVacant_acting rest]

end

mutual

/-- The mode has no part in where a walk stops and in what it finds there. -/
theorem survey_acting (node : Node) (dir : DirPath)
    : Walk.survey (config.acting mode dryRun) faults tables node dir
      = Walk.survey config faults tables node dir := by
  match node with
  | .file _ => rfl
  | .link _ => rfl
  | .dir entries =>
      rw [Walk.survey, Walk.survey, isVacant_acting, surveyAll_acting entries dir]
      rfl

theorem surveyAll_acting (entries : List (String × Node)) (dir : DirPath)
    : Walk.surveyAll (config.acting mode dryRun) faults tables entries dir
      = Walk.surveyAll config faults tables entries dir := by
  match entries with
  | [] => rfl
  | (name, node) :: rest =>
      rw [Walk.surveyAll, Walk.surveyAll, survey_acting node, surveyAll_acting rest]

end

/-- The mode has no part in the stops of a run. -/
theorem stops_acting (tree : Node)
    : stops (config.acting mode dryRun) faults tree = stops config faults tree := by
  rw [stops, tables, show (config.acting mode dryRun).root = config.root from rfl, load_acting,
    survey_acting]
  rfl

end

-----------------------------------------------------------------------------------------
-- What is said at a stop
-----------------------------------------------------------------------------------------

/-- What a dry run says in place of an attempt. -/
def Attempt.notice (marker : String) : Attempt → String
  | .create dir => "[DRY-RUN] Would create " ++ dir.entryText marker
  | .remove dir => "[DRY-RUN] Would remove " ++ dir.entryText marker

/-- What an event of a dry run says that would have been done. -/
def Event.notice? (marker : String) (event : Event) : Option String :=
  match event with
  | .wouldCreate _ | .wouldRemove _ => some (event.message marker)
  | _ => none

/-- The directory that a stop skips, if it skips it. -/
def Walk.Stop.skipped (stop : Stop) : List DirPath :=
  match stop.finding with
  | .excluded | .ignored => [stop.dir]
  | _ => []

section

variable {config : Config} {location : Location} {start : Node}

theorem Project.acting (project : Project config location start) (mode : Mode) (dryRun : Bool)
    : Project (config.acting mode dryRun) location start :=
  ⟨project.wellFormed, project.root, project.marker, project.noLink⟩

variable (faults : Faults) (stop : Stop)

theorem Walk.Stop.journal_notices (marker : String)
    : (stop.journal (config.acting .normal true) faults location start).filterMap
        (Event.notice? marker)
      = (stop.attempts config location start).map (Attempt.notice marker) := by
  obtain ⟨dir, finding⟩ := stop
  cases finding with
  | judged isEmpty =>
      simp only [Stop.journal, Stop.attempts, Marker.settle, Marker.duty, Config.acting]
      cases isEmpty <;> cases start.hasFileAt (location ++ dir ++ [config.markerName]) <;> rfl
  | _ => rfl

theorem Walk.Stop.journal_mismatched (dryRun : Bool)
    : (stop.journal (config.acting .check dryRun) faults location start).filterMap
        Event.mismatched?
      = (stop.attempts config location start).map Attempt.dir := by
  obtain ⟨dir, finding⟩ := stop
  cases finding with
  | judged isEmpty =>
      simp only [Stop.journal, Stop.attempts, Marker.settle, Marker.duty, Config.acting]
      cases isEmpty <;> cases start.hasFileAt (location ++ dir ++ [config.markerName]) <;> rfl
  | _ => rfl

theorem Walk.Stop.journal_skipped
    : (stop.journal config faults location start).filterMap Event.skipped? = stop.skipped := by
  obtain ⟨dir, finding⟩ := stop
  cases finding with
  | judged isEmpty =>
      refine List.filterMap_eq_nil_iff.mpr fun event told => ?_
      have about : event.marker? = some dir := marker?_settle told
      cases event <;> first | rfl | cases about
  | _ => rfl

/-- A dry run and a check change nothing at any stop. -/
theorem Walk.Stop.journal_unchanged (still : config.dryRun = true ∨ config.mode = .check)
    : (stop.journal config faults location start).changed = [] := by
  obtain ⟨dir, finding⟩ := stop
  cases finding with
  | judged isEmpty =>
      simp only [Stop.journal, Marker.settle]
      rcases still with dry | check
      · cases Marker.duty config.mode isEmpty
          (start.hasFileAt (location ++ dir ++ [config.markerName])) with
        | error crash => rfl
        | ok duty => cases duty <;> simp [Marker.perform, Marker.create, Marker.remove, dry] <;> rfl
      · simp only [check, Marker.duty]
        cases isEmpty <;> cases start.hasFileAt (location ++ dir ++ [config.markerName]) <;> rfl
  | _ => rfl

end

-----------------------------------------------------------------------------------------
-- Whole runs
-----------------------------------------------------------------------------------------

section

variable {config : Config} {location : Location} {tree : Node} (faults : Faults)
  (project : Project config location tree)

include project

/-- A dry run and a check leave the tree as it was. -/
theorem run_still (known : config.HasKnownMode)
    (still : config.dryRun = true ∨ config.mode = .check)
    : (run config faults tree).tree = tree
      ∧ ((run config faults tree).journal.summary config.markerName).created = []
      ∧ ((run config faults tree).journal.summary config.markerName).removed = [] := by
  have tracks := run_tracks faults known project
  have unchanged : (course config faults tree location).changed = [] := by
    rw [course, Journal.changed_append, Loading.load_unchanged, List.nil_append, Walk.journal,
      Journal.changed, List.filterMap_flatMap, List.flatMap_eq_nil_iff]
    exact fun stop _ => stop.journal_unchanged faults still
  rw [tracks.replayed, Journal.replay_of_unchanged config location unchanged, tracks.summary]
  exact ⟨rfl, Journal.summary_of_unchanged config.markerName unchanged⟩

end

/-- A real run, a dry run and a check agree about a tree: all of them end with the same answer, the
real one does what the dry one announces and the check reports, and all skip the same directories.
-/
structure Agreement (marker : String) (tree : Node) (real dry check : Step Bool) : Prop where
  answer : ∃ isEmpty, real.answer = .ok isEmpty ∧ dry.answer = .ok isEmpty
    ∧ check.answer = .ok isEmpty
  dryStill : dry.tree = tree ∧ (dry.journal.summary marker).created = []
    ∧ (dry.journal.summary marker).removed = []
  checkStill : check.tree = tree ∧ (check.journal.summary marker).created = []
    ∧ (check.journal.summary marker).removed = []
  notices
    : dry.journal.filterMap (Event.notice? marker)
      = real.journal.attempts.map (Attempt.notice marker)
  mismatched
    : (check.journal.summary marker).mismatched
      = real.journal.attempts.map fun attempt => attempt.dir.text
  drySkipped : (dry.journal.summary marker).skipped = (real.journal.summary marker).skipped
  checkSkipped : (check.journal.summary marker).skipped = (real.journal.summary marker).skipped

section

variable {config : Config} {location : Location} {tree : Node} (faults : Faults)
  (project : Project config location tree)

include project

theorem run_acting_answer (mode : Mode) (dryRun : Bool)
    (known : (config.acting mode dryRun).HasKnownMode)
    : (run (config.acting mode dryRun) faults tree).answer
      = .ok (Walk.isVacant config faults (tables config faults tree)
          (Loading.dirAt tree config.root) .root) := by
  rw [(run_tracks faults known (project.acting mode dryRun)).answer, isVacant_acting, tables,
    show (config.acting mode dryRun).root = config.root from rfl, load_acting]
  rfl

/-- Which directories a run skips does not depend on the mode. -/
theorem run_acting_skipped (mode : Mode) (dryRun : Bool)
    (known : (config.acting mode dryRun).HasKnownMode)
    : (run (config.acting mode dryRun) faults tree).journal.filterMap Event.skipped?
      = (Loading.load config faults tree config.root).journal.notable.filterMap Event.skipped?
        ++ (stops config faults tree).flatMap Stop.skipped := by
  have passes : ∀ event : Event, event.isNotable = false → event.skipped? = none := by
    intro event trace
    cases event <;> first | rfl | cases trace
  rw [← Journal.filterMap_notable _ passes,
    (run_tracks faults known (project.acting mode dryRun)).journal, course, stops_acting,
    show (config.acting mode dryRun).root = config.root from rfl, load_acting,
    List.filterMap_append, Walk.journal, List.filterMap_flatMap]
  exact congrArg _ (List.flatMap_congr fun stop _ => stop.journal_skipped faults)

/-- Real runs, dry runs and checks agree. Witness: they make the same stops, and at each of them the
mode decides only what is said and done about the same marker.
-/
theorem run_agreement (dryRun : Bool)
    : Agreement config.markerName tree (run (config.acting .normal false) faults tree)
        (run (config.acting .normal true) faults tree)
        (run (config.acting .check dryRun) faults tree) := by
  have normal (dryRun : Bool) : (config.acting .normal dryRun).HasKnownMode :=
    fun _ same => nomatch same
  have check : (config.acting .check dryRun).HasKnownMode := fun _ same => nomatch same
  have attempts := run_attempts faults (project.acting .normal false) rfl rfl
  rw [stops_acting] at attempts
  have reported : (run (config.acting .check dryRun) faults tree).journal.filterMap
        Event.mismatched?
      = (run (config.acting .normal false) faults tree).journal.attempts.map Attempt.dir := by
    rw [attempts, run_view faults (project.acting .check dryRun) _ _ check, stops_acting,
      List.map_flatMap]
    · exact List.flatMap_congr fun stop _ => stop.journal_mismatched faults dryRun
    · intro event unmarked
      cases event <;> first | rfl | cases unmarked
  exact {
    answer := ⟨_, run_acting_answer faults project .normal false (normal false),
      run_acting_answer faults project .normal true (normal true),
      run_acting_answer faults project .check dryRun check⟩
    dryStill := run_still faults (project.acting .normal true) (normal true) (.inl rfl)
    checkStill := run_still faults (project.acting .check dryRun) check (.inr rfl)
    notices := by
      rw [attempts, run_view faults (project.acting .normal true) _ _ (normal true), stops_acting,
        List.map_flatMap]
      · exact List.flatMap_congr fun stop _ => stop.journal_notices faults _
      · intro event unmarked
        cases event <;> first | rfl | cases unmarked
    mismatched := (congrArg (List.map DirPath.text) reported).trans (by rw [List.map_map]; rfl)
    drySkipped := congrArg (List.map DirPath.text)
      ((run_acting_skipped faults project .normal true (normal true)).trans
        (run_acting_skipped faults project .normal false (normal false)).symm)
    checkSkipped := congrArg (List.map DirPath.text)
      ((run_acting_skipped faults project .check dryRun check).trans
        (run_acting_skipped faults project .normal false (normal false)).symm)
  }

end

/-- In a small project, a real run attempts two changes, of which a dry run speaks. -/
theorem run_agreement_small
    : Agreement ".gitkeep" smallTree (run (smallConfig.acting .normal false) .none smallTree)
          (run (smallConfig.acting .normal true) .none smallTree)
          (run (smallConfig.acting .check false) .none smallTree)
        ∧ (run (smallConfig.acting .normal false) .none smallTree).journal.attempts
          = [.create ["bare"], .remove ["full"]] :=
  ⟨run_agreement .none smallProject false, by decide +kernel⟩

end DirMarkers
