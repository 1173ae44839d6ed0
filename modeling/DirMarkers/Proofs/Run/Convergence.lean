import DirMarkers.Proofs.Run.Correctness
import DirMarkers.Proofs.Run.Distant
import DirMarkers.Proofs.Run.Repetition
import DirMarkers.Proofs.Run.Stopping

/-!
Runs of the normal mode over trees that differ in markers only. They read the same rules, make the
same stops, and leave the same directories with a marker: at a stop where the trees differ, there is
no more than a file, so the call that the difference makes necessary succeeds.
-/

namespace DirMarkers

open Walk (Stop Reached Answers)

/-- Two trees have nodes in the same places. -/
def Node.SamePlaces (left right : Node) : Prop :=
  ∀ place, (left.get? place).isSome = (right.get? place).isSome

/-- Runs over two trees come to the same end: they skip and reach the same directories and find the
same ones empty, and where the path of a marker fits, they report the same failures and leave a
marker in the same directories.
-/
structure SameEnd (config : Config) (faults : Faults) (location : Location) (tree other : Node)
    : Prop where
  answer : (run config faults tree).answer = (run config faults other).answer
  skipped
    : ((run config faults tree).journal.summary config.markerName).skipped
      = ((run config faults other).journal.summary config.markerName).skipped
  visited
    : ∀ dir, .entered dir ∈ (run config faults tree).journal
        ↔ .entered dir ∈ (run config faults other).journal
  reached
    : ∀ dir, Reached config faults (tables config faults tree) location tree dir
        ↔ Reached config faults (tables config faults other) location other dir
  answers
    : ∀ dir isEmpty, Answers config faults (tables config faults tree) tree dir isEmpty
        ↔ Answers config faults (tables config faults other) other dir isEmpty
  errors
    : (∀ dir, Reached config faults (tables config faults tree) location tree dir
          → config.MarkerFits dir)
        → ((run config faults tree).journal.summary config.markerName).errors
          = ((run config faults other).journal.summary config.markerName).errors
  marked
    : ∀ dir, Reached config faults (tables config faults tree) location tree dir
        → config.MarkerFits dir
        → (run config faults tree).tree.hasFileAt (location ++ dir ++ [config.markerName])
          = (run config faults other).tree.hasFileAt (location ++ dir ++ [config.markerName])

section

variable {config : Config} {faults : Faults} {location : Location} {tree other : Node}
  {stop : Stop} (project : Project config location tree) (again : Project config location other)
  (stopped : stop ∈ stops config faults tree)

include project again stopped

/-- Where the trees differ in the place of a marker, nothing fails if the path of the marker fits.
-/
theorem Walk.Stop.succeeds_of_differs (alike : Node.AlikeBut config.markerName tree other)
    (spares : faults.SparesMarkers) (fits : config.MarkerFits stop.dir)
    (differs : tree.kindAt (location ++ stop.dir ++ [config.markerName])
      ≠ other.kindAt (location ++ stop.dir ++ [config.markerName]))
    : ∀ event ∈ stop.journal config faults location tree, event.failed? = none := by
  have short : config.markerName.utf8ByteSize ≤ Tree.nameLimit := by
    -- One of the trees has a node of that name.
    cases here : tree.get? (location ++ stop.dir ++ [config.markerName]) with
    | some node => exact (project.wellFormed.name here).2
    | none =>
        cases there : other.get? (location ++ stop.dir ++ [config.markerName]) with
        | some node => exact (again.wellFormed.name there).2
        | none =>
            rw [Node.kindAt_eq_none.mpr here, Node.kindAt_eq_none.mpr there] at differs
            exact absurd rfl differs
  rcases alike (location ++ stop.dir ++ [config.markerName]) with same | ⟨_, free, _⟩
  · exact absurd same differs
  · refine Stop.journal_succeeds project (stops_inDir project stopped) short free rfl ?_
    intro call which
    apply fits.refusal?_eq_none
    rcases which with rfl | rfl
    · exact (spares _).1
    · exact (spares _).2

end

section

variable {config : Config} {faults : Faults} {location : Location} {tree other : Node}
  (known : config.HasKnownMode) (project : Project config location tree)
  (again : Project config location other) (alike : Node.AlikeBut config.markerName tree other)
  (same : stops config faults other = stops config faults tree)

include known project again alike same

/-- The same failures are told of at a stop if the path of its marker fits in case it is judged. -/
theorem Walk.Stop.failures_congr {stop : Stop} (stopped : stop ∈ stops config faults tree)
    (spares : faults.SparesMarkers)
    (fits : ∀ isEmpty, stop.finding = .judged isEmpty → config.MarkerFits stop.dir)
    : (stop.journal config faults location other).filterMap (Event.failure? config.markerName)
      = (stop.journal config faults location tree).filterMap
          (Event.failure? config.markerName) := by
  have also := same ▸ stopped
  by_cases unchanged : other.kindAt (location ++ stop.dir ++ [config.markerName])
      = tree.kindAt (location ++ stop.dir ++ [config.markerName])
  · rw [stop.journal_of_unchanged known project again (stops_inDir project stopped)
      (stops_inDir again also) unchanged]
  · obtain ⟨dir, finding⟩ := stop
    cases finding with
    | judged isEmpty =>
        have fit := fits isEmpty rfl
        have first := Stop.succeeds_of_differs project again stopped alike spares fit
          fun found => unchanged found.symm
        have second := Stop.succeeds_of_differs again project also alike.symm spares fit unchanged
        rw [Stop.failures_of_success _ _ _ _ first, Stop.failures_of_success _ _ _ _ second]
    | _ => rfl

/-- After runs of the normal mode, the same judged directories have a marker if its path fits. -/
theorem hasFileAt_run_congr (normal : config.mode = .normal) (real : config.dryRun = false)
    (spares : faults.SparesMarkers) {dir : DirPath} {isEmpty : Bool}
    (stopped : ⟨dir, .judged isEmpty⟩ ∈ stops config faults tree) (fits : config.MarkerFits dir)
    : (run config faults tree).tree.hasFileAt (location ++ dir ++ [config.markerName])
      = (run config faults other).tree.hasFileAt (location ++ dir ++ [config.markerName]) := by
  have also := same ▸ stopped
  by_cases unchanged : other.kindAt (location ++ dir ++ [config.markerName])
      = tree.kindAt (location ++ dir ++ [config.markerName])
  · exact Node.hasFileAt_congr
      (kindAt_run_congr project again stopped also known unchanged).symm
  · have first := Stop.succeeds_of_differs project again stopped alike spares fits
      fun found => unchanged found.symm
    have second := Stop.succeeds_of_differs again project also alike.symm spares fits unchanged
    rw [hasFileAt_of_settled normal real project stopped first,
      hasFileAt_of_settled normal real again also second]

end

section

variable {config : Config} {faults : Faults} {location : Location} {tree : Node}
  (normal : config.mode = .normal) (real : config.dryRun = false) (spares : faults.SparesMarkers)
  (project : Project config location tree) (plain : PlainIgnoreFiles config location tree)

include normal real spares project plain

/-- Runs of the normal mode over trees that differ in markers only come to the same end. Witness:
they make the same stops, and each of these either finds the same or does what it attempts.
-/
theorem run_sameEnd {other : Node} (wellFormed : other.WellFormed)
    (alike : Node.AlikeBut config.markerName tree other)
    : SameEnd config faults location tree other := by
  have known := Config.HasKnownMode.of_normal normal
  have again := project.alike wellFormed alike
  have same := stops_alike faults project wellFormed alike plain
  have first := run_tracks faults known project
  have second := run_tracks faults known again
  have reached (dir : DirPath)
      : Reached config faults (tables config faults tree) location tree dir
        ↔ Reached config faults (tables config faults other) location other dir := by
    rw [reached_iff_judged project, reached_iff_judged again, same]
  exact {
    answer := by
      rw [first.answer, second.answer, isVacant_alike faults project wellFormed alike plain]
    skipped := by
      rw [Journal.summary, Journal.summary, run_skipped project faults known,
        run_skipped again faults known, same]
    visited := fun dir => by rw [run_enters known project, run_enters known again, same]
    reached := reached
    answers := fun dir isEmpty => by
      rw [answers_iff_stop project known, answers_iff_stop again known, same]
    errors := by
      intro fits
      have walking : ∀ stop ∈ stops config faults tree,
          (stop.journal config faults location other).filterMap (Event.failure? config.markerName)
            = (stop.journal config faults location tree).filterMap
                (Event.failure? config.markerName) := by
        intro stop stopped
        refine Stop.failures_congr known project again alike same stopped spares ?_
        intro isEmpty judged
        refine fits _ ((reached_iff_judged project).mpr ⟨isEmpty, ?_⟩)
        rwa [← judged]
      rw [first.summary, second.summary]
      dsimp only [Journal.summary]
      rw [course_filterMap, course_filterMap, same, List.flatMap_congr walking,
        load_alike faults project wellFormed alike plain]
    marked := by
      intro dir reached fits
      obtain ⟨isEmpty, stopped⟩ := (reached_iff_judged project).mp reached
      exact hasFileAt_run_congr known project again alike same normal real spares stopped fits
  }

/-- Cleaning first makes no difference to the places in which a run of the normal mode leaves nodes.
Witness: where cleaning changes the place of a marker, its path fits.
-/
theorem run_samePlaces
    : Node.SamePlaces
        (run config faults (run (config.acting .clean false) faults tree).tree).tree
        (run config faults tree).tree := by
  have known := Config.HasKnownMode.of_normal normal
  have cleans := config.hasKnownMode_clean
  have acting := project.acting .clean false
  have cleaned := run_tracks faults cleans acting
  have again := project.alike cleaned.wellFormed cleaned.alike
  have same := stops_alike faults project cleaned.wellFormed cleaned.alike plain
  intro place
  by_cases here : ∃ stop ∈ stops config faults tree,
      place = location ++ stop.dir ++ [config.markerName]
  · obtain ⟨stop, stopped, rfl⟩ := here
    have also := same.symm ▸ stopped
    have first : stop ∈ stops (config.acting .clean false) faults tree :=
      stops_acting config .clean false faults tree ▸ stopped
    rcases stop.unchanged_or_changed (config.acting .clean false) faults location tree
      with unchanged | ⟨event, told, change⟩
    · have kept := kindAt_of_unchanged cleans acting first unchanged
      exact Node.isSome_get?_congr (kindAt_run_congr project again stopped also known kept)
    · have there := stops_inDir project stopped
      have fits : (config.acting .clean false).MarkerFits stop.dir :=
        Stop.fits_of_changed acting there rfl told change
      have changed := List.mem_filterMap.mpr ⟨event, mem_course first told, change⟩
      have free : tree.HoldsNoMoreThanFile (location ++ stop.dir ++ [config.markerName]) :=
        (course_applies faults acting).free _ changed
      obtain ⟨_, _, isEmpty, judged, _⟩ :=
        Stop.marker_journal told (Event.marker?_of_changed? change)
      obtain ⟨dir, finding⟩ := stop
      obtain rfl : finding = .judged isEmpty := judged
      have firstFree := (run_tracks faults known project).alike.holdsNoMoreThanFile free
      have lastFree := (run_tracks faults known again).alike.holdsNoMoreThanFile
        (cleaned.alike.holdsNoMoreThanFile free)
      rw [firstFree.isSome_get?, lastFree.isSome_get?]
      exact (hasFileAt_run_congr known project again cleaned.alike same normal real spares stopped
        fits).symm
  · have apart : ∀ stop ∈ stops config faults tree,
        place ≠ location ++ stop.dir ++ [config.markerName] :=
      fun stop stopped placed => here ⟨stop, stopped, placed⟩
    apply Node.isSome_get?_congr
    rw [kindAt_elsewhere known again (same.symm ▸ apart), kindAt_elsewhere known project apart]
    refine kindAt_elsewhere cleans acting ?_
    rw [stops_acting]
    exact apart

/-- The result of a run of the normal mode does not depend on the markers that were there before:
runs over trees that differ in markers only come to the same end, and a run that cleans may come
first.
-/
theorem run_converges
    : (∀ other : Node, other.WellFormed → Node.AlikeBut config.markerName tree other
        → SameEnd config faults location tree other)
      ∧ Node.SamePlaces
          (run config faults (run (config.acting .clean false) faults tree).tree).tree
          (run config faults tree).tree := by
  refine ⟨fun other wellFormed alike => ?_, ?_⟩
  · exact run_sameEnd normal real spares project plain wellFormed alike
  · exact run_samePlaces normal real spares project plain

end

/-- In a small project, it makes no difference whether the bare directory had a marker before. -/
theorem run_converges_small
    : SameEnd smallConfig .none ["p"] smallTree
          (Node.put (.file .empty) smallTree ["p", "bare", ".gitkeep"])
        ∧ Node.SamePlaces
          (run smallConfig .none (run (smallConfig.acting .clean false) .none smallTree).tree).tree
          (run smallConfig .none smallTree).tree := by
  have converges := run_converges rfl rfl Faults.none_sparesMarkers smallProject
    smallProject_plainIgnoreFiles
  refine ⟨converges.1 _ (by decide) ?_, converges.2⟩
  have there : smallTree.get? ["p", "bare"] = some (.dir []) := rfl
  exact Node.alikeBut_put_file there (fun _ found => nomatch found) .empty

/-- A marker whose path is too long can neither be created nor removed, so after runs over trees
that differ in it, one of them has it and the other one does not.
-/
theorem run_distant_differs
    : distantConfig.mode = .normal ∧ distantConfig.dryRun = false
      ∧ PlainProject distantConfig ["p"] unmarkedTree
      ∧ PlainProject distantConfig ["p"] markedTree
      ∧ Node.AlikeBut distantConfig.markerName unmarkedTree markedTree
      ∧ Reached distantConfig .none (tables distantConfig .none unmarkedTree) ["p"] unmarkedTree
        .root
      ∧ Reached distantConfig .none (tables distantConfig .none markedTree) ["p"] markedTree .root
      ∧ (run distantConfig .none unmarkedTree).tree.hasFileAt ["p", ".gitkeep"] = false
      ∧ (run distantConfig .none markedTree).tree.hasFileAt ["p", ".gitkeep"] = true := by
  have known : distantConfig.HasKnownMode := .of_normal rfl
  have there : unmarkedTree.get? ["p"] = some (.dir []) := rfl
  refine ⟨rfl, rfl, unmarkedTree_project, markedTree_project, ?_, unmarkedTree_reached,
    markedTree_reached, ?_, ?_⟩
  · exact Node.alikeBut_put_file there (fun _ found => nomatch found) .empty
  · exact Node.hasFileAt_congr
      (kindAt_of_not_fits known unmarkedTree_project.toProject distantConfig_not_fits)
  · exact Node.hasFileAt_congr
      (kindAt_of_not_fits known markedTree_project.toProject distantConfig_not_fits)

end DirMarkers
