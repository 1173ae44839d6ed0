import DirMarkers.Proofs.Run.Distant
import DirMarkers.Proofs.Run.Repetition
import DirMarkers.Proofs.Run.Stopping

/-!
Runs that clean. They remove the markers of the directories that are reached and leave skipped
directories alone, and one that follows a run of the normal mode removes what that run created.
-/

namespace DirMarkers

open Walk (Stop Reached)

section

variable {config : Config} {faults : Faults} {location : Location} {tree : Node} {dir : DirPath}

/-- A directory that a run enters and does not skip is reached, if the path of its marker fits and
no other reason keeps it from being listed. Witness: the path of the directory is no longer.
-/
theorem Walk.Reached.of_entered (known : config.HasKnownMode)
    (project : Project config location tree)
    (entered : .entered dir ∈ (run config faults tree).journal)
    (kept : dir ∉ (run config faults tree).journal.filterMap Event.skipped?)
    (allowed : faults .list (config.root.under dir) = none) (fits : config.MarkerFits dir)
    : Reached config faults (tables config faults tree) location tree dir := by
  obtain ⟨stop, stopped, rfl⟩ := List.mem_map.mp ((run_enters known project dir).mp entered)
  obtain ⟨arrives, entries, _, found⟩ := (mem_stops project).mp stopped
  apply arrives.reached project
  cases barred : barrier? config faults (tables config faults tree) stop.dir with
  | none => rfl
  | some finding =>
      rw [findingAt, barred, Option.getD_some] at found
      rcases of_barrier? barred with skips | ⟨error, rfl, refused⟩
      · exact absurd ((mem_run_skipped project known).mpr ⟨stop, stopped, rfl, found ▸ skips⟩) kept
      · -- Without a fault, a path is refused only if it is too long.
        simp only [Faults.refusal?, allowed] at refused
        split at refused
        · next long => cases fits.symm.trans (PathName.isTooLong_child long _)
        · cases refused

variable (clean : config.mode = .clean) (real : config.dryRun = false)
  (project : Project config location tree) {isEmpty : Bool}

include clean in
/-- A run that cleans has nothing to do where there is no marker. -/
theorem Walk.Stop.journal_of_missing
    (missing : tree.hasFileAt (location ++ dir ++ [config.markerName]) = false)
    : Stop.journal config faults location tree ⟨dir, .judged isEmpty⟩ = [] := by
  simp only [journal, Marker.settle, Marker.duty, clean, missing]
  rfl

include clean real project in
/-- A run that cleans removes a marker whose path fits. -/
theorem Walk.Stop.journal_of_present (spares : faults.SparesMarkers)
    (there : tree.kindAt (location ++ dir) = some .dir) (fits : config.MarkerFits dir)
    (present : tree.hasFileAt (location ++ dir ++ [config.markerName]) = true)
    : Stop.journal config faults location tree ⟨dir, .judged isEmpty⟩ = [.removed dir] := by
  have allowed := fits.refusal?_eq_none (spares _).2
  simp only [journal, Marker.settle, Marker.duty, clean, present]
  exact (Marker.remove_succeeds project there present allowed).trans (by rw [real]; rfl)

end

-----------------------------------------------------------------------------------------
-- Runs that clean
-----------------------------------------------------------------------------------------

section

variable {config : Config} {faults : Faults} {location : Location} {tree : Node} {dir : DirPath}
  (known : config.HasKnownMode) (project : Project config location tree)

include known project

/-- A run leaves all that is in a skipped directory as it was. Witness: a changed marker is in a
reached directory, and nothing below a skipped directory is reached.
-/
theorem get?_of_skipped
    (skipped : dir ∈ (run config faults tree).journal.filterMap Event.skipped?)
    : (run config faults tree).tree.get? (location ++ dir) = tree.get? (location ++ dir) := by
  have tracks := run_tracks faults known project
  obtain ⟨stop, stopped, rfl, skips⟩ := (mem_run_skipped project known).mp skipped
  have isDir := stops_inDir project stopped
  refine tracks.wellFormed.get?_eq project.wellFormed fun below => ?_
  refine tracks.frame _ fun changed member same => ?_
  rw [List.append_assoc, List.append_assoc, List.append_cancel_left_eq] at same
  rcases List.eq_nil_or_concat below with rfl | ⟨init, last, rfl⟩
  · have free := (course_applies faults project).free changed member
    rw [List.append_nil] at same
    rw [same, ← List.append_assoc] at isDir
    exact free.notDir isDir
  · rw [List.concat_eq_append, ← List.append_assoc] at same
    obtain ⟨inside, _⟩ := List.append_singleton_inj.mp same
    have reached := reached_of_changed project (inside ▸ member)
    exact not_reached_of_isSkip project stopped skips reached.above

end

section

variable {config : Config} {faults : Faults} {location : Location} {tree : Node}
  (known : config.HasKnownMode) (spares : faults.SparesMarkers)
  (project : Project config location tree)
  (bare : ∀ dir, Reached config faults (tables config faults tree) location tree dir
    → tree.hasFileAt (location ++ dir ++ [config.markerName]) = false)

include known spares project bare

/-- A run that cleans after another one undoes at each stop what that one did there, if there was no
marker before: it removes a marker that was created, and does nothing about one that was not.
-/
theorem undone_at_stop {stop : Stop} (stopped : stop ∈ stops config faults tree)
    (also : stop ∈ stops (config.acting .clean false) faults (run config faults tree).tree)
    : (stop.journal (config.acting .clean false) faults location
          (run config faults tree).tree).filterMap (Event.removedMarker? config.markerName)
        = (stop.journal config faults location tree).filterMap
            (Event.createdMarker? config.markerName)
      ∧ (run (config.acting .clean false) faults (run config faults tree).tree).tree.kindAt
          (location ++ stop.dir ++ [config.markerName])
        = tree.kindAt (location ++ stop.dir ++ [config.markerName]) := by
  have tracks := run_tracks faults known project
  have after := (project.alike tracks.wellFormed tracks.alike).acting .clean false
  have cleans := config.hasKnownMode_clean
  have there := stops_inDir project stopped
  obtain ⟨dir, finding⟩ := stop
  cases finding with
  | judged isEmpty =>
      have missing := bare dir ((reached_iff_judged project).mpr ⟨isEmpty, stopped⟩)
      rcases Stop.unchanged_or_changed config faults location tree ⟨dir, .judged isEmpty⟩
        with unchanged | ⟨event, told, change⟩
      · have kept := kindAt_of_unchanged known project stopped unchanged
        have idle : Stop.journal (config.acting .clean false) faults location
            (run config faults tree).tree ⟨dir, .judged isEmpty⟩ = [] :=
          Stop.journal_of_missing rfl ((Node.hasFileAt_congr kept).trans missing)
        constructor
        · rw [idle]
          exact (List.filterMap_eq_nil_iff.mpr fun event told =>
            event.createdMarker?_of_unchanged _ (unchanged event told)).symm
        · exact (kindAt_of_unchanged cleans after also (idle ▸ List.forall_mem_nil _)).trans kept
      · have alone := (Stop.marker_journal told (Event.marker?_of_changed? change)).2.1
        have evidence := Stop.evidence project there told
        cases event with
        | created place =>
            obtain rfl := Option.some.inj change
            have fits : config.MarkerFits place :=
              Stop.fits_of_changed project there rfl told rfl
            have present := Node.hasFileAt_eq_true.mpr
              ⟨_, kindAt_of_changed known project stopped told rfl⟩
            have removes : Stop.journal (config.acting .clean false) faults location
                (run config faults tree).tree ⟨place, .judged isEmpty⟩ = [.removed place] :=
              Stop.journal_of_present rfl rfl after spares (tracks.alike.dir there) fits present
            have gone := kindAt_of_changed cleans after also
              (removes ▸ List.mem_singleton_self _) rfl
            rw [removes, alone]
            exact ⟨rfl, gone.trans evidence.1.symm⟩
        | removed place =>
            obtain rfl := Option.some.inj change
            cases missing.symm.trans (Node.hasFileAt_eq_true.mpr evidence)
        | _ => cases change
  | _ =>
      have quiet (event : Event) (skips : event.changed? = none)
          : ∀ told ∈ [event], told.changed? = none :=
        fun told member => List.mem_singleton.mp member ▸ skips
      refine ⟨rfl, ?_⟩
      exact (kindAt_of_unchanged cleans after also (quiet _ rfl)).trans
        (kindAt_of_unchanged known project stopped (quiet _ rfl))

end

/-- What a run that cleans is meant to do: a directory that it enters and does not skip has no
marker afterwards if the path of the marker fits, skipped directories are as they were, and another
such run removes nothing. After a run of the normal mode it gives back a tree that had no marker in
a reached directory, and removes the markers that were created, in the same order.
-/
structure Cleans (config : Config) (faults : Faults) (location : Location) (tree : Node)
    (normal cleaned again undone : Step Bool) : Prop where
  cleared
    : ∀ dir, .entered dir ∈ cleaned.journal → dir ∉ cleaned.journal.filterMap Event.skipped?
        → faults .list (config.root.under dir) = none → config.MarkerFits dir
        → cleaned.tree.hasFileAt (location ++ dir ++ [config.markerName]) = false
  skipped
    : ∀ dir ∈ cleaned.journal.filterMap Event.skipped?,
        cleaned.tree.get? (location ++ dir) = tree.get? (location ++ dir)
  again : (again.journal.summary config.markerName).removed = []
  undone
    : (∀ dir, Reached config faults (tables config faults tree) location tree dir
          → tree.hasFileAt (location ++ dir ++ [config.markerName]) = false)
        → undone.tree = tree
          ∧ (undone.journal.summary config.markerName).removed
            = (normal.journal.summary config.markerName).created

section

variable {config : Config} {faults : Faults} {location : Location} {tree : Node}
  (project : Project config location tree) (plain : PlainIgnoreFiles config location tree)

include project plain

/-- A run that cleans after another one undoes what that one did, if there was no marker before. -/
theorem run_undone (known : config.HasKnownMode) (spares : faults.SparesMarkers)
    (bare : ∀ dir, Reached config faults (tables config faults tree) location tree dir
      → tree.hasFileAt (location ++ dir ++ [config.markerName]) = false)
    : (run (config.acting .clean false) faults (run config faults tree).tree).tree = tree
      ∧ ((run (config.acting .clean false) faults (run config faults tree).tree).journal.summary
          config.markerName).removed
        = ((run config faults tree).journal.summary config.markerName).created := by
  have tracks := run_tracks faults known project
  have after := (project.alike tracks.wellFormed tracks.alike).acting .clean false
  have cleans := config.hasKnownMode_clean
  have same : stops (config.acting .clean false) faults (run config faults tree).tree
      = stops config faults tree := by
    rw [stops_acting, stops_alike faults project tracks.wellFormed tracks.alike plain]
  have undone {stop : Stop} (stopped : stop ∈ stops config faults tree) :=
    undone_at_stop known spares project bare stopped (same.symm ▸ stopped)
  constructor
  · refine (run_tracks faults cleans after).wellFormed.ext project.wellFormed fun place => ?_
    by_cases here : ∃ stop ∈ stops config faults tree,
        place = location ++ stop.dir ++ [config.markerName]
    · obtain ⟨stop, stopped, rfl⟩ := here
      exact (undone stopped).2
    · have apart : ∀ stop ∈ stops config faults tree,
          place ≠ location ++ stop.dir ++ [config.markerName] :=
        fun stop stopped placed => here ⟨stop, stopped, placed⟩
      exact (kindAt_elsewhere cleans after (same.symm ▸ apart)).trans
        (kindAt_elsewhere known project apart)
  · have created := run_view faults project (Event.createdMarker? config.markerName)
      (fun event unmarked =>
        event.createdMarker?_of_unchanged _ (Event.changed?_of_unmarked unmarked)) known
    have removed := run_view faults after (Event.removedMarker? config.markerName)
      (fun event unmarked =>
        event.removedMarker?_of_unchanged _ (Event.changed?_of_unmarked unmarked)) cleans
    rw [same] at removed
    exact removed.trans ((List.flatMap_congr fun _ stopped => (undone stopped).1).trans
      created.symm)

/-- A run that cleans does what it is meant to do, and undoes a run of the normal mode. -/
theorem run_cleans (normal : config.mode = .normal) (spares : faults.SparesMarkers)
    : Cleans config faults location tree (run config faults tree)
        (run (config.acting .clean false) faults tree)
        (run (config.acting .clean false) faults
          (run (config.acting .clean false) faults tree).tree)
        (run (config.acting .clean false) faults (run config faults tree).tree) := by
  have acting := project.acting .clean false
  have cleans := config.hasKnownMode_clean
  have cleaned := run_tracks faults cleans acting
  exact {
    cleared := by
      intro dir entered kept allowed fits
      have reached := Walk.Reached.of_entered cleans acting entered kept allowed fits
      obtain ⟨isEmpty, stopped⟩ := (reached_iff_judged acting).mp reached
      cases present : tree.hasFileAt (location ++ dir ++ [config.markerName]) with
      | false =>
          have idle : Stop.journal (config.acting .clean false) faults location tree
              ⟨dir, .judged isEmpty⟩ = [] :=
            Stop.journal_of_missing rfl present
          have kept := kindAt_of_unchanged cleans acting stopped (idle ▸ List.forall_mem_nil _)
          exact (Node.hasFileAt_congr kept).trans present
      | true =>
          have removes : Stop.journal (config.acting .clean false) faults location tree
              ⟨dir, .judged isEmpty⟩ = [.removed dir] :=
            Stop.journal_of_present rfl rfl acting spares (stops_inDir acting stopped) fits present
          have gone := kindAt_of_changed cleans acting stopped
            (removes ▸ List.mem_singleton_self _) rfl
          exact Node.hasFileAt_eq_false gone
    skipped := fun dir skipped => get?_of_skipped cleans acting skipped
    again := by
      have again := run_tracks faults cleans (acting.alike cleaned.wellFormed cleaned.alike)
      have unchanged := course_again_unchanged faults cleans acting ⟨plain.unmarked, plain.noLink⟩
      rw [again.summary]
      exact (Journal.summary_of_unchanged _ unchanged).2
    undone := run_undone project plain (.of_normal normal) spares
  }

end

/-- The small project before it had a marker. -/
def freshTree : Node :=
  .dir [("p", .dir [("bare", .dir []), ("full", .dir [("note", .file .empty)])])]

theorem freshProject : PlainProject smallConfig ["p"] freshTree :=
  .of_linkless (by decide) ⟨_, rfl⟩ (by decide) rfl

/-- In a small project, cleaning removes the marker of the full directory; in the same project
without a marker, it removes the one that a run of the normal mode created in the bare directory.
-/
theorem run_cleans_small
    : Cleans smallConfig .none ["p"] smallTree (run smallConfig .none smallTree)
          (run (smallConfig.acting .clean false) .none smallTree)
          (run (smallConfig.acting .clean false) .none
            (run (smallConfig.acting .clean false) .none smallTree).tree)
          (run (smallConfig.acting .clean false) .none (run smallConfig .none smallTree).tree)
        ∧ ((run (smallConfig.acting .clean false) .none smallTree).journal.summary
            ".gitkeep").removed = ["full/.gitkeep"]
        ∧ (run (smallConfig.acting .clean false) .none (run smallConfig .none freshTree).tree).tree
          = freshTree
        ∧ ((run smallConfig .none freshTree).journal.summary ".gitkeep").created
          = ["bare/.gitkeep"] := by
  have spares := Faults.none_sparesMarkers
  have fresh := run_cleans freshProject.toProject ⟨smallProject_plainIgnoreFiles.unmarked,
    freshProject.noRuleLink⟩ rfl spares
  have unmarked : ∀ dir ∈ Walk.postOrder freshTree .root,
      freshTree.hasFileAt (dir ++ [".gitkeep"]) = false := by
    decide
  have undone := fresh.undone fun dir reached => by
    obtain ⟨isEmpty, stopped⟩ := (reached_iff_judged freshProject.toProject).mp reached
    have isDir := stops_inDir freshProject.toProject stopped
    exact unmarked _ ((Walk.mem_postOrder freshProject.wellFormed).mpr ⟨_, rfl, isDir⟩)
  exact ⟨run_cleans smallProject smallProject_plainIgnoreFiles rfl spares, by decide +kernel,
    undone.1, by decide +kernel⟩

/-- A run that cleans enters a directory, does not skip it, and leaves a marker there whose path is
too long.
-/
theorem run_distant_keeps
    : PlainProject distantConfig ["p"] markedTree
      ∧ .entered .root ∈ (run (distantConfig.acting .clean false) .none markedTree).journal
      ∧ .root ∉ (run (distantConfig.acting .clean false) .none markedTree).journal.filterMap
        Event.skipped?
      ∧ (run (distantConfig.acting .clean false) .none markedTree).tree.hasFileAt
        ["p", ".gitkeep"] = true := by
  have plain := markedTree_project.acting .clean false
  have acting := plain.toProject
  have cleans := distantConfig.hasKnownMode_clean
  have reached := Walk.Reached.root_of_unruled plain (fun source => by cases source <;> rfl)
    distantConfig_listable
  obtain ⟨isEmpty, stopped⟩ := (reached_iff_judged acting).mp reached
  refine ⟨markedTree_project, ?_, ?_, ?_⟩
  · exact (run_enters cleans acting .root).mpr (List.mem_map.mpr ⟨_, stopped, rfl⟩)
  · intro skipped
    obtain ⟨stop, here, placed, skips⟩ := (mem_run_skipped acting cleans).mp skipped
    exact not_reached_of_isSkip acting here skips (placed ▸ reached)
  · exact Node.hasFileAt_congr (kindAt_of_not_fits cleans acting distantConfig_not_fits)

end DirMarkers
