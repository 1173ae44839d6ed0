import DirMarkers.Proofs.Run.Pruned
import DirMarkers.Proofs.Run.Stopping
import DirMarkers.Proofs.Run.Success

/-!
Runs over projects without the directories that a run skips. The stops of such a run are the others,
each with what happened there before, so nothing leaks out of a directory that is skipped.
-/

namespace DirMarkers

open Loading (Visits)
open Walk (Stop Reached Arrives survey isVacant barrier?)

/-- The directories that a run skips. -/
def skippedDirs (config : Config) (faults : Faults) (tree : Node) : List DirPath :=
  (run config faults tree).journal.filterMap Event.skipped?

/-- What is left of a tree without the directories that a run over it skips. -/
def keptTree (config : Config) (faults : Faults) (location : Location) (tree : Node) : Node :=
  tree.eraseAll ((skippedDirs config faults tree).map (location ++ ·))

-----------------------------------------------------------------------------------------
-- Entries that are left
-----------------------------------------------------------------------------------------

namespace Walk

section

variable {config : Config} {faults : Faults} {tables others : Ignore.Tables}
  {tops : List DirPath} {dir : DirPath}

/-- The files among some entries are left if all that is left out are directories. -/
theorem fileNames_pruned {entries : Entries}
    (dirs : ∀ entry ∈ entries, dir.child entry.1 ∈ tops → entry.2.isFile = false)
    : fileNames (Node.prunedAmong tops entries dir) = fileNames entries := by
  rw [fileNames, fileNames, Node.prunedAmong_eq, List.filter_map, List.filter_filter, List.map_map]
  refine congrArg (List.map Prod.fst) (List.filter_congr fun entry member => ?_)
  rw [Function.comp_apply, ← Node.isFile_kind, Node.kind_pruned, Node.isFile_kind]
  by_cases top : dir.child entry.1 ∈ tops
  · rw [dirs entry member top, Bool.false_and]
  · rw [decide_eq_true top, Bool.and_true]

/-- The entries that are left are all vacant if all entries are, provided that what is left out is
vacant.
-/
theorem areVacant_pruned {entries : List (String × Node)}
    (each : ∀ entry ∈ entries,
      (if dir.child entry.1 ∈ tops then true
        else isVacant config faults others (entry.2.pruned tops (dir.child entry.1))
          (dir.child entry.1))
      = isVacant config faults tables entry.2 (dir.child entry.1))
    : areVacant config faults others (Node.prunedAmong tops entries dir) dir
      = areVacant config faults tables entries dir := by
  induction entries with
  | nil => rfl
  | cons entry rest ih =>
      have later := ih fun entry member => each entry (List.mem_cons_of_mem _ member)
      rw [Node.prunedAmong, areVacant, ← each entry List.mem_cons_self, ← later]
      split
      · rw [Bool.true_and]
      · rw [areVacant]

/-- The survey of the entries that are left stops where that of all of them does not skip. -/
theorem surveyAll_pruned {entries : List (String × Node)}
    (each : ∀ entry ∈ entries,
      (if dir.child entry.1 ∈ tops then []
        else survey config faults others (entry.2.pruned tops (dir.child entry.1))
          (dir.child entry.1))
      = (survey config faults tables entry.2 (dir.child entry.1)).filter (!·.finding.isSkip))
    : surveyAll config faults others (Node.prunedAmong tops entries dir) dir
      = (surveyAll config faults tables entries dir).filter (!·.finding.isSkip) := by
  induction entries with
  | nil => rfl
  | cons entry rest ih =>
      have later := ih fun entry member => each entry (List.mem_cons_of_mem _ member)
      rw [Node.prunedAmong, surveyAll, List.filter_append, ← each entry List.mem_cons_self, ← later]
      split
      · rw [List.nil_append]
      · rw [surveyAll]

/-- A directory that a walk is kept from is vacant. -/
theorem isVacant_of_barrier (node : Node) {finding : Finding}
    (barred : barrier? config faults tables dir = some finding)
    : isVacant config faults tables node dir = true := by
  cases node with
  | dir entries => rw [isVacant, barred, Option.isSome_some, Bool.true_or]
  | _ => rfl

/-- There is no stop below a directory that a walk skips, and none there that does not skip it. -/
theorem survey_filter_of_barrier (node : Node) {finding : Finding}
    (barred : barrier? config faults tables dir = some finding) (skips : finding.isSkip = true)
    : (survey config faults tables node dir).filter (!·.finding.isSkip) = [] := by
  cases node with
  | dir entries =>
      rw [survey, barred]
      refine List.filter_eq_nil_iff.mpr fun stop member => ?_
      rw [List.mem_singleton.mp member, skips]
      exact Bool.false_ne_true
  | _ => rfl

/-- Stops that are left out make no difference if nothing comes of them. -/
theorem flatMap_filter_of_nil {α : Type} {stops : List Stop} {keep : Stop → Bool}
    {part : Stop → List α} (nothing : ∀ stop ∈ stops, keep stop = false → part stop = [])
    : (stops.filter keep).flatMap part = stops.flatMap part := by
  induction stops with
  | nil => rfl
  | cons stop rest ih =>
      have later := ih fun other member => nothing other (List.mem_cons_of_mem _ member)
      rw [List.filter_cons, List.flatMap_cons]
      cases kept : keep stop with
      | true => rw [if_pos rfl, List.flatMap_cons, later]
      | false =>
          rw [if_neg Bool.false_ne_true, later, nothing stop List.mem_cons_self kept,
            List.nil_append]

end

end Walk

-----------------------------------------------------------------------------------------
-- Stops that are left
-----------------------------------------------------------------------------------------

/-- What is left out of a project is what a run over it skips. -/
structure PrunesSkipped (config : Config) (faults : Faults) (location : Location)
    (tops : List DirPath) (tree other : Node) : Prop
    extends Prunes config location tops tree other where
  skips
    : ∀ dir, dir ∈ tops
        ↔ ∃ stop ∈ stops config faults tree, stop.dir = dir ∧ stop.finding.isSkip = true

/-- At a stop, nothing is told of the reading of ignore files. -/
theorem Walk.Stop.journal_filter_reads (config : Config) (faults : Faults) (location : Location)
    (start : Node) (tops : List DirPath) (stop : Stop)
    : (stop.journal config faults location start).filter (!·.readsWithin tops)
      = stop.journal config faults location start := by
  refine List.filter_eq_self.mpr fun event told => ?_
  obtain ⟨dir, finding⟩ := stop
  cases finding with
  | judged isEmpty =>
      have about : event.marker? = some dir := marker?_settle told
      cases event <;> first | rfl | cases about
  | _ =>
      rw [List.mem_singleton.mp told]
      rfl

namespace PrunesSkipped

section

variable {config : Config} {faults : Faults} {location : Location} {tops : List DirPath}
  {tree other : Node} {dir : DirPath}
  (h : PrunesSkipped config faults location tops tree other)

include h

/-- A walk is kept from what is left out, since it skips that. -/
theorem exists_barrier (top : dir ∈ tops)
    : ∃ finding, barrier? config faults (tables config faults tree) dir = some finding
      ∧ finding.isSkip = true := by
  obtain ⟨stop, stopped, rfl, skips⟩ := (h.skips dir).mp top
  obtain ⟨_, entries, _, found⟩ := (mem_stops h.project).mp stopped
  rw [found, Walk.findingAt] at skips
  cases barred : barrier? config faults (tables config faults tree) stop.dir with
  | none =>
      rw [barred] at skips
      cases skips
  | some finding =>
      rw [barred] at skips
      exact ⟨finding, rfl, skips⟩

section

variable (arrives : Arrives config faults (tables config faults tree) location tree dir)
  (outside : dir.isWithin tops = false)

include arrives outside

/-- Where a walk arrives outside of what is left out, it skips nothing. -/
theorem not_isSkip {entries : Entries} (there : tree.get? (location ++ dir) = some (.dir entries))
    : (Walk.findingAt config faults (tables config faults tree) dir entries).isSkip = false := by
  rw [← Bool.not_eq_true] at outside ⊢
  intro skips
  have stopped := stop_of_arrives h.project arrives there
  have top := (h.skips dir).mpr ⟨_, stopped, rfl, skips⟩
  exact outside (DirPath.isWithin_of_mem top)

/-- Where a walk arrives outside of what is left out, the same rules are in force. -/
theorem inForce_eq
    : (tables config faults other).inForce dir = (tables config faults tree).inForce dir := by
  obtain ⟨entries, there⟩ := Node.kindAt_eq_dir.mp (arrives.isDir h.project)
  have kept := h.not_isSkip arrives outside there
  rw [← Bool.not_eq_true, Walk.isSkip_findingAt, not_or] at kept
  have named : dir = .root ∨ config.excludes (dir.getLast?.getD "") = false := by
    simpa [Classical.or_iff_not_imp_left] using kept.1
  exact h.toPrunes.inForce_eq (arrives.visits h.project named) outside

/-- Where a walk arrives outside of what is left out, the same keeps it from going on. -/
theorem barrier?_eq
    : barrier? config faults (tables config faults other) dir
      = barrier? config faults (tables config faults tree) dir := by
  rw [barrier?, barrier?, h.inForce_eq arrives outside]

end

end

section

variable {config : Config} {faults : Faults} {location : Location} {tops : List DirPath}
  {tree other : Node} (h : PrunesSkipped config faults location tops tree other)

include h

/-- What is left is vacant if it is with all the rest. Witness: induction on the tree; what is left
out is vacant, since a walk skips it.
-/
theorem isVacant_pruned (node : Node) {dir : DirPath}
    (there : tree.get? (location ++ dir) = some node)
    (arrives : node.kind = .dir
      → Arrives config faults (tables config faults tree) location tree dir)
    (outside : dir.isWithin tops = false)
    : isVacant config faults (tables config faults other) (node.pruned tops dir) dir
      = isVacant config faults (tables config faults tree) node dir := by
  induction node using Node.induction generalizing dir with
  | file _ => simp [Node.pruned, isVacant]
  | link _ => simp [Node.pruned, isVacant]
  | dir entries ih =>
      rw [Node.pruned, isVacant, isVacant, h.barrier?_eq (arrives rfl) outside,
        h.inForce_eq (arrives rfl) outside]
      cases barred : barrier? config faults (tables config faults tree) dir with
      | some finding => rw [Option.isSome_some, Bool.true_or, Bool.true_or]
      | none =>
          have reached := (arrives rfl).reached h.project barred
          have child {entry : String × Node} (member : entry ∈ entries) :=
            h.project.get?_child there member
          rw [Walk.fileNames_pruned fun entry member top => ?_,
            Walk.areVacant_pruned fun entry member => ?_]
          · split
            · next top =>
              obtain ⟨finding, found, _⟩ := h.exists_barrier top
              exact (Walk.isVacant_of_barrier _ found).symm
            · next left =>
              exact ih entry member (child member) (reached.arrives_child (child member))
                (DirPath.isWithin_child_eq_false outside left)
          · have isDir := h.isDir _ top
            rw [Node.kindAt, child member] at isDir
            rw [← Node.isFile_kind, Option.some.inj isDir]
            rfl

/-- The survey of what is left stops where that of all does not skip. Witness: induction on the
tree; at what is left out there is one stop, which skips it.
-/
theorem survey_pruned (node : Node) {dir : DirPath}
    (there : tree.get? (location ++ dir) = some node)
    (arrives : node.kind = .dir
      → Arrives config faults (tables config faults tree) location tree dir)
    (outside : dir.isWithin tops = false)
    : survey config faults (tables config faults other) (node.pruned tops dir) dir
      = (survey config faults (tables config faults tree) node dir).filter
          (!·.finding.isSkip) := by
  induction node using Node.induction generalizing dir with
  | file _ => rfl
  | link _ => rfl
  | dir entries ih =>
      have vacant := h.isVacant_pruned (.dir entries) there arrives outside
      have goes := h.not_isSkip (arrives rfl) outside there
      rw [Walk.findingAt] at goes
      rw [Node.pruned] at vacant ⊢
      rw [survey, survey, h.barrier?_eq (arrives rfl) outside, vacant]
      cases barred : barrier? config faults (tables config faults tree) dir with
      | some finding =>
          rw [barred] at goes
          exact (List.filter_eq_self.mpr fun stop member => by
            rw [List.mem_singleton.mp member]
            exact congrArg Bool.not goes).symm
      | none =>
          have reached := (arrives rfl).reached h.project barred
          have child {entry : String × Node} (member : entry ∈ entries) :=
            h.project.get?_child there member
          simp only [List.filter_append]
          rw [Walk.surveyAll_pruned fun entry member => ?_]
          · rfl
          split
          · next top =>
            obtain ⟨finding, found, skips⟩ := h.exists_barrier top
            exact (Walk.survey_filter_of_barrier _ found skips).symm
          · next left =>
            exact ih entry member (child member) (reached.arrives_child (child member))
              (DirPath.isWithin_child_eq_false outside left)

end

-----------------------------------------------------------------------------------------
-- Whole runs
-----------------------------------------------------------------------------------------

section

variable {config : Config} {faults : Faults} {location : Location} {tops : List DirPath}
  {tree other : Node} (h : PrunesSkipped config faults location tops tree other)

include h

/-- The stops of a run over what is left are those of a run over all the rest at which it does not
skip.
-/
theorem stops_pruned
    : stops config faults other = (stops config faults tree).filter (!·.finding.isSkip) := by
  rw [stops, stops, h.dirAt_pruned]
  exact h.survey_pruned _ h.project.dirAt_root (fun _ => .root) h.root_outside

theorem mem_stops_pruned {stop : Stop}
    : stop ∈ stops config faults other
      ↔ stop ∈ stops config faults tree ∧ stop.finding.isSkip = false := by
  rw [h.stops_pruned, List.mem_filter, Bool.not_eq_true']

/-- A run over what is left skips nothing. -/
theorem skipped_pruned (known : config.HasKnownMode) : skippedDirs config faults other = [] := by
  refine List.eq_nil_iff_forall_not_mem.mpr fun dir skipped => ?_
  obtain ⟨stop, stopped, _, skips⟩ := (mem_run_skipped h.otherProject known).mp skipped
  cases skips.symm.trans (h.mem_stops_pruned.mp stopped).2

section

variable (unmarked : ∀ dir : DirPath,
  tree.kindAt (location ++ dir ++ [config.markerName]) ≠ some .dir)

include unmarked

/-- The place of a marker is left if its directory is. -/
theorem marker_outside {dir : DirPath} (outside : dir.isWithin tops = false)
    : (dir.child config.markerName).isWithin tops = false := by
  refine DirPath.isWithin_child_eq_false outside fun top => unmarked dir ?_
  have isDir := h.isDir _ top
  rwa [DirPath.child, ← List.append_assoc] at isDir

theorem kindAt_marker {dir : DirPath} (outside : dir.isWithin tops = false)
    : other.kindAt (location ++ dir ++ [config.markerName])
      = tree.kindAt (location ++ dir ++ [config.markerName]) := by
  rw [List.append_assoc]
  exact h.kindAt_outside (h.marker_outside unmarked outside)

variable (known : config.HasKnownMode)

include known

/-- A view of a run over what is left sees at its stops what it sees at all stops of a run over all
the rest, if it passes over what is skipped.
-/
theorem view_pruned {α : Type} (view : Event → Option α)
    (passes : ∀ event : Event, event.skipped?.isSome = true → view event = none)
    : ((stops config faults other).flatMap fun stop =>
          (stop.journal config faults location other).filterMap view)
      = (stops config faults tree).flatMap fun stop =>
          (stop.journal config faults location tree).filterMap view := by
  have same : ∀ stop ∈ stops config faults other,
      (stop.journal config faults location other).filterMap view
        = (stop.journal config faults location tree).filterMap view := by
    intro stop stopped
    obtain ⟨outside, there⟩ := h.outside (stops_inDir h.otherProject stopped)
    rw [stop.journal_of_unchanged known h.project h.otherProject there
      (stops_inDir h.otherProject stopped) (h.kindAt_marker unmarked outside)]
  rw [List.flatMap_congr same, h.stops_pruned]
  refine Walk.flatMap_filter_of_nil fun stop _ dropped => ?_
  obtain ⟨dir, finding⟩ := stop
  rw [Bool.not_eq_false'] at dropped
  cases finding with
  | excluded => exact List.filterMap_cons_none (passes (.excluded dir) rfl)
  | ignored => exact List.filterMap_cons_none (passes (.ignored dir) rfl)
  | _ => cases dropped

/-- A run over what is left reports the failures of a run over all the rest, except that ignore
files could not be read in what is left out.
-/
theorem errors_pruned
    : ((run config faults other).journal.summary config.markerName).errors
      = (Journal.summary config.markerName
          ((run config faults tree).journal.filter (!·.readsWithin tops))).errors := by
  have first := run_tracks faults known h.project
  have second := run_tracks faults known h.otherProject
  have commute : Journal.notable ((run config faults tree).journal.filter (!·.readsWithin tops))
      = (course config faults tree location).filter (!·.readsWithin tops) := by
    rw [Journal.notable, List.filter_comm, ← first.journal]
    rfl
  have walking := h.view_pruned unmarked known (Event.failure? config.markerName)
    fun event skips => by cases event <;> first | rfl | cases skips
  rw [second.summary, ← Journal.summary_notable _ (List.filter _ _), commute]
  dsimp only [Journal.summary]
  rw [course_filterMap, walking, h.load_pruned, course, List.filter_append, Walk.journal,
    List.filter_flatMap, List.filterMap_append, List.filterMap_flatMap]
  refine congrArg _ (List.flatMap_congr fun stop _ => ?_)
  rw [stop.journal_filter_reads]

/-- A run over what is left leaves nothing within what is left out. -/
theorem kindAt_gone {dir : DirPath} (within : dir.isWithin tops = true)
    : (run config faults other).tree.kindAt (location ++ dir) = none := by
  have apart : ∀ stop ∈ stops config faults other,
      location ++ dir ≠ location ++ stop.dir ++ [config.markerName] := by
    intro stop stopped placed
    obtain ⟨outside, _⟩ := h.outside (stops_inDir h.otherProject stopped)
    obtain rfl : dir = stop.dir.child config.markerName := by
      simpa [DirPath.child] using placed
    cases within.symm.trans (h.marker_outside unmarked outside)
  rw [kindAt_elsewhere known h.otherProject apart, h.kindAt, within]
  rfl

/-- A run over what is left leaves there what a run over all the rest does. -/
theorem kindAt_left {dir : DirPath} (outside : dir.isWithin tops = false)
    : (run config faults other).tree.kindAt (location ++ dir)
      = (run config faults tree).tree.kindAt (location ++ dir) := by
  by_cases here : ∃ stop ∈ stops config faults other,
      location ++ dir = location ++ stop.dir ++ [config.markerName]
  · obtain ⟨stop, stopped, placed⟩ := here
    obtain ⟨around, _⟩ := h.outside (stops_inDir h.otherProject stopped)
    rw [placed]
    exact kindAt_run_congr h.project h.otherProject (h.mem_stops_pruned.mp stopped).1 stopped known
      (h.kindAt_marker unmarked around)
  · have apart : ∀ stop ∈ stops config faults other,
        location ++ dir ≠ location ++ stop.dir ++ [config.markerName] :=
      fun stop stopped placed => here ⟨stop, stopped, placed⟩
    have ownApart : ∀ stop ∈ stops config faults tree,
        location ++ dir ≠ location ++ stop.dir ++ [config.markerName] := by
      intro stop stopped placed
      cases skips : stop.finding.isSkip with
      | false => exact apart stop (h.mem_stops_pruned.mpr ⟨stopped, skips⟩) placed
      | true =>
          obtain rfl : dir = stop.dir.child config.markerName := by
            simpa [DirPath.child] using placed
          have top := (h.skips _).mpr ⟨stop, stopped, rfl, skips⟩
          cases outside.symm.trans (DirPath.isWithin_append (DirPath.isWithin_of_mem top) _)
    rw [kindAt_elsewhere known h.otherProject apart, kindAt_elsewhere known h.project ownApart,
      h.kindAt_outside outside]

/-- A run over what is left ends with the tree of a run over all the rest, without what is left out.
-/
theorem tree_pruned
    : (run config faults other).tree
      = (run config faults tree).tree.eraseAll (tops.map (location ++ ·)) := by
  have first := run_tracks faults known h.project
  have second := run_tracks faults known h.otherProject
  have below := DirPath.nil_not_mem_map location tops h.below
  refine second.wellFormed.ext (first.wellFormed.eraseAll _) fun place => ?_
  rw [Node.kindAt_eraseAll below]
  by_cases leads : location <+: place
  · obtain ⟨dir, rfl⟩ := leads
    rw [DirPath.isWithin_map_append]
    cases within : DirPath.isWithin tops dir with
    | true => exact h.kindAt_gone unmarked known within
    | false => exact h.kindAt_left unmarked known within
  · have apart {stop : Stop} : place ≠ location ++ stop.dir ++ [config.markerName] := by
      rintro rfl
      rw [List.append_assoc] at leads
      exact leads (List.prefix_append _ _)
    rw [kindAt_elsewhere known h.otherProject fun _ _ => apart,
      kindAt_elsewhere known h.project fun _ _ => apart, h.erased, Node.kindAt_eraseAll below,
      DirPath.isWithin_map_of_apart location tops leads, if_neg Bool.false_ne_true]

end

end

end PrunesSkipped

-----------------------------------------------------------------------------------------
-- Skipping is pruning
-----------------------------------------------------------------------------------------

/-- What a second run does that goes over what a first run does not skip: it skips nothing, gives
the same answer, makes the same changes, finds the same mismatches, reports the same failures except
that ignore files could not be read in what was skipped, and ends with the same tree without that.
-/
structure GoesWithout (config : Config) (location : Location) (tops : List DirPath)
    (first second : Step Bool) : Prop where
  answer : second.answer = first.answer
  skipped : (second.journal.summary config.markerName).skipped = []
  created
    : (second.journal.summary config.markerName).created
      = (first.journal.summary config.markerName).created
  removed
    : (second.journal.summary config.markerName).removed
      = (first.journal.summary config.markerName).removed
  mismatched
    : (second.journal.summary config.markerName).mismatched
      = (first.journal.summary config.markerName).mismatched
  errors
    : (second.journal.summary config.markerName).errors
      = (Journal.summary config.markerName
          (first.journal.filter (!·.readsWithin tops))).errors
  tree : second.tree = first.tree.eraseAll (tops.map (location ++ ·))

section

variable {config : Config} {faults : Faults} {location : Location} {tree : Node}
  (known : config.HasKnownMode) (plain : PlainProject config location tree)
  (kept : .root ∉ skippedDirs config faults tree)
  (leads : ∃ entries, Tree.stat (keptTree config faults location tree) [] config.root.parts
    = .ok (location, .dir entries))

include known plain kept leads

/-- What a run does not skip is a project as well, if the path of the root still leads there. -/
theorem PrunesSkipped.of_run
    : PrunesSkipped config faults location (skippedDirs config faults tree) tree
        (keptTree config faults location tree) := by
  have kinds (place : Location) (kind : Kind)
      (there : (keptTree config faults location tree).kindAt place = some kind)
      : tree.kindAt place = some kind := by
    rw [keptTree, Node.kindAt_eraseAll (DirPath.nil_not_mem_map location _ kept)] at there
    split at there
    · cases there
    · exact there
  exact {
    plain := plain
    otherPlain := {
      wellFormed := plain.wellFormed.eraseAll _
      root := leads
      marker := plain.marker
      noLink := fun dir target there =>
        plain.notLink dir target (kinds _ _ (Node.kindAt_eq_link.mpr there))
      noRuleLink := fun source dir target there =>
        plain.notRuleLink source dir target (kinds _ _ (Node.kindAt_eq_link.mpr there))
    }
    below := kept
    isDir := by
      intro top skipped
      obtain ⟨stop, stopped, rfl, _⟩ := (mem_run_skipped plain.toProject known).mp skipped
      exact stops_inDir plain.toProject stopped
    erased := rfl
    skips := fun dir => mem_run_skipped plain.toProject known
  }

/-- Skipping is pruning: a run goes as if the directories that it skips were not there. -/
theorem run_pruned
    (unmarked : ∀ dir : DirPath,
      tree.kindAt (location ++ dir ++ [config.markerName]) ≠ some .dir)
    : GoesWithout config location (skippedDirs config faults tree) (run config faults tree)
        (run config faults (keptTree config faults location tree)) := by
  have h := PrunesSkipped.of_run known plain kept leads
  have view {α : Type} (view : Event → Option α)
      (views : ∀ event : Event, event.marker? = none → view event = none)
      : (run config faults (keptTree config faults location tree)).journal.filterMap view
        = (run config faults tree).journal.filterMap view := by
    rw [run_view faults h.otherProject view views known, run_view faults h.project view views known]
    refine h.view_pruned unmarked known view fun event skips => views event ?_
    cases event <;> first | rfl | cases skips
  exact {
    answer := by
      have vacant := h.isVacant_pruned _ h.project.dirAt_root (fun _ => .root) h.root_outside
      rw [(run_tracks faults known h.otherProject).answer,
        (run_tracks faults known h.project).answer, h.dirAt_pruned, vacant]
    skipped := congrArg (List.map DirPath.text) (h.skipped_pruned known)
    created := view (Event.createdMarker? config.markerName) fun event unmarked =>
      event.createdMarker?_of_unchanged _ (Event.changed?_of_unmarked unmarked)
    removed := view (Event.removedMarker? config.markerName) fun event unmarked =>
      event.removedMarker?_of_unchanged _ (Event.changed?_of_unmarked unmarked)
    mismatched := congrArg (List.map DirPath.text)
      (view Event.mismatched? fun _ unmarked => Event.mismatched?_of_unmarked unmarked)
    errors := h.errors_pruned unmarked known
    tree := h.tree_pruned unmarked known
  }

end

/-- A tree has no directory of a name if none of its directories has it. -/
theorem Node.kindAt_ne_dir_of_postOrder {tree : Node} (wellFormed : tree.WellFormed) {name : String}
    (named : ∀ dir ∈ Walk.postOrder tree .root, dir.getLast? ≠ some name) (around : Location)
    : tree.kindAt (around ++ [name]) ≠ some .dir := by
  intro isDir
  refine named (around ++ [name]) ((Walk.mem_postOrder wellFormed).mpr ⟨_, rfl, isDir⟩) ?_
  rw [List.getLast?_concat]

/-- A project that ignores a directory whose own ignore file cannot be decoded. -/
def builtTree : Node :=
  .dir [("p", .dir [
    (".gitignore", .file "build/\n".toUTF8),
    ("bare", .dir []),
    ("build", .dir [(".gitignore", .file ⟨#[255]⟩), ("deep", .dir [])])
  ])]

/-- In a project without the ignored directory, a run makes the same changes, and does not report
that an ignore file in there could not be read.
-/
theorem run_pruned_built
    : skippedDirs smallConfig .none builtTree = [["build"]]
      ∧ GoesWithout smallConfig ["p"] [["build"]] (run smallConfig .none builtTree)
        (run smallConfig .none (builtTree.eraseAll [["p", "build"]]))
      ∧ ((run smallConfig .none builtTree).journal.summary ".gitkeep").created = ["bare/.gitkeep"]
      ∧ ((run smallConfig .none builtTree).journal.summary ".gitkeep").errors.length = 1
      ∧ ((run smallConfig .none (builtTree.eraseAll [["p", "build"]])).journal.summary
          ".gitkeep").errors = [] := by
  have plain : PlainProject smallConfig ["p"] builtTree :=
    .of_linkless (by decide) ⟨_, rfl⟩ (by decide) rfl
  have skipped : skippedDirs smallConfig .none builtTree = [["build"]] := by decide +kernel
  have left : keptTree smallConfig .none ["p"] builtTree = builtTree.eraseAll [["p", "build"]] := by
    rw [keptTree, skipped]
    rfl
  have unmarked := Node.kindAt_ne_dir_of_postOrder plain.wellFormed
    (show ∀ dir ∈ Walk.postOrder builtTree .root, dir.getLast? ≠ some ".gitkeep" by decide)
  have kept : .root ∉ skippedDirs smallConfig .none builtTree := by
    rw [skipped]
    decide
  have leads : ∃ entries, Tree.stat (keptTree smallConfig .none ["p"] builtTree) [] ["p"]
      = .ok (["p"], .dir entries) := by
    rw [left]
    exact ⟨_, rfl⟩
  have pruned := run_pruned smallConfig_hasKnownMode plain kept leads fun _ => unmarked _
  rw [skipped, left] at pruned
  exact ⟨skipped, pruned, by decide +kernel, by decide +kernel, by decide +kernel⟩

-----------------------------------------------------------------------------------------
-- A root behind a skipped directory
-----------------------------------------------------------------------------------------

/-- A check of a project whose root is given by a path through a directory that is excluded. -/
def detourConfig : Config where
  root := ⟨.slash, ["p", "a", ".."]⟩
  mode := .check
  excludeDirs := ["a"]

def detourTree : Node :=
  .dir [("p", .dir [("a", .dir []), ("b", .dir [])])]

/-- Without the skipped directory, the path of the root leads nowhere, and no mismatch is found. -/
theorem run_detour_differs
    : PlainProject detourConfig ["p"] detourTree
      ∧ (∀ dir : DirPath, detourTree.kindAt (["p"] ++ dir ++ [".gitkeep"]) ≠ some .dir)
      ∧ skippedDirs detourConfig .none detourTree = [["a"]]
      ∧ ((run detourConfig .none detourTree).journal.summary ".gitkeep").mismatched = ["b", "."]
      ∧ ((run detourConfig .none (keptTree detourConfig .none ["p"] detourTree)).journal.summary
          ".gitkeep").mismatched = [] := by
  have plain : PlainProject detourConfig ["p"] detourTree :=
    .of_linkless (by decide) ⟨_, rfl⟩ (by decide) rfl
  have unmarked := Node.kindAt_ne_dir_of_postOrder plain.wellFormed
    (show ∀ dir ∈ Walk.postOrder detourTree .root, dir.getLast? ≠ some ".gitkeep" by decide)
  exact ⟨plain, fun dir => unmarked _, by decide +kernel, by decide +kernel, by decide +kernel⟩

end DirMarkers
