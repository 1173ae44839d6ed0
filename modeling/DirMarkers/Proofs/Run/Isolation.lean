import DirMarkers.Proofs.Run.Outcome
import DirMarkers.Proofs.Run.Outside

/-!
Runs over projects that differ in one directory only. They have the same outcome for every directory
that is neither at or below nor above that one, and also for those above it if its walk answers the
same.
-/

namespace DirMarkers

open Walk (Answers Stop)

-----------------------------------------------------------------------------------------
-- What is done about a marker
-----------------------------------------------------------------------------------------

namespace Marker

section

variable {config : Config} {dir : DirPath}

/-- What is done about a marker depends on the faults of its own path only. -/
theorem settle_congr {faults others : Faults} {path : PathName}
    (same : ∀ call, call ≠ .list
      → faults call (path.join config.markerName) = others call (path.join config.markerName))
    (isEmpty hasMarker : Bool) (tree : Node)
    : settle config faults path dir isEmpty hasMarker tree
      = settle config others path dir isEmpty hasMarker tree := by
  have write := same .write nofun
  have remove := same .remove nofun
  rw [settle, settle]
  cases duty config.mode isEmpty hasMarker with
  | error crash => rfl
  | ok duty =>
      cases duty with
      | create =>
          simp only [perform, create, Faults.crash?, Faults.write, Faults.attempt, write]
      | remove =>
          simp only [perform, Marker.remove, Faults.crash?, Faults.remove, Faults.attempt, remove]
      | _ => rfl

variable {faults : Faults} {location : Location} {tree : Node}
  (project : Project config location tree) (there : tree.kindAt (location ++ dir) = some .dir)
  (blocked : tree.kindAt (location ++ dir ++ [config.markerName]) = some .dir)

include project there blocked

/-- Where a directory is in the place of a marker, a marker is announced at most. -/
theorem create_deeds
    : (create config faults (config.root.under dir) dir tree).journal.filter
        (fun event => !event.isFailure)
      = if config.dryRun then [.wouldCreate dir] else [] := by
  obtain ⟨_, listed⟩ := Node.kindAt_eq_dir.mp there
  simp only [create, PathName.join_entry _ project.marker,
    project.crash?_marker there faults .write]
  split
  · rfl
  · cases written : faults.write tree ((config.root.under dir).child config.markerName)
      config.markerContent.toUTF8 with
    | error error => rfl
    | ok changed =>
        have room := project.rooted.room_of_write listed project.marker (project.notLink dir) faults
          written
        exact absurd blocked room.2

theorem remove_deeds
    : (remove config faults (config.root.under dir) dir tree).journal.filter
        (fun event => !event.isFailure)
      = if config.dryRun then [.wouldRemove dir] else [] := by
  obtain ⟨_, listed⟩ := Node.kindAt_eq_dir.mp there
  simp only [remove, PathName.join_entry _ project.marker,
    project.crash?_marker there faults .remove, project.rooted.remove_eq listed project.marker
      (project.notLink dir), blocked]
  split
  · rfl
  · cases faults.refusal? .remove ((config.root.under dir).child config.markerName) with
    | some error => rfl
    | none =>
        by_cases long : Tree.nameLimit < config.markerName.utf8ByteSize
        · simp only [if_pos long]
          rfl
        · simp only [if_neg long]
          rfl

end

end Marker

namespace AgreeOutside

section

variable {config : Config} {location : Location} {scope dir : DirPath} {faults others : Faults}
  {tree other : Node} (h : AgreeOutside config location scope faults tree others other)
  (known : config.HasKnownMode) (outside : ¬ scope <+: dir)
  (there : tree.kindAt (location ++ dir) = some .dir)

include h known outside there

/-- The same is told when a marker is settled outside, if the same calls fail. -/
theorem settle_journal_eq
    (same : ∀ call, call ≠ .list
      → faults call (config.root.under (dir.child config.markerName))
        = others call (config.root.under (dir.child config.markerName)))
    (isEmpty hasMarker : Bool)
    : (Marker.settle config faults (config.root.under dir) dir isEmpty hasMarker tree).journal
      = (Marker.settle config others (config.root.under dir) dir isEmpty hasMarker
          other).journal := by
  have tracks := Marker.settle_tracks h.project h.otherProject there
    ((h.kindAt_dir outside).symm.trans there) (h.kindAt_entry outside _) faults known isEmpty
    hasMarker
  have told := tracks.journal
  rw [Walk.notable_settle] at told
  rw [← PathName.child_under, ← PathName.join_entry _ h.plain.marker] at same
  rw [told, Marker.settle_congr same]

/-- The same is told apart from failures when a marker is settled outside. Witness: where calls may
fail differently, a directory is in the place of the marker, so that no call succeeds.
-/
theorem settle_deeds_eq (isEmpty hasMarker : Bool)
    : (Marker.settle config faults (config.root.under dir) dir isEmpty hasMarker
          tree).journal.filter (fun event => !event.isFailure)
      = (Marker.settle config others (config.root.under dir) dir isEmpty hasMarker
          other).journal.filter (fun event => !event.isFailure) := by
  by_cases same : dir.child config.markerName = scope
  · have place : location ++ dir ++ [config.markerName] = location ++ scope := by
      rw [← same, DirPath.child, List.append_assoc]
    have otherThere := (h.kindAt_dir outside).symm.trans there
    have blocked := place ▸ h.isDir
    have otherBlocked := place ▸ h.otherIsDir
    rw [Marker.settle, Marker.settle]
    cases Marker.duty config.mode isEmpty hasMarker with
    | error crash => rfl
    | ok duty =>
        cases duty with
        | create =>
            exact (Marker.create_deeds h.project there blocked).trans
              (Marker.create_deeds h.otherProject otherThere otherBlocked).symm
        | remove =>
            exact (Marker.remove_deeds h.project there blocked).trans
              (Marker.remove_deeds h.otherProject otherThere otherBlocked).symm
        | _ => rfl
  · have calls := h.settle_journal_eq known outside there fun call _ =>
      h.calls call _ (DirPath.outside_child outside same)
    rw [calls]

end

/-- A view sees the same at a stop outside if it sees the same when a marker is settled there. -/
theorem stop_view_eq {config : Config} {location : Location} {scope : DirPath}
    {faults others : Faults} {tree other : Node} {α : Type}
    (h : AgreeOutside config location scope faults tree others other) {stop : Stop}
    (outside : ¬ scope <+: stop.dir) (view : Journal → α)
    (settled : ∀ isEmpty hasMarker,
      view (Marker.settle config faults (config.root.under stop.dir) stop.dir isEmpty hasMarker
          tree).journal
        = view (Marker.settle config others (config.root.under stop.dir) stop.dir isEmpty hasMarker
          other).journal)
    : view (stop.journal config faults location tree)
      = view (stop.journal config others location other) := by
  obtain ⟨dir, finding⟩ := stop
  cases finding with
  | judged isEmpty =>
      simp only [Stop.journal, Node.hasFileAt_congr (h.kindAt_entry outside _)]
      exact settled _ _
  | _ => rfl

-----------------------------------------------------------------------------------------
-- Ignore files
-----------------------------------------------------------------------------------------

section

variable {config : Config} {location : Location} {scope dir : DirPath} {faults others : Faults}
  {tree other : Node} (h : AgreeOutside config location scope faults tree others other)
  (outside : ¬ scope <+: dir)

include h outside

/-- The ignore files of a directory outside give the same if the same reads of them fail. -/
theorem loadFiles_eq (there : tree.kindAt (location ++ dir) = some .dir)
    (same : ∀ source : Ignore.Source,
      faults .read (config.root.under (dir.child source.fileName))
        = others .read (config.root.under (dir.child source.fileName)))
    : Loading.loadFiles config faults tree (config.root.under dir) dir
      = Loading.loadFiles config others other (config.root.under dir) dir := by
  have rules (source : Ignore.Source)
      : Loading.readRules faults tree (config.root.under dir) dir source
        = Loading.readRules others other (config.root.under dir) dir source := by
    rw [Loading.readRules, Loading.readRules, h.read_eq outside there source (same source)]
  rw [Loading.loadFiles, Loading.loadFiles, rules .content, rules .marker]

/-- The same is told of a directory outside when ignore files are read, if the same reads fail. -/
theorem load_about_eq
    (same : ∀ source : Ignore.Source,
      faults .read (config.root.under (dir.child source.fileName))
        = others .read (config.root.under (dir.child source.fileName)))
    : (Loading.load config faults tree config.root).journal.about dir
      = (Loading.load config others other config.root).journal.about dir := by
  have visits : Loading.Visits config faults tree dir ↔ Loading.Visits config others other dir :=
    ⟨h.visits outside, h.symm.visits outside⟩
  rw [Loading.load_about h.plain.wellFormed, Loading.load_about h.otherPlain.wellFormed]
  by_cases visited : Loading.Visits config faults tree dir
  · have there := visited.isDir h.project.rooted
    rw [if_pos visited, if_pos (visits.mp visited), Loading.told, Loading.told,
      h.loadFiles_eq outside there same]
  · rw [if_neg visited, if_neg fun other => visited (visits.mpr other)]

end

end AgreeOutside

-----------------------------------------------------------------------------------------
-- Whole runs
-----------------------------------------------------------------------------------------

namespace AgreeOutside

section

variable {config : Config} {location : Location} {scope dir : DirPath} {faults others : Faults}
  {tree other : Node} (h : AgreeOutside config location scope faults tree others other)
  (known : config.HasKnownMode) (outside : ¬ scope <+: dir)
  (same : dir <+: scope → ∀ isEmpty,
    Answers config faults (tables config faults tree) tree scope isEmpty
      ↔ Answers config others (tables config others other) other scope isEmpty)

include h known outside same

/-- Either both runs stop at a directory outside and find it to be the same, or neither does. -/
theorem stops_or
    : (∃ stop, stop.dir = dir ∧ stop ∈ stops config faults tree ∧ stop ∈ stops config others other)
      ∨ ((∀ stop ∈ stops config faults tree, stop.dir ≠ dir)
        ∧ ∀ stop ∈ stops config others other, stop.dir ≠ dir) := by
  have both (stop : Stop) (placed : stop.dir = dir)
      : stop ∈ stops config faults tree ↔ stop ∈ stops config others other := by
    subst placed
    exact h.mem_stops outside same known
  by_cases stops : ∃ stop, stop.dir = dir ∧ stop ∈ stops config faults tree
  · obtain ⟨stop, placed, stopped⟩ := stops
    exact .inl ⟨stop, placed, stopped, (both stop placed).mp stopped⟩
  · refine .inr ⟨fun stop stopped placed => stops ⟨stop, placed, stopped⟩, ?_⟩
    exact fun stop stopped placed => stops ⟨stop, placed, (both stop placed).mpr stopped⟩

/-- Both runs tell the same of a directory outside, failures apart. -/
theorem deeds_eq
    : (run config faults tree).journal.deeds dir = (run config others other).journal.deeds dir := by
  have project := h.project
  have otherProject := h.otherProject
  rw [Journal.deeds, Journal.deeds, run_about known project, run_about known otherProject,
    List.filter_append, List.filter_append, Loading.load_deeds, Loading.load_deeds]
  rcases h.stops_or known outside same with ⟨stop, rfl, stopped, again⟩ | ⟨none, also⟩
  · have settled := h.settle_deeds_eq known outside (stops_inDir project stopped)
    rw [Walk.journal_about (stops_nodup project) stopped,
      Walk.journal_about (stops_nodup otherProject) again,
      h.stop_view_eq outside (List.filter fun event => !event.isFailure) settled]
  · rw [Walk.journal_about_eq_nil none, Walk.journal_about_eq_nil also]

/-- Both runs do the same to a directory outside. -/
theorem sameOutcome
    : SameOutcome config location dir (run config faults tree) (run config others other) := by
  have project := h.project
  have otherProject := h.otherProject
  have deeds := h.deeds_eq known outside same
  refine ⟨?_, deeds, ?_⟩
  · rw [run_enters known project, run_enters known otherProject, List.mem_map, List.mem_map]
    rcases h.stops_or known outside same with ⟨stop, placed, stopped, again⟩ | ⟨none, also⟩
    · exact iff_of_true ⟨stop, stopped, placed⟩ ⟨stop, again, placed⟩
    · refine iff_of_false (fun stops => ?_) fun stops => ?_
      · obtain ⟨stop, stopped, placed⟩ := stops
        exact none stop stopped placed
      · obtain ⟨stop, stopped, placed⟩ := stops
        exact also stop stopped placed
  · by_cases changed : ∃ event ∈ (run config faults tree).journal.deeds dir,
        event.changed? = some dir
    · obtain ⟨event, happened, change⟩ := changed
      rw [run_leaves known project happened change,
        run_leaves known otherProject (deeds ▸ happened) change]
    · have unchanged : ∀ event ∈ (run config faults tree).journal.deeds dir,
          event.changed? ≠ some dir :=
        fun event happened change => changed ⟨event, happened, change⟩
      rw [run_leaves_alone known project unchanged, h.kindAt_entry outside,
        run_leaves_alone known otherProject (deeds ▸ unchanged)]

/-- Both runs tell the same failures of a directory outside, if the same calls on its marker and its
ignore files fail.
-/
theorem failures_eq
    (opened : ∀ name, (name = config.markerName ∨ ∃ source : Ignore.Source, name = source.fileName)
      → ∀ call, call ≠ .list
      → faults call (config.root.under (dir.child name))
        = others call (config.root.under (dir.child name)))
    : (run config faults tree).journal.failures dir
      = (run config others other).journal.failures dir := by
  have project := h.project
  have otherProject := h.otherProject
  have loaded := h.load_about_eq outside fun source => opened _ (.inr ⟨source, rfl⟩) .read nofun
  rw [Journal.failures, Journal.failures, run_about known project, run_about known otherProject,
    loaded]
  rcases h.stops_or known outside same with ⟨stop, rfl, stopped, again⟩ | ⟨none, also⟩
  · have settled := h.settle_journal_eq known outside (stops_inDir project stopped)
      (opened _ (.inl rfl))
    have told : stop.journal config faults location tree
        = stop.journal config others location other :=
      h.stop_view_eq outside id settled
    rw [Walk.journal_about (stops_nodup project) stopped,
      Walk.journal_about (stops_nodup otherProject) again, told]
  · rw [Walk.journal_about_eq_nil none, Walk.journal_about_eq_nil also]

end

end AgreeOutside

/-- The names under which a run opens files in every directory: that of the marker, and those of
ignore files.
-/
def Config.OpensAsFile (config : Config) (name : String) : Prop :=
  name = config.markerName ∨ ∃ source : Ignore.Source, name = source.fileName

/-- A project with an empty directory, and another one that holds some entries. -/
def sharedTree (inside : Entries) : Node :=
  .dir [("p", .dir [("data", .dir inside), ("logs", .dir [])])]

/-- The directory `data` of a small project may not be listed. -/
def Faults.sealedData : Faults :=
  fun call path => if call = .list ∧ path = ⟨.slash, ["p", "data"]⟩ then some .accessDenied
    else Option.none

/-- Empty and unlistable, `data` counts as empty, and nothing else tells the projects apart. -/
theorem agreeOutside_data
    : AgreeOutside smallConfig ["p"] ["data"] .none (sharedTree []) .sealedData
        (sharedTree [("note", .file .empty)]) := by
  refine ⟨.of_linkless (by decide) ⟨_, rfl⟩ (by decide) rfl,
    .of_linkless (by decide) ⟨_, rfl⟩ (by decide) rfl, nofun, rfl, rfl, ?_, ?_⟩
  · intro place outside
    have there : (sharedTree []).get? ["p", "data"] = some (.dir []) := rfl
    exact (@Node.kindAt_amend_outside _ (fun _ => [("note", .file .empty)]) _ _ there _
      outside).symm
  · intro call dir outside
    refine (if_neg fun h => ?_).symm
    obtain ⟨_, same⟩ := h
    obtain rfl : dir = ["data"] := by simpa [PathName.under, smallConfig] using same
    exact outside (List.prefix_refl _)

/-- A project with a directory in the place of a marker. -/
def blockedTree : Node :=
  .dir [("p", .dir [("bare", .dir [(".gitkeep", .dir [(".gitkeep", .file .empty)])])])]

/-- The directory in the place of the marker of `bare` may not be opened to write a file. -/
def Faults.sealedMarker : Faults :=
  fun call path => if call = .write ∧ path = ⟨.slash, ["p", "bare", ".gitkeep"]⟩
    then some .accessDenied
    else Option.none

end DirMarkers
