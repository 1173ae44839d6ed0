import DirMarkers.Proofs.Ignore.Tightening
import DirMarkers.Proofs.Run.Outside
import DirMarkers.Proofs.Run.Stopping
import DirMarkers.Proofs.Run.Success

/-!
Runs over projects of which one goes by tighter rules. It sees less: what its walk reaches and what
it finds not to be empty, the walk of the other one reaches and finds not to be empty as well.
-/

namespace DirMarkers

open Loading (Visits ignoreText? contribution)
open Walk (Stop Reached Arrives Shows Answers)

/-- A second project narrows a first one: both have the same directories and have files in the same
places, and wherever ignore files are read, the second one goes by tighter rules.
-/
structure Narrows (config : Config) (faults : Faults) (location : Location) (tree other : Node)
    : Prop where
  plain : PlainProject config location tree
  otherPlain : PlainProject config location other
  dirs : ∀ place, tree.kindAt place = some .dir ↔ other.kindAt place = some .dir
  files : ∀ place, other.hasFileAt place = tree.hasFileAt place
  tightens
    : ∀ dir, Visits config faults tree dir
        → Ignore.Tightens ((tables config faults tree).inForce dir)
          ((tables config faults other).inForce dir)

namespace Narrows

section

variable {config : Config} {faults : Faults} {location : Location} {tree other : Node}
  {dir : DirPath} (h : Narrows config faults location tree other)

include h

theorem project : Project config location tree :=
  h.plain.toProject

theorem otherProject : Project config location other :=
  h.otherPlain.toProject

theorem visits (visited : Visits config faults other dir) : Visits config faults tree dir :=
  visited.transport h.otherProject.rooted h.project.rooted fun _ => (h.dirs _).mpr

/-- What is ignored in the first project is ignored in the second one. -/
theorem isIgnored (visited : Visits config faults other dir) {path : String} {isDir : Bool}
    (kept : Ignore.isIgnored ((tables config faults other).inForce dir) path isDir = false)
    : Ignore.isIgnored ((tables config faults tree).inForce dir) path isDir = false := by
  rw [← Bool.not_eq_true] at kept ⊢
  exact fun ignored => kept ((h.tightens dir (h.visits visited)).isIgnored ignored)

-----------------------------------------------------------------------------------------
-- Where a walk arrives
-----------------------------------------------------------------------------------------

/-- What is reached in the second project is not barred in the first one. -/
theorem unbarred (reached : Reached config faults (tables config faults other) location other dir)
    : Walk.barrier? config faults (tables config faults tree) dir = none := by
  have open_ := reached.unbarred h.otherProject
  rw [Walk.barrier?] at open_ ⊢
  split at open_
  · cases open_
  · next kept =>
    rw [if_neg kept]
    split at open_
    · cases open_
    · next notIgnored =>
      rw [Bool.not_eq_true] at notIgnored
      rw [h.isIgnored (reached.visits h.otherProject) notIgnored, if_neg Bool.false_ne_true]
      exact open_

/-- What is reached in the second project is reached in the first one, by induction on the way. -/
theorem reached (reached : Reached config faults (tables config faults other) location other dir)
    : Reached config faults (tables config faults tree) location tree dir := by
  induction reached with
  | root opens => exact .root_of_unbarred h.project (h.unbarred (.root opens))
  | child above isDir kept opens ih =>
      have unbarred := h.unbarred (.child above isDir kept opens)
      obtain ⟨entries, there⟩ := Node.kindAt_eq_dir.mp ((h.dirs _).mpr isDir)
      exact ih.of_unbarred h.project there rfl unbarred

/-- The walk of the first project arrives where that of the second one does. -/
theorem arrives (arrives : Arrives config faults (tables config faults other) location other dir)
    : Arrives config faults (tables config faults tree) location tree dir := by
  cases arrives with
  | root => exact .root
  | child above isDir => exact .child (h.reached above) ((h.dirs _).mpr isDir)

-----------------------------------------------------------------------------------------
-- What a walk finds
-----------------------------------------------------------------------------------------

/-- What is skipped in the first project is skipped in the second one. -/
theorem isSkip (arrives : Arrives config faults (tables config faults other) location other dir)
    {entries others : Entries}
    (skips : (Walk.findingAt config faults (tables config faults tree) dir entries).isSkip = true)
    : (Walk.findingAt config faults (tables config faults other) dir others).isSkip = true := by
  rw [Walk.isSkip_findingAt] at skips ⊢
  by_cases excluded : dir ≠ .root ∧ config.excludes (dir.getLast?.getD "") = true
  · exact .inl excluded
  · have kept : dir = .root ∨ config.excludes (dir.getLast?.getD "") = false := by
      simpa [Classical.or_iff_not_imp_left] using excluded
    have visited := h.visits (arrives.visits h.otherProject kept)
    exact .inr ((h.tightens dir visited).isIgnored (skips.resolve_left excluded))

/-- A visible file in the second project is visible in the first one. -/
theorem holdsVisible
    (reached : Reached config faults (tables config faults other) location other dir)
    (visible : Walk.HoldsVisible config (tables config faults other) location other dir)
    : Walk.HoldsVisible config (tables config faults tree) location tree dir := by
  obtain ⟨name, content, there, notMarker, notIgnored⟩ := visible
  have file := Node.hasFileAt_eq_true.mpr ⟨content, Node.kindAt_eq_file.mpr there⟩
  rw [h.files] at file
  obtain ⟨own, found⟩ := Node.hasFileAt_eq_true.mp file
  exact ⟨name, own, Node.kindAt_eq_file.mp found, notMarker,
    h.isIgnored (reached.visits h.otherProject) notIgnored⟩

/-- What shows a file in the second project shows it in the first one. Witness: induction on the
directories that lead to the file.
-/
theorem shows (arrives : Arrives config faults (tables config faults other) location other dir)
    (shown : Shows config faults (tables config faults other) location other dir)
    : Shows config faults (tables config faults tree) location tree dir := by
  have judges {dir : DirPath}
      (arrives : Arrives config faults (tables config faults other) location other dir)
      (judged : Walk.Judges config faults (tables config faults other) location other dir)
      : Reached config faults (tables config faults other) location other dir
        ∧ Walk.Judges config faults (tables config faults tree) location tree dir := by
    have reached := arrives.reached h.otherProject
      ((Walk.judges_iff h.otherProject judged.isDir).mp judged)
    refine ⟨reached, ?_⟩
    exact (Walk.judges_iff h.project ((h.dirs _).mpr judged.isDir)).mpr (h.unbarred reached)
  induction shown with
  | here judged visible =>
      obtain ⟨reached, own⟩ := judges arrives judged
      exact .here own (h.holdsVisible reached visible)
  | deeper name judged next ih =>
      obtain ⟨reached, own⟩ := judges arrives judged
      exact .deeper name own (ih (.child reached next.judged.isDir))

/-- What the walk of the first project finds vacant, that of the second one does as well. -/
theorem isVacant (arrives : Arrives config faults (tables config faults other) location other dir)
    {entries others : Entries} (there : tree.get? (location ++ dir) = some (.dir entries))
    (otherThere : other.get? (location ++ dir) = some (.dir others))
    (vacant : Walk.isVacant config faults (tables config faults tree) (.dir entries) dir = true)
    : Walk.isVacant config faults (tables config faults other) (.dir others) dir = true := by
  rw [← Bool.not_eq_false, Walk.isVacant_eq_false_iff h.otherProject _ otherThere]
  intro shown
  cases vacant.symm.trans
    ((Walk.isVacant_eq_false_iff h.project _ there).mpr (h.shows arrives shown))

end

end Narrows

-----------------------------------------------------------------------------------------
-- What two runs do
-----------------------------------------------------------------------------------------

/-- A duty to remove a marker remains one where a directory is no longer found to be empty. -/
theorem Marker.duty_remove_of_le {mode : Mode} {isEmpty other hasMarker : Bool}
    (decided : Marker.duty mode other hasMarker = .ok .remove) (le : isEmpty = true → other = true)
    : Marker.duty mode isEmpty hasMarker = .ok .remove := by
  cases isEmpty with
  | true => rwa [le rfl] at decided
  | false => cases mode <;> cases other <;> cases hasMarker <;> first | rfl | cases decided

/-- A run over a second tree sees less than one over a first tree: a directory that it enters and
does not skip, the first run enters and does not skip; a directory that it enters and that the first
run finds empty, it finds empty; and a marker that it removes, the first run removes.
-/
structure SeesLess (config : Config) (faults : Faults) (tree other : Node) : Prop where
  kept
    : ∀ dir, .entered dir ∈ (run config faults other).journal
        → dir ∉ (run config faults other).journal.filterMap Event.skipped?
        → .entered dir ∈ (run config faults tree).journal
          ∧ dir ∉ (run config faults tree).journal.filterMap Event.skipped?
  empty
    : ∀ dir, .entered dir ∈ (run config faults other).journal
        → Answers config faults (tables config faults tree) tree dir true
        → Answers config faults (tables config faults other) other dir true
  removed
    : ∀ path ∈ ((run config faults other).journal.summary config.markerName).removed,
        path ∈ ((run config faults tree).journal.summary config.markerName).removed

namespace Narrows

section

variable {config : Config} {faults : Faults} {location : Location} {tree other : Node}
  (h : Narrows config faults location tree other)

include h

/-- Where the run over the second project stops, the one over the first one stops as well: what it
skips or finds empty there, the other one does.
-/
theorem stop_of_stop {stop : Stop} (stopped : stop ∈ stops config faults other)
    : ∃ own ∈ stops config faults tree, own.dir = stop.dir
        ∧ (own.finding.isSkip = true → stop.finding.isSkip = true)
        ∧ (own.finding.answer = true → stop.finding.answer = true) := by
  obtain ⟨arrives, others, otherThere, found⟩ := (mem_stops h.otherProject).mp stopped
  obtain ⟨entries, there⟩ :=
    Node.kindAt_eq_dir.mp ((h.dirs _).mpr (Node.kindAt_eq_dir.mpr ⟨_, otherThere⟩))
  refine ⟨_, stop_of_arrives h.project (h.arrives arrives) there, rfl, ?_, ?_⟩
  · rw [found]
    exact h.isSkip arrives
  · rw [found, Walk.answer_findingAt, Walk.answer_findingAt]
    exact h.isVacant arrives there otherThere

/-- A marker that is removed in the second project is removed in the first one. Witness: what calls
for that in the second one calls for it in the first one, and the same calls succeed.
-/
theorem removed {dir : DirPath} (happened : .removed dir ∈ course config faults other location)
    : .removed dir ∈ course config faults tree location := by
  obtain ⟨⟨place, finding⟩, stopped, told⟩ := course_marker happened rfl
  obtain ⟨rfl, _, others, rfl, duty⟩ := Stop.marker_journal told rfl
  have there := stops_inDir h.otherProject stopped
  simp only [Stop.journal, Marker.settle, duty] at told
  obtain ⟨allowed, real⟩ := Marker.allowed_of_removed h.otherProject there told
  -- The first run judges the directory, and finds it empty only if the second one does.
  obtain ⟨isEmpty, ownStopped⟩ := (reached_iff_judged h.project).mp
    (h.reached ((reached_iff_judged h.otherProject).mpr ⟨_, stopped⟩))
  obtain ⟨own, alsoStopped, placed, _, le⟩ := h.stop_of_stop stopped
  obtain rfl := List.inj_on_of_nodup_map (stops_nodup h.project) alsoStopped ownStopped placed
  have present := (h.files _).symm.trans (Marker.of_duty_remove duty)
  have ownDuty : Marker.duty config.mode isEmpty
      (tree.hasFileAt (location ++ dir ++ [config.markerName])) = .ok .remove :=
    Marker.duty_remove_of_le (h.files _ ▸ duty) le
  have ownThere := stops_inDir h.project ownStopped
  have removes := Marker.remove_succeeds h.project ownThere present allowed
  refine mem_course ownStopped ?_
  simp only [Stop.journal, Marker.settle, ownDuty, Marker.perform, removes, real]
  exact List.mem_singleton_self _

/-- A run over the second project sees less than one over the first project. -/
theorem seesLess (known : config.HasKnownMode) : SeesLess config faults tree other where
  kept := by
    intro dir entered kept
    obtain ⟨stop, stopped, rfl⟩ :=
      List.mem_map.mp ((run_enters known h.otherProject dir).mp entered)
    obtain ⟨own, ownStopped, placed, skips, _⟩ := h.stop_of_stop stopped
    refine ⟨(run_enters known h.project _).mpr (List.mem_map.mpr ⟨own, ownStopped, placed⟩), ?_⟩
    intro skipped
    obtain ⟨again, againStopped, same, isSkip⟩ := (mem_run_skipped h.project known).mp skipped
    obtain rfl := List.inj_on_of_nodup_map (stops_nodup h.project) againStopped ownStopped
      (same.trans placed.symm)
    exact kept ((mem_run_skipped h.otherProject known).mpr ⟨stop, stopped, rfl, skips isSkip⟩)
  empty := by
    intro dir entered answers
    obtain ⟨stop, stopped, rfl⟩ :=
      List.mem_map.mp ((run_enters known h.otherProject dir).mp entered)
    obtain ⟨own, ownStopped, placed, _, le⟩ := h.stop_of_stop stopped
    obtain ⟨again, againStopped, same, answer⟩ := (answers_iff_stop h.project known).mp answers
    obtain rfl := List.inj_on_of_nodup_map (stops_nodup h.project) againStopped ownStopped
      (same.trans placed.symm)
    exact (answers_iff_stop h.otherProject known).mpr ⟨stop, stopped, rfl, le answer⟩
  removed := by
    intro path member
    rw [(run_tracks faults known h.otherProject).summary] at member
    rw [(run_tracks faults known h.project).summary]
    obtain ⟨event, happened, tells⟩ := List.mem_filterMap.mp member
    cases event with
    | removed dir => exact List.mem_filterMap.mpr ⟨_, h.removed happened, tells⟩
    | _ => cases tells

end

end Narrows

-----------------------------------------------------------------------------------------
-- A line that is added to an ignore file
-----------------------------------------------------------------------------------------

/-- The tree in which an ignore file has another text. -/
def Node.rewrite (tree : Node) (around : Location) (source : Ignore.Source) (text : String)
    : Node :=
  Node.put (.file text.toUTF8) tree (around ++ [source.fileName])

section

variable {around : Location} {tree : Node} {source : Ignore.Source} {text : String}
  (there : tree.get? (around ++ [source.fileName]) = some (.file text.toUTF8))

include there

/-- Another text of an ignore file shows in its place alone. -/
theorem Node.kindAt_rewrite (more : String) (place : Location)
    : (tree.rewrite around source more).kindAt place
      = if place = around ++ [source.fileName] then some (.file more.toUTF8)
        else tree.kindAt place := by
  obtain ⟨entries, listed, _⟩ := Node.dir_of_get?_entry there
  refine Node.kindAt_put_file listed (fun isDir => ?_) _ place
  cases (Node.kindAt_eq_file.mpr there).symm.trans isDir

/-- Directories are where they were when an ignore file has another text. -/
theorem Node.kindAt_rewrite_eq_dir (more : String) (place : Location)
    : (tree.rewrite around source more).kindAt place = some .dir
      ↔ tree.kindAt place = some .dir := by
  rw [Node.kindAt_rewrite there]
  split
  · next here =>
    rw [here, Node.kindAt_eq_file.mpr there]
    exact ⟨nofun, nofun⟩
  · rfl

/-- Files are where they were when an ignore file has another text. -/
theorem Node.hasFileAt_rewrite (more : String) (place : Location)
    : (tree.rewrite around source more).hasFileAt place = tree.hasFileAt place := by
  by_cases here : place = around ++ [source.fileName]
  · have own := Node.kindAt_rewrite there more place
    rw [if_pos here] at own
    rw [Node.hasFileAt_eq_true.mpr ⟨_, own⟩, here]
    exact (Node.hasFileAt_eq_true.mpr ⟨_, Node.kindAt_eq_file.mpr there⟩).symm
  · apply Node.hasFileAt_congr
    rw [Node.kindAt_rewrite there, if_neg here]

/-- A project stays one when an ignore file has another text. -/
theorem PlainProject.rewrite {config : Config} {location : Location}
    (plain : PlainProject config location tree) (more : String)
    : PlainProject config location (tree.rewrite around source more) := by
  obtain ⟨entries, listed, _⟩ := Node.dir_of_get?_entry there
  obtain ⟨named, short⟩ := plain.wellFormed.name there
  have free : tree.HoldsNoMoreThanFile (around ++ [source.fileName]) :=
    fun kind found => ⟨_, Option.some.inj (found.symm.trans (Node.kindAt_eq_file.mpr there))⟩
  exact plain.alike (plain.wellFormed.put_file listed named short _)
    (Node.alikeBut_put_file listed free _)

end

section

variable {config : Config} {faults : Faults} {location around : Location} {tree : Node}
  {source : Ignore.Source} {text more line baseDir : String} {before after : List String}
  (plain : PlainProject config location tree)
  (there : tree.get? (around ++ [source.fileName]) = some (.file text.toUTF8))
  (had : Text.lines text = before ++ after) (has : Text.lines more = before ++ line :: after)
  (positive : ∀ rule, Ignore.parseLine baseDir line = some rule → rule.negated = false)

include plain there had has positive

/-- A line that makes no negated rule tightens what an ignore file of a directory contributes. -/
theorem contribution_tightens {dir : DirPath} (isDir : tree.kindAt (location ++ dir) = some .dir)
    (own : Ignore.Source)
    : Ignore.Tightens (contribution config faults tree own dir)
        (contribution config faults (tree.rewrite around source more) own dir) := by
  have otherDir := (Node.kindAt_rewrite_eq_dir there more _).mpr isDir
  rw [contribution, contribution, Loading.ignoreText?_eq plain isDir,
    Loading.ignoreText?_eq (plain.rewrite there more) otherDir, Node.kindAt_rewrite there]
  cases Loading.opens config faults own dir with
  | false => exact .refl _
  | true =>
      by_cases here : location ++ dir ++ [own.fileName] = around ++ [source.fileName]
      · rw [if_pos here, here, Node.kindAt_eq_file.mpr there]
        simp only [if_true, Loading.textOf, Text.Utf8.fromUTF8?_toUTF8, had, has]
        exact Ignore.parseLines_tightens positive _ _ _
      · rw [if_neg here]
        exact .refl _

/-- A project is narrowed by a line that makes no negated rule. -/
theorem Narrows.of_line
    : Narrows config faults location tree (tree.rewrite around source more) where
  plain := plain
  otherPlain := plain.rewrite there more
  dirs := fun place => (Node.kindAt_rewrite_eq_dir there more place).symm
  files := Node.hasFileAt_rewrite there more
  tightens := by
    intro dir visited
    have again := plain.rewrite there more
    have also : Visits config faults (tree.rewrite around source more) dir :=
      visited.transport plain.rooted again.rooted
        fun _ => (Node.kindAt_rewrite_eq_dir there more _).mpr
    rw [tables, tables, Loading.inForce_eq_chain plain.wellFormed visited,
      Loading.inForce_eq_chain again.wellFormed also, Loading.chain, Loading.chain]
    refine .flatMap fun above member => ?_
    obtain ⟨below, rfl⟩ := DirPath.mem_ancestors.mp member
    have isDir := visited.above.isDir plain.rooted
    exact (contribution_tightens plain there had has positive isDir .content).append
      (contribution_tightens plain there had has positive isDir .marker)

/-- With another line in an ignore file, one that makes no negated rule, a run sees less. -/
theorem run_narrows (known : config.HasKnownMode)
    : SeesLess config faults tree (tree.rewrite around source more) :=
  (Narrows.of_line plain there had has positive).seesLess known

end

/-- A project with an ignore file, and with a file and a marker in a directory. -/
def notedTree : Node :=
  .dir [("p", .dir [
    (".gitignore", .file "*.log\n".toUTF8),
    ("full", .dir [(".gitkeep", .file .empty), ("note", .file .empty)])
  ])]

theorem notedTree_project : PlainProject smallConfig ["p"] notedTree :=
  .of_linkless (by decide) ⟨_, rfl⟩ (by decide) rfl

/-- With a line that ignores the notes, the directory of a note counts as empty, and its marker is
no longer removed.
-/
theorem run_narrows_noted
    : SeesLess smallConfig .none notedTree (notedTree.rewrite ["p"] .content "*.log\nnote\n")
      ∧ ((run smallConfig .none notedTree).journal.summary ".gitkeep").removed = ["full/.gitkeep"]
      ∧ ((run smallConfig .none
          (notedTree.rewrite ["p"] .content "*.log\nnote\n")).journal.summary ".gitkeep").removed
        = [] := by
  have had : Text.lines "*.log\n" = ["*.log"] ++ [] := by decide +kernel
  have has : Text.lines "*.log\nnote\n" = ["*.log"] ++ "note" :: [] := by decide +kernel
  have positive : ∀ rule, Ignore.parseLine "" "note" = some rule → rule.negated = false := by
    intro rule parsed
    cases parsed
    rfl
  exact ⟨run_narrows notedTree_project rfl had has positive smallConfig_hasKnownMode,
    by decide +kernel, by decide +kernel⟩

end DirMarkers
