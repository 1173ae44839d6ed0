import DirMarkers.Proofs.Walk.Answer
import DirMarkers.Proofs.Walk.Arrival

/-!
Two projects that differ in one directory only. Outside of it, a run reads the same rules in both,
and its walk arrives in the same directories and finds the same ones empty.
-/

namespace DirMarkers

open Loading (Visits ignoreText? contribution)
open Walk (Reached Arrives Shows Answers Stop)

/-- A project in which no ignore file is a link. -/
structure PlainProject (config : Config) (location : Location) (tree : Node) : Prop
    extends Project config location tree where
  noRuleLink
    : ∀ (source : Ignore.Source) (dir : DirPath) (target : String),
        tree.get? (location ++ dir ++ [source.fileName]) ≠ some (.link target)

/-- Two projects agree outside one directory that is not the root: in both of them it is a
directory, and only what is at or below it may differ, and which calls fail there.
-/
structure AgreeOutside (config : Config) (location : Location) (scope : DirPath) (faults : Faults)
    (tree : Node) (others : Faults) (other : Node) : Prop where
  plain : PlainProject config location tree
  otherPlain : PlainProject config location other
  below : scope ≠ .root
  isDir : tree.kindAt (location ++ scope) = some .dir
  otherIsDir : other.kindAt (location ++ scope) = some .dir
  kinds : ∀ place, ¬ location ++ scope <+: place → tree.kindAt place = other.kindAt place
  calls
    : ∀ call dir, ¬ scope <+: dir
        → faults call (config.root.under dir) = others call (config.root.under dir)

theorem Ignore.Source.isEntryName_fileName (source : Source) : IsEntryName source.fileName := by
  cases source <;> decide

theorem PlainProject.notRuleLink {config : Config} {location : Location} {tree : Node}
    (h : PlainProject config location tree) (source : Ignore.Source) (dir : DirPath)
    (target : String)
    : tree.kindAt (location ++ dir ++ [source.fileName]) ≠ some (.link target) :=
  fun there => h.noRuleLink source dir target (Node.kindAt_eq_link.mp there)

/-- Reading an ignore file of a directory depends on what is in its place, if it is not refused. -/
theorem PlainProject.read_eq {config : Config} {location : Location} {tree : Node}
    (h : PlainProject config location tree) {dir : DirPath}
    (there : tree.kindAt (location ++ dir) = some .dir) (faults : Faults) (source : Ignore.Source)
    : faults.read tree ((config.root.under dir).child source.fileName)
      = match faults.refusal? .read ((config.root.under dir).child source.fileName) with
        | some error => .error error
        | none =>
          match tree.kindAt (location ++ dir ++ [source.fileName]) with
          | none => .error ⟨.notFound, ((config.root.under dir).child source.fileName).text⟩
          | some (.file content) => .ok content
          | some _ =>
            .error ⟨.isDirectory, ((config.root.under dir).child source.fileName).text⟩ := by
  obtain ⟨_, listed⟩ := Node.kindAt_eq_dir.mp there
  have short : ¬ Tree.nameLimit < source.fileName.utf8ByteSize := by cases source <;> decide
  have read := h.rooted.read_eq listed source.isEntryName_fileName (h.notRuleLink _ _) faults
  rw [if_neg short] at read
  exact read

theorem PlainProject.of_linkless {config : Config} {location : Location} {tree : Node}
    (wellFormed : tree.WellFormed)
    (root : ∃ entries, Tree.stat tree [] config.root.parts = .ok (location, .dir entries))
    (marker : IsEntryName config.markerName) (linkless : tree.holdsLink = false)
    : PlainProject config location tree :=
  ⟨.of_linkless wellFormed root marker linkless, fun _ _ => Node.get?_ne_link linkless _⟩

/-- A project without links to ignore files stays one when files of one name come and go. -/
theorem PlainProject.alike {config : Config} {location : Location} {tree other : Node}
    (h : PlainProject config location tree) {name : String} (wellFormed : other.WellFormed)
    (alike : Node.AlikeBut name tree other)
    : PlainProject config location other :=
  ⟨h.toProject.alike wellFormed alike, fun source dir target there =>
    h.notRuleLink source dir target (alike.symm.link (Node.kindAt_eq_link.mpr there))⟩

theorem PlainProject.acting {config : Config} {location : Location} {tree : Node}
    (plain : PlainProject config location tree) (mode : Mode) (dryRun : Bool)
    : PlainProject (config.acting mode dryRun) location tree :=
  ⟨plain.toProject.acting mode dryRun, plain.noRuleLink⟩

/-- What begins neither with a directory nor ends with its last name does not begin with it. -/
theorem DirPath.outside_child {scope dir : DirPath} {name : String} (outside : ¬ scope <+: dir)
    (apart : dir.child name ≠ scope)
    : ¬ scope <+: dir.child name := by
  intro inside
  rcases List.prefix_concat_iff.mp inside with same | above
  · exact apart same.symm
  · exact outside above

theorem DirPath.outside_of_append {scope dir below : DirPath} (outside : ¬ scope <+: dir ++ below)
    : ¬ scope <+: dir :=
  fun inside => outside (inside.trans (List.prefix_append dir below))

namespace Loading

/-- A directory below a visited one is visited if that one can be listed and it is not excluded. -/
theorem visits_child_iff_isDir {config : Config} {faults : Faults} {location : Location}
    {tree : Node} {dir : DirPath} {name : String} (rooted : Rooted config.root location tree)
    (there : tree.kindAt (location ++ dir) = some .dir)
    : Visits config faults tree (dir.child name)
      ↔ Visits config faults tree dir ∧ config.excludes name = false
        ∧ faults.refusal? .list (config.root.under dir) = none
        ∧ tree.kindAt (location ++ dir.child name) = some .dir := by
  obtain ⟨entries, listed⟩ := Node.kindAt_eq_dir.mp there
  rw [visits_child_iff]
  refine and_congr_right fun _ => and_congr_right fun _ => ?_
  rw [rooted.list_eq listed, Node.kindAt_eq_dir, DirPath.child, ← List.append_assoc,
    Node.get?_entry listed]
  cases faults.refusal? .list (config.root.under dir) with
  | some error => simp
  | none => simp

/-- Whether an ignore file of a directory is opened when it is there. -/
def opens (config : Config) (faults : Faults) (source : Ignore.Source) (dir : DirPath) : Bool :=
  (source = .content || config.respectMarkerIgnore)
    && (faults.refusal? .read ((config.root.under dir).child source.fileName)).isNone

/-- The text of an ignore file where there is a node of some kind, or nothing. -/
def textOf : Option Kind → Option String
  | some (.file content) => String.fromUTF8? content
  | _ => none

@[simp] theorem textOf_none : textOf none = none := rfl

@[simp] theorem textOf_dir : textOf (some .dir) = none := rfl

/-- The text of an ignore file depends on what is in its place, if it is opened. -/
theorem ignoreText?_eq {config : Config} {location : Location} {tree : Node}
    (plain : PlainProject config location tree) {dir : DirPath}
    (there : tree.kindAt (location ++ dir) = some .dir) (faults : Faults) (source : Ignore.Source)
    : ignoreText? config faults tree source dir
      = if opens config faults source dir then
          textOf (tree.kindAt (location ++ dir ++ [source.fileName]))
        else none := by
  rw [ignoreText?, plain.read_eq there, opens]
  cases faults.refusal? .read ((config.root.under dir).child source.fileName) with
  | some error => simp
  | none =>
      rcases tree.kindAt (location ++ dir ++ [source.fileName]) with _ | _ | _ | _ <;>
        cases source <;> cases config.respectMarkerIgnore <;> rfl

/-- A visited directory is one of the tree, by induction on the visits. -/
theorem Visits.isDir {config : Config} {faults : Faults} {location : Location} {tree : Node}
    {dir : DirPath} (h : Visits config faults tree dir) (rooted : Rooted config.root location tree)
    : tree.kindAt (location ++ dir) = some .dir := by
  induction h with
  | root => simpa [DirPath.root] using rooted.leads.ends
  | child above listed isDir kept ih =>
      exact ((visits_child_iff_isDir rooted ih).mp (.child above listed isDir kept)).2.2.2

/-- The same directories are visited in trees that have the same directories. -/
theorem Visits.transport {config : Config} {faults : Faults} {location : Location}
    {tree other : Node} {dir : DirPath} (rooted : Rooted config.root location tree)
    (again : Rooted config.root location other)
    (dirs : ∀ dir, tree.kindAt (location ++ dir) = some .dir
      → other.kindAt (location ++ dir) = some .dir)
    (h : Visits config faults tree dir)
    : Visits config faults other dir := by
  induction h with
  | root => exact .root
  | child above listed isDir kept ih =>
      have here := above.isDir rooted
      obtain ⟨_, _, allowed, there⟩ :=
        (visits_child_iff_isDir rooted here).mp (.child above listed isDir kept)
      exact (visits_child_iff_isDir again (dirs _ here)).mpr ⟨ih, kept, allowed, dirs _ there⟩

end Loading

namespace Walk

section

variable {config : Config} {faults : Faults} {location : Location} {tree : Node} {dir : DirPath}

/-- What a walk reaches was visited when ignore files were read. -/
theorem Reached.visits {tables : Ignore.Tables}
    (h : Reached config faults tables location tree dir) (project : Project config location tree)
    : Visits config faults tree dir := by
  induction h with
  | root _ => exact .root
  | child above isDir kept opens ih =>
      have allowed := (unbarred_iff.mp (above.unbarred project)).2
      exact (Loading.visits_child_iff_isDir project.rooted (above.isDir project)).mpr
        ⟨ih, kept, allowed, isDir⟩

/-- Where a walk arrives, ignore files were read unless the directory is excluded. -/
theorem Arrives.visits {tables : Ignore.Tables}
    (h : Arrives config faults tables location tree dir) (project : Project config location tree)
    (kept : dir = .root ∨ config.excludes (dir.getLast?.getD "") = false)
    : Visits config faults tree dir := by
  cases h with
  | root => exact .root
  | @child above name reached isDir =>
      have allowed := (unbarred_iff.mp (reached.unbarred project)).2
      have named : config.excludes name = false := by
        simpa [DirPath.child, DirPath.root] using kept
      exact (Loading.visits_child_iff_isDir project.rooted (reached.isDir project)).mpr
        ⟨reached.visits project, named, allowed, isDir⟩

end

end Walk

-----------------------------------------------------------------------------------------
-- What is read outside
-----------------------------------------------------------------------------------------

namespace AgreeOutside

section

variable {config : Config} {location : Location} {scope dir : DirPath} {faults others : Faults}
  {tree other : Node} (h : AgreeOutside config location scope faults tree others other)

include h

theorem project : Project config location tree :=
  h.plain.toProject

theorem otherProject : Project config location other :=
  h.otherPlain.toProject

/-- That two projects agree outside a directory does not say which of them is the first. -/
theorem symm : AgreeOutside config location scope others other faults tree where
  plain := h.otherPlain
  otherPlain := h.plain
  below := h.below
  isDir := h.otherIsDir
  otherIsDir := h.isDir
  kinds := fun place outside => (h.kinds place outside).symm
  calls := fun call dir outside => (h.calls call dir outside).symm

theorem kindAt_dir (outside : ¬ scope <+: dir)
    : tree.kindAt (location ++ dir) = other.kindAt (location ++ dir) :=
  h.kinds _ fun inside => outside ((List.prefix_append_right_inj location).mp inside)

/-- An entry of a directory outside is outside, or else it is the directory that may differ. -/
theorem kindAt_entry (outside : ¬ scope <+: dir) (name : String)
    : tree.kindAt (location ++ dir ++ [name]) = other.kindAt (location ++ dir ++ [name]) := by
  rw [List.append_assoc]
  by_cases same : dir.child name = scope
  · have isDir := h.isDir
    have otherIsDir := h.otherIsDir
    rw [← same, DirPath.child] at isDir otherIsDir
    rw [isDir, otherIsDir]
  · exact h.kindAt_dir (DirPath.outside_child outside same)

theorem refusal?_eq (outside : ¬ scope <+: dir) (call : Call)
    : faults.refusal? call (config.root.under dir)
      = others.refusal? call (config.root.under dir) := by
  rw [Faults.refusal?, Faults.refusal?, h.calls call dir outside]

/-- Where the directory that may differ is in the place of an ignore file, there is no text. -/
theorem ignoreText?_scope {source : Ignore.Source}
    (there : tree.kindAt (location ++ dir) = some .dir) (same : dir.child source.fileName = scope)
    : ignoreText? config faults tree source dir = none := by
  have isDir := h.isDir
  rw [← same, DirPath.child, ← List.append_assoc] at isDir
  rw [Loading.ignoreText?_eq h.plain there, isDir, Loading.textOf_dir, ite_self]

variable (outside : ¬ scope <+: dir)

include outside

/-- An ignore file of a directory outside reads the same in both projects if the same reads fail. -/
theorem read_eq (there : tree.kindAt (location ++ dir) = some .dir) (source : Ignore.Source)
    (same : faults .read (config.root.under (dir.child source.fileName))
      = others .read (config.root.under (dir.child source.fileName)))
    : faults.read tree ((config.root.under dir).child source.fileName)
      = others.read other ((config.root.under dir).child source.fileName) := by
  rw [h.plain.read_eq there, h.otherPlain.read_eq ((h.kindAt_dir outside).symm.trans there),
    h.kindAt_entry outside, PathName.child_under, Faults.refusal?, Faults.refusal?, same]

/-- A directory outside contributes the same rules in both projects. -/
theorem contribution_eq (there : tree.kindAt (location ++ dir) = some .dir)
    (source : Ignore.Source)
    : contribution config faults tree source dir = contribution config others other source dir := by
  have text : ignoreText? config faults tree source dir
      = ignoreText? config others other source dir := by
    by_cases same : dir.child source.fileName = scope
    · have otherThere := (h.kindAt_dir outside).symm.trans there
      rw [h.ignoreText?_scope there same, h.symm.ignoreText?_scope otherThere same]
    · have calls := h.calls .read _ (DirPath.outside_child outside same)
      rw [ignoreText?, ignoreText?, h.read_eq outside there source calls]
  rw [contribution, contribution, text]

/-- A directory outside is visited in both projects, by induction on the visits. -/
theorem visits (visited : Visits config faults tree dir) : Visits config others other dir := by
  induction visited with
  | root => exact .root
  | @child dir name listing entries above listed isDir kept ih =>
      have around := DirPath.outside_of_append outside
      have rooted := h.project.rooted
      have visited : Visits config faults tree (dir.child name) := .child above listed isDir kept
      have here := above.isDir rooted
      obtain ⟨_, _, allowed, there⟩ := (Loading.visits_child_iff_isDir rooted here).mp visited
      have again := (h.kindAt_dir around).symm.trans here
      refine (Loading.visits_child_iff_isDir h.otherProject.rooted again).mpr
        ⟨ih around, kept, ?_, ?_⟩
      · rw [← h.refusal?_eq around, allowed]
      · rw [← h.kindAt_dir outside, there]

/-- The same rules are in force in a visited directory outside. -/
theorem inForce_eq (visited : Visits config faults tree dir)
    : (tables config faults tree).inForce dir = (tables config others other).inForce dir := by
  have rooted := h.project.rooted
  rw [tables, tables, Loading.inForce_eq_chain rooted.wellFormed visited,
    Loading.inForce_eq_chain h.otherPlain.wellFormed (h.visits outside visited), Loading.chain,
    Loading.chain]
  refine List.flatMap_congr fun above member => ?_
  obtain ⟨below, rfl⟩ := DirPath.mem_ancestors.mp member
  have around := DirPath.outside_of_append outside
  have there := visited.above.isDir rooted
  rw [h.contribution_eq around there .content, h.contribution_eq around there .marker]

end

-----------------------------------------------------------------------------------------
-- Where a walk arrives
-----------------------------------------------------------------------------------------

section

variable {config : Config} {location : Location} {scope dir : DirPath} {faults others : Faults}
  {tree other : Node} (h : AgreeOutside config location scope faults tree others other)
  (outside : ¬ scope <+: dir)

include h outside

/-- The same keeps a walk from a directory outside where it arrives. -/
theorem barrier?_eq
    (arrives : Arrives config faults (tables config faults tree) location tree dir)
    : Walk.barrier? config faults (tables config faults tree) dir
      = Walk.barrier? config others (tables config others other) dir := by
  rw [Walk.barrier?, Walk.barrier?]
  by_cases excluded : dir ≠ .root ∧ config.excludes (dir.getLast?.getD "")
  · rw [if_pos excluded, if_pos excluded]
  · have kept : dir = .root ∨ config.excludes (dir.getLast?.getD "") = false := by
      simpa [Classical.or_iff_not_imp_left] using excluded
    rw [if_neg excluded, if_neg excluded, h.refusal?_eq outside,
      h.inForce_eq outside (arrives.visits h.project kept)]

/-- A walk arrives in the same directories outside, if it reaches the same ones above. -/
theorem reached_of_arrives
    (reached : Reached config faults (tables config faults tree) location tree dir)
    (arrives : Arrives config others (tables config others other) location other dir)
    : Reached config others (tables config others other) location other dir := by
  refine arrives.reached h.otherProject ?_
  rw [← h.barrier?_eq outside reached.arrives]
  exact reached.unbarred h.project

/-- A walk reaches the same directories outside, by induction on the way there. -/
theorem reached (reached : Reached config faults (tables config faults tree) location tree dir)
    : Reached config others (tables config others other) location other dir := by
  induction reached with
  | root opens => exact h.reached_of_arrives outside (.root opens) .root
  | @child dir name above isDir kept opens ih =>
      have around := DirPath.outside_of_append outside
      have again := (h.kindAt_dir outside).symm.trans isDir
      exact h.reached_of_arrives outside (.child above isDir kept opens) (.child (ih around) again)

/-- A walk arrives in the same directories outside. -/
theorem arrives (arrives : Arrives config faults (tables config faults tree) location tree dir)
    : Arrives config others (tables config others other) location other dir := by
  cases arrives with
  | root => exact .root
  | @child dir name above isDir =>
      have around := DirPath.outside_of_append outside
      exact .child (h.reached around above) ((h.kindAt_dir outside).symm.trans isDir)

end

-----------------------------------------------------------------------------------------
-- What a walk finds
-----------------------------------------------------------------------------------------

section

variable {config : Config} {location : Location} {scope dir : DirPath} {faults others : Faults}
  {tree other : Node} (h : AgreeOutside config location scope faults tree others other)
  (outside : ¬ scope <+: dir)

include h outside

/-- A directory outside that is judged is judged in both projects. -/
theorem judges
    (arrives : Arrives config faults (tables config faults tree) location tree dir)
    (judged : Walk.Judges config faults (tables config faults tree) location tree dir)
    : Walk.Judges config others (tables config others other) location other dir := by
  have otherDir := (h.kindAt_dir outside).symm.trans judged.isDir
  rw [Walk.judges_iff h.project judged.isDir, h.barrier?_eq outside arrives] at judged
  exact (Walk.judges_iff h.otherProject otherDir).mpr judged

/-- A directory outside that holds a visible file holds it in both projects. -/
theorem holdsVisible
    (reached : Reached config faults (tables config faults tree) location tree dir)
    (visible : Walk.HoldsVisible config (tables config faults tree) location tree dir)
    : Walk.HoldsVisible config (tables config others other) location other dir := by
  obtain ⟨name, content, there, notMarker, notIgnored⟩ := visible
  rw [h.inForce_eq outside (reached.visits h.project)] at notIgnored
  refine ⟨name, content, ?_, notMarker, notIgnored⟩
  rw [← Node.kindAt_eq_file, ← h.kindAt_entry outside]
  exact Node.kindAt_eq_file.mpr there

/-- A directory outside shows a file in both projects, if what it shows of the directory that may
differ it shows in both. Witness: induction on the directories that lead to the file.
-/
theorem shows
    (arrives : Arrives config faults (tables config faults tree) location tree dir)
    (within : dir <+: scope
      → Arrives config faults (tables config faults tree) location tree scope
      → Shows config faults (tables config faults tree) location tree scope
      → Shows config others (tables config others other) location other scope)
    (shown : Shows config faults (tables config faults tree) location tree dir)
    : Shows config others (tables config others other) location other dir := by
  induction shown with
  | here judged visible =>
      have unbarred := (Walk.judges_iff h.project judged.isDir).mp judged
      have reached := arrives.reached h.project unbarred
      exact .here (h.judges outside arrives judged) (h.holdsVisible outside reached visible)
  | @deeper dir name judged next ih =>
      have unbarred := (Walk.judges_iff h.project judged.isDir).mp judged
      have reached := arrives.reached h.project unbarred
      have below := Arrives.child reached next.judged.isDir
      refine .deeper name (h.judges outside arrives judged) ?_
      by_cases same : dir.child name = scope
      · subst same
        exact within (List.prefix_append dir [name]) below next
      · refine ih (DirPath.outside_child outside same) below fun leads => within ?_
        exact (List.prefix_append dir [name]).trans leads

variable
  (same : dir <+: scope → ∀ isEmpty,
    Answers config faults (tables config faults tree) tree scope isEmpty
      → Answers config others (tables config others other) other scope isEmpty)
  (known : config.HasKnownMode)

include same known

/-- A directory outside that shows a file does so in both projects, if the walk of the directory
that may differ answers the same.
-/
theorem shows_of_answers
    (arrives : Arrives config faults (tables config faults tree) location tree dir)
    (shown : Shows config faults (tables config faults tree) location tree dir)
    : Shows config others (tables config others other) location other dir := by
  refine h.shows outside arrives (fun above arrived shown => ?_) shown
  have project := h.project
  have otherProject := h.otherProject
  obtain ⟨entries, there⟩ := Node.kindAt_eq_dir.mp h.isDir
  have answer := (Walk.answers_iff known project).mpr
    ⟨arrived, entries, there, (Walk.isVacant_eq_false_iff project _ there).mpr shown⟩
  obtain ⟨_, entries, there, vacant⟩ :=
    (Walk.answers_iff known otherProject).mp (same above false answer)
  exact (Walk.isVacant_eq_false_iff otherProject _ there).mp vacant

end

section

variable {config : Config} {location : Location} {scope : DirPath} {faults others : Faults}
  {tree other : Node} (h : AgreeOutside config location scope faults tree others other)
  {stop : Stop} (outside : ¬ scope <+: stop.dir)
  (same : stop.dir <+: scope → ∀ isEmpty,
    Answers config faults (tables config faults tree) tree scope isEmpty
      ↔ Answers config others (tables config others other) other scope isEmpty)
  (known : config.HasKnownMode)

include h outside same known

/-- A walk stops at the same directories outside, and finds them to be the same. -/
theorem isStop
    (isStop : Walk.IsStop config faults (tables config faults tree) location tree stop)
    : Walk.IsStop config others (tables config others other) location other stop := by
  obtain ⟨arrives, entries, there, found⟩ := isStop
  have otherArrives := h.arrives outside arrives
  obtain ⟨otherEntries, otherThere⟩ :=
    Node.kindAt_eq_dir.mp (otherArrives.isDir h.otherProject)
  have vacant : Walk.isVacant config faults (tables config faults tree) (.dir entries) stop.dir
      = Walk.isVacant config others (tables config others other) (.dir otherEntries) stop.dir := by
    refine Bool.not_inj (Bool.coe_false_iff_false.mp ?_)
    rw [Walk.isVacant_eq_false_iff h.project _ there,
      Walk.isVacant_eq_false_iff h.otherProject _ otherThere]
    constructor
    · exact h.shows_of_answers outside (fun above isEmpty => (same above isEmpty).mp) known arrives
    · exact h.symm.shows_of_answers outside (fun above isEmpty => (same above isEmpty).mpr) known
        otherArrives
  refine ⟨otherArrives, otherEntries, otherThere, ?_⟩
  rw [found, Walk.findingAt, Walk.findingAt, h.barrier?_eq outside arrives, vacant]

/-- The stops outside are the same. -/
theorem mem_stops
    : stop ∈ stops config faults tree ↔ stop ∈ stops config others other := by
  rw [stops, stops, Walk.mem_survey h.project _ h.plain.dirAt_root fun _ => .root,
    Walk.mem_survey h.otherProject _ h.otherPlain.dirAt_root fun _ => .root]
  refine and_congr_right fun _ => ⟨h.isStop outside same known, ?_⟩
  exact h.symm.isStop outside (fun above isEmpty => (same above isEmpty).symm) known

end

end AgreeOutside

end DirMarkers
