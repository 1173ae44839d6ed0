import DirMarkers.Proofs.Run.Changes
import DirMarkers.Proofs.Run.Convergence
import DirMarkers.Proofs.Run.Recording

/-!
A file that comes and goes. Where markers are as a run of the normal mode leaves them, a new file
that is visible takes the markers of its directory and of those above away, and when the file is
gone they come back.
-/

namespace DirMarkers

open Walk (Stop Reached IsEmpty HoldsVisible Opens Precedes opens_iff)

/-- A project whose markers are as a run of the normal mode leaves them: a reached directory has one
if and only if it is empty.
-/
structure Settled (config : Config) (faults : Faults) (location : Location) (tree : Node)
    : Prop where
  project : Project config location tree
  plain : PlainIgnoreFiles config location tree
  marked
    : ∀ dir, Reached config faults (tables config faults tree) location tree dir
        → (tree.hasFileAt (location ++ dir ++ [config.markerName]) = true
          ↔ IsEmpty config faults (tables config faults tree) location tree dir)

/-- A file that is new in a reached directory: it has the name of an entry that is neither the
marker nor an ignore file, and there is nothing of that name yet.
-/
structure IsNewFile (config : Config) (faults : Faults) (location : Location) (tree : Node)
    (dir : DirPath) (name : String) : Prop where
  reached : Reached config faults (tables config faults tree) location tree dir
  named : IsEntryName name
  short : name.utf8ByteSize ≤ Tree.nameLimit
  unmarked : name ≠ config.markerName
  unruled : ∀ source : Ignore.Source, source.fileName ≠ name
  missing : tree.get? (location ++ dir ++ [name]) = none

/-- The directories from one up to the root that have a marker whose path fits, deepest first. -/
def Config.markedAbove (config : Config) (location : Location) (tree : Node) (dir : DirPath)
    : List DirPath :=
  dir.ancestors.reverse.filter fun above =>
    tree.hasFileAt (location ++ above ++ [config.markerName]) && decide (config.MarkerFits above)

/-- The directories from one up to the root come from the bottom up. -/
theorem DirPath.ancestors_ordered (dir : DirPath) : dir.ancestors.reverse.Pairwise Precedes := by
  rw [List.pairwise_reverse, ancestors, List.pairwise_map]
  refine List.pairwise_lt_range.imp_of_mem fun {shorter longer} _ member smaller => .inl ?_
  have least : dir.take shorter = (dir.take longer).take shorter := by
    rw [List.take_take, Nat.min_eq_left (Nat.le_of_lt smaller)]
  refine ⟨(dir.take longer).drop shorter, fun none => ?_, ?_⟩
  · have length := congrArg List.length none
    have bound := List.mem_range.mp member
    rw [List.length_drop, List.length_take, List.length_nil] at length
    omega
  · rw [least, List.take_append_drop]

/-- The markers of the directories from one up to the root that have one. -/
theorem listsMarkers_markedAbove (config : Config) (location : Location) (tree : Node)
    (dir : DirPath)
    : ListsMarkers config.markerName (fun above => above <+: dir
          ∧ tree.hasFileAt (location ++ above ++ [config.markerName]) = true
          ∧ config.MarkerFits above)
        ((config.markedAbove location tree dir).map (·.entryText config.markerName)) := by
  refine ⟨_, dir.ancestors_ordered.filter _, fun above => ?_, rfl⟩
  rw [List.mem_filter, List.mem_reverse, DirPath.mem_ancestors, Bool.and_eq_true,
    decide_eq_true_iff]

-----------------------------------------------------------------------------------------
-- After a run
-----------------------------------------------------------------------------------------

theorem PlainIgnoreFiles.alike {config : Config} {location : Location} {tree other : Node}
    {name : String} (plain : PlainIgnoreFiles config location tree)
    (alike : Node.AlikeBut name tree other)
    : PlainIgnoreFiles config location other where
  unmarked := plain.unmarked
  noLink := fun source dir target there => by
    refine plain.noLink source dir target (Node.kindAt_eq_link.mp ?_)
    exact alike.symm.link (Node.kindAt_eq_link.mpr there)

/-- No marker operation fails in a run whose summary has no errors. -/
theorem failed?_of_errors_eq_nil {marker : String} {journal : Journal}
    (errors : (journal.summary marker).errors = [])
    : ∀ event ∈ journal, event.failed? = none := by
  intro event member
  have silent := List.filterMap_eq_nil_iff.mp errors event member
  cases event <;> first | rfl | cases silent

section

variable {config : Config} {faults : Faults} {location : Location} {tree : Node}
  (normal : config.mode = .normal)

include normal

/-- A real run of the normal mode without errors leaves markers as they should be. -/
theorem Settled.of_run (real : config.dryRun = false) (project : Project config location tree)
    (plain : PlainIgnoreFiles config location tree)
    (errors : ((run config faults tree).journal.summary config.markerName).errors = [])
    : Settled config faults location (run config faults tree).tree := by
  have tracks := run_tracks faults (.of_normal normal) project
  have again := project.alike tracks.wellFormed tracks.alike
  have same := stops_alike faults project tracks.wellFormed tracks.alike plain
  refine ⟨again, plain.alike tracks.alike, fun dir reached => ?_⟩
  obtain ⟨isEmpty, stopped⟩ := (reached_iff_judged again).mp reached
  rw [← ((judged_iff again).mp stopped).2,
    hasFileAt_of_judged normal real project (failed?_of_errors_eq_nil errors) (same ▸ stopped)]

end

-----------------------------------------------------------------------------------------
-- A new file
-----------------------------------------------------------------------------------------

/-- The same directories are reached in trees that are alike but for files of one name. -/
theorem Walk.Reached.alike {config : Config} {faults : Faults} {tables : Ignore.Tables}
    {location : Location} {tree other : Node} {name : String}
    (project : Project config location tree) (again : Project config location other)
    (alike : Node.AlikeBut name tree other) {dir : DirPath}
    (reached : Reached config faults tables location tree dir)
    : Reached config faults tables location other dir := by
  have opens {place : DirPath} (there : tree.kindAt (location ++ place) = some .dir)
      (h : Opens config faults tables tree place)
      : Opens config faults tables other place :=
    (opens_iff again (alike.dir there)).mpr ((opens_iff project there).mp h)
  induction reached with
  | root open_ => exact .root (opens ((Reached.root open_).isDir project) open_)
  | child above isDir kept open_ ih => exact .child ih (alike.dir isDir) kept (opens isDir open_)

section

variable {config : Config} {faults : Faults} {location : Location} {tree : Node} {dir : DirPath}
  {name : String}

/-- The tree with the new file. -/
def IsNewFile.added (_ : IsNewFile config faults location tree dir name) (content : ByteArray)
    : Node :=
  Node.put (.file content) tree (location ++ dir ++ [name])

/-- The tree that a run leaves when there is the new file, once the file is deleted again. -/
def IsNewFile.gone (new : IsNewFile config faults location tree dir name) (content : ByteArray)
    : Node :=
  (run config faults (new.added content)).tree.erase (location ++ dir ++ [name])

theorem IsNewFile.free (new : IsNewFile config faults location tree dir name)
    : tree.kindAt (location ++ dir ++ [name]) = none :=
  Node.kindAt_eq_none.mpr new.missing

theorem IsNewFile.inDir (new : IsNewFile config faults location tree dir name)
    (settled : Settled config faults location tree)
    : ∃ entries, tree.get? (location ++ dir) = some (.dir entries) :=
  Node.kindAt_eq_dir.mp (new.reached.isDir settled.project)

variable (new : IsNewFile config faults location tree dir name) (content : ByteArray)
  (settled : Settled config faults location tree)

include settled

theorem IsNewFile.kindAt_added (place : Location)
    : (new.added content).kindAt place
      = if place = location ++ dir ++ [name] then some (.file content)
        else tree.kindAt place := by
  obtain ⟨entries, there⟩ := new.inDir settled
  refine Node.kindAt_put_file there (fun isDir => ?_) content place
  cases new.free.symm.trans isDir

theorem IsNewFile.alike : Node.AlikeBut name tree (new.added content) := by
  obtain ⟨entries, there⟩ := new.inDir settled
  refine Node.alikeBut_put_file there (fun kind found => ?_) content
  cases new.free.symm.trans found

theorem IsNewFile.project : Project config location (new.added content) := by
  obtain ⟨entries, there⟩ := new.inDir settled
  have wellFormed := settled.project.wellFormed.put_file there new.named new.short content
  exact settled.project.alike wellFormed (new.alike content settled)

theorem IsNewFile.tables_eq
    : tables config faults (new.added content) = tables config faults tree := by
  rw [tables, tables, load_alikeBut faults settled.project
    (new.project content settled).wellFormed (new.alike content settled) settled.plain new.unruled]

theorem IsNewFile.reached_iff {place : DirPath}
    : Reached config faults (tables config faults tree) location (new.added content) place
      ↔ Reached config faults (tables config faults tree) location tree place := by
  have alike := new.alike content settled
  have again := new.project content settled
  exact ⟨.alike again settled.project alike.symm, .alike settled.project again alike⟩

/-- A new file is the only visible one that is not there before, if it is visible. -/
theorem IsNewFile.holdsVisible_iff {place : DirPath}
    : HoldsVisible config (tables config faults tree) location (new.added content) place
      ↔ HoldsVisible config (tables config faults tree) location tree place
        ∨ place = dir ∧ Ignore.isIgnored ((tables config faults tree).inForce dir)
          (dir.entryText name) false = false := by
  have kinds := new.kindAt_added content settled
  constructor
  · rintro ⟨other, found, there, unmarked, visible⟩
    have kind := Node.kindAt_eq_file.mpr there
    rw [kinds] at kind
    split at kind
    · next here =>
      obtain ⟨same, rfl⟩ := List.append_singleton_inj.mp here
      obtain rfl := List.append_cancel_left same
      exact .inr ⟨rfl, visible⟩
    · exact .inl ⟨other, found, Node.kindAt_eq_file.mp kind, unmarked, visible⟩
  · rintro (⟨other, found, there, unmarked, visible⟩ | ⟨rfl, visible⟩)
    · refine ⟨other, found, Node.kindAt_eq_file.mp ?_, unmarked, visible⟩
      rw [kinds, if_neg]
      · exact Node.kindAt_eq_file.mpr there
      · intro here
        cases new.missing.symm.trans (here ▸ there)
    · refine ⟨name, content, Node.kindAt_eq_file.mp ?_, new.unmarked, visible⟩
      rw [kinds, if_pos rfl]

/-- A directory is empty with a new file if it was before and the file is not a visible one in or
below it.
-/
theorem IsNewFile.isEmpty_iff {place : DirPath}
    : IsEmpty config faults (tables config faults tree) location (new.added content) place
      ↔ IsEmpty config faults (tables config faults tree) location tree place
        ∧ ¬ (place <+: dir ∧ Ignore.isIgnored ((tables config faults tree).inForce dir)
          (dir.entryText name) false = false) := by
  simp only [Walk.IsEmpty, new.reached_iff content settled, new.holdsVisible_iff content settled]
  constructor
  · intro empty
    refine ⟨fun below reached holds => empty below reached (.inl holds), ?_⟩
    rintro ⟨⟨below, rfl⟩, visible⟩
    exact empty below new.reached (.inr ⟨rfl, visible⟩)
  · rintro ⟨empty, apart⟩ below reached (holds | ⟨rfl, visible⟩)
    · exact empty below reached holds
    · exact apart ⟨List.prefix_append place below, visible⟩

/-- The markers are those of the tree before. -/
theorem IsNewFile.kindAt_marker (place : DirPath)
    : (new.added content).kindAt (location ++ place ++ [config.markerName])
      = tree.kindAt (location ++ place ++ [config.markerName]) := by
  rw [new.kindAt_added content settled, if_neg]
  exact fun same => new.unmarked (List.append_singleton_inj.mp same).2.symm

-----------------------------------------------------------------------------------------
-- The run after the file has come
-----------------------------------------------------------------------------------------

variable (normal : config.mode = .normal)

include normal

theorem IsNewFile.inDir_run
    : ∃ entries, (run config faults (new.added content)).tree.get? (location ++ dir)
        = some (.dir entries) := by
  have again := new.project content settled
  have reached := (new.reached_iff content settled).mpr new.reached
  exact Node.kindAt_eq_dir.mp
    ((run_tracks faults (.of_normal normal) again).alike.dir (reached.isDir again))

variable (real : config.dryRun = false) (spares : faults.SparesMarkers)

include real spares

/-- With a new file, no directory becomes empty, so no marker is created. -/
theorem IsNewFile.not_created (place : DirPath)
    : .created place ∉ (run config faults (new.added content)).journal := by
  rw [mem_run_created normal (new.project content settled) real spares,
    new.tables_eq content settled, new.reached_iff content settled,
    new.isEmpty_iff content settled, new.kindAt_marker content settled]
  rintro ⟨reached, ⟨empty, _⟩, missing, _⟩
  have present := (settled.marked place reached).mpr empty
  rw [Node.hasFileAt_eq_false missing] at present
  cases present

/-- With a new file that is visible, the markers of its directory and of those above are removed,
and no others.
-/
theorem IsNewFile.removed_iff {place : DirPath}
    : .removed place ∈ (run config faults (new.added content)).journal
      ↔ Ignore.isIgnored ((tables config faults tree).inForce dir) (dir.entryText name) false
          = false
        ∧ place <+: dir ∧ tree.hasFileAt (location ++ place ++ [config.markerName]) = true
        ∧ config.MarkerFits place := by
  rw [mem_run_removed normal (new.project content settled) real spares,
    new.tables_eq content settled, new.reached_iff content settled,
    new.isEmpty_iff content settled, Node.hasFileAt_congr (new.kindAt_marker content settled place)]
  constructor
  · rintro ⟨reached, notEmpty, present, fits⟩
    have empty := (settled.marked place reached).mp present
    have above := Decidable.not_not.mp fun apart => notEmpty ⟨empty, apart⟩
    exact ⟨above.2, above.1, present, fits⟩
  · rintro ⟨visible, ⟨below, rfl⟩, present, fits⟩
    refine ⟨new.reached.above, fun empty => ?_, present, fits⟩
    exact empty.2 ⟨List.prefix_append place below, visible⟩

/-- The run leaves every place alone but those of the markers that it removes. -/
theorem IsNewFile.kindAt_run {place : Location}
    (kept : ∀ above, place = location ++ above ++ [config.markerName]
      → .removed above ∉ (run config faults (new.added content)).journal)
    : (run config faults (new.added content)).tree.kindAt place
      = (new.added content).kindAt place :=
  kindAt_of_neither normal (new.project content settled) fun above placed =>
    ⟨new.not_created content settled normal real spares above, kept above placed⟩

-----------------------------------------------------------------------------------------
-- The run after the file has gone
-----------------------------------------------------------------------------------------

theorem IsNewFile.kindAt_gone (place : Location)
    : (new.gone content).kindAt place
      = if place = location ++ dir ++ [name] then none
        else (run config faults (new.added content)).tree.kindAt place := by
  obtain ⟨entries, there⟩ := new.inDir_run content settled normal
  refine Node.kindAt_erase there (fun isDir => ?_) place
  -- The run leaves the new file alone.
  rw [new.kindAt_run content settled normal real spares, new.kindAt_added content settled,
    if_pos rfl] at isDir
  · cases isDir
  · exact fun above same => absurd (List.append_singleton_inj.mp same).2 new.unmarked

/-- Once the file has gone, the places of the removed markers are empty. -/
theorem IsNewFile.kindAt_gone_of_removed {above : DirPath}
    (removed : .removed above ∈ (run config faults (new.added content)).journal)
    : (new.gone content).kindAt (location ++ above ++ [config.markerName]) = none := by
  rw [new.kindAt_gone content settled normal real spares, if_neg]
  · exact kindAt_of_removed normal (new.project content settled) removed
  · exact fun same => new.unmarked (List.append_singleton_inj.mp same).2.symm

/-- Once the file has gone, all other places are as they were before it came. -/
theorem IsNewFile.kindAt_gone_of_kept {place : Location}
    (kept : ∀ above, place = location ++ above ++ [config.markerName]
      → .removed above ∉ (run config faults (new.added content)).journal)
    : (new.gone content).kindAt place = tree.kindAt place := by
  rw [new.kindAt_gone content settled normal real spares]
  split
  · next here =>
    rw [here]
    exact new.free.symm
  · next elsewhere =>
    rw [new.kindAt_run content settled normal real spares kept, new.kindAt_added content settled,
      if_neg elsewhere]

/-- Once the file has gone, a marker that has not been removed is as it was before. -/
theorem IsNewFile.hasFileAt_gone_of_kept {place : DirPath}
    (kept : .removed place ∉ (run config faults (new.added content)).journal)
    : (new.gone content).hasFileAt (location ++ place ++ [config.markerName])
      = tree.hasFileAt (location ++ place ++ [config.markerName]) := by
  refine Node.hasFileAt_congr (new.kindAt_gone_of_kept content settled normal real spares ?_)
  intro above same
  obtain rfl := List.append_cancel_left (List.append_singleton_inj.mp same).1
  exact kept

/-- Once the file has gone, the tree differs from the one before it came in markers only. -/
theorem IsNewFile.gone_alike : Node.AlikeBut config.markerName tree (new.gone content) := by
  intro place
  by_cases gone : ∃ above, place = location ++ above ++ [config.markerName]
      ∧ .removed above ∈ (run config faults (new.added content)).journal
  · obtain ⟨above, rfl, removed⟩ := gone
    have missing := new.kindAt_gone_of_removed content settled normal real spares removed
    obtain ⟨_, _, present, _⟩ := (new.removed_iff content settled normal real spares).mp removed
    obtain ⟨marker, file⟩ := Node.hasFileAt_eq_true.mp present
    refine .inr ⟨⟨_, rfl⟩, fun kind found => ?_, fun kind found => ?_⟩
    · exact ⟨marker, Option.some.inj (found.symm.trans file)⟩
    · cases missing.symm.trans found
  · have kept := new.kindAt_gone_of_kept content settled normal real spares
      fun above here removed => gone ⟨above, here, removed⟩
    exact .inl kept.symm

theorem IsNewFile.gone_project : Project config location (new.gone content) := by
  have tracks := run_tracks faults (.of_normal normal) (new.project content settled)
  obtain ⟨entries, there⟩ := new.inDir_run content settled normal
  exact settled.project.alike (tracks.wellFormed.erase_entry there name)
    (new.gone_alike content settled normal real spares)

/-- Once the file has gone, the same directories are judged as before it came. -/
theorem IsNewFile.gone_judged (place : DirPath) (isEmpty : Bool)
    : Reached config faults (tables config faults (new.gone content)) location (new.gone content)
          place
        ∧ (isEmpty = true ↔ IsEmpty config faults (tables config faults (new.gone content))
          location (new.gone content) place)
      ↔ Reached config faults (tables config faults tree) location tree place
        ∧ (isEmpty = true
          ↔ IsEmpty config faults (tables config faults tree) location tree place) := by
  have gone := new.gone_project content settled normal real spares
  rw [← judged_iff gone, ← judged_iff settled.project, stops_alike faults settled.project
    gone.wellFormed (new.gone_alike content settled normal real spares) settled.plain]

/-- Once the file has gone, the removed markers are created again, and no others. -/
theorem IsNewFile.created_iff {place : DirPath}
    : .created place ∈ (run config faults (new.gone content)).journal
      ↔ .removed place ∈ (run config faults (new.added content)).journal := by
  have judged := new.gone_judged content settled normal real spares place true
  rw [mem_run_created normal (new.gone_project content settled normal real spares) real spares]
  constructor
  · rintro ⟨reached, empty, missing, _⟩
    obtain ⟨reached, empty⟩ := judged.mp ⟨reached, iff_of_true rfl empty⟩
    have present := (settled.marked place reached).mpr (empty.mp rfl)
    -- There was a marker, so it has been removed.
    refine Classical.byContradiction fun kept => ?_
    rw [← new.hasFileAt_gone_of_kept content settled normal real spares kept,
      Node.hasFileAt_eq_false missing] at present
    cases present
  · intro removed
    obtain ⟨_, below, present, fits⟩ :=
      (new.removed_iff content settled normal real spares).mp removed
    obtain ⟨under, rfl⟩ := below
    have reached := new.reached.above
    have empty := (settled.marked place reached).mp present
    obtain ⟨again, also⟩ := judged.mpr ⟨reached, iff_of_true rfl empty⟩
    obtain ⟨marker, file⟩ := Node.hasFileAt_eq_true.mp present
    exact ⟨again, also.mp rfl,
      new.kindAt_gone_of_removed content settled normal real spares removed,
      (settled.project.wellFormed.name (Node.kindAt_eq_file.mp file)).2, fits⟩

/-- Once the file has gone, no marker is removed. -/
theorem IsNewFile.not_removed (place : DirPath)
    : .removed place ∉ (run config faults (new.gone content)).journal := by
  have judged := new.gone_judged content settled normal real spares place false
  rw [mem_run_removed normal (new.gone_project content settled normal real spares) real spares]
  rintro ⟨reached, notEmpty, present, _⟩
  obtain ⟨reached, empty⟩ := judged.mp ⟨reached, iff_of_false Bool.false_ne_true notEmpty⟩
  refine Bool.false_ne_true (empty.mpr ((settled.marked place reached).mp ?_))
  rw [← new.hasFileAt_gone_of_kept content settled normal real spares]
  · exact present
  · intro removed
    rw [Node.hasFileAt_eq_false
      (new.kindAt_gone_of_removed content settled normal real spares removed)] at present
    cases present

/-- Once the file has gone, a run leaves nodes in the same places as before it came. -/
theorem IsNewFile.samePlaces
    : Node.SamePlaces tree (run config faults (new.gone content)).tree := by
  have gone := new.gone_project content settled normal real spares
  intro place
  by_cases back : ∃ above, place = location ++ above ++ [config.markerName]
      ∧ .created above ∈ (run config faults (new.gone content)).journal
  · obtain ⟨above, rfl, created⟩ := back
    have removed := (new.created_iff content settled normal real spares).mp created
    obtain ⟨_, _, present, _⟩ := (new.removed_iff content settled normal real spares).mp removed
    obtain ⟨first, before⟩ := Node.hasFileAt_eq_true.mp present
    obtain ⟨last, after⟩ := Node.hasFileAt_eq_true.mp (hasFileAt_of_created normal gone created)
    rw [Node.kindAt_eq_file.mp before, Node.kindAt_eq_file.mp after]
    rfl
  · refine Node.isSome_get?_congr ?_
    rw [kindAt_of_neither normal gone fun above here =>
      ⟨fun created => back ⟨above, here, created⟩,
        new.not_removed content settled normal real spares above⟩]
    refine (new.kindAt_gone_of_kept content settled normal real spares ?_).symm
    intro above here removed
    exact back ⟨above, here, (new.created_iff content settled normal real spares).mpr removed⟩

end

-----------------------------------------------------------------------------------------
-- One run before, one with and one without the file
-----------------------------------------------------------------------------------------

/-- What runs are meant to do when a file comes to a directory and goes again. If the file is
ignored, the run when it has come changes nothing. Otherwise that run removes the markers of the
directory and of those above it, as far as their paths fit, and the run when it has gone creates
these again.
-/
structure Flips (config : Config) (faults : Faults) (location : Location) (before : Node)
    (dir : DirPath) (name : String) (come gone : Step Bool) : Prop where
  ignored
    : Ignore.isIgnored ((tables config faults before).inForce dir) (dir.entryText name) false = true
        → (come.journal.summary config.markerName).created = []
          ∧ (come.journal.summary config.markerName).removed = []
  removed
    : Ignore.isIgnored ((tables config faults before).inForce dir) (dir.entryText name) false
          = false
        → (come.journal.summary config.markerName).created = []
          ∧ (come.journal.summary config.markerName).removed
            = (config.markedAbove location before dir).map (·.entryText config.markerName)
  restored
    : Ignore.isIgnored ((tables config faults before).inForce dir) (dir.entryText name) false
          = false
        → (gone.journal.summary config.markerName).created
            = (config.markedAbove location before dir).map (·.entryText config.markerName)
          ∧ (gone.journal.summary config.markerName).removed = []
          ∧ Node.SamePlaces before gone.tree

section

variable {config : Config} {faults : Faults} {location : Location} {tree : Node} {dir : DirPath}
  {name : String} (normal : config.mode = .normal) (real : config.dryRun = false)
  (spares : faults.SparesMarkers)

include normal real spares

theorem IsNewFile.flips (new : IsNewFile config faults location tree dir name)
    (content : ByteArray) (settled : Settled config faults location tree)
    : Flips config faults location tree dir name (run config faults (new.added content))
        (run config faults (new.gone content)) := by
  have come := (new.project content settled).rooted
  have gone := (new.gone_project content settled normal real spares).rooted
  have marked := listsMarkers_markedAbove config location tree dir
  have created
      : ((run config faults (new.added content)).journal.summary config.markerName).created = [] :=
    (listsMarkers_created come fun _ => Iff.rfl).eq_nil
      (new.not_created content settled normal real spares)
  refine ⟨fun ignored => ⟨created, ?_⟩, fun visible => ⟨created, ?_⟩, fun visible => ⟨?_, ?_, ?_⟩⟩
  · refine (listsMarkers_removed come fun _ => Iff.rfl).eq_nil fun place removed => ?_
    obtain ⟨visible, _⟩ := (new.removed_iff content settled normal real spares).mp removed
    cases ignored.symm.trans visible
  · refine (listsMarkers_removed come fun place => ?_).unique marked
    rw [new.removed_iff content settled normal real spares, and_iff_right visible]
  · refine (listsMarkers_created gone fun place => ?_).unique marked
    rw [new.created_iff content settled normal real spares,
      new.removed_iff content settled normal real spares, and_iff_right visible]
  · exact (listsMarkers_removed gone fun _ => Iff.rfl).eq_nil
      (new.not_removed content settled normal real spares)
  · exact new.samePlaces content settled normal real spares

/-- After a run of the normal mode without errors, one new file in a reached directory changes the
markers of its directory and of those above it, if it is visible, and they change back when it is
gone. Witness: after the run, the reached directories with a marker are the empty ones.
-/
theorem run_flips (project : Project config location tree)
    (plain : PlainIgnoreFiles config location tree)
    (quiet : ((run config faults tree).journal.summary config.markerName).errors = [])
    (new : IsNewFile config faults location (run config faults tree).tree dir name)
    (content : ByteArray)
    : Flips config faults location (run config faults tree).tree dir name
        (run config faults (new.added content)) (run config faults (new.gone content)) :=
  new.flips normal real spares content (.of_run normal real project plain quiet)

end

/-- A project with a directory in another one, and with an ignore file at its root. -/
def nestedTree : Node :=
  .dir [("p", .dir [
    (".gitignore", .file "*.log\n".toUTF8),
    ("a", .dir [("b", .dir [])])
  ])]

/-- The same project as a run leaves it, with a marker in both of the directories. -/
def nestedLeft : Node :=
  (run smallConfig .none nestedTree).tree

theorem nestedProject : PlainProject smallConfig ["p"] nestedTree :=
  .of_linkless (by decide) ⟨_, rfl⟩ (by decide) rfl

theorem isNewFile_nested {name : String} (member : name ∈ ["note", "x.log"])
    : IsNewFile smallConfig .none ["p"] nestedLeft ["a", "b"] name := by
  have left : Project smallConfig ["p"] nestedLeft :=
    .of_linkless (by decide +kernel) ⟨_, rfl⟩ (by decide) (by decide +kernel)
  have reached : Reached smallConfig .none (tables smallConfig .none nestedLeft) ["p"] nestedLeft
      ["a", "b"] :=
    (reached_iff_judged left).mpr ⟨true, by decide +kernel⟩
  simp only [List.mem_cons, List.not_mem_nil, or_false] at member
  rcases member with rfl | rfl
  all_goals
    exact ⟨reached, by decide, by decide, by decide, fun source => by cases source <;> decide, rfl⟩

/-- A visible file in the inner directory takes both markers away until it is gone, and an ignored
one does not.
-/
theorem run_flips_nested
    : ((run smallConfig .none nestedTree).journal.summary ".gitkeep").created
        = ["a/b/.gitkeep", "a/.gitkeep"]
      ∧ ((run smallConfig .none
            (Node.put (.file .empty) nestedLeft ["p", "a", "b", "note"])).journal.summary
          ".gitkeep").removed
        = ["a/b/.gitkeep", "a/.gitkeep"]
      ∧ ((run smallConfig .none ((run smallConfig .none
            (Node.put (.file .empty) nestedLeft ["p", "a", "b", "note"])).tree.erase
              ["p", "a", "b", "note"])).journal.summary
          ".gitkeep").created
        = ["a/b/.gitkeep", "a/.gitkeep"]
      ∧ ((run smallConfig .none
            (Node.put (.file .empty) nestedLeft ["p", "a", "b", "x.log"])).journal.summary
          ".gitkeep").removed
        = [] := by
  have plain : PlainIgnoreFiles smallConfig ["p"] nestedTree :=
    ⟨smallProject_plainIgnoreFiles.unmarked, nestedProject.noRuleLink⟩
  have flips (name : String) (member : name ∈ ["note", "x.log"]) :=
    run_flips rfl rfl Faults.none_sparesMarkers nestedProject.toProject plain (by decide +kernel)
      (isNewFile_nested member) .empty
  have marked : (smallConfig.markedAbove ["p"] nestedLeft ["a", "b"]).map (·.entryText ".gitkeep")
      = ["a/b/.gitkeep", "a/.gitkeep"] := by
    decide +kernel
  refine ⟨by decide +kernel, ?_, ?_, ?_⟩
  · exact ((flips "note" (by simp)).removed (by decide +kernel)).2.trans marked
  · have created := ((flips "note" (by simp)).restored (by decide +kernel)).1
    unfold IsNewFile.gone IsNewFile.added at created
    exact created.trans marked
  · exact ((flips "x.log" (by simp)).ignored (by decide +kernel)).2

-----------------------------------------------------------------------------------------
-- A marker whose path is too long
-----------------------------------------------------------------------------------------

/-- A root whose path is so long that the path of a marker with a long name is too long. -/
def remoteConfig : Config where
  root := ⟨.slash, detour 815⟩
  markerName := ".keep-this-directory"

/-- A project with a marker that has a long name. -/
def remoteTree : Node :=
  .dir [("p", .dir [(".keep-this-directory", .file .empty)])]

theorem remoteTree_project : PlainProject remoteConfig ["p"] remoteTree :=
  .of_linkless (by decide) ⟨_, stat_detour _ _⟩ (by decide) rfl

/-- The root is the only directory of the project. -/
theorem eq_root_of_remoteTree {dir : DirPath}
    (there : remoteTree.kindAt (["p"] ++ dir) = some .dir)
    : dir = .root := by
  have isDir : ["p"] ++ dir ∈ Walk.postOrder remoteTree .root :=
    (Walk.mem_postOrder remoteTree_project.wellFormed).mpr ⟨_, rfl, there⟩
  have whole : Walk.postOrder remoteTree .root = [["p"], []] := by decide
  rw [whole] at isDir
  simpa [DirPath.root] using isDir

theorem remoteConfig_not_fits : ¬ remoteConfig.MarkerFits .root :=
  Config.not_fits_of_detour rfl (by decide)

theorem remoteConfig_listable : Faults.none.refusal? .list remoteConfig.root = none := by
  have allowed := Faults.none_allows_detour .list 815 [] (by decide)
  rwa [List.append_nil] at allowed

theorem remoteConfig_readable (source : Ignore.Source)
    : Faults.none.refusal? .read (remoteConfig.root.child source.fileName) = none :=
  Faults.none_allows_detour .read 815 [source.fileName] (by cases source <;> decide)

theorem remoteTree_unruled (source : Ignore.Source)
    : remoteTree.kindAt (["p"] ++ [source.fileName]) = none := by
  cases source <;> rfl

theorem remoteTree_reached
    : Reached remoteConfig .none (tables remoteConfig .none remoteTree) ["p"] remoteTree .root :=
  .root_of_unruled remoteTree_project remoteTree_unruled remoteConfig_listable

theorem remoteTree_isEmpty
    : IsEmpty remoteConfig .none (tables remoteConfig .none remoteTree) ["p"] remoteTree .root := by
  intro below reached
  obtain rfl := eq_root_of_remoteTree (reached.isDir remoteTree_project.toProject)
  rintro ⟨name, content, there, unmarked, _⟩
  have listed : Node.get? (.dir [(".keep-this-directory", .file .empty)]) [name]
      = some (.file content) := there
  obtain ⟨_, _, whole, found, _⟩ := Node.exists_child_of_get?_cons listed
  cases whole
  exact unmarked (Prod.mk.inj (List.mem_singleton.mp (Entries.mem_of_find? found))).1

/-- The only stop of a run is at the root, where there is nothing to do. -/
theorem remoteTree_stop {stop : Stop} (stopped : stop ∈ stops remoteConfig .none remoteTree)
    : stop.journal remoteConfig .none ["p"] remoteTree = [] := by
  have project := remoteTree_project.toProject
  have judged : ⟨.root, .judged true⟩ ∈ stops remoteConfig .none remoteTree :=
    (judged_iff project).mpr ⟨remoteTree_reached, iff_of_true rfl remoteTree_isEmpty⟩
  have here := eq_root_of_remoteTree (stops_inDir project stopped)
  have only := List.inj_on_of_nodup_map (stops_nodup project) stopped judged here
  rw [only]
  rfl

theorem remoteTree_errors
    : ((run remoteConfig .none remoteTree).journal.summary remoteConfig.markerName).errors
      = [] := by
  have known : remoteConfig.HasKnownMode := .of_normal rfl
  have project := remoteTree_project.toProject
  rw [(run_tracks .none known project).summary, Journal.summary_errors, List.map_eq_nil_iff,
    List.filter_eq_nil_iff]
  intro event member failed
  rcases List.mem_append.mp member with reading | walking
  · have fails := Loading.fails_of_mem_load project.wellFormed (List.mem_filter.mp reading).1 failed
    have isReading := Loading.load_reading _ _ _ _ event (List.mem_filter.mp reading).1
    cases fails with
    | @reading dir source cause visited _ unread =>
        have there := visited.isDir project.rooted
        obtain rfl := eq_root_of_remoteTree there
        rw [Loading.readFailure?, remoteTree_project.read_eq there, PathName.under_root,
          remoteConfig_readable] at unread
        cases source <;> cases unread
    | _ => cases isReading
  · obtain ⟨stop, stopped, told⟩ := List.mem_flatMap.mp walking
    rw [remoteTree_stop stopped] at told
    cases told

/-- A run leaves the project as it is. -/
theorem run_remoteTree : (run remoteConfig .none remoteTree).tree = remoteTree :=
  tree_run_of_unchanged (.of_normal rfl) remoteTree_project.toProject fun stop stopped => by
    rw [remoteTree_stop stopped]
    exact List.forall_mem_nil _

/-- A file comes to a directory that has a marker whose path is too long, and the next run leaves
that marker alone.
-/
theorem run_distant_stays
    : remoteConfig.mode = .normal ∧ remoteConfig.dryRun = false
      ∧ PlainProject remoteConfig ["p"] remoteTree
      ∧ PlainIgnoreFiles remoteConfig ["p"] remoteTree
      ∧ (run remoteConfig .none remoteTree).tree = remoteTree
      ∧ ((run remoteConfig .none remoteTree).journal.summary remoteConfig.markerName).errors = []
      ∧ IsNewFile remoteConfig .none ["p"] remoteTree .root "note"
      ∧ remoteTree.hasFileAt ["p", ".keep-this-directory"] = true
      ∧ Ignore.isIgnored ((tables remoteConfig .none remoteTree).inForce .root) "note" false = false
      ∧ ((run remoteConfig .none (Node.put (.file .empty) remoteTree ["p", "note"])).journal.summary
          remoteConfig.markerName).removed = [] := by
  have project := remoteTree_project.toProject
  have plain : PlainIgnoreFiles remoteConfig ["p"] remoteTree :=
    ⟨fun source => by cases source <;> decide, remoteTree_project.noRuleLink⟩
  have new : IsNewFile remoteConfig .none ["p"] remoteTree .root "note" :=
    ⟨remoteTree_reached, by decide, by decide, by decide,
      fun source => by cases source <;> decide, rfl⟩
  have settled : Settled remoteConfig .none ["p"] remoteTree :=
    run_remoteTree ▸ Settled.of_run rfl rfl project plain remoteTree_errors
  have come := new.project .empty settled
  refine ⟨rfl, rfl, remoteTree_project, plain, run_remoteTree, remoteTree_errors, new, rfl, ?_, ?_⟩
  · rw [Loading.inForce_root_of_unruled remoteTree_project remoteTree_unruled]
    rfl
  · refine (listsMarkers_removed come.rooted fun _ => Iff.rfl).eq_nil fun dir removed => ?_
    obtain ⟨_, above, _, fits⟩ :=
      (new.removed_iff .empty settled rfl rfl Faults.none_sparesMarkers).mp removed
    obtain rfl := List.prefix_nil.mp above
    exact remoteConfig_not_fits fits

end DirMarkers
