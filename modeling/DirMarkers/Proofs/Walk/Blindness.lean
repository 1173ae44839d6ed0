import DirMarkers.Proofs.Run.Course
import DirMarkers.Proofs.Tree.Without

/-!
Markers have no part in what a run finds. The rules that it reads and the stops that it makes are
the same in any two trees that differ in markers only.
-/

namespace DirMarkers

open Node (without withoutAmong)

/-- The ignore files of a project are neither markers nor links. -/
structure PlainIgnoreFiles (config : Config) (location : Location) (tree : Node) : Prop where
  unmarked : ∀ source : Ignore.Source, source.fileName ≠ config.markerName
  noLink
    : ∀ (source : Ignore.Source) (dir : DirPath) (target : String),
        tree.get? (location ++ dir ++ [source.fileName]) ≠ some (.link target)

theorem smallProject_plainIgnoreFiles : PlainIgnoreFiles smallConfig ["p"] smallTree where
  unmarked := fun source => by cases source <;> decide
  noLink := fun _ _ => Node.get?_ne_link rfl _

theorem Node.of_isFile {node : Node} (isFile : node.isFile = true)
    : ∃ content, node = .file content := by
  cases node with
  | file content => exact ⟨content, rfl⟩
  | dir _ => cases isFile
  | link _ => cases isFile

namespace Walk

theorem isFile_without (node : Node) (name : String)
    : (node.without name).isFile = node.isFile := by
  cases node <;> rfl

/-- A marker is not visible, so leaving markers out leaves the visible files. -/
theorem any_visible_without (config : Config) (rules : List Rule) (dir : DirPath)
    (entries : List (String × Node))
    : (fileNames (withoutAmong config.markerName entries)).any (isVisible config rules dir)
      = (fileNames entries).any (isVisible config rules dir) := by
  induction entries with
  | nil => rfl
  | cons entry rest ih =>
      obtain ⟨name, node⟩ := entry
      rw [withoutAmong]
      split
      · next dropped =>
        rw [ih, fileNames, fileNames, List.filter_cons_of_pos (by simpa using dropped.2),
          List.map_cons, List.any_cons]
        simp [isVisible, dropped.1]
      · simp only [fileNames, List.filter_cons, isFile_without] at ih ⊢
        split
        · rw [List.map_cons, List.map_cons, List.any_cons, List.any_cons, ih]
        · exact ih

section

variable (config : Config) (faults : Faults) (tables : Ignore.Tables)

mutual

theorem isVacant_without (node : Node) (dir : DirPath)
    : isVacant config faults tables (node.without config.markerName) dir
      = isVacant config faults tables node dir := by
  match node with
  | .file _ => rfl
  | .link _ => rfl
  | .dir entries =>
      rw [without, isVacant, isVacant, any_visible_without, areVacant_without entries dir]

theorem areVacant_without (entries : List (String × Node)) (dir : DirPath)
    : areVacant config faults tables (withoutAmong config.markerName entries) dir
      = areVacant config faults tables entries dir := by
  match entries with
  | [] => rfl
  | (name, node) :: rest =>
      rw [withoutAmong]
      split
      · next dropped =>
        obtain ⟨content, rfl⟩ := Node.of_isFile dropped.2
        rw [areVacant, areVacant_without rest, isVacant, Bool.true_and]
        exact nofun
      · rw [areVacant, areVacant, isVacant_without node, areVacant_without rest]

end

mutual

/-- Leaving markers out leaves the stops and what is found there. -/
theorem survey_without (node : Node) (dir : DirPath)
    : survey config faults tables (node.without config.markerName) dir
      = survey config faults tables node dir := by
  match node with
  | .file _ => rfl
  | .link _ => rfl
  | .dir entries =>
      have whole := isVacant_without config faults tables (.dir entries) dir
      rw [without] at whole ⊢
      rw [survey, survey, surveyAll_without entries dir, whole]

theorem surveyAll_without (entries : List (String × Node)) (dir : DirPath)
    : surveyAll config faults tables (withoutAmong config.markerName entries) dir
      = surveyAll config faults tables entries dir := by
  match entries with
  | [] => rfl
  | (name, node) :: rest =>
      rw [withoutAmong]
      split
      · next dropped =>
        obtain ⟨content, rfl⟩ := Node.of_isFile dropped.2
        rw [surveyAll, surveyAll_without rest, survey, List.nil_append]
        exact nofun
      · rw [surveyAll, surveyAll, survey_without node, surveyAll_without rest]

end

end

end Walk

-----------------------------------------------------------------------------------------
-- Rules
-----------------------------------------------------------------------------------------

namespace Loading

section

variable (config : Config) (faults : Faults) (top : Node) (marker : String)

mutual

/-- Leaving files out leaves the directories whose ignore files are read. -/
theorem loadDir_without (node : Node) (path : PathName) (dir : DirPath)
    : loadDir config faults top (node.without marker) path dir
      = loadDir config faults top node path dir := by
  match node with
  | .file _ => rfl
  | .link _ => rfl
  | .dir entries => rw [without, loadDir, loadDir, loadEntries_without entries path dir]

theorem loadEntries_without (entries : List (String × Node)) (path : PathName) (dir : DirPath)
    : loadEntries config faults top (withoutAmong marker entries) path dir
      = loadEntries config faults top entries path dir := by
  match entries with
  | [] => rfl
  | (name, node) :: rest =>
      rw [withoutAmong]
      split
      · next dropped =>
        obtain ⟨content, rfl⟩ := Node.of_isFile dropped.2
        rw [loadEntries, loadEntries_without rest, loadDir]
        · split <;> rfl
        · exact nofun
      · rw [loadEntries, loadEntries, loadDir_without node, loadEntries_without rest]

end

end

theorem loadEntries_congr (config : Config) (faults : Faults) {tree other : Node}
    {entries : List (String × Node)} {path : PathName} {dir : DirPath}
    (same : ∀ entry ∈ entries,
      loadDir config faults other entry.2 (path.child entry.1) (dir.child entry.1)
        = loadDir config faults tree entry.2 (path.child entry.1) (dir.child entry.1))
    : loadEntries config faults other entries path dir
      = loadEntries config faults tree entries path dir := by
  induction entries with
  | nil => rfl
  | cons entry rest ih =>
      rw [loadEntries, loadEntries, same entry List.mem_cons_self,
        ih fun later member => same later (List.mem_cons_of_mem _ member)]

section

variable {config : Config} {location : Location} {tree other : Node} {name : String}
  (faults : Faults) (project : Project config location tree)
  (plain : PlainIgnoreFiles config location tree)
  (unruled : ∀ source : Ignore.Source, source.fileName ≠ name)
  (wellFormed : other.WellFormed) (alike : Node.AlikeBut name tree other)

include project plain unruled wellFormed alike

/-- An ignore file reads the same in trees that are alike but for files of another name. -/
theorem readRules_alike {dir : DirPath} (there : tree.kindAt (location ++ dir) = some .dir)
    (source : Ignore.Source)
    : readRules faults other (config.root.under dir) dir source
      = readRules faults tree (config.root.under dir) dir source := by
  obtain ⟨entries, listed⟩ := Node.kindAt_eq_dir.mp there
  obtain ⟨others, otherListed⟩ := Node.kindAt_eq_dir.mp (alike.dir there)
  have same : tree.kindAt (location ++ dir ++ [source.fileName])
      = other.kindAt (location ++ dir ++ [source.fileName]) :=
    alike.other (unruled source)
  have notLink (target : String)
      : tree.kindAt (location ++ dir ++ [source.fileName]) ≠ some (.link target) :=
    fun link => plain.noLink source dir target (Node.kindAt_eq_link.mp link)
  have named : IsEntryName source.fileName := by
    cases source <;> decide
  have read := project.rooted.read_eq listed named notLink faults
  have otherRead := (project.alike wellFormed alike).rooted.read_eq otherListed named
    (same ▸ notLink) faults
  rw [← same] at otherRead
  rw [readRules, readRules, otherRead, read]

theorem loadFiles_alike {dir : DirPath} (there : tree.kindAt (location ++ dir) = some .dir)
    : loadFiles config faults other (config.root.under dir) dir
      = loadFiles config faults tree (config.root.under dir) dir := by
  have content := readRules_alike faults project plain unruled wellFormed alike there .content
  have marker := readRules_alike faults project plain unruled wellFormed alike there .marker
  simp only [loadFiles, content, marker]

/-- The rules of a directory and all that is below it are the same in trees that are alike but for
files that are no ignore files.
-/
theorem loadDir_alike (node : Node) {dir : DirPath}
    (there : tree.get? (location ++ dir) = some node)
    : loadDir config faults other node (config.root.under dir) dir
      = loadDir config faults tree node (config.root.under dir) dir := by
  induction node using Node.induction generalizing dir with
  | file _ => rfl
  | link _ => rfl
  | dir entries ih =>
      have isDir : tree.kindAt (location ++ dir) = some .dir := Node.kindAt_eq_dir.mpr ⟨_, there⟩
      obtain ⟨others, otherListed⟩ := Node.kindAt_eq_dir.mp (alike.dir isDir)
      have below : loadEntries config faults other entries (config.root.under dir) dir
          = loadEntries config faults tree entries (config.root.under dir) dir := by
        refine loadEntries_congr config faults fun entry member => ?_
        rw [PathName.child_under]
        exact ih entry member (project.get?_child there member)
      rw [loadDir, loadDir, loadFiles_alike faults project plain unruled wellFormed alike isDir,
        below, project.rooted.list_eq there,
        (project.alike wellFormed alike).rooted.list_eq otherListed]
      cases faults.refusal? .list (config.root.under dir) with
      | none => rfl
      | some error => rfl

end

end Loading

-----------------------------------------------------------------------------------------
-- Whole runs
-----------------------------------------------------------------------------------------

section

variable {config : Config} {location : Location} {tree other : Node} {name : String}
  (faults : Faults) (project : Project config location tree) (wellFormed : other.WellFormed)
  (alike : Node.AlikeBut name tree other)

include project wellFormed alike

/-- The root directories of trees that are alike but for files of one name are alike. -/
theorem dirAt_without
    : (Loading.dirAt other config.root).without name
      = (Loading.dirAt tree config.root).without name := by
  have there := project.dirAt_root
  have otherThere := (project.alike wellFormed alike).dirAt_root
  obtain ⟨entries, node⟩ := dirAt_eq_dir tree config.root
  obtain ⟨others, otherNode⟩ := dirAt_eq_dir other config.root
  rw [node] at there ⊢
  rw [otherNode] at otherThere ⊢
  exact ((alike.inside there otherThere).without_eq (project.wellFormed.at there)
    (wellFormed.at otherThere)).symm

/-- All rules of a project are the same in trees that are alike but for files that are no ignore
files.
-/
theorem load_alikeBut (plain : PlainIgnoreFiles config location tree)
    (unruled : ∀ source : Ignore.Source, source.fileName ≠ name)
    : Loading.load config faults other config.root
      = Loading.load config faults tree config.root := by
  have same := Loading.loadDir_alike faults project plain unruled wellFormed alike
    (Loading.dirAt tree config.root) project.dirAt_root
  rw [PathName.under_root] at same
  rw [Loading.load, Loading.load, ← Loading.loadDir_without config faults other name,
    dirAt_without project wellFormed alike, Loading.loadDir_without, same]

end

section

variable {config : Config} {location : Location} {tree other : Node} (faults : Faults)
  (project : Project config location tree) (wellFormed : other.WellFormed)
  (alike : Node.AlikeBut config.markerName tree other)

include project wellFormed alike

/-- All rules of a project are the same in trees that are alike but for markers. -/
theorem load_alike (plain : PlainIgnoreFiles config location tree)
    : Loading.load config faults other config.root
      = Loading.load config faults tree config.root :=
  load_alikeBut faults project wellFormed alike plain plain.unmarked

/-- The stops of a run are the same in trees that are alike but for markers. -/
theorem stops_alike (plain : PlainIgnoreFiles config location tree)
    : stops config faults other = stops config faults tree := by
  rw [stops, stops, tables, tables, load_alike faults project wellFormed alike plain,
    ← Walk.survey_without, dirAt_without project wellFormed alike, Walk.survey_without]

/-- The answer of a run is the same in trees that are alike but for markers. -/
theorem isVacant_alike (plain : PlainIgnoreFiles config location tree)
    : Walk.isVacant config faults (tables config faults other) (Loading.dirAt other config.root)
        .root
      = Walk.isVacant config faults (tables config faults tree) (Loading.dirAt tree config.root)
          .root := by
  rw [tables, tables, load_alike faults project wellFormed alike plain, ← Walk.isVacant_without,
    dirAt_without project wellFormed alike, Walk.isVacant_without]

end

end DirMarkers
