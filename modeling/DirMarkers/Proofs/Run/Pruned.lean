import DirMarkers.Proofs.Run.Outside
import DirMarkers.Proofs.Run.Telling
import DirMarkers.Proofs.Tree.Pruning

/-!
Reading the ignore files of a project without some of its directories. In what is left, the same
rules are read, and the same is told of it.
-/

namespace DirMarkers

open Loading (Visits Stands ignoreText? contribution)

/-- A second project is a first one without some of its directories, none of which is the root. -/
structure Prunes (config : Config) (location : Location) (tops : List DirPath) (tree other : Node)
    : Prop where
  plain : PlainProject config location tree
  otherPlain : PlainProject config location other
  below : .root ∉ tops
  isDir : ∀ top ∈ tops, tree.kindAt (location ++ top) = some .dir
  erased : other = tree.eraseAll (tops.map (location ++ ·))

/-- Whether an event tells that an ignore file could not be read that is within some directories. -/
def Event.readsWithin (tops : List DirPath) : Event → Bool
  | .unreadable dir .. => dir.isWithin tops
  | _ => false

namespace Prunes

variable {config : Config} {location : Location} {tops : List DirPath} {tree other : Node}
  {dir : DirPath}

section

variable (h : Prunes config location tops tree other)

include h

theorem project : Project config location tree :=
  h.plain.toProject

theorem otherProject : Project config location other :=
  h.otherPlain.toProject

theorem kindAt (dir : DirPath)
    : other.kindAt (location ++ dir)
      = if dir.isWithin tops then none else tree.kindAt (location ++ dir) := by
  rw [h.erased, Node.kindAt_eraseAll (DirPath.nil_not_mem_map location tops h.below),
    DirPath.isWithin_map_append]

/-- What is left is outside of what is not. -/
theorem outside {kind : Kind} (there : other.kindAt (location ++ dir) = some kind)
    : dir.isWithin tops = false ∧ tree.kindAt (location ++ dir) = some kind := by
  rw [h.kindAt] at there
  cases within : dir.isWithin tops with
  | true =>
      rw [within] at there
      cases there
  | false =>
      rw [within] at there
      exact ⟨rfl, there⟩

/-- Outside of what is left out, pruned nodes are left. -/
theorem get? {node : Node} (there : tree.get? (location ++ dir) = some node)
    (outside : dir.isWithin tops = false)
    : other.get? (location ++ dir) = some (node.pruned tops dir) := by
  rw [h.erased]
  exact h.plain.wellFormed.get?_eraseAll h.below there outside

variable (outside : dir.isWithin tops = false)

include outside

theorem kindAt_outside : other.kindAt (location ++ dir) = tree.kindAt (location ++ dir) := by
  rw [h.kindAt, outside]
  rfl

/-- An entry of a directory that is left is left as well, unless it is a directory. -/
theorem kindAt_entry (name : String)
    : other.kindAt (location ++ dir ++ [name]) = tree.kindAt (location ++ dir ++ [name])
      ∨ other.kindAt (location ++ dir ++ [name]) = none
        ∧ tree.kindAt (location ++ dir ++ [name]) = some .dir := by
  rw [List.append_assoc, ← DirPath.child]
  by_cases top : dir.child name ∈ tops
  · refine .inr ⟨?_, h.isDir _ top⟩
    rw [h.kindAt, DirPath.isWithin_of_mem top]
    rfl
  · exact .inl (h.kindAt_outside (DirPath.isWithin_child_eq_false outside top))

end

-----------------------------------------------------------------------------------------
-- What is read
-----------------------------------------------------------------------------------------

section

variable {faults : Faults} (h : Prunes config location tops tree other)

include h

/-- What is visited in what is left is visited with all the rest. -/
theorem visits (visited : Visits config faults other dir) : Visits config faults tree dir :=
  visited.transport h.otherProject.rooted h.project.rooted fun _ there => (h.outside there).2

/-- What is visited is visited as well in what is left, if it is left. Witness: induction on the
visits; what is left is below what is left.
-/
theorem visits_left (visited : Visits config faults tree dir) (outside : dir.isWithin tops = false)
    : Visits config faults other dir := by
  induction visited with
  | root => exact .root
  | @child dir name listing entries above listed isDir kept ih =>
      have around := DirPath.isWithin_eq_false_above outside
      have here := above.isDir h.project.rooted
      have visited : Visits config faults tree (dir.child name) := .child above listed isDir kept
      obtain ⟨_, _, allowed, there⟩ :=
        (Loading.visits_child_iff_isDir h.project.rooted here).mp visited
      refine (Loading.visits_child_iff_isDir h.otherProject.rooted ?_).mpr
        ⟨ih around, kept, allowed, ?_⟩
      · exact (h.kindAt_outside around).trans here
      · exact (h.kindAt_outside outside).trans there

variable (outside : dir.isWithin tops = false)
  (there : tree.kindAt (location ++ dir) = some .dir)

include outside there

/-- An ignore file of a directory that is left reads the same. Witness: a directory in its place is
as good as nothing.
-/
theorem readRules_eq (source : Ignore.Source)
    : Loading.readRules faults other (config.root.under dir) dir source
      = Loading.readRules faults tree (config.root.under dir) dir source := by
  rw [Loading.readRules, Loading.readRules, h.plain.read_eq there,
    h.otherPlain.read_eq ((h.kindAt_outside outside).trans there)]
  rcases h.kindAt_entry outside source.fileName with same | ⟨missing, isDir⟩
  · rw [same]
  · rw [missing, isDir]
    cases faults.refusal? .read ((config.root.under dir).child source.fileName) with
    | some error => rfl
    | none => rfl

theorem loadFiles_eq
    : Loading.loadFiles config faults other (config.root.under dir) dir
      = Loading.loadFiles config faults tree (config.root.under dir) dir := by
  rw [Loading.loadFiles, Loading.loadFiles, h.readRules_eq outside there .content,
    h.readRules_eq outside there .marker]

/-- A directory that is left contributes the same rules. -/
theorem contribution_eq (source : Ignore.Source)
    : contribution config faults other source dir = contribution config faults tree source dir := by
  by_cases unused : source = .marker ∧ config.respectMarkerIgnore = false
  · rw [contribution, contribution, ignoreText?, ignoreText?, if_pos unused, if_pos unused]
  · rw [← Loading.readRules_fst unused, ← Loading.readRules_fst unused,
      h.readRules_eq outside there]

end

/-- The same rules are in force in a directory that is left and visited. -/
theorem inForce_eq {faults : Faults} (h : Prunes config location tops tree other)
    (visited : Visits config faults tree dir) (outside : dir.isWithin tops = false)
    : (tables config faults other).inForce dir = (tables config faults tree).inForce dir := by
  rw [tables, tables, Loading.inForce_eq_chain h.plain.wellFormed visited,
    Loading.inForce_eq_chain h.otherPlain.wellFormed (h.visits_left visited outside), Loading.chain,
    Loading.chain]
  refine List.flatMap_congr fun above member => ?_
  obtain ⟨below, rfl⟩ := DirPath.mem_ancestors.mp member
  have around := DirPath.isWithin_eq_false_above outside
  have there := visited.above.isDir h.project.rooted
  rw [h.contribution_eq around there .content, h.contribution_eq around there .marker]

-----------------------------------------------------------------------------------------
-- What is told of it
-----------------------------------------------------------------------------------------

section

variable {faults : Faults}

/-- All that is notable while ignore files are read is that one could not be read. -/
theorem exists_unreadable {journal : Journal} (reading : Loading.IsReading journal) {event : Event}
    (member : event ∈ journal.notable)
    : ∃ dir source file cause, event = .unreadable dir source file cause
      ∧ event ∈ journal.about dir := by
  obtain ⟨happened, notable⟩ := List.mem_filter.mp member
  have isReading := reading event happened
  cases event with
  | unreadable dir source file cause =>
      exact ⟨dir, source, file, cause, rfl, Journal.mem_about.mpr ⟨happened, rfl⟩⟩
  | _ => simp [Event.isNotable, Event.isReading] at notable isReading

/-- Reading the ignore files of a directory that is left tells of nothing that is left out. -/
theorem loadFiles_filter (outside : dir.isWithin tops = false)
    : (Loading.loadFiles config faults tree (config.root.under dir) dir).journal.notable.filter
        (!·.readsWithin tops)
      = (Loading.loadFiles config faults tree (config.root.under dir) dir).journal.notable := by
  refine List.filter_eq_self.mpr fun event member => ?_
  obtain ⟨place, source, file, cause, rfl, told⟩ :=
    exists_unreadable (Loading.loadFiles_reading config faults tree _ dir) member
  by_cases here : place = dir
  · rw [here, Event.readsWithin, outside]
    rfl
  · rw [Loading.loadFiles_elsewhere here] at told
    cases told

/-- Reading a directory that is left out tells of nothing that is left. -/
theorem loadDir_filter (wellFormed : tree.WellFormed) {node : Node}
    (stands : Stands config faults tree node dir) (within : dir.isWithin tops = true)
    : (Loading.loadDir config faults tree node (config.root.under dir) dir).journal.notable.filter
        (!·.readsWithin tops)
      = [] := by
  refine List.filter_eq_nil_iff.mpr fun event member => ?_
  obtain ⟨place, source, file, cause, rfl, told⟩ :=
    exists_unreadable (Loading.loadDir_reading config faults tree node _ dir) member
  rw [Loading.loadDir_about wellFormed node stands] at told
  split at told
  · next visits =>
    obtain ⟨below, rfl⟩ := visits.1
    rw [Event.readsWithin, DirPath.isWithin_append within]
    exact Bool.false_ne_true
  · cases told

variable {other : Node} {path : PathName}

/-- Reading the entries that are left tells what reading all of them does of what is left. -/
theorem loadEntries_pruned {entries : List (String × Node)}
    (each : ∀ entry ∈ entries, config.excludes entry.1 = false
      → (if dir.child entry.1 ∈ tops then []
          else (Loading.loadDir config faults other (entry.2.pruned tops (dir.child entry.1))
            (path.child entry.1) (dir.child entry.1)).journal.notable)
        = (Loading.loadDir config faults tree entry.2 (path.child entry.1)
            (dir.child entry.1)).journal.notable.filter (!·.readsWithin tops))
    : (Loading.loadEntries config faults other (Node.prunedAmong tops entries dir) path
        dir).journal.notable
      = (Loading.loadEntries config faults tree entries path dir).journal.notable.filter
          (!·.readsWithin tops) := by
  induction entries with
  | nil => rfl
  | cons entry rest ih =>
      have later := ih fun entry member => each entry (List.mem_cons_of_mem _ member)
      have first := each entry List.mem_cons_self
      rw [Node.prunedAmong, Loading.loadEntries, Loading.journal_append, Journal.notable_append,
        List.filter_append, ← later]
      cases excluded : config.excludes entry.1 with
      | true =>
          split
          · rfl
          · rw [Loading.loadEntries, excluded]
            rfl
      | false =>
          rw [if_neg Bool.false_ne_true, ← first excluded]
          split
          · rfl
          · rw [Loading.loadEntries, excluded]
            exact Journal.notable_append _ _

end

section

variable {faults : Faults} (h : Prunes config location tops tree other)

include h

/-- Reading what is left tells what reading all does of what is left. Witness: induction on the
tree; what is told of a directory that is left out is told within it.
-/
theorem loadDir_pruned (node : Node) {dir : DirPath}
    (stands : Stands config faults tree node dir) (there : tree.get? (location ++ dir) = some node)
    (outside : dir.isWithin tops = false)
    : (Loading.loadDir config faults other (node.pruned tops dir) (config.root.under dir)
        dir).journal.notable
      = (Loading.loadDir config faults tree node (config.root.under dir)
          dir).journal.notable.filter (!·.readsWithin tops) := by
  induction node using Node.induction generalizing dir with
  | file _ => rfl
  | link _ => rfl
  | dir entries ih =>
      have otherThere := h.get? there outside
      have list := h.project.rooted.list_eq there faults
      have files : Loading.loadFiles config faults other (config.root.under dir) dir
          = Loading.loadFiles config faults tree (config.root.under dir) dir :=
        h.loadFiles_eq outside (Node.kindAt_eq_dir.mpr ⟨_, there⟩)
      rw [Node.pruned] at otherThere ⊢
      rw [Loading.loadDir, Loading.loadDir, files, list,
        h.otherProject.rooted.list_eq otherThere]
      cases allowed : faults.refusal? .list (config.root.under dir) with
      | some error =>
          rw [Loading.journal_append, Journal.notable_append, List.filter_append,
            loadFiles_filter outside]
          rfl
      | none =>
          rw [allowed] at list
          rw [Loading.journal_append, Journal.notable_append, Loading.journal_append,
            Journal.notable_append, List.filter_append, loadFiles_filter outside,
            loadEntries_pruned fun entry member kept => ?_]
          have child := stands.child h.plain.wellFormed list member kept
          rw [PathName.child_under]
          split
          · next top =>
            exact (loadDir_filter h.plain.wellFormed child (DirPath.isWithin_of_mem top)).symm
          · next left =>
            exact ih entry member child (h.project.get?_child there member)
              (DirPath.isWithin_child_eq_false outside left)

theorem root_outside : DirPath.isWithin tops .root = false := by
  rw [← Bool.not_eq_true, DirPath.isWithin_eq_true]
  rintro ⟨top, member, leads⟩
  obtain rfl := List.prefix_nil.mp leads
  exact h.below member

/-- The root directory of what is left is that of the first project, pruned. -/
theorem dirAt_pruned
    : Loading.dirAt other config.root = (Loading.dirAt tree config.root).pruned tops .root :=
  Option.some.inj (h.otherProject.dirAt_root.symm.trans
    (h.get? h.project.dirAt_root h.root_outside))

/-- Reading all that is left tells what reading the whole project does of what is left. -/
theorem load_pruned
    : (Loading.load config faults other config.root).journal.notable
      = (Loading.load config faults tree config.root).journal.notable.filter
          (!·.readsWithin tops) := by
  have stands : Stands config faults tree (Loading.dirAt tree config.root) .root :=
    .root h.plain.wellFormed
  have read := h.loadDir_pruned _ stands h.project.dirAt_root h.root_outside
  rw [PathName.under_root, ← h.dirAt_pruned] at read
  simp only [Loading.load, Loading.journal_append, Journal.notable_append, List.filter_append, read]
  rfl

end

end Prunes

end DirMarkers
