import DirMarkers.Proofs.Run.Completion
import DirMarkers.Proofs.Walk.Sparing

/-!
What becomes of the files that were there before a run. One that is still there holds what it held,
unless it is the file that a link in the place of a marker leads to.
-/

namespace DirMarkers

/-- A run leaves the tree alone if the root cannot be listed. -/
theorem run_unlistable {config : Config} {faults : Faults} {tree : Node} {error : SystemError}
    (failed : faults.list tree config.root = .error error)
    : (run config faults tree).tree = tree := by
  obtain ⟨entries, top⟩ := dirAt_eq_dir tree config.root
  simp only [run, Walk.walk, top, Walk.visit, Step.after]
  split
  · rfl
  · cases faults.crash? .list config.root with
    | some crash => rfl
    | none =>
        rw [failed]
        rfl

/-- A file that is there before a run and after it holds the same bytes, or those of a marker if a
link in the place of a marker leads to it. Witness: the walk spares all files but the markers, and a
marker that it owns was missing before or is missing after.
-/
theorem run_preserves {before tree : Node} {here : Location} {root : String}
    {overrides : Overrides} {order : CheckOrder} {config : Config}
    (loaded : (SettingsFile.load before here root overrides order).1 = .ok config)
    (wellFormed : tree.WellFormed) (faults : Faults) {place : Location} {content now : ByteArray}
    (original : tree.get? place = some (.file content))
    (remains : (run config faults tree).tree.get? place = some (.file now))
    : now = content
      ∨ (now = config.markerContent.toUTF8 ∧ ∃ dir, MarkerLeads config tree dir place) := by
  obtain ⟨path, yields⟩ := SettingsFile.load_yields loaded
  cases listed : faults.list tree config.root with
  | error error =>
      rw [run_unlistable listed, original] at remains
      exact .inl (Node.file.inj (Option.some.inj remains)).symm
  | ok entries =>
      obtain ⟨_, location, leads, _⟩ := Faults.list_eq_ok_iff.mp listed
      have rooted : Rooted config.root location tree := ⟨wellFormed, leads⟩
      have spares := Walk.visit_spares rooted yields.plain faults (tables config faults tree) _
        rooted.get?_dirAt wellFormed.isSorted (.refl tree)
      rw [PathName.under_root] at spares
      have was := Node.kindAt_eq_file.mpr original
      have is := Node.kindAt_eq_file.mpr remains
      rcases spares.files place with kept | ⟨written, led⟩ | ⟨_, missing | missing⟩
      · have same := is.symm.trans (kept.trans was)
        exact .inl (Kind.file.inj (Option.some.inj same))
      · have same := is.symm.trans written
        exact .inr ⟨Kind.file.inj (Option.some.inj same), led⟩
      · cases was.symm.trans missing
      · cases is.symm.trans missing

/-- A project with a note, and with a directory in which a link to that note is in the place of the
marker.
-/
def linkedTree : Node :=
  .dir [("p", .dir [
    ("bare", .dir [(".gitkeep", .link "../notes/kept")]),
    ("notes", .dir [("kept", .file "text".toUTF8)])
  ])]

theorem load_linked
    : (SettingsFile.load linkedTree ["p"] "." []).1 = .ok (namedConfig ".gitkeep") :=
  rfl

/-- The note does not hold what it held, so a link in the place of a marker leads to it. -/
theorem run_preserves_linked
    : (run (namedConfig ".gitkeep") .none linkedTree).tree.get? ["p", "notes", "kept"]
        = some (.file .empty)
      ∧ ∃ dir, MarkerLeads (namedConfig ".gitkeep") linkedTree dir ["p", "notes", "kept"] := by
  have original : linkedTree.get? ["p", "notes", "kept"] = some (.file "text".toUTF8) := rfl
  have emptied : (run (namedConfig ".gitkeep") .none linkedTree).tree.get? ["p", "notes", "kept"]
      = some (.file .empty) := rfl
  have wellFormed : linkedTree.WellFormed := by decide
  rcases run_preserves load_linked wellFormed .none original emptied with same | ⟨_, led⟩
  · exact absurd same (by decide)
  · exact ⟨emptied, led⟩

/-- A file that was there before a run does not always hold what it held. -/
theorem run_empties_linked
    : (SettingsFile.load linkedTree ["p"] "." []).1 = .ok (namedConfig ".gitkeep")
      ∧ linkedTree.get? ["p", "notes", "kept"] = some (.file "text".toUTF8)
      ∧ (run (namedConfig ".gitkeep") .none linkedTree).tree.get? ["p", "notes", "kept"]
        = some (.file .empty) :=
  ⟨rfl, rfl, rfl⟩

end DirMarkers
