import DirMarkers.Proofs.Run.Completion
import DirMarkers.Proofs.Walk.Answer
import DirMarkers.Proofs.Walk.Origin
import DirMarkers.Proofs.Walk.Stillness

/-!
What a run that only looks takes the directories to be. It leaves the tree alone, so a directory
that it judges is empty if and only if it shows no file in the tree as it was at the start.
-/

namespace DirMarkers

/-- Two steps give an answer if the first one does, and then the second one. -/
theorem Step.bind_eq_ok_iff {α β : Type} {first : Step α} {next : α → Node → Step β} {last : β}
    : (first.bind next).answer = .ok last
      ↔ ∃ answer, first.answer = .ok answer ∧ (next answer first.tree).answer = .ok last := by
  rw [bind]
  cases first.answer with
  | error crash => simp
  | ok answer => simp

theorem Step.map_eq_ok_iff {α β : Type} {f : α → β} {step : Step α} {last : β}
    : (step.map f).answer = .ok last ↔ ∃ answer, step.answer = .ok answer ∧ f answer = last := by
  rw [map]
  cases step.answer with
  | error crash => simp [Except.map]
  | ok answer => simp [Except.map]

namespace Walk

section

variable {config : Config} {faults : Faults} {tables : Ignore.Tables} {location : Location}
  {tree : Node} {dir : DirPath} {entries : Entries}

/-- A walk goes on from a directory that is neither excluded nor ignored. -/
theorem kept_iff
    : (skip? config (tables.inForce dir) (config.root.under dir) dir).1 = false
      ↔ (dir = .root ∨ config.excludes (dir.getLast?.getD "") = false)
        ∧ Ignore.isIgnored (tables.inForce dir) dir.text true = false := by
  rw [skip?_under]
  split
  · next excluded => simp [excluded]
  · next included =>
    have kept : dir = .root ∨ config.excludes (dir.getLast?.getD "") = false := by
      simpa [Classical.or_iff_not_imp_left] using included
    split
    · next ignored => simp [ignored]
    · next notIgnored => simp [kept, notIgnored]

/-- A walk judges a directory that it goes on from and that it can list. -/
theorem judges_iff_listed (there : tree.get? (location ++ dir) = some (.dir entries))
    : Judges config faults tables location tree dir
      ↔ (skip? config (tables.inForce dir) (config.root.under dir) dir).1 = false
        ∧ ∃ listing, faults.list tree (config.root.under dir) = .ok listing := by
  rw [kept_iff]
  constructor
  · intro judged
    exact ⟨⟨judged.kept, judged.opens.notIgnored⟩, judged.opens.listed⟩
  · intro h
    obtain ⟨⟨kept, notIgnored⟩, listed⟩ := h
    exact ⟨Node.kindAt_eq_dir.mpr ⟨_, there⟩, kept, ⟨notIgnored, listed⟩⟩

section

variable (rooted : Rooted config.root location tree)

include rooted

/-- A directory that is judged is found not to be empty if it shows a file, provided that the same
is so for its entries.
-/
theorem conclusion_eq_false_iff (there : tree.get? (location ++ dir) = some (.dir entries))
    (kept : (skip? config (tables.inForce dir) (config.root.under dir) dir).1 = false)
    {listing : Entries} (listed : faults.list tree (config.root.under dir) = .ok listing)
    {allEmpty : Bool}
    (below : allEmpty = false
      ↔ ∃ entry ∈ entries, Shows config faults tables location tree (dir.child entry.1))
    : (!(fileNames listing).any (isVisible config (tables.inForce dir) dir) && allEmpty) = false
      ↔ Shows config faults tables location tree dir := by
  have judged : Judges config faults tables location tree dir :=
    (judges_iff_listed there).mpr ⟨kept, listing, listed⟩
  have own : listing = entries := by
    have found := rooted.list_eq there faults
    rw [listed] at found
    split at found
    · cases found
    · exact Except.ok.inj found
  rw [own, shows_iff there, ← any_visible_iff rooted.wellFormed there, ← below]
  cases (fileNames entries).any (isVisible config (tables.inForce dir) dir) with
  | true => simp [judged]
  | false => simp [judged]

end

section

variable (readOnly : config.IsReadOnly)

include readOnly

/-- Some entries are found not to be all empty if one of them shows a file, by induction on the
entries. Nothing that is done for one of them changes what the next ones are.
-/
theorem visitAll_eq_false_iff {entries : List (String × Node)}
    (each : ∀ entry ∈ entries, ∀ isEmpty,
      (visit config faults tables entry.2 (config.root.under (dir.child entry.1))
        (dir.child entry.1) tree).answer = .ok isEmpty
      → (isEmpty = false ↔ Shows config faults tables location tree (dir.child entry.1)))
    {allEmpty : Bool}
    (ended : (visitAll config faults tables entries (config.root.under dir) dir tree).answer
      = .ok allEmpty)
    : allEmpty = false
      ↔ ∃ entry ∈ entries, Shows config faults tables location tree (dir.child entry.1) := by
  induction entries generalizing allEmpty with
  | nil =>
      cases ended
      simp
  | cons entry rest ih =>
      rw [visitAll, PathName.child_under] at ended
      obtain ⟨isEmpty, first, later⟩ := Step.bind_eq_ok_iff.mp ended
      rw [visit_still faults tables readOnly] at later
      obtain ⟨others, last, rfl⟩ := Step.map_eq_ok_iff.mp later
      have here := each entry List.mem_cons_self isEmpty first
      have next := ih (fun other member => each other (List.mem_cons_of_mem _ member)) last
      rw [Bool.and_eq_false_iff, here, next, List.exists_mem_cons_iff]

/-- A visit that gives an answer finds a directory not to be empty if it shows a file, by induction
on the tree.
-/
theorem visit_eq_false_iff (rooted : Rooted config.root location tree) (node : Node) {dir : DirPath}
    (there : tree.get? (location ++ dir) = some node) {isEmpty : Bool}
    (ended : (visit config faults tables node (config.root.under dir) dir tree).answer
      = .ok isEmpty)
    : isEmpty = false ↔ Shows config faults tables location tree dir := by
  induction node using Node.induction generalizing dir isEmpty with
  | file _ =>
      cases ended
      refine iff_of_false (by simp) fun shown => ?_
      cases shown.kind_eq there
  | link _ =>
      cases ended
      refine iff_of_false (by simp) fun shown => ?_
      cases shown.kind_eq there
  | dir entries ih =>
      have judges := @judges_iff_listed config faults tables location tree dir entries there
      simp only [visit, Step.after] at ended
      cases kept : (skip? config (tables.inForce dir) (config.root.under dir) dir).1 with
      | true =>
          rw [kept] at ended judges
          cases ended
          refine iff_of_false (by simp) fun shown => ?_
          cases (judges.mp shown.judged).1
      | false =>
          rw [kept] at ended
          simp only [Bool.false_eq_true, if_false] at ended
          split at ended
          · cases ended
          · next failed =>
            cases ended
            refine iff_of_false (by simp) fun shown => ?_
            obtain ⟨listing, listed⟩ := shown.judged.opens.listed
            cases failed.symm.trans listed
          · next listing _ listed =>
            obtain ⟨allEmpty, below, last⟩ := Step.bind_eq_ok_iff.mp ended
            obtain ⟨_, _, rfl⟩ := Step.map_eq_ok_iff.mp last
            refine conclusion_eq_false_iff rooted there kept listed ?_
            refine visitAll_eq_false_iff readOnly (fun entry member isEmpty ended => ?_) below
            exact ih entry member (rooted.wellFormed.get?_child there member) ended

end

end

-----------------------------------------------------------------------------------------
-- Markers that are settled
-----------------------------------------------------------------------------------------

section

variable {config : Config} {faults : Faults} {tree now : Node} {dir : DirPath}

/-- A walk that changes nothing finds the tree as it was wherever it comes to. -/
theorem Comes.still {tables : Ignore.Tables} {entries : Entries} (readOnly : config.IsReadOnly)
    (came : Comes config faults tables tree dir entries now)
    : now = tree := by
  induction came with
  | root isDir => rfl
  | child above kept listed turn ih =>
      rw [ih]
      exact visitAll_still faults tables
        (fun entry _ => visit_still faults tables readOnly entry.2) _ _ _

/-- The path of the root leads to a directory if a walk has come to one that can be listed. -/
theorem Comes.exists_rooted {tables : Ignore.Tables} {entries listing : Entries}
    (readOnly : config.IsReadOnly) (wellFormed : tree.WellFormed)
    (came : Comes config faults tables tree dir entries now)
    (listed : faults.list tree (config.root.under dir) = .ok listing)
    : ∃ location, Rooted config.root location tree := by
  have root : ∃ top, faults.list tree (config.root.under .root) = .ok top := by
    by_cases below : dir = .root
    · exact ⟨listing, below ▸ listed⟩
    · rw [← List.nil_append dir] at came
      obtain ⟨_, then_, top, above, _, found⟩ := came.above below
      exact ⟨top, above.still readOnly ▸ found⟩
  obtain ⟨top, found⟩ := root
  rw [PathName.under_root] at found
  obtain ⟨_, location, leads, _⟩ := Faults.list_eq_ok_iff.mp found
  exact ⟨location, wellFormed, leads⟩

/-- The marker of a directory is settled knowing that the directory is empty if it shows no file. -/
theorem Settles.isEmpty_iff (readOnly : config.IsReadOnly) (wellFormed : tree.WellFormed)
    {isEmpty hasMarker : Bool} (settles : Settles config faults tree dir isEmpty hasMarker now)
    : ∃ location, Rooted config.root location tree
      ∧ (isEmpty = false ↔ Shows config faults (tables config faults tree) location tree dir) := by
  cases settles with
  | intro came kept listed below =>
      obtain rfl := came.still readOnly
      obtain ⟨location, rooted⟩ := came.exists_rooted readOnly wellFormed listed
      have there := came.original rooted
      refine ⟨location, rooted, conclusion_eq_false_iff rooted there kept listed ?_⟩
      refine visitAll_eq_false_iff readOnly (fun entry member isEmpty ended => ?_) below
      have child := rooted.wellFormed.get?_child there member
      exact visit_eq_false_iff readOnly rooted entry.2 child ended

end

end Walk

end DirMarkers
