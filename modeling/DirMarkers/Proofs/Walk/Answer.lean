import DirMarkers.Proofs.Run.Agreement
import DirMarkers.Proofs.Walk.Reach

/-!
What the answer of a walk means. A walk answers that a directory is not empty if and only if
directories that it judges lead from there down to a visible file, whatever it does about markers.
-/

namespace DirMarkers

namespace Walk

section

variable (config : Config) (faults : Faults) (tables : Ignore.Tables) (location : Location)
  (tree : Node)

/-- A directory that is no link and that a walk judges by what is in it: it can be listed, and it
is neither ignored nor excluded, which the root never is.
-/
structure Judges (dir : DirPath) : Prop where
  isDir : tree.kindAt (location ++ dir) = some .dir
  kept : dir = .root ∨ config.excludes (dir.getLast?.getD "") = false
  opens : Opens config faults tables tree dir

/-- A directory shows a file: judged directories, each right below the one before, lead from it to
one that holds a visible file.
-/
inductive Shows : DirPath → Prop
  | here {dir : DirPath} (judged : Judges config faults tables location tree dir)
    (visible : HoldsVisible config tables location tree dir)
    : Shows dir
  | deeper {dir : DirPath} (name : String)
    (judged : Judges config faults tables location tree dir)
    (next : Shows (dir.child name))
    : Shows dir

end

section

variable {config : Config} {faults : Faults} {tables : Ignore.Tables} {location : Location}
  {tree : Node} {dir : DirPath}

theorem Shows.judged (h : Shows config faults tables location tree dir)
    : Judges config faults tables location tree dir := by
  cases h with
  | here judged _ => exact judged
  | deeper _ judged _ => exact judged

/-- Nothing keeps a walk from a directory exactly if it judges it. -/
theorem judges_iff (project : Project config location tree)
    (there : tree.kindAt (location ++ dir) = some .dir)
    : Judges config faults tables location tree dir ↔ barrier? config faults tables dir = none := by
  rw [barrier?_eq_none project there]
  constructor
  · intro judged
    exact ⟨judged.kept, judged.opens⟩
  · intro h
    obtain ⟨kept, opens⟩ := h
    exact ⟨there, kept, opens⟩

/-- A directory shows a file if it holds a visible one, or if one of its entries shows a file. -/
theorem shows_iff {entries : Entries}
    (there : tree.get? (location ++ dir) = some (.dir entries))
    : Shows config faults tables location tree dir
      ↔ Judges config faults tables location tree dir
        ∧ (HoldsVisible config tables location tree dir
          ∨ ∃ entry ∈ entries, Shows config faults tables location tree (dir.child entry.1)) := by
  constructor
  · intro shown
    refine ⟨shown.judged, ?_⟩
    cases shown with
    | here _ visible => exact .inl visible
    | deeper name _ next =>
        have isDir := next.judged.isDir
        rw [DirPath.child, ← List.append_assoc, Node.kindAt_append there, Node.kindAt_cons] at isDir
        obtain ⟨child, found, _⟩ := Option.bind_eq_some_iff.mp isDir
        exact .inr ⟨_, Entries.mem_of_find? found, next⟩
  · intro h
    obtain ⟨judged, shown⟩ := h
    rcases shown with visible | ⟨entry, _, next⟩
    · exact .here judged visible
    · exact .deeper entry.1 judged next

/-- Only a directory shows a file. -/
theorem Shows.kind_eq {node : Node} (h : Shows config faults tables location tree dir)
    (there : tree.get? (location ++ dir) = some node)
    : node.kind = .dir := by
  have isDir := h.judged.isDir
  rw [Node.kindAt, there] at isDir
  exact Option.some.inj isDir

/-- A walk answers that a node is not empty if it is a directory that shows a file. Witness:
induction on the tree, with the answers for the entries of a directory.
-/
theorem isVacant_eq_false_iff (project : Project config location tree) (node : Node)
    {dir : DirPath} (there : tree.get? (location ++ dir) = some node)
    : isVacant config faults tables node dir = false
      ↔ Shows config faults tables location tree dir := by
  induction node using Node.induction generalizing dir with
  | file _ =>
      refine iff_of_false (by simp [isVacant]) ?_
      intro shown
      cases shown.kind_eq there
  | link _ =>
      refine iff_of_false (by simp [isVacant]) ?_
      intro shown
      cases shown.kind_eq there
  | dir entries ih =>
      have isDir : tree.kindAt (location ++ dir) = some .dir := Node.kindAt_eq_dir.mpr ⟨_, there⟩
      have below : areVacant config faults tables entries dir = false
          ↔ ∃ entry ∈ entries, Shows config faults tables location tree (dir.child entry.1) := by
        rw [areVacant_eq, List.all_eq_false]
        refine exists_congr fun entry => and_congr_right fun member => ?_
        rw [Bool.not_eq_true]
        exact ih entry member (project.get?_child there member)
      rw [shows_iff there, judges_iff project isDir,
        ← any_visible_iff project.wellFormed there, ← below, isVacant]
      cases barrier? config faults tables dir with
      | some _ => simp
      | none =>
          cases (fileNames entries).any (isVisible config (tables.inForce dir) dir) with
          | true => simp
          | false => simp

-----------------------------------------------------------------------------------------
-- What has no part in an answer
-----------------------------------------------------------------------------------------

section

variable {others : Faults} {other : Node} (project : Project config location tree)
  (again : Project config location other) (alike : Node.AlikeBut config.markerName tree other)
  (same : others .list = faults .list)

include project again alike same

/-- A directory that is judged is judged as well where other calls fail and other markers are. -/
theorem Judges.transport (h : Judges config faults tables location tree dir)
    : Judges config others tables location other dir := by
  obtain ⟨notIgnored, allowed⟩ := (opens_iff project h.isDir).mp h.opens
  refine ⟨alike.dir h.isDir, h.kept, (opens_iff again (alike.dir h.isDir)).mpr ⟨notIgnored, ?_⟩⟩
  rw [Faults.refusal?] at allowed ⊢
  rw [same]
  exact allowed

/-- A directory shows a file as well where other calls fail and other markers are, by induction on
the directories that lead to the file.
-/
theorem Shows.transport (h : Shows config faults tables location tree dir)
    : Shows config others tables location other dir := by
  induction h with
  | here judged visible =>
      obtain ⟨name, content, there, notMarker, notIgnored⟩ := visible
      refine .here (judged.transport project again alike same) ⟨name, content, ?_, notMarker,
        notIgnored⟩
      rw [← Node.kindAt_eq_file, ← alike.other notMarker]
      exact Node.kindAt_eq_file.mpr there
  | deeper name judged _ ih =>
      exact .deeper name (judged.transport project again alike same) ih

end

-----------------------------------------------------------------------------------------
-- The answer of a walk
-----------------------------------------------------------------------------------------

/-- A walk of a directory of a project ends, and answers whether the directory is vacant. -/
theorem walk_vacant (project : Project config location tree) (known : config.HasKnownMode)
    {entries : Entries} (there : tree.get? (location ++ dir) = some (.dir entries))
    (faults : Faults) (tables : Ignore.Tables)
    : (walk config faults tables (config.root.under dir) dir tree).answer
      = .ok (isVacant config faults tables (.dir entries) dir) := by
  have start : Loading.dirAt tree (config.root.under dir) = .dir entries := by
    rw [Loading.dirAt, project.rooted.stat_under there]
    rfl
  rw [walk, start]
  exact (visit_follows faults tables known project _ project there there).answer

/-- A walk answers that a directory is not empty if and only if the directory shows a file, and it
answers the same in every mode, for all faults of calls other than listings, and whatever markers
there are.
-/
theorem walk_answer (project : Project config location tree) (known : config.HasKnownMode)
    (there : tree.kindAt (location ++ dir) = some .dir) (faults : Faults) (tables : Ignore.Tables)
    : ∃ isEmpty, (walk config faults tables (config.root.under dir) dir tree).answer = .ok isEmpty
      ∧ (isEmpty = false ↔ Shows config faults tables location tree dir)
      ∧ ∀ mode dryRun, (config.acting mode dryRun).HasKnownMode
        → ∀ others : Faults, others .list = faults .list
        → ∀ other : Node, other.WellFormed → Node.AlikeBut config.markerName tree other
        → (walk (config.acting mode dryRun) others tables (config.root.under dir) dir other).answer
          = .ok isEmpty := by
  obtain ⟨entries, here⟩ := Node.kindAt_eq_dir.mp there
  have meaning : isVacant config faults tables (.dir entries) dir = false
      ↔ Shows config faults tables location tree dir :=
    isVacant_eq_false_iff project _ here
  refine ⟨_, walk_vacant project known here faults tables, meaning, ?_⟩
  intro mode dryRun known others same other wellFormed alike
  have again := project.alike wellFormed alike
  obtain ⟨otherEntries, otherHere⟩ := Node.kindAt_eq_dir.mp (alike.dir there)
  have answer := walk_vacant (again.acting mode dryRun) known otherHere others tables
  rw [isVacant_acting] at answer
  refine answer.trans (congrArg Except.ok (Bool.not_inj (Bool.coe_false_iff_false.mp ?_)))
  rw [isVacant_eq_false_iff again _ otherHere, meaning]
  constructor
  · intro shown
    exact shown.transport again project alike.symm same.symm
  · intro shown
    exact shown.transport project again alike same

/-- The small project shows `full/note`, and a dry check without a right to write finds so too. -/
theorem walk_answer_small
    : (walk smallConfig .none .empty (smallConfig.root.under .root) .root smallTree).answer
        = .ok false
      ∧ (walk (smallConfig.acting .check true)
          (fun call _ => if call = .write then some .accessDenied else none) .empty
          (smallConfig.root.under .root) .root smallTree).answer
        = .ok false := by
  have root : smallTree.kindAt (["p"] ++ DirPath.root) = some .dir := rfl
  obtain ⟨isEmpty, answer, meaning, same⟩ :=
    walk_answer smallProject smallConfig_hasKnownMode root .none .empty
  have shows : Shows smallConfig .none .empty ["p"] smallTree .root :=
    .deeper "full" ⟨root, .inl rfl, ⟨rfl, _, rfl⟩⟩
      (.here ⟨rfl, .inr rfl, ⟨rfl, _, rfl⟩⟩ ⟨"note", .empty, rfl, by decide, rfl⟩)
  obtain rfl := meaning.mpr shows
  refine ⟨answer, same .check true ?_ _ rfl _ smallProject.wellFormed (.refl _ _)⟩
  intro name unknown
  cases unknown

end

end Walk

end DirMarkers
