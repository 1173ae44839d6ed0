import DirMarkers.Proofs.Run.Course
import Mathlib.Data.List.Basic

/-!
What a run is meant to find, told without the walk: which directories are reached, and which of
those are empty. The survey of a tree finds exactly that.
-/

namespace DirMarkers

namespace Walk

section

variable (config : Config) (faults : Faults) (tables : Ignore.Tables) (location : Location)
  (tree : Node)

/-- Nothing keeps a run out of a directory that it has come to. -/
structure Opens (dir : DirPath) : Prop where
  notIgnored : Ignore.isIgnored (tables.inForce dir) dir.text true = false
  listed : ∃ listing, faults.list tree (config.root.under dir) = .ok listing

/-- A directory that is no link is reached from the root through directories that are not excluded,
not ignored and can be listed.
-/
inductive Reached : DirPath → Prop
  | root (opens : Opens config faults tables tree .root) : Reached .root
  | child {dir : DirPath} {name : String} (above : Reached dir)
    (isDir : tree.kindAt (location ++ dir.child name) = some .dir)
    (kept : config.excludes name = false)
    (opens : Opens config faults tables tree (dir.child name))
    : Reached (dir.child name)

/-- A directory holds a file that is neither the marker nor ignored. -/
def HoldsVisible (dir : DirPath) : Prop :=
  ∃ name content, tree.get? (location ++ dir ++ [name]) = some (.file content)
    ∧ name ≠ config.markerName
    ∧ Ignore.isIgnored (tables.inForce dir) (dir.entryText name) false = false

/-- No reached directory from a directory on downwards holds a visible file. -/
def IsEmpty (dir : DirPath) : Prop :=
  ∀ below, Reached config faults tables location tree (dir ++ below)
    → ¬ HoldsVisible config tables location tree (dir ++ below)

end

section

variable {config : Config} {faults : Faults} {tables : Ignore.Tables} {location : Location}
  {tree : Node} {dir : DirPath}

theorem opens_iff (project : Project config location tree)
    (there : tree.kindAt (location ++ dir) = some .dir)
    : Opens config faults tables tree dir
      ↔ Ignore.isIgnored (tables.inForce dir) dir.text true = false
        ∧ faults.refusal? .list (config.root.under dir) = none := by
  obtain ⟨entries, listed⟩ := Node.kindAt_eq_dir.mp there
  have list := project.rooted.list_eq listed faults
  constructor
  · rintro ⟨notIgnored, listing, found⟩
    rw [list] at found
    cases refused : faults.refusal? .list (config.root.under dir) with
    | none => exact ⟨notIgnored, rfl⟩
    | some error =>
        rw [refused] at found
        cases found
  · rintro ⟨notIgnored, allowed⟩
    rw [allowed] at list
    exact ⟨notIgnored, _, list⟩

/-- A walk judges the directories that open and are not excluded. -/
theorem barrier?_eq_none (project : Project config location tree)
    (there : tree.kindAt (location ++ dir) = some .dir)
    : barrier? config faults tables dir = none
      ↔ (dir = .root ∨ config.excludes (dir.getLast?.getD "") = false)
        ∧ Opens config faults tables tree dir := by
  rw [opens_iff project there, barrier?]
  split
  · next excluded => simp [excluded]
  · next kept =>
    have named : dir = .root ∨ config.excludes (dir.getLast?.getD "") = false := by
      simpa [Classical.or_iff_not_imp_left] using kept
    split
    · next ignored => simp [ignored]
    · next notIgnored => simp [named, notIgnored]

namespace Reached

/-- Whatever is reached is a directory of the tree. -/
theorem isDir (h : Reached config faults tables location tree dir)
    (project : Project config location tree)
    : tree.kindAt (location ++ dir) = some .dir := by
  cases h with
  | root _ => simpa [DirPath.root] using project.rooted.leads.ends
  | child _ isDir _ _ => exact isDir

/-- Nothing keeps a walk from judging what is reached. -/
theorem unbarred (h : Reached config faults tables location tree dir)
    (project : Project config location tree)
    : barrier? config faults tables dir = none := by
  refine (barrier?_eq_none project (h.isDir project)).mpr ?_
  cases h with
  | root opens => exact ⟨.inl rfl, opens⟩
  | child _ _ kept opens => exact ⟨.inr (by simpa [DirPath.child] using kept), opens⟩

/-- Every directory on the way to a reached one is reached, by induction on that way. -/
theorem above {below : DirPath} (h : Reached config faults tables location tree (dir ++ below))
    : Reached config faults tables location tree dir := by
  generalize whole : dir ++ below = reached at h
  induction h generalizing below with
  | root opens =>
      obtain ⟨rfl, _⟩ := List.append_eq_nil_iff.mp whole
      exact .root opens
  | @child parent name above isDir kept opens ih =>
      rcases List.eq_nil_or_concat below with rfl | ⟨init, last, rfl⟩
      · rw [List.append_nil] at whole
        exact whole ▸ .child above isDir kept opens
      · rw [List.concat_eq_append, ← List.append_assoc] at whole
        exact ih (List.append_singleton_inj.mp whole).1

/-- The root is reached if nothing keeps a walk from judging it. -/
theorem root_of_unbarred (project : Project config location tree)
    (unbarred : barrier? config faults tables .root = none)
    : Reached config faults tables location tree .root := by
  have isDir : tree.kindAt (location ++ DirPath.root) = some .dir := by
    simpa [DirPath.root] using project.rooted.leads.ends
  exact .root ((barrier?_eq_none project isDir).mp unbarred).2

/-- A subdirectory of a reached directory is reached if nothing keeps a walk from judging it. -/
theorem of_unbarred {name : String} {node : Node}
    (h : Reached config faults tables location tree dir) (project : Project config location tree)
    (there : tree.get? (location ++ dir.child name) = some node) (isDir : node.kind = .dir)
    (unbarred : barrier? config faults tables (dir.child name) = none)
    : Reached config faults tables location tree (dir.child name) := by
  have kind : tree.kindAt (location ++ dir.child name) = some .dir := by
    rw [Node.kindAt, there, ← isDir]
    rfl
  obtain ⟨kept, opens⟩ := (barrier?_eq_none project kind).mp unbarred
  refine .child h kind ?_ opens
  simpa [DirPath.child, DirPath.root] using kept

end Reached

-----------------------------------------------------------------------------------------
-- Empty directories
-----------------------------------------------------------------------------------------

/-- The walk sees the visible files of a directory in its listing. -/
theorem any_visible_iff (wellFormed : tree.WellFormed) {entries : Entries}
    (there : tree.get? (location ++ dir) = some (.dir entries))
    : (fileNames entries).any (isVisible config (tables.inForce dir) dir) = true
      ↔ HoldsVisible config tables location tree dir := by
  have listed (name : String) : name ∈ fileNames entries
      ↔ ∃ content, tree.get? (location ++ dir ++ [name]) = some (.file content) := by
    rw [← List.contains_iff_mem, contains_fileNames (wellFormed.orderly there).increasing,
      Node.get?_entry there, Option.any_eq_true]
    constructor
    · rintro ⟨node, found, isFile⟩
      cases node with
      | file content => exact ⟨content, found⟩
      | dir _ => cases isFile
      | link _ => cases isFile
    · rintro ⟨content, found⟩
      exact ⟨_, found, rfl⟩
  have visible (name : String) : isVisible config (tables.inForce dir) dir name = true
      ↔ name ≠ config.markerName
        ∧ Ignore.isIgnored (tables.inForce dir) (dir.entryText name) false = false := by
    simp [isVisible]
  rw [List.any_eq_true]
  constructor
  · rintro ⟨name, member, seen⟩
    obtain ⟨content, file⟩ := (listed name).mp member
    exact ⟨name, content, file, (visible name).mp seen⟩
  · rintro ⟨name, content, file, seen⟩
    exact ⟨name, (listed name).mpr ⟨content, file⟩, (visible name).mpr seen⟩

/-- A reached directory is empty if it holds no visible file and its subdirectories are empty. -/
theorem isEmpty_iff (project : Project config location tree) {entries : Entries}
    (there : tree.get? (location ++ dir) = some (.dir entries))
    (reached : Reached config faults tables location tree dir)
    : IsEmpty config faults tables location tree dir
      ↔ ¬ HoldsVisible config tables location tree dir
        ∧ ∀ entry ∈ entries, IsEmpty config faults tables location tree (dir.child entry.1) := by
  constructor
  · intro empty
    refine ⟨by simpa using empty [] (by simpa using reached), fun entry _ below inside => ?_⟩
    rw [DirPath.child, List.append_assoc] at inside ⊢
    exact empty _ inside
  · rintro ⟨notHere, notBelow⟩ below inside
    cases below with
    | nil => simpa using notHere
    | cons name rest =>
        have isDir := inside.isDir project
        rw [← List.append_assoc, Node.kindAt_append there, Node.kindAt_cons] at isDir
        obtain ⟨child, found, _⟩ := Option.bind_eq_some_iff.mp isDir
        rw [List.append_cons] at inside ⊢
        exact notBelow _ (Entries.mem_of_find? found) rest inside

theorem isEmpty_of_not_reached (closed : ¬ Reached config faults tables location tree dir)
    : IsEmpty config faults tables location tree dir :=
  fun _ inside => absurd inside.above closed

theorem Reached.kind_eq {node : Node} (h : Reached config faults tables location tree dir)
    (project : Project config location tree) (there : tree.get? (location ++ dir) = some node)
    : node.kind = .dir := by
  have isDir := h.isDir project
  rw [Node.kindAt, there] at isDir
  exact Option.some.inj isDir

/-- A walk answers that a directory is empty if it is, or if the walk does not judge it. Witness:
induction on the tree; nothing below a directory that is not reached is reached.
-/
theorem isVacant_iff (project : Project config location tree) (node : Node) {dir : DirPath}
    (there : tree.get? (location ++ dir) = some node)
    (entered : node.kind = .dir → barrier? config faults tables dir = none
      → Reached config faults tables location tree dir)
    : isVacant config faults tables node dir = true
      ↔ IsEmpty config faults tables location tree dir := by
  induction node using Node.induction generalizing dir with
  | file content =>
      refine iff_of_true rfl (isEmpty_of_not_reached fun reached => ?_)
      cases reached.kind_eq project there
  | link target =>
      refine iff_of_true rfl (isEmpty_of_not_reached fun reached => ?_)
      cases reached.kind_eq project there
  | dir entries ih =>
      cases barred : barrier? config faults tables dir with
      | some finding =>
          have vacant : isVacant config faults tables (.dir entries) dir = true := by
            rw [isVacant, barred]
            rfl
          -- The walk answers that a barred directory is empty, and nothing in it is reached.
          refine iff_of_true vacant (isEmpty_of_not_reached fun reached => ?_)
          cases (reached.unbarred project).symm.trans barred
      | none =>
          have reached := entered rfl barred
          have below : areVacant config faults tables entries dir = true
              ↔ ∀ entry ∈ entries,
                IsEmpty config faults tables location tree (dir.child entry.1) := by
            rw [areVacant_eq, List.all_eq_true]
            refine forall₂_congr fun entry member => ?_
            have child := project.get?_child there member
            exact ih entry member child (reached.of_unbarred project child)
          rw [isVacant, barred, Option.isSome_none, Bool.false_or, Bool.and_eq_true, below,
            isEmpty_iff project there reached, Bool.not_eq_true', ← Bool.not_eq_true,
            any_visible_iff project.wellFormed there]

-----------------------------------------------------------------------------------------
-- The survey
-----------------------------------------------------------------------------------------

/-- The directory of a stop that judges it, with the judgement. -/
def Stop.judged? (stop : Stop) : Option (DirPath × Bool) :=
  match stop.finding with
  | .judged isEmpty => some (stop.dir, isEmpty)
  | _ => none

theorem judged?_of_barrier? {finding : Finding}
    (barred : barrier? config faults tables dir = some finding)
    : Stop.judged? ⟨dir, finding⟩ = none := by
  rw [barrier?] at barred
  split at barred
  · cases barred
    rfl
  · split at barred
    · cases barred
      rfl
    · obtain ⟨error, _, rfl⟩ := Option.map_eq_some_iff.mp barred
      rfl

open Classical in
/-- The survey judges the reached directories, in the order of all directories, and finds those
empty that are.
-/
theorem survey_judged (faults : Faults) (tables : Ignore.Tables)
    (project : Project config location tree) (node : Node) {dir : DirPath}
    (there : tree.get? (location ++ dir) = some node)
    (entered : node.kind = .dir → barrier? config faults tables dir = none
      → Reached config faults tables location tree dir)
    : (survey config faults tables node dir).filterMap Stop.judged?
      = ((postOrder node dir).filter fun other =>
            decide (Reached config faults tables location tree other)).map fun other =>
          (other, decide (IsEmpty config faults tables location tree other)) := by
  induction node using Node.induction generalizing dir with
  | file _ => rfl
  | link _ => rfl
  | dir entries ih =>
      have vacancy := isVacant_iff project (.dir entries) there entered
      cases barred : barrier? config faults tables dir with
      | some finding =>
          have closed : ∀ other ∈ postOrder (.dir entries) dir,
              ¬ decide (Reached config faults tables location tree other) = true := by
            intro other member reached
            have wellFormed := project.wellFormed.at there
            obtain ⟨below, rfl, _⟩ := (mem_postOrder wellFormed).mp member
            cases ((of_decide_eq_true reached).above.unbarred project).symm.trans barred
          rw [survey, barred, List.filter_eq_nil_iff.mpr closed]
          exact List.filterMap_cons_none (judged?_of_barrier? barred)
      | none =>
          have reached := entered rfl barred
          have last : isVacant config faults tables (.dir entries) dir
              = decide (IsEmpty config faults tables location tree dir) := by
            rw [Bool.eq_iff_iff, vacancy, decide_eq_true_iff]
          rw [survey_dir, barred, postOrder_dir, List.filterMap_append, List.filter_append,
            List.map_append, List.filterMap_flatMap, List.filter_flatMap, List.map_flatMap]
          refine congrArg₂ (· ++ ·) (List.flatMap_congr fun entry member => ?_) ?_
          · have child := project.get?_child there member
            exact ih entry member child (reached.of_unbarred project child)
          · have kept : [dir].filter (fun other =>
                decide (Reached config faults tables location tree other)) = [dir] := by
              simp [reached]
            rw [kept, last]
            rfl

end

end Walk

end DirMarkers
