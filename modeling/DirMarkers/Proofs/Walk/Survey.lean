import DirMarkers.Proofs.Tree.Below
import DirMarkers.Proofs.Walk.Order
import DirMarkers.Run.Walk
import Mathlib.Data.List.Flatten

/-!
What a walk finds, told from the tree at its start alone. The survey of a tree lists the
directories that a walk comes to, in the order in which it is done with them, and says what each of
them is found to be. No marker that was made or removed on the way has a part in it.
-/

namespace DirMarkers.Walk

/-- What a walk finds a directory to be. -/
inductive Finding where
  | excluded
  | ignored
  | unlistable (error : SystemError)
  | judged (isEmpty : Bool)
deriving DecidableEq

/-- A directory that a walk comes to, with what it is found to be. -/
structure Stop where
  dir : DirPath
  finding : Finding
deriving DecidableEq

section

variable (config : Config) (faults : Faults) (tables : Ignore.Tables)

/-- What keeps a walk from judging a directory, if something does. -/
def barrier? (dir : DirPath) : Option Finding :=
  if dir ≠ .root ∧ config.excludes (dir.getLast?.getD "") then some .excluded
  else if Ignore.isIgnored (tables.inForce dir) dir.text true then some .ignored
  else (faults.refusal? .list (config.root.under dir)).map .unlistable

mutual

/-- Whether a directory is empty, or is kept from being judged. -/
def isVacant : Node → DirPath → Bool
  | .dir entries, dir =>
    (barrier? config faults tables dir).isSome
      || (!(fileNames entries).any (isVisible config (tables.inForce dir) dir)
        && areVacant entries dir)
  | _, _ => true

/-- Whether all subdirectories among the entries of a directory are vacant. -/
def areVacant : List (String × Node) → DirPath → Bool
  | [], _ => true
  | (name, node) :: rest, dir => isVacant node (dir.child name) && areVacant rest dir

end

mutual

/-- What a walk finds in a directory and below it. -/
def survey : Node → DirPath → List Stop
  | .dir entries, dir =>
    match barrier? config faults tables dir with
    | some finding => [⟨dir, finding⟩]
    | none =>
      surveyAll entries dir
        ++ [⟨dir, .judged (isVacant config faults tables (.dir entries) dir)⟩]
  | _, _ => []

/-- What a walk finds in the subdirectories among the entries of a directory. -/
def surveyAll : List (String × Node) → DirPath → List Stop
  | [], _ => []
  | (name, node) :: rest, dir => survey node (dir.child name) ++ surveyAll rest dir

end

end

variable {config : Config} {faults : Faults} {tables : Ignore.Tables}

theorem areVacant_eq (entries : List (String × Node)) (dir : DirPath)
    : areVacant config faults tables entries dir
      = entries.all fun entry => isVacant config faults tables entry.2 (dir.child entry.1) := by
  induction entries with
  | nil => rfl
  | cons entry rest ih => rw [areVacant, ih, List.all_cons]

theorem surveyAll_eq (entries : List (String × Node)) (dir : DirPath)
    : surveyAll config faults tables entries dir
      = entries.flatMap fun entry => survey config faults tables entry.2 (dir.child entry.1) := by
  induction entries with
  | nil => rfl
  | cons entry rest ih => rw [surveyAll, ih, List.flatMap_cons]

/-- A survey is of the directory itself alone, or of its subdirectories first. -/
theorem survey_dir (entries : Entries) (dir : DirPath)
    : survey config faults tables (.dir entries) dir
      = match barrier? config faults tables dir with
        | some finding => [⟨dir, finding⟩]
        | none =>
          (entries.flatMap fun entry => survey config faults tables entry.2 (dir.child entry.1))
            ++ [⟨dir, .judged (isVacant config faults tables (.dir entries) dir)⟩] := by
  rw [survey, surveyAll_eq]

/-- A survey takes the directories in their order, and leaves out those that a walk does not come
to.
-/
theorem survey_sublist (node : Node) (dir : DirPath)
    : ((survey config faults tables node dir).map Stop.dir).Sublist (postOrder node dir) := by
  induction node using Node.induction generalizing dir with
  | file _ => exact .slnil
  | link _ => exact .slnil
  | dir entries ih =>
      rw [survey_dir, postOrder_dir]
      split
      · exact List.sublist_append_right _ [dir]
      · rw [List.map_append, List.map_flatMap]
        exact .append (.flatMap_right entries fun entry present => ih entry present _) (.refl _)

variable {node : Node} (wellFormed : node.WellFormed)

include wellFormed

/-- Every stop is a directory of the tree, at or below the one that is surveyed. -/
theorem survey_below {dir : DirPath} {stop : Stop}
    (member : stop ∈ survey config faults tables node dir)
    : ∃ below, stop.dir = dir ++ below ∧ node.kindAt below = some .dir :=
  (mem_postOrder wellFormed).mp
    ((survey_sublist node dir).subset (List.mem_map_of_mem member))

/-- No directory is stopped at twice. -/
theorem survey_nodup (dir : DirPath)
    : ((survey config faults tables node dir).map Stop.dir).Nodup :=
  ((postOrder_ordered wellFormed dir).imp Precedes.ne).sublist (survey_sublist node dir)

end DirMarkers.Walk
