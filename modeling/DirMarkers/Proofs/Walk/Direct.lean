import DirMarkers.Proofs.Tree.WellFormed
import DirMarkers.Run.Walk

/-!
Walks by given rules. Such a walk is handed the rules of every directory and judges the directory
and its files by them; the walk for some tables is the one by the rules that are in force.
-/

namespace DirMarkers.Walk

section

variable (config : Config) (faults : Faults)

/-- Lists a directory that is not skipped, and goes on with its listing if that succeeds. -/
def descend (path : PathName) (dir : DirPath) (tree : Node) (next : Entries → Step Bool)
    : Step Bool :=
  match faults.crash? .list path, faults.list tree path with
  | some crash, _ => ⟨.error crash, tree, []⟩
  | none, .error error => (Step.pure true tree).after [.unlistable dir error]
  | none, .ok listing => next listing

variable (rulesOf : DirPath → List Rule)

mutual

/-- Visits a directory and all that is below it. Each directory and its files are judged by the
rules that are given for the directory.
-/
def visitBy : Node → PathName → DirPath → Node → Step Bool
  | .dir entries, path, dir, tree =>
    let decided := skip? config (rulesOf dir) path dir
    Step.after (.entered dir :: decided.2)
      (if decided.1 then .pure true tree
      else descend faults path dir tree fun listing =>
        (visitAllBy entries path dir tree).bind
          (conclude config faults (rulesOf dir) path dir (fileNames listing)))
  | _, _, _, tree => .pure true tree

/-- Visits the subdirectories among the entries of a directory. -/
def visitAllBy : List (String × Node) → PathName → DirPath → Node → Step Bool
  | [], _, _, tree => .pure true tree
  | (name, node) :: rest, path, dir, tree =>
    (visitBy node (path.child name) (dir.child name) tree).bind
      fun isEmpty tree => (visitAllBy rest path dir tree).map (isEmpty && ·)

end

/-- Walks a directory that a path leads to, by the rules that are given for each directory. -/
def walkBy (path : PathName) (dir : DirPath) (tree : Node) : Step Bool :=
  visitBy config faults rulesOf (Loading.dirAt tree path) path dir tree

end

section

variable {config : Config} {faults : Faults} {tables : Ignore.Tables}

theorem visitAll_eq_visitAllBy {entries : List (String × Node)}
    (each : ∀ entry ∈ entries, ∀ path dir tree,
      visit config faults tables entry.2 path dir tree
        = visitBy config faults tables.inForce entry.2 path dir tree)
    (path : PathName) (dir : DirPath) (tree : Node)
    : visitAll config faults tables entries path dir tree
      = visitAllBy config faults tables.inForce entries path dir tree := by
  induction entries generalizing tree with
  | nil => rfl
  | cons entry rest ih =>
      have later := ih fun other member => each other (List.mem_cons_of_mem _ member)
      rw [visitAll, visitAllBy, each entry List.mem_cons_self]
      simp only [later]

/-- A visit goes by the rules that are in force, by induction on the node. -/
theorem visit_eq_visitBy (node : Node) (path : PathName) (dir : DirPath) (tree : Node)
    : visit config faults tables node path dir tree
      = visitBy config faults tables.inForce node path dir tree := by
  induction node using Node.induction generalizing path dir tree with
  | file _ => rfl
  | link _ => rfl
  | dir entries ih =>
      rw [visit, visitBy, visitAll_eq_visitAllBy ih]
      cases skip? config (tables.inForce dir) path dir with
      | mk skipped before =>
          cases skipped with
          | true => simp only [if_true]
          | false =>
              cases safe : faults.crash? .list path with
              | some crash => simp only [safe, descend, Bool.false_eq_true, if_false]
              | none =>
                  cases listed : faults.list tree path with
                  | error error => simp only [safe, listed, descend, Bool.false_eq_true, if_false]
                  | ok listing => simp only [safe, listed, descend, Bool.false_eq_true, if_false]

/-- The walk for some tables is the one by the rules that are in force. -/
theorem walk_eq_walkBy (path : PathName) (dir : DirPath) (tree : Node)
    : walk config faults tables path dir tree
      = walkBy config faults tables.inForce path dir tree :=
  visit_eq_visitBy _ _ _ _

end

section

variable {config : Config} {faults : Faults} {rulesOf : DirPath → List Rule} {entries : Entries}
variable {path : PathName} {dir : DirPath} {tree : Node} {before : Journal}

/-- A visit ends where the directory is skipped. -/
theorem visitBy_skipped (decided : skip? config (rulesOf dir) path dir = (true, before))
    : visitBy config faults rulesOf (.dir entries) path dir tree
      = (Step.pure true tree).after (.entered dir :: before) := by
  rw [visitBy]
  simp only [decided, if_true]

/-- A visit to a directory that is not skipped goes on with its subdirectories. -/
theorem visitBy_kept (decided : skip? config (rulesOf dir) path dir = (false, before))
    : visitBy config faults rulesOf (.dir entries) path dir tree
      = (descend faults path dir tree fun listing =>
          (visitAllBy config faults rulesOf entries path dir tree).bind
            (conclude config faults (rulesOf dir) path dir (fileNames listing))).after
        (.entered dir :: before) := by
  rw [visitBy]
  simp only [decided, Bool.false_eq_true, if_false]

end

end DirMarkers.Walk
