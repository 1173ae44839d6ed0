import DirMarkers.Proofs.Tree.WellFormed
import DirMarkers.Run.Walk

/-!
Runs that only look. A dry run announces what it would do and a check reports it; neither changes
the tree, whatever the tree is and whichever calls fail.
-/

namespace DirMarkers

/-- A run with this configuration is to change nothing. -/
def Config.IsReadOnly (config : Config) : Prop :=
  config.dryRun = true ∨ config.mode = .check

namespace Step

variable {α β : Type} {tree : Node}

/-- Two steps that leave a tree alone leave it alone one after the other. -/
theorem bind_still {first : Step α} {next : α → Node → Step β} (still : first.tree = tree)
    (then_ : ∀ answer, (next answer tree).tree = tree)
    : (first.bind next).tree = tree := by
  rw [bind]
  cases first.answer with
  | error crash => exact still
  | ok answer =>
      rw [still]
      exact then_ answer

end Step

/-- Settling a marker changes nothing, by cases on what is to be done: a check only reports, and a
dry run announces.
-/
theorem Marker.settle_still {config : Config} (readOnly : config.IsReadOnly) (faults : Faults)
    (path : PathName) (dir : DirPath) (isEmpty hasMarker : Bool) (tree : Node)
    : (Marker.settle config faults path dir isEmpty hasMarker tree).tree = tree := by
  rw [Marker.settle]
  rcases readOnly with dry | check
  · cases Marker.duty config.mode isEmpty hasMarker with
    | error crash => rfl
    | ok duty =>
        cases duty with
        | create => simp only [Marker.perform, Marker.create, dry, if_true]
        | remove => simp only [Marker.perform, Marker.remove, dry, if_true]
        | leave => rfl
        | reportMissing => rfl
        | reportSpare => rfl
  · rw [check]
    cases isEmpty <;> cases hasMarker <;> rfl

namespace Walk

variable {config : Config} (faults : Faults) (tables : Ignore.Tables)

/-- Visiting some entries changes nothing if visiting each of them does not. -/
theorem visitAll_still {entries : List (String × Node)}
    (each : ∀ entry ∈ entries, ∀ path dir tree,
      (visit config faults tables entry.2 path dir tree).tree = tree)
    (path : PathName) (dir : DirPath) (tree : Node)
    : (visitAll config faults tables entries path dir tree).tree = tree := by
  induction entries with
  | nil => rfl
  | cons entry rest ih =>
      rw [visitAll]
      refine Step.bind_still (each entry List.mem_cons_self ..) fun _ => ?_
      exact ih fun other member => each other (List.mem_cons_of_mem _ member)

/-- Visiting a directory changes nothing, by induction on the tree. -/
theorem visit_still (readOnly : config.IsReadOnly) (node : Node) (path : PathName) (dir : DirPath)
    (tree : Node)
    : (visit config faults tables node path dir tree).tree = tree := by
  induction node using Node.induction generalizing path dir tree with
  | file _ => rfl
  | link _ => rfl
  | dir entries ih =>
      simp only [visit, Step.after]
      split
      · rfl
      · split
        · rfl
        · rfl
        · exact Step.bind_still (visitAll_still faults tables ih ..) fun _ =>
            Marker.settle_still readOnly ..

end Walk

/-- A run that is to change nothing leaves the tree as it was. -/
theorem run_readOnly {config : Config} (readOnly : config.IsReadOnly) (faults : Faults)
    (tree : Node)
    : (run config faults tree).tree = tree :=
  Walk.visit_still faults _ readOnly _ config.root .root tree

end DirMarkers
